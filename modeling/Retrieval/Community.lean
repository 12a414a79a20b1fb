import Retrieval.Json.Record
import Retrieval.Link

/-!
# Communities

A community is a set of nodes that carry one cluster label, with the edges that
touch them.  A report adds a summary to a community; in JSON the fields of the
community stand beside those of the report.
-/

namespace Retrieval

structure Community where
  level : Nat := 0
  title : String := ""
  edges : KeySet Link := Table.empty
  nodes : KeySet String := Table.empty
  chunkIds : List String := []
  /-- How often the community occurs among the chunks. -/
  occurrence : Float := 0.0
  subCommunities : List String := []
  deriving DecidableEq

def Link.toJson (link : Link) : Json := .array [.ofText link.source, .ofText link.target]

def Link.ofJson? (json : Json) : Option Link := do
  let (source, target) ← json.pair? Json.text? Json.text?
  return ⟨source, target⟩

namespace Community

def fieldNames : List String :=
  ["level", "title", "edges", "nodes", "chunk_ids", "occurrence", "sub_communities"]

/-- The number of chunks that belong to the community. -/
def countedOccurrence (community : Community) : Float :=
  (UInt64.ofNat community.chunkIds.length).toFloat

def fields (community : Community) : List (String × Json) :=
  [("level", .ofNat community.level),
    ("title", .ofText community.title),
    ("edges", .array (community.edges.keys.map Link.toJson)),
    ("nodes", .array (community.nodes.keys.map Json.ofText)),
    ("chunk_ids", .array (community.chunkIds.map Json.ofText)),
    ("occurrence", .ofDouble community.occurrence),
    ("sub_communities", .array (community.subCommunities.map Json.ofText))]

def toJson (community : Community) : Json := .record community.fields

/-- Every field has to be there. -/
def ofMembers? (members : Json.Members) : Option Community := do
  return {
    level := ← members.required? "level" Json.natural32?
    title := ← members.required? "title" Json.text?
    edges := KeySet.ofKeys (← members.required? "edges" (Json.list? Link.ofJson?))
    nodes := KeySet.ofKeys (← members.required? "nodes" (Json.list? Json.text?))
    chunkIds := ← members.required? "chunk_ids" (Json.list? Json.text?)
    occurrence := ← members.required? "occurrence" Json.double?
    subCommunities := ← members.required? "sub_communities" (Json.list? Json.text?) }

def ofJson? (json : Json) : Option Community := do
  ofMembers? (← json.members? fieldNames)

end Community

structure CommunityReport where
  community : Community
  summary : String
  details : Properties
  deriving DecidableEq

namespace CommunityReport

def ownFieldNames : List String := ["report_string", "report_json"]

def toJson (report : CommunityReport) : Json :=
  .record (report.community.fields ++
    [("report_string", .ofText report.summary), ("report_json", report.details.toJson)])

/-- All fields but the report's own are kept whole before they are read. -/
def ofJson? (json : Json) : Option CommunityReport := do
  let fields ← json.fields?
  let others := fields.filter fun field => !ownFieldNames.contains field.1
  if others.all fun field => field.2.isPlain (Json.depthLimit - 1) then
    let own ← json.knownFields? ownFieldNames
    return {
      community := ← Community.ofMembers? (← json.knownFields? Community.fieldNames)
      summary := ← own.required? "report_string" Json.text?
      details := ← own.required? "report_json" Json.textTable? }
  else none

end CommunityReport

end Retrieval
