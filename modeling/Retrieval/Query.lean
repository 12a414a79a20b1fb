import Retrieval.Failure
import Retrieval.Json.Record

/-!
# Query options

How a question is to be answered: the mode, what is asked for, and the token
budgets of the modes.  Only the naive mode retrieves; the options of the graph
modes are kept for those who pass them on.
-/

namespace Retrieval

inductive QueryMode where
  | naive
  | localGraph
  | globalGraph
  deriving DecidableEq, Repr, Inhabited

namespace QueryMode

def name : QueryMode → String
  | .naive => "naive"
  | .localGraph => "local"
  | .globalGraph => "global"

def all : List QueryMode := [.naive, .localGraph, .globalGraph]

/-- Letter case does not matter. -/
def ofName (text : String) : Except Failure QueryMode :=
  match text.toLower with
  | "naive" => .ok .naive
  | "local" => .ok .localGraph
  | "global" => .ok .globalGraph
  | other => .error (.configuration (.unknownMode other))

def toJson (mode : QueryMode) : Json := .ofText mode.name

def ofJson? : Json → Option QueryMode := Json.choice? (all.map fun mode => (mode.name, mode))

end QueryMode

structure QueryOptions where
  mode : QueryMode := .globalGraph
  /-- The retrieved context is wanted in the place of an answer. -/
  contextOnly : Bool := false
  responseType : String := "Multiple Paragraphs"
  level : Nat := 2
  /-- How many matches to retrieve. -/
  matchLimit : Nat := 20
  /-- How many tokens the context of a naive query may have. -/
  contextBudget : Nat := 12000
  localTextBudget : Nat := 4000
  localContextBudget : Nat := 4800
  localReportBudget : Nat := 3200
  localSingleCommunity : Bool := false
  globalLeastRating : Float := 0.0
  globalCommunityLimit : Nat := 512
  globalReportBudget : Nat := 16384
  deriving DecidableEq

namespace QueryOptions

def fieldNames : List String :=
  ["mode", "only_need_context", "response_type", "level", "top_k",
    "naive_max_token_for_text_unit", "local_max_token_for_text_unit",
    "local_max_token_for_local_context", "local_max_token_for_community_report",
    "local_community_single_one", "global_min_community_rating",
    "global_max_consider_community", "global_max_token_for_community_report"]

def toJson (options : QueryOptions) : Json :=
  .record
    [("mode", options.mode.toJson),
      ("only_need_context", .boolean options.contextOnly),
      ("response_type", .ofText options.responseType),
      ("level", .ofNat options.level),
      ("top_k", .ofNat options.matchLimit),
      ("naive_max_token_for_text_unit", .ofNat options.contextBudget),
      ("local_max_token_for_text_unit", .ofNat options.localTextBudget),
      ("local_max_token_for_local_context", .ofNat options.localContextBudget),
      ("local_max_token_for_community_report", .ofNat options.localReportBudget),
      ("local_community_single_one", .boolean options.localSingleCommunity),
      ("global_min_community_rating", .ofDouble options.globalLeastRating),
      ("global_max_consider_community", .ofNat options.globalCommunityLimit),
      ("global_max_token_for_community_report", .ofNat options.globalReportBudget)]

/-- A field that is not there has its default. -/
def ofJson? (json : Json) : Option QueryOptions := do
  let members ← json.members? fieldNames
  let absent : QueryOptions := {}
  return {
    mode := ← members.optional? "mode" absent.mode QueryMode.ofJson?
    contextOnly := ← members.optional? "only_need_context" absent.contextOnly Json.boolean?
    responseType := ← members.optional? "response_type" absent.responseType Json.text?
    level := ← members.optional? "level" absent.level Json.natural32?
    matchLimit := ← members.optional? "top_k" absent.matchLimit Json.natural64?
    contextBudget := ← members.optional? "naive_max_token_for_text_unit"
      absent.contextBudget Json.natural64?
    localTextBudget := ← members.optional? "local_max_token_for_text_unit"
      absent.localTextBudget Json.natural64?
    localContextBudget := ← members.optional? "local_max_token_for_local_context"
      absent.localContextBudget Json.natural64?
    localReportBudget := ← members.optional? "local_max_token_for_community_report"
      absent.localReportBudget Json.natural64?
    localSingleCommunity := ← members.optional? "local_community_single_one"
      absent.localSingleCommunity Json.boolean?
    globalLeastRating := ← members.optional? "global_min_community_rating"
      absent.globalLeastRating Json.double?
    globalCommunityLimit := ← members.optional? "global_max_consider_community"
      absent.globalCommunityLimit Json.natural64?
    globalReportBudget := ← members.optional? "global_max_token_for_community_report"
      absent.globalReportBudget Json.natural64? }

end QueryOptions

end Retrieval
