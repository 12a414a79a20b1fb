import Retrieval.Chunk.Record
import Retrieval.Community
import Retrieval.Index.Search
import Retrieval.Proofs.Index.Snapshot
import Retrieval.Proofs.Json.Members
import Retrieval.Query

/-!
# Records read back

Every record is read back from its text, whatever texts, sets and tables are in
it, and in whatever order the tables are listed.  The fields of a community stand
beside those of a report and are read from there.  Of options that have lost some
fields exactly those fields have their defaults.  The numbers have to fit their
width, and numbers with a point have to be read back from their numerals.
-/

namespace Retrieval

open Json (Leaves)

/-! ## Documents and chunks -/

namespace Document

theorem restores (document : Document) : document.toJson.Restores ofJson? document := by
  refine Json.restores_of_readable (Json.readable_record ?_) ?_
  · simp [ContentId.toJson, Json.readable_ofText]
  · have members : document.toJson.members? fieldNames = some ⟨_⟩ :=
      Json.members?_of_names rfl (by decide)
    simp [ofJson?, members, Json.Members.required?, List.lookup_cons, ContentId.toJson,
      ContentId.ofJson?]

end Document

namespace Chunk

/-- The numbers of a chunk have sixty-four bits. -/
structure Fits (chunk : Chunk) : Prop where
  tokens : chunk.tokens < UInt64.size
  order : chunk.order < UInt64.size

theorem restores {chunk : Chunk} (fits : chunk.Fits) :
    chunk.toJson.Restores ofJson? chunk := by
  refine Json.restores_of_readable (Json.readable_record ?_) ?_
  · simp [ContentId.toJson, Json.readable_ofText, Json.readable_ofNat]
  · have members : chunk.toJson.members? fieldNames = some ⟨_⟩ :=
      Json.members?_of_names rfl (by decide)
    simp [ofJson?, members, Json.Members.required?, List.lookup_cons, ContentId.toJson,
      ContentId.ofJson?, Json.natural64?_ofNat fits.tokens, Json.natural64?_ofNat fits.order]

end Chunk

/-! ## Communities and their reports -/

theorem Link.ofJson?_toJson (link : Link) : ofJson? link.toJson = some link := rfl

theorem Link.readable_toJson (link : Link) : Json.Readable link.toJson := by
  refine .array ?_
  simp [Json.readable_ofText]

theorem Link.isPlain_toJson (link : Link) {depth : Nat} :
    link.toJson.isPlain (depth + 1) = true := by
  simp [toJson, Json.isPlain, Json.arePlain, Json.isPlain_ofText]

namespace Community

/-- The level has thirty-two bits. -/
def Fits (community : Community) : Prop := community.level < UInt32.size

section Whole

variable {community : Community}

theorem readable_fields (community : Community) :
    ∀ field ∈ community.fields, Json.Readable field.2 := by
  simp only [fields, List.forall_mem_cons, List.not_mem_nil, false_implies, implies_true, and_true]
  exact ⟨Json.readable_ofNat _, Json.readable_ofText _,
    Json.readable_list fun link _ => link.readable_toJson, Json.readable_texts _,
    Json.readable_texts _, Json.readable_ofDouble _, Json.readable_texts _⟩

theorem isPlain_fields (fits : community.Fits) (rereads : RereadsDouble community.occurrence)
    (depth : Nat) : ∀ field ∈ community.fields, field.2.isPlain (depth + 2) = true := by
  have wide : community.level < UInt64.size := Nat.lt_trans fits (by decide)
  have level : community.level ≤ Numeral.largest := Nat.le_pred_of_lt wide
  simp only [fields, List.forall_mem_cons, List.not_mem_nil, false_implies, implies_true, and_true]
  exact ⟨Json.isPlain_ofNat level _, Json.isPlain_ofText _ _,
    Json.isPlain_list fun link _ => link.isPlain_toJson,
    Json.isPlain_list fun node _ => Json.isPlain_ofText _ node,
    Json.isPlain_list fun id _ => Json.isPlain_ofText _ id,
    Json.isPlain_ofDouble rereads _, Json.isPlain_list fun id _ => Json.isPlain_ofText _ id⟩

theorem ofMembers?_fields (fits : community.Fits) (rereads : RereadsDouble community.occurrence) :
    ofMembers? ⟨community.fields⟩ = some community := by
  have links : Json.list? Link.ofJson? (.array (community.edges.keys.map Link.toJson)) =
      some community.edges.keys :=
    (Json.list?_map _ _ _).trans (Json.mapM_of_reads fun link _ => link.ofJson?_toJson)
  unfold RereadsDouble at rereads
  simp [ofMembers?, fields, Json.Members.required?, List.lookup_cons, Json.list?_texts,
    Json.natural32?_ofNat fits, links, rereads, KeySet.ofKeys_keys]

theorem restores (fits : community.Fits) (rereads : RereadsDouble community.occurrence) :
    community.toJson.Restores ofJson? community := by
  refine Json.restores_of_readable (Json.readable_record community.readable_fields) ?_
  have members : community.toJson.members? fieldNames = some ⟨community.fields⟩ :=
    Json.members?_of_names rfl (by decide)
  rw [ofJson?, members]
  exact ofMembers?_fields fits rereads

end Whole

end Community

namespace CommunityReport

/-- The fields of a report beside those of its community, the details in some order. -/
def ownFields (report : CommunityReport) (order : List (String × String)) :
    List (String × Json) :=
  [("report_string", .ofText report.summary), ("report_json", .ofTexts order)]

/-- A report whose details are listed in some order. -/
def listed (report : CommunityReport) (order : List (String × String)) : Json :=
  .record (report.community.fields ++ report.ownFields order)

theorem listed_entries (report : CommunityReport) :
    report.listed report.details.entries = report.toJson := rfl

section Listed

variable {report : CommunityReport} {order : List (String × String)}

theorem readable_listed (report : CommunityReport) (order : List (String × String)) :
    Json.Readable (report.listed order) := by
  refine Json.readable_record (List.forall_mem_append.mpr ⟨report.community.readable_fields, ?_⟩)
  simp [ownFields, Json.readable_ofText, Json.readable_ofTexts]

theorem knownFields?_community :
    (report.listed order).knownFields? Community.fieldNames = some ⟨report.community.fields⟩ :=
  Json.knownFields?_record (by simp [Community.fields, ownFields, Community.fieldNames])
    (show Community.fieldNames.Nodup by decide)

theorem knownFields?_own :
    (report.listed order).knownFields? ownFieldNames = some ⟨report.ownFields order⟩ :=
  Json.knownFields?_record (by simp [Community.fields, ownFields, ownFieldNames])
    (show ownFieldNames.Nodup by decide)

theorem restores_listed (fits : report.community.Fits)
    (rereads : RereadsDouble report.community.occurrence)
    (same : order.Perm report.details.entries) :
    (report.listed order).Restores ofJson? report := by
  refine Json.restores_of_readable (report.readable_listed order) ?_
  have others : ((report.community.fields ++ report.ownFields order).filter
      fun field => !ownFieldNames.contains field.1) = report.community.fields := by
    simp [Community.fields, ownFields, ownFieldNames]
  have plain : (report.community.fields.all fun field =>
      field.2.isPlain (Json.depthLimit - 1)) = true :=
    List.all_eq_true.mpr (Community.isPlain_fields fits rereads 124)
  have listedFields : (report.listed order).fields? =
      some (report.community.fields ++ report.ownFields order) := Json.fields?_record _
  rw [ofJson?, listedFields]
  simp only [Option.bind_eq_bind, Option.bind_some, others, plain, if_true, knownFields?_own,
    knownFields?_community, Community.ofMembers?_fields fits rereads]
  refine Option.bind_eq_some_iff.mpr ⟨report.summary, rfl, ?_⟩
  exact Option.bind_eq_some_iff.mpr ⟨report.details, Json.textTable?_ofTexts same, rfl⟩

theorem restores (fits : report.community.Fits)
    (rereads : RereadsDouble report.community.occurrence) :
    report.toJson.Restores ofJson? report :=
  report.listed_entries ▸ restores_listed fits rereads (.refl _)

theorem restores_community (fits : report.community.Fits)
    (rereads : RereadsDouble report.community.occurrence) (order : List (String × String)) :
    (report.listed order).Restores Community.ofJson? report.community := by
  refine Json.restores_of_readable (report.readable_listed order) ?_
  have members : (report.listed order).members? Community.fieldNames =
      some ⟨report.community.fields⟩ := knownFields?_community
  rw [Community.ofJson?, members]
  exact Community.ofMembers?_fields fits rereads

/-- The fields of the community have the names and the values that they have alone. -/
theorem field?_listed (report : CommunityReport) (order : List (String × String)) {name : String}
    (inside : name ∈ Community.fieldNames) :
    (report.listed order).field? name = report.community.toJson.field? name := by
  simp only [Community.fieldNames, List.mem_cons, List.not_mem_nil, or_false] at inside
  rcases inside with rfl | rfl | rfl | rfl | rfl | rfl | rfl <;> rfl

end Listed

end CommunityReport

/-! ## Matches -/

namespace Match

/-- A match whose shown fields are listed in some order. -/
def listed (found : Match) (order : List (String × String)) : Json :=
  .record
    [("id", .ofText found.id), ("score", .ofSingle found.score), ("metadata", .ofTexts order)]

theorem listed_entries (found : Match) : found.listed found.shown.entries = found.toJson := rfl

theorem restores_listed {found : Match} {order : List (String × String)}
    (rereads : Rereads found.score) (same : order.Perm found.shown.entries) :
    (found.listed order).Restores ofJson? found := by
  refine Json.restores_of_readable (Json.readable_record ?_) ?_
  · simp [Json.readable_ofText, Json.readable_ofSingle, Json.readable_ofTexts]
  · have members : (found.listed order).members? fieldNames = some ⟨_⟩ :=
      Json.members?_of_names rfl (by decide)
    unfold Rereads at rereads
    simp [ofJson?, members, Json.Members.required?, List.lookup_cons, rereads,
      Json.textTable?_ofTexts same]

theorem restores {found : Match} (rereads : Rereads found.score) :
    found.toJson.Restores ofJson? found :=
  found.listed_entries ▸ restores_listed rereads (.refl _)

end Match

/-! ## Options of queries -/

namespace QueryMode

theorem ofJson?_toJson (mode : QueryMode) : ofJson? mode.toJson = some mode := by
  cases mode <;> rfl

theorem restores (mode : QueryMode) : mode.toJson.Restores ofJson? mode :=
  Json.restores_of_readable (Json.readable_ofText _) mode.ofJson?_toJson

end QueryMode

namespace QueryOptions

/-- The level has thirty-two bits, and every other number sixty-four. -/
structure Fits (options : QueryOptions) : Prop where
  level : options.level < UInt32.size
  matchLimit : options.matchLimit < UInt64.size
  contextBudget : options.contextBudget < UInt64.size
  localTextBudget : options.localTextBudget < UInt64.size
  localContextBudget : options.localContextBudget < UInt64.size
  localReportBudget : options.localReportBudget < UInt64.size
  globalCommunityLimit : options.globalCommunityLimit < UInt64.size
  globalReportBudget : options.globalReportBudget < UInt64.size

/-- The options with the defaults of the fields that are named. -/
def reset (options : QueryOptions) (deleted : List String) : QueryOptions :=
  let absent : QueryOptions := {}
  { mode := if "mode" ∈ deleted then absent.mode else options.mode
    contextOnly := if "only_need_context" ∈ deleted then absent.contextOnly
      else options.contextOnly
    responseType := if "response_type" ∈ deleted then absent.responseType
      else options.responseType
    level := if "level" ∈ deleted then absent.level else options.level
    matchLimit := if "top_k" ∈ deleted then absent.matchLimit else options.matchLimit
    contextBudget := if "naive_max_token_for_text_unit" ∈ deleted then absent.contextBudget
      else options.contextBudget
    localTextBudget := if "local_max_token_for_text_unit" ∈ deleted then absent.localTextBudget
      else options.localTextBudget
    localContextBudget := if "local_max_token_for_local_context" ∈ deleted
      then absent.localContextBudget else options.localContextBudget
    localReportBudget := if "local_max_token_for_community_report" ∈ deleted
      then absent.localReportBudget else options.localReportBudget
    localSingleCommunity := if "local_community_single_one" ∈ deleted
      then absent.localSingleCommunity else options.localSingleCommunity
    globalLeastRating := if "global_min_community_rating" ∈ deleted
      then absent.globalLeastRating else options.globalLeastRating
    globalCommunityLimit := if "global_max_consider_community" ∈ deleted
      then absent.globalCommunityLimit else options.globalCommunityLimit
    globalReportBudget := if "global_max_token_for_community_report" ∈ deleted
      then absent.globalReportBudget else options.globalReportBudget }

theorem restores_kept {options : QueryOptions} (fits : options.Fits)
    (rereads : RereadsDouble options.globalLeastRating) {deleted : List String}
    {kept : List (String × Json)} (left : options.toJson.LeftOf deleted kept) :
    (Json.record kept).Restores ofJson? (options.reset deleted) := by
  have leaves : Leaves _ deleted kept := ⟨left, show fieldNames.Nodup by decide⟩
  refine Json.restores_of_readable (leaves.readable ?_) ?_
  · simp [QueryMode.toJson, Json.readable_ofText, Json.readable_ofNat,
      Json.readable_ofDouble, Json.Readable.boolean]
  · have members : (Json.record kept).members? fieldNames = some ⟨kept⟩ :=
      leaves.members? fun field inside => List.mem_map_of_mem inside
    refine Option.bind_eq_some_iff.mpr ⟨_, members, ?_⟩
    refine leaves.bind_optional? rfl options.mode.ofJson?_toJson ?_
    refine leaves.bind_optional? rfl rfl ?_
    refine leaves.bind_optional? rfl (Json.text?_ofText _) ?_
    refine leaves.bind_optional? rfl (Json.natural32?_ofNat fits.level) ?_
    refine leaves.bind_optional? rfl (Json.natural64?_ofNat fits.matchLimit) ?_
    refine leaves.bind_optional? rfl (Json.natural64?_ofNat fits.contextBudget) ?_
    refine leaves.bind_optional? rfl (Json.natural64?_ofNat fits.localTextBudget) ?_
    refine leaves.bind_optional? rfl (Json.natural64?_ofNat fits.localContextBudget) ?_
    refine leaves.bind_optional? rfl (Json.natural64?_ofNat fits.localReportBudget) ?_
    refine leaves.bind_optional? rfl rfl ?_
    refine leaves.bind_optional? rfl rereads ?_
    refine leaves.bind_optional? rfl (Json.natural64?_ofNat fits.globalCommunityLimit) ?_
    refine leaves.bind_optional? rfl (Json.natural64?_ofNat fits.globalReportBudget) ?_
    rfl

theorem restores {options : QueryOptions} (fits : options.Fits)
    (rereads : RereadsDouble options.globalLeastRating) :
    options.toJson.Restores ofJson? options :=
  restores_kept fits rereads Json.leftOf_nil

end QueryOptions

/-! ## Options of indices -/

theorem Backend.ofJson?_toJson (backend : Backend) : ofJson? backend.toJson = some backend := by
  cases backend <;> rfl

namespace IndexOptions

/-- The options with the defaults of the fields that are named. -/
def reset (options : IndexOptions) (deleted : List String) : IndexOptions :=
  let absent : IndexOptions := {}
  { metric := if "metric" ∈ deleted then absent.metric else options.metric
    threshold := if "query_better_than_threshold" ∈ deleted then absent.threshold
      else options.threshold
    backend := if "storage_backend" ∈ deleted then absent.backend else options.backend
    file := if "storage_file" ∈ deleted then absent.file else options.file
    autoSave := if "auto_save" ∈ deleted then absent.autoSave else options.autoSave
    shownFields := if "meta_fields" ∈ deleted then absent.shownFields
      else options.shownFields }

theorem restores_kept {options : IndexOptions} (rereads : Rereads options.threshold)
    {deleted : List String} {kept : List (String × Json)}
    (left : options.toJson.LeftOf deleted kept) :
    (Json.record kept).Restores ofJson? (options.reset deleted) := by
  have leaves : Leaves _ deleted kept := ⟨left, show fieldNames.Nodup by decide⟩
  refine Json.restores_of_readable (leaves.readable ?_) ?_
  · simp only [List.forall_mem_cons, List.not_mem_nil, false_implies, implies_true,
      and_true]
    exact ⟨Json.readable_ofText _, Json.readable_ofSingle _, Json.readable_ofText _,
      Json.readable_ofText _, .boolean _, Json.readable_texts _⟩
  · have members : (Json.record kept).members? fieldNames = some ⟨kept⟩ :=
      leaves.members? fun field inside => List.mem_map_of_mem inside
    refine Option.bind_eq_some_iff.mpr ⟨_, members, ?_⟩
    refine leaves.bind_optional? rfl options.metric.ofJson?_toJson ?_
    refine leaves.bind_optional? rfl rereads ?_
    refine leaves.bind_optional? rfl options.backend.ofJson?_toJson ?_
    refine leaves.bind_optional? rfl rfl ?_
    refine leaves.bind_optional? rfl rfl ?_
    refine leaves.bind_optional? rfl (Json.list?_texts _) ?_
    rfl

theorem restores {options : IndexOptions} (rereads : Rereads options.threshold) :
    options.toJson.Restores ofJson? options :=
  restores_kept rereads Json.leftOf_nil

end IndexOptions

/-! ## All records -/

/-- A report is read back, in whatever order its details are listed, and its community, whose fields
stand beside its own, is read from it. -/
structure CommunityReport.ReadsBack (report : CommunityReport) : Prop where
  whole : report.toJson.Restores ofJson? report
  listed : ∀ order, order.Perm report.details.entries →
    (report.listed order).Restores ofJson? report
  community : report.toJson.Restores Community.ofJson? report.community
  fields : ∀ name ∈ Community.fieldNames,
    report.toJson.field? name = report.community.toJson.field? name

theorem CommunityReport.readsBack {report : CommunityReport} (fits : report.community.Fits)
    (rereads : RereadsDouble report.community.occurrence) : report.ReadsBack where
  whole := restores fits rereads
  listed := fun _ => restores_listed fits rereads
  community := restores_community fits rereads report.details.entries
  fields := fun _ => field?_listed report report.details.entries

/-- Options are read back; without some fields they have exactly the defaults of these. -/
structure QueryOptions.ReadsBack (options : QueryOptions) : Prop where
  whole : options.toJson.Restores ofJson? options
  kept : ∀ deleted kept, options.toJson.LeftOf deleted kept →
    (Json.record kept).Restores ofJson? (options.reset deleted)

structure IndexOptions.ReadsBack (options : IndexOptions) : Prop where
  whole : options.toJson.Restores ofJson? options
  kept : ∀ deleted kept, options.toJson.LeftOf deleted kept →
    (Json.record kept).Restores ofJson? (options.reset deleted)

structure Match.ReadsBack (found : Match) : Prop where
  whole : found.toJson.Restores ofJson? found
  listed : ∀ order, order.Perm found.shown.entries → (found.listed order).Restores ofJson? found

/-- Every record is read back from its text.  The numbers have to fit their width, and those with a
point have to be finite and read back from their numerals. -/
structure RecordsReadBack : Prop where
  documents : ∀ document : Document, document.toJson.Restores Document.ofJson? document
  chunks : ∀ chunk : Chunk, chunk.Fits → chunk.toJson.Restores Chunk.ofJson? chunk
  communities : ∀ community : Community, community.Fits → community.occurrence.isFinite = true →
    (community.occurrence.isFinite = true → RereadsDouble community.occurrence) →
    community.toJson.Restores Community.ofJson? community
  reports : ∀ report : CommunityReport, report.community.Fits →
    report.community.occurrence.isFinite = true →
    (report.community.occurrence.isFinite = true → RereadsDouble report.community.occurrence) →
    report.ReadsBack
  modes : ∀ mode : QueryMode, mode.toJson.Restores QueryMode.ofJson? mode
  queryOptions : ∀ options : QueryOptions, options.Fits →
    options.globalLeastRating.isFinite = true →
    (options.globalLeastRating.isFinite = true → RereadsDouble options.globalLeastRating) →
    options.ReadsBack
  found : ∀ found : Match, found.score.isFinite = true →
    (found.score.isFinite = true → Rereads found.score) → found.ReadsBack
  indexOptions : ∀ options : IndexOptions, options.threshold.isFinite = true →
    (options.threshold.isFinite = true → Rereads options.threshold) → options.ReadsBack

/-- All records are read back from their texts, whatever texts, sets and tables are in them. -/
theorem written_records_restore : RecordsReadBack where
  documents := Document.restores
  chunks := fun _ => Chunk.restores
  communities := fun _ fits finite rereads => Community.restores fits (rereads finite)
  reports := fun _ fits finite rereads => CommunityReport.readsBack fits (rereads finite)
  modes := QueryMode.restores
  queryOptions := fun _ fits finite rereads => ⟨QueryOptions.restores fits (rereads finite),
    fun _ _ => QueryOptions.restores_kept fits (rereads finite)⟩
  found := fun _ finite rereads => ⟨Match.restores (rereads finite),
    fun _ => Match.restores_listed (rereads finite)⟩
  indexOptions := fun _ finite rereads => ⟨IndexOptions.restores (rereads finite),
    fun _ _ => IndexOptions.restores_kept (rereads finite)⟩

/-! ## A report with quotes, and options without a mode -/

def quotedReport : CommunityReport where
  community :=
    { level := 3
      title := "Cluster \"0\"\n"
      edges := KeySet.ofKeys [⟨"b", "é"⟩, ⟨"a", "\\"⟩]
      nodes := KeySet.ofKeys ["é", "b", "a", "\\"]
      occurrence := 0.5
      subCommunities := ["", ""] }
  summary := "\t😀"
  details := Table.ofList [("rating", "7"), ("level", "1")]

def ratedOptions : QueryOptions := { mode := .naive, level := 7, globalLeastRating := 0.5 }

/-- The report comes back with its details listed backwards, one of them named like a field of the
community; without mode and level the options have the defaults of these two. -/
theorem written_records_restore_of_quotes :
    (quotedReport.listed [("rating", "7"), ("level", "1")]).Restores CommunityReport.ofJson?
        quotedReport ∧
      ∃ kept, ratedOptions.toJson.LeftOf ["mode", "level"] kept ∧
        (Json.record kept).Restores QueryOptions.ofJson? { globalLeastRating := 0.5 } := by
  have finite : (0.5 : Float).isFinite = true := by decide +kernel
  have rereads : RereadsDouble 0.5 := by
    unfold RereadsDouble
    decide +kernel
  have report := written_records_restore.reports quotedReport (show 3 < UInt32.size by decide)
    finite fun _ => rereads
  have options := written_records_restore.queryOptions ratedOptions (by constructor <;> decide)
    finite fun _ => rereads
  refine ⟨report.listed _ (List.Perm.swap _ _ []), _, ⟨_, Json.fields?_record _, .refl _⟩, ?_⟩
  exact options.kept ["mode", "level"] _ ⟨_, Json.fields?_record _, .refl _⟩

end Retrieval
