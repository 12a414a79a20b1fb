import Mathlib.Data.List.Infix
import Retrieval.Http.Reply

/-!
# What a reply gives

A reply gives its value if it succeeded, its body does not come in pieces, none of
its transfer encodings mentions chunks, and its body is JSON; otherwise the first
of these that fails is reported (`Gives`).  What is looked at is the first line of
a header field, and only where it is plain text.  So the rule is kept unless other
lines or other characters hide something (`Hides`).
-/

namespace Retrieval

namespace Http

namespace Reply

/-! ## The rule -/

/-- A type of bodies that come in pieces, in letters of either case. -/
def IsStreamType (value : String) : Prop :=
  ∃ type ∈ streamTypes, type.toList <+: value.toLower.toList

/-- The word for chunks stands somewhere in the value, in letters of either case. -/
def MentionsChunks (value : String) : Prop := "chunked".toList <:+: value.toLower.toList

/-- The type of the body, whatever its characters. -/
def type? (reply : Reply) : Option String := (Field.valuesOf "content-type" reply.fields).head?

/-- The transfer encodings of all lines, whatever their characters. -/
def encodings (reply : Reply) : List String := Field.valuesOf "transfer-encoding" reply.fields

def IsStream (reply : Reply) : Prop := ∃ value, reply.type? = some value ∧ IsStreamType value

def HasChunks (reply : Reply) : Prop := ∃ value ∈ reply.encodings, MentionsChunks value

/-- What a reply from an address gives: the first objection to it, or its value. -/
inductive Gives (reply : Reply) (address : String) : Except TransportFault Json → Prop where
  | status (failed : isSuccess reply.status = false) :
      Gives reply address (.error (.status reply.status reply.body))
  | streamed {value : String} (succeeded : isSuccess reply.status = true)
      (typed : reply.type? = some value) (stream : IsStreamType value) :
      Gives reply address (.error (.streamed value.toLower))
  | chunked (succeeded : isSuccess reply.status = true) (whole : ¬ reply.IsStream)
      (chunks : reply.HasChunks) : Gives reply address (.error .chunked)
  | notJson (succeeded : isSuccess reply.status = true) (whole : ¬ reply.IsStream)
      (plain : ¬ reply.HasChunks) (unread : Json.readPlain? reply.body = none) :
      Gives reply address (.error (.notJson address))
  | value {json : Json} (succeeded : isSuccess reply.status = true) (whole : ¬ reply.IsStream)
      (plain : ¬ reply.HasChunks) (read : Json.readPlain? reply.body = some json) :
      Gives reply address (.ok json)

/-! ## What is looked at -/

theorem mentions_iff (word text : List Char) : mentions word text = true ↔ word <:+: text := by
  induction text with
  | nil => rw [mentions, List.isEmpty_iff, List.infix_nil]
  | cons first rest ih =>
      rw [mentions, Bool.or_eq_true, List.isPrefixOf_iff_prefix, ih, List.infix_cons_iff]

variable {reply : Reply}

theorem field?_eq_some_iff {name value : String} :
    reply.field? name = some value ↔
      (Field.valuesOf name reply.fields).head? = some value ∧
        value.toList.all Field.isVisible = true := by
  rw [field?, Option.bind_eq_some_iff]
  constructor
  · rintro ⟨first, found, shown⟩
    unfold Field.visible? at shown
    split at shown
    · next visible =>
      cases shown
      exact ⟨found, visible⟩
    · cases shown
  · rintro ⟨found, visible⟩
    exact ⟨value, found, if_pos visible⟩

theorem isStreamed_iff :
    reply.isStreamed = true ↔
      ∃ value, reply.field? "content-type" = some value ∧ IsStreamType value := by
  rw [isStreamed, contentType, List.any_eq_true]
  cases reply.field? "content-type" with
  | none =>
      have empty : ¬ ∃ type ∈ streamTypes, type.toList.isPrefixOf "".toLower.toList = true := by
        decide +kernel
      refine iff_of_false empty ?_
      rintro ⟨value, found, -⟩
      cases found
  | some value =>
      simp only [Option.getD_some, List.isPrefixOf_iff_prefix, Option.some.injEq,
        exists_eq_left', IsStreamType]

theorem isChunked_iff :
    reply.isChunked = true ↔
      ∃ value, reply.field? "transfer-encoding" = some value ∧ MentionsChunks value := by
  rw [isChunked]
  cases reply.field? "transfer-encoding" with
  | none =>
      refine iff_of_false Bool.false_ne_true ?_
      rintro ⟨value, found, -⟩
      cases found
  | some value => simp only [mentions_iff, Option.some.injEq, exists_eq_left', MentionsChunks]

theorem isStream_of_isStreamed (seen : reply.isStreamed = true) : reply.IsStream := by
  obtain ⟨value, found, stream⟩ := isStreamed_iff.mp seen
  exact ⟨value, (field?_eq_some_iff.mp found).1, stream⟩

theorem not_isStream_of_untyped (untyped : reply.type? = none) : ¬ reply.IsStream := by
  rintro ⟨value, typed, -⟩
  cases untyped.symm.trans typed

theorem hasChunks_of_isChunked (seen : reply.isChunked = true) : reply.HasChunks := by
  obtain ⟨value, found, chunks⟩ := isChunked_iff.mp seen
  exact ⟨value, List.mem_of_mem_head? (field?_eq_some_iff.mp found).1, chunks⟩

/-! ## What is hidden -/

/-- The body comes in pieces, but its type is not plain text. -/
def HidesStream (reply : Reply) : Prop :=
  reply.IsStream ∧ reply.field? "content-type" = none

/-- Some transfer encoding mentions chunks, but the first one does not do so in plain text. -/
def HidesChunks (reply : Reply) : Prop :=
  reply.HasChunks ∧
    ∀ value, reply.field? "transfer-encoding" = some value → ¬ MentionsChunks value

/-- An objection to a reply is hidden, and nothing that comes before it is wrong. -/
def Hides (reply : Reply) : Prop :=
  isSuccess reply.status = true ∧
    (reply.HidesStream ∨ ¬ reply.IsStream ∧ reply.HidesChunks)

theorem hidesStream_iff : reply.HidesStream ↔ reply.IsStream ∧ ¬ reply.isStreamed = true := by
  refine and_congr_right ?_
  rintro ⟨first, typed, stream⟩
  rw [isStreamed_iff, Option.eq_none_iff_forall_ne_some]
  constructor
  · rintro unseen ⟨value, found, -⟩
    exact unseen value found
  · intro unseen value found
    obtain rfl := Option.some.inj (typed.symm.trans (field?_eq_some_iff.mp found).1)
    exact unseen ⟨first, found, stream⟩

theorem hidesChunks_iff : reply.HidesChunks ↔ reply.HasChunks ∧ ¬ reply.isChunked = true := by
  refine and_congr_right fun _ => ?_
  rw [isChunked_iff]
  constructor
  · rintro unseen ⟨value, found, chunks⟩
    exact unseen value found chunks
  · exact fun unseen value found chunks => unseen ⟨value, found, chunks⟩

/-! ## The rule kept and broken -/

section Json

variable {address : String}

theorem json_of_failed (failed : isSuccess reply.status = false) :
    reply.json address = .error (.status reply.status reply.body) := by
  rw [json, failed]
  rfl

theorem json_of_isStreamed (succeeded : isSuccess reply.status = true)
    (seen : reply.isStreamed = true) :
    reply.json address = .error (.streamed reply.contentType) := by
  rw [json, succeeded, seen]
  rfl

theorem json_of_isChunked (succeeded : isSuccess reply.status = true)
    (whole : ¬ reply.isStreamed = true) (seen : reply.isChunked = true) :
    reply.json address = .error .chunked := by
  rw [json, succeeded, if_neg whole, if_pos seen]
  rfl

theorem json_of_unobjected (succeeded : isSuccess reply.status = true)
    (whole : ¬ reply.isStreamed = true) (plain : ¬ reply.isChunked = true) :
    Json.readPlain? reply.body = none ∧ reply.json address = .error (.notJson address) ∨
      ∃ value, Json.readPlain? reply.body = some value ∧ reply.json address = .ok value := by
  rw [json, succeeded, if_neg whole, if_neg plain]
  cases Json.readPlain? reply.body with
  | none => exact .inl ⟨rfl, rfl⟩
  | some value => exact .inr ⟨value, rfl, rfl⟩

theorem json_ne_streamed (succeeded : isSuccess reply.status = true)
    (unseen : ¬ reply.isStreamed = true) (type : String) :
    reply.json address ≠ .error (.streamed type) := by
  by_cases seen : reply.isChunked = true
  · rw [json_of_isChunked succeeded unseen seen]
    exact fun same => nomatch same
  · rcases json_of_unobjected succeeded unseen seen with ⟨-, same⟩ | ⟨value, -, same⟩ <;>
      exact fun other => nomatch same.symm.trans other

theorem json_ne_chunked (succeeded : isSuccess reply.status = true)
    (whole : ¬ reply.isStreamed = true) (unseen : ¬ reply.isChunked = true) :
    reply.json address ≠ .error .chunked := by
  rcases json_of_unobjected succeeded whole unseen with ⟨-, same⟩ | ⟨value, -, same⟩ <;>
    exact fun other => nomatch same.symm.trans other

theorem not_gives_of_hidesStream (succeeded : isSuccess reply.status = true)
    (hidden : reply.HidesStream) : ¬ reply.Gives address (reply.json address) := by
  obtain ⟨stream, unseen⟩ := hidesStream_iff.mp hidden
  intro gives
  have other : ∀ type, reply.json address ≠ .error (.streamed type) :=
    json_ne_streamed succeeded unseen
  generalize reply.json address = outcome at gives other
  cases gives with
  | status failed => exact absurd (succeeded.symm.trans failed) Bool.true_eq_false.mp
  | streamed => exact other _ rfl
  | chunked _ whole => exact whole stream
  | notJson _ whole => exact whole stream
  | value _ whole => exact whole stream

theorem not_gives_of_hidesChunks (succeeded : isSuccess reply.status = true)
    (whole : ¬ reply.IsStream) (hidden : reply.HidesChunks) :
    ¬ reply.Gives address (reply.json address) := by
  obtain ⟨chunks, unseen⟩ := hidesChunks_iff.mp hidden
  intro gives
  have other : reply.json address ≠ .error .chunked :=
    json_ne_chunked succeeded (mt isStream_of_isStreamed whole) unseen
  generalize reply.json address = outcome at gives other
  cases gives with
  | status failed => exact absurd (succeeded.symm.trans failed) Bool.true_eq_false.mp
  | streamed _ typed stream => exact whole ⟨_, typed, stream⟩
  | chunked => exact other rfl
  | notJson _ _ plain => exact plain chunks
  | value _ _ plain => exact plain chunks

theorem gives_of_not_hides (shown : ¬ reply.Hides) : reply.Gives address (reply.json address) := by
  cases succeeded : isSuccess reply.status with
  | false =>
      rw [json_of_failed succeeded]
      exact .status succeeded
  | true =>
      have shownStream : ¬ reply.HidesStream := fun hidden => shown ⟨succeeded, .inl hidden⟩
      by_cases stream : reply.IsStream
      · have seen : reply.isStreamed = true := by
          by_contra unseen
          exact shownStream (hidesStream_iff.mpr ⟨stream, unseen⟩)
        obtain ⟨value, found, pieces⟩ := isStreamed_iff.mp seen
        rw [json_of_isStreamed succeeded seen, contentType, found]
        exact .streamed succeeded (field?_eq_some_iff.mp found).1 pieces
      · have whole := mt isStream_of_isStreamed stream
        by_cases chunks : reply.HasChunks
        · have seen : reply.isChunked = true := by
            by_contra unseen
            exact shown ⟨succeeded, .inr ⟨stream, hidesChunks_iff.mpr ⟨chunks, unseen⟩⟩⟩
          rw [json_of_isChunked succeeded whole seen]
          exact .chunked succeeded stream chunks
        · rcases json_of_unobjected succeeded whole (mt hasChunks_of_isChunked chunks) with
            ⟨unread, same⟩ | ⟨value, read, same⟩
          · rw [same]
            exact .notJson succeeded stream chunks unread
          · rw [same]
            exact .value succeeded stream chunks read

theorem gives_json_iff : reply.Gives address (reply.json address) ↔ ¬ reply.Hides := by
  refine ⟨?_, gives_of_not_hides⟩
  rintro gives ⟨succeeded, hidden | ⟨whole, hidden⟩⟩
  · exact not_gives_of_hidesStream succeeded hidden gives
  · exact not_gives_of_hidesChunks succeeded whole hidden gives

/-- Whatever is hidden, a value is taken only from the JSON body of a reply that succeeded. -/
theorem json_ok {value : Json} (taken : reply.json address = .ok value) :
    isSuccess reply.status = true ∧ Json.readPlain? reply.body = some value := by
  cases succeeded : isSuccess reply.status with
  | false =>
      rw [json_of_failed succeeded] at taken
      cases taken
  | true =>
      refine ⟨rfl, ?_⟩
      by_cases stream : reply.isStreamed = true
      · rw [json_of_isStreamed succeeded stream] at taken
        cases taken
      · by_cases chunks : reply.isChunked = true
        · rw [json_of_isChunked succeeded stream chunks] at taken
          cases taken
        · rcases json_of_unobjected succeeded stream chunks with
            ⟨-, same⟩ | ⟨other, read, same⟩
          · cases same.symm.trans taken
          · cases same.symm.trans taken
            exact read

end Json

end Reply

end Http

end Retrieval
