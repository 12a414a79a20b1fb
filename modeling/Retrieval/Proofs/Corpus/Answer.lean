import Retrieval.Proofs.Calls
import Retrieval.Proofs.Corpus.Context

/-!
# What a question is answered with

Every exit of a query, with the response that it gives and the calls that it
makes.  The generator is called at most once, behind the embedder.
-/

namespace Retrieval

namespace Corpus

variable {σ : Type}

def recorded (corpus : Corpus σ) : Corpus (σ × List Call) where
  options := corpus.options
  tokenizer := corpus.tokenizer
  generator := corpus.generator.map Generator.recorded
  documents := corpus.documents
  chunks := corpus.chunks
  reports := corpus.reports
  graph := corpus.graph
  chunkIndex := corpus.chunkIndex.map Index.recorded
  entityIndex := corpus.entityIndex.map Index.recorded

/-- The calls that an answer makes, in order. -/
def answerCalls (corpus : Corpus σ) (question : String) (options : QueryOptions)
    (outside : σ) : List Call :=
  (corpus.recorded.answer question options (outside, [])).2.2

/-- The chunk records of some matches, in their order; matches without one are skipped. -/
def retrieved (corpus : Corpus σ) (found : List Match) : List Chunk :=
  found.filterMap fun found => corpus.chunks.get? found.id

theorem matchedChunks_eq (corpus : Corpus σ) (found : List Match) :
    corpus.matchedChunks found = corpus.retrieved found := by
  unfold matchedChunks retrieved Collection.getMany
  rw [List.map_map, List.filterMap_map]
  rfl

/-! ## The exits of a query -/

section

variable {corpus : Corpus σ} {index : Index σ} {generator : Generator σ} {question : String}
  {options : QueryOptions} {outside later : σ} {found : List Match}

theorem answer_of_unsupported (mode : options.mode ≠ .naive) :
    corpus.answer question options outside = (.ok (.unsupported options.mode), outside) := by
  unfold answer
  cases asked : options.mode with
  | naive => exact absurd asked mode
  | localGraph => rfl
  | globalGraph => rfl

theorem answer_of_naive (mode : options.mode = .naive) :
    corpus.answer question options outside = corpus.answerNaive question options outside := by
  unfold answer
  rw [mode]

theorem answer_of_unindexed (mode : options.mode = .naive) (unindexed : corpus.chunkIndex = none) :
    corpus.answer question options outside = (.ok .noContext, outside) := by
  rw [answer_of_naive mode, answerNaive, unindexed]

theorem answer_of_query_error {failure : Failure} (mode : options.mode = .naive)
    (indexed : corpus.chunkIndex = some index)
    (refused : index.query question options.matchLimit outside = (.error failure, later)) :
    corpus.answer question options outside = (.error failure, later) := by
  rw [answer_of_naive mode, answerNaive, indexed]
  dsimp only
  rw [refused]

theorem answer_of_query_ok (mode : options.mode = .naive)
    (indexed : corpus.chunkIndex = some index)
    (matched : index.query question options.matchLimit outside = (.ok found, later)) :
    corpus.answer question options outside =
      if corpus.retrieved found = [] then (.ok .noContext, later)
      else corpus.respond question
        (assembleContext options.contextBudget (corpus.retrieved found)) options later := by
  rw [answer_of_naive mode, answerNaive, indexed]
  dsimp only
  rw [matched]
  simp only [matchedChunks_eq, List.isEmpty_iff]

theorem respond_of_context_wanted {context : String}
    (silent : options.contextOnly = true ∨ corpus.generator = none) :
    corpus.respond question context options outside = (.ok (.context context), outside) := by
  unfold respond
  cases present : corpus.generator with
  | none => rfl
  | some generator =>
      rcases silent with wanted | absent
      · rw [wanted]
        rfl
      · rw [present] at absent
        cases absent

/-- What a generator said, with the context in the place of nothing. -/
def responseOf (context text : String) : Response :=
  if text = "" then .context context else .answer text

theorem respond_of_generator {context : String} (asking : options.contextOnly = false)
    (present : corpus.generator = some generator) :
    corpus.respond question context options outside =
      ((generator.generate question
          (Prompt.instructions context options.responseType) outside).1.map (responseOf context),
        (generator.generate question
          (Prompt.instructions context options.responseType) outside).2) := by
  unfold respond
  rw [present]
  dsimp only
  rw [if_neg (Bool.not_eq_true _ ▸ asking)]
  rfl

end

/-! ## The calls of a query -/

/-- The generator's call for a context, unless no answer is wanted from it. -/
def respondCalls (corpus : Corpus σ) (question context : String) (options : QueryOptions) :
    List Call :=
  if options.contextOnly = false ∧ corpus.generator.isSome then
    [.generation question (Prompt.instructions context options.responseType)]
  else []

theorem respond_recorded (corpus : Corpus σ) (question context : String) (options : QueryOptions)
    (outside : σ) (log : List Call) :
    corpus.recorded.respond question context options (outside, log) =
      ((corpus.respond question context options outside).1,
        (corpus.respond question context options outside).2,
        log ++ corpus.respondCalls question context options) := by
  unfold respondCalls
  cases present : corpus.generator with
  | none =>
      have absent : corpus.recorded.generator = none :=
        congrArg (Option.map Generator.recorded) present
      rw [respond_of_context_wanted (.inr present), respond_of_context_wanted (.inr absent),
        if_neg (by simp), List.append_nil]
  | some generator =>
      have recording : corpus.recorded.generator = some generator.recorded :=
        congrArg (Option.map Generator.recorded) present
      cases wanted : options.contextOnly with
      | true =>
          rw [respond_of_context_wanted (.inl wanted), respond_of_context_wanted (.inl wanted),
            if_neg (by simp), List.append_nil]
      | false =>
          rw [respond_of_generator wanted present, respond_of_generator wanted recording,
            if_pos (by simp)]
          rfl

section

variable {corpus : Corpus σ} {index : Index σ} {question : String} {options : QueryOptions}
  {outside later : σ} {found : List Match}

theorem recorded_query {result : Except Failure (List Match)}
    (asked : index.query question options.matchLimit outside = (result, later))
    (log : List Call) :
    index.recorded.query question options.matchLimit (outside, log) =
      (result, later, log ++ index.queryCalls question) := by
  rw [Index.query_recorded, asked]

theorem recorded_answer_of_query_ok (mode : options.mode = .naive)
    (indexed : corpus.chunkIndex = some index)
    (matched : index.query question options.matchLimit outside = (.ok found, later))
    (log : List Call) :
    corpus.recorded.answer question options (outside, log) =
      if corpus.retrieved found = [] then
        (.ok .noContext, later, log ++ index.queryCalls question)
      else
        corpus.recorded.respond question
          (assembleContext options.contextBudget (corpus.retrieved found)) options
          (later, log ++ index.queryCalls question) := by
  have recording : corpus.recorded.chunkIndex = some index.recorded :=
    congrArg (Option.map Index.recorded) indexed
  exact answer_of_query_ok mode recording (recorded_query matched log)

theorem answerCalls_of_query_ok (mode : options.mode = .naive)
    (indexed : corpus.chunkIndex = some index)
    (matched : index.query question options.matchLimit outside = (.ok found, later)) :
    corpus.answerCalls question options outside =
      index.queryCalls question ++
        if corpus.retrieved found = [] then []
        else corpus.respondCalls question
          (assembleContext options.contextBudget (corpus.retrieved found)) options := by
  rw [answerCalls, recorded_answer_of_query_ok mode indexed matched]
  split
  · rw [List.append_nil]
    rfl
  · rw [respond_recorded]
    rfl

theorem recorded_answer_of_query_error {failure : Failure} (mode : options.mode = .naive)
    (indexed : corpus.chunkIndex = some index)
    (refused : index.query question options.matchLimit outside = (.error failure, later))
    (log : List Call) :
    corpus.recorded.answer question options (outside, log) =
      (.error failure, later, log ++ index.queryCalls question) := by
  have recording : corpus.recorded.chunkIndex = some index.recorded :=
    congrArg (Option.map Index.recorded) indexed
  exact answer_of_query_error mode recording (recorded_query refused log)

theorem recorded_answer_of_unindexed (mode : options.mode = .naive)
    (unindexed : corpus.chunkIndex = none) (log : List Call) :
    corpus.recorded.answer question options (outside, log) = (.ok .noContext, outside, log) := by
  have recording : corpus.recorded.chunkIndex = none :=
    congrArg (Option.map Index.recorded) unindexed
  exact answer_of_unindexed mode recording

end

/-- Recording changes neither the response nor the world outside, and what is written down
does not depend on what was written before. -/
theorem answer_recorded (corpus : Corpus σ) (question : String) (options : QueryOptions)
    (outside : σ) (log : List Call) :
    corpus.recorded.answer question options (outside, log) =
      ((corpus.answer question options outside).1, (corpus.answer question options outside).2,
        log ++ corpus.answerCalls question options outside) := by
  by_cases mode : options.mode = .naive
  · cases indexed : corpus.chunkIndex with
    | none =>
        rw [answerCalls, recorded_answer_of_unindexed mode indexed,
          recorded_answer_of_unindexed mode indexed, answer_of_unindexed mode indexed,
          List.append_nil]
    | some index =>
        cases asked : index.query question options.matchLimit outside with
        | mk verdict later =>
            cases verdict with
            | error failure =>
                rw [answerCalls, recorded_answer_of_query_error mode indexed asked,
                  recorded_answer_of_query_error mode indexed asked,
                  answer_of_query_error mode indexed asked]
                rfl
            | ok found =>
                rw [answerCalls_of_query_ok mode indexed asked,
                  recorded_answer_of_query_ok mode indexed asked,
                  answer_of_query_ok mode indexed asked]
                split
                · rw [List.append_nil]
                · rw [respond_recorded, List.append_assoc]
  · rw [answerCalls, answer_of_unsupported mode, answer_of_unsupported mode,
      answer_of_unsupported mode, List.append_nil]

/-! ## The response of a query -/

theorem responseOf_ne_noContext (context text : String) :
    responseOf context text ≠ .noContext := by
  unfold responseOf
  split
  · exact Response.noConfusion
  · exact Response.noConfusion

theorem respond_ne_noContext (corpus : Corpus σ) (question context : String)
    (options : QueryOptions) (outside : σ) :
    (corpus.respond question context options outside).1 ≠ .ok .noContext := by
  cases present : corpus.generator with
  | none =>
      rw [respond_of_context_wanted (.inr present)]
      simp
  | some generator =>
      cases wanted : options.contextOnly with
      | true =>
          rw [respond_of_context_wanted (.inl wanted)]
          simp
      | false =>
          rw [respond_of_generator wanted present]
          cases (generator.generate question
            (Prompt.instructions context options.responseType) outside).1 with
          | error failure => simp [Except.map]
          | ok text => simp [Except.map, responseOf_ne_noContext]

/-- There is nothing to answer from exactly if a naive query finds no chunk record. -/
theorem answer_noContext_iff (corpus : Corpus σ) (question : String) (options : QueryOptions)
    (outside : σ) :
    (corpus.answer question options outside).1 = .ok .noContext ↔
      options.mode = .naive ∧ ∀ index, corpus.chunkIndex = some index →
        ∃ found, (index.query question options.matchLimit outside).1 = .ok found ∧
          corpus.retrieved found = [] := by
  by_cases mode : options.mode = .naive
  · cases indexed : corpus.chunkIndex with
    | none => simp [answer_of_unindexed mode indexed, mode]
    | some index =>
        cases asked : index.query question options.matchLimit outside with
        | mk verdict later =>
            cases verdict with
            | error failure => simp [answer_of_query_error mode indexed asked, asked]
            | ok found =>
                rw [answer_of_query_ok mode indexed asked]
                by_cases none : corpus.retrieved found = []
                · simp [none, mode, asked]
                · simp [none, asked, respond_ne_noContext]
  · simp [answer_of_unsupported mode, mode]

section

variable {corpus : Corpus σ} {index : Index σ} {question : String} {options : QueryOptions}
  {outside later : σ} {found : List Match}

theorem answer_of_context_wanted (mode : options.mode = .naive)
    (indexed : corpus.chunkIndex = some index)
    (matched : index.query question options.matchLimit outside = (.ok found, later))
    (given : corpus.retrieved found ≠ [])
    (silent : options.contextOnly = true ∨ corpus.generator = none) :
    corpus.answer question options outside =
      (.ok (.context (assembleContext options.contextBudget (corpus.retrieved found))), later) ∧
    corpus.answerCalls question options outside = index.queryCalls question := by
  constructor
  · rw [answer_of_query_ok mode indexed matched, if_neg given]
    exact respond_of_context_wanted silent
  · have uncalled : ¬ (options.contextOnly = false ∧ corpus.generator.isSome) := by
      rintro ⟨asking, present⟩
      rcases silent with wanted | absent
      · rw [asking] at wanted
        cases wanted
      · rw [absent] at present
        cases present
    rw [answerCalls_of_query_ok mode indexed matched, if_neg given, respondCalls,
      if_neg uncalled, List.append_nil]

theorem answer_of_generator {generator : Generator σ} {reply : Except Failure String} {last : σ}
    (mode : options.mode = .naive) (indexed : corpus.chunkIndex = some index)
    (matched : index.query question options.matchLimit outside = (.ok found, later))
    (given : corpus.retrieved found ≠ []) (asking : options.contextOnly = false)
    (present : corpus.generator = some generator) {context : String}
    (assembled : assembleContext options.contextBudget (corpus.retrieved found) = context)
    (replied : generator.generate question
      (Prompt.instructions context options.responseType) later = (reply, last)) :
    corpus.answer question options outside = (reply.map (responseOf context), last) ∧
    corpus.answerCalls question options outside = index.queryCalls question ++
      [.generation question (Prompt.instructions context options.responseType)] := by
  constructor
  · rw [answer_of_query_ok mode indexed matched, if_neg given, assembled,
      respond_of_generator asking present, replied]
  · have called : options.contextOnly = false ∧ corpus.generator.isSome = true := by
      rw [present]
      exact ⟨asking, rfl⟩
    rw [answerCalls_of_query_ok mode indexed matched, if_neg given, assembled, respondCalls,
      if_pos called]

end

section Follows

variable (corpus : Corpus σ) (question : String) (options : QueryOptions) (outside : σ)

/-- A generator is called with a context, once and behind other calls, and the response is what it
replies. -/
structure FollowsReply (context : String) (calls : List Call) (reply : Except Failure String)
    (last : σ) : Prop where
  calls : corpus.answerCalls question options outside =
    calls ++ [.generation question (Prompt.instructions context options.responseType)]
  failed : ∀ failure, reply = .error failure →
    corpus.answer question options outside = (.error failure, last)
  nothing : reply = .ok "" →
    corpus.answer question options outside = (.ok (.context context), last)
  said : ∀ text, text ≠ "" → reply = .ok text →
    corpus.answer question options outside = (.ok (.answer text), last)

/-- A context is the response itself, unless an answer is wanted and there is a generator. -/
structure FollowsContext (context : String) (calls : List Call) (later : σ) : Prop where
  given : options.contextOnly = true ∨ corpus.generator = none →
    corpus.answer question options outside = (.ok (.context context), later) ∧
    corpus.answerCalls question options outside = calls
  generated : ∀ generator reply last, options.contextOnly = false →
    corpus.generator = some generator →
    generator.generate question (Prompt.instructions context options.responseType) later =
      (reply, last) →
    corpus.FollowsReply question options outside context calls reply last

structure FollowsMatches (found : List Match) (calls : List Call) (later : σ) : Prop where
  nothing : corpus.retrieved found = [] → corpus.answerCalls question options outside = calls
  something : corpus.retrieved found ≠ [] → ∃ taken context,
    LongestWithin options.contextBudget (corpus.retrieved found) taken ∧
    context = Prompt.chunkSeparator.intercalate (taken.map Chunk.content) ∧
    corpus.FollowsContext question options outside context calls later

/-- The response to a question, and the calls that it takes, as the mode, the chunk index, the chunk
records, the budget and the generator have them. -/
structure Follows : Prop where
  unsupported : options.mode ≠ .naive →
    corpus.answer question options outside = (.ok (.unsupported options.mode), outside) ∧
    corpus.answerCalls question options outside = []
  noContext : (corpus.answer question options outside).1 = .ok .noContext ↔
    options.mode = .naive ∧ ∀ index, corpus.chunkIndex = some index →
      ∃ found, (index.query question options.matchLimit outside).1 = .ok found ∧
        corpus.retrieved found = []
  unindexed : options.mode = .naive → corpus.chunkIndex = none →
    corpus.answerCalls question options outside = []
  refused : ∀ index failure later, options.mode = .naive → corpus.chunkIndex = some index →
    index.query question options.matchLimit outside = (.error failure, later) →
    corpus.answer question options outside = (.error failure, later) ∧
    corpus.answerCalls question options outside = index.queryCalls question
  matched : ∀ index found later, options.mode = .naive → corpus.chunkIndex = some index →
    index.query question options.matchLimit outside = (.ok found, later) →
    corpus.FollowsMatches question options outside found (index.queryCalls question) later

end Follows

section

variable {corpus : Corpus σ} {index : Index σ} {question : String} {options : QueryOptions}
  {outside later : σ} {found : List Match}

theorem followsContext (mode : options.mode = .naive) (indexed : corpus.chunkIndex = some index)
    (matched : index.query question options.matchLimit outside = (.ok found, later))
    (given : corpus.retrieved found ≠ []) :
    corpus.FollowsContext question options outside
      (assembleContext options.contextBudget (corpus.retrieved found)) (index.queryCalls question)
      later := by
  refine ⟨answer_of_context_wanted mode indexed matched given, ?_⟩
  intro generator reply last asking present replied
  obtain ⟨response, calls⟩ :=
    answer_of_generator mode indexed matched given asking present rfl replied
  constructor
  case calls => exact calls
  case failed =>
    rintro failure rfl
    exact response
  case nothing =>
    rintro rfl
    exact response
  case said =>
    rintro text spoken rfl
    rw [response, Except.map, responseOf, if_neg spoken]

theorem followsMatches (mode : options.mode = .naive) (indexed : corpus.chunkIndex = some index)
    (matched : index.query question options.matchLimit outside = (.ok found, later)) :
    corpus.FollowsMatches question options outside found (index.queryCalls question) later := by
  constructor
  case nothing =>
    intro none
    rw [answerCalls_of_query_ok mode indexed matched, if_pos none, List.append_nil]
  case something =>
    intro given
    exact ⟨_, _, longestWithin_affordable _ _, assembleContext_eq _ _,
      followsContext mode indexed matched given⟩

end

/-- Whatever the corpus and the options, a question is answered as they have it, with these calls
and no others. -/
theorem answer_follows (corpus : Corpus σ) (question : String) (options : QueryOptions)
    (outside : σ) : corpus.Follows question options outside where
  unsupported := by
    intro mode
    refine ⟨answer_of_unsupported mode, ?_⟩
    rw [answerCalls, answer_of_unsupported mode]
  noContext := answer_noContext_iff corpus question options outside
  unindexed := by
    intro mode unindexed
    rw [answerCalls, recorded_answer_of_unindexed mode unindexed]
  refused := by
    intro index failure later mode indexed asked
    refine ⟨answer_of_query_error mode indexed asked, ?_⟩
    rw [answerCalls, recorded_answer_of_query_error mode indexed asked]
    rfl
  matched := fun _ _ _ mode indexed asked => followsMatches mode indexed asked

end Corpus

end Retrieval
