import Retrieval.Proofs.Chunk.Table
import Retrieval.Proofs.Corpus.Coverage
import Retrieval.Proofs.Corpus.FailedInsert
import Retrieval.Proofs.Corpus.IndexFile
import Retrieval.Proofs.Index.Loaded
import Retrieval.Proofs.Index.Refusal
import Retrieval.Proofs.Vocabulary

/-!
# What failures blame

A corpus is not started if its windows do not move on, its directory cannot be made
or a snapshot cannot be taken over (`Unstarted`), and only the first of these is for
the settings to answer.  Where the windows move on, and neither the tokenizer nor
the embedder blames the settings, no insertion does, and that stays so in every run
(`Blameless.performAll`).
-/

namespace Retrieval

/-- The files are to blame, or what they hold. -/
inductive Failure.BlamesFiles : Failure → Prop where
  | io : BlamesFiles .io
  | serialization : BlamesFiles .serialization
  | dimensionMismatch (expected actual : Nat) : BlamesFiles (.dimensionMismatch expected actual)

/-- Whatever it fails on, the embedder does not blame the settings. -/
def Embedder.BlamesNoSettings {σ : Type} (embedder : Embedder σ) : Prop :=
  ∀ texts outside cause, (embedder.embed texts outside).1 ≠ .error (.configuration cause)

theorem Embedder.blamesNoSettings_hashed (σ : Type) (dimension tokenLimit : Nat) :
    (Embedder.hashed σ dimension tokenLimit).BlamesNoSettings := nofun

namespace Index

variable {σ : Type} {index : Index σ}

theorem Unloaded.blamesFiles {files : FileStore} {failure : Failure}
    (unloaded : index.Unloaded files failure) : failure.BlamesFiles := by
  cases unloaded with
  | unread => exact .io
  | illegible => exact .serialization
  | clashing => exact .dimensionMismatch _ _

theorem upsert_ne_configuration (embedder : index.embedder.BlamesNoSettings)
    (batch : Table String Properties) (host : Host σ) (cause : Misconfiguration) :
    (index.upsert batch host).1 ≠ .error (.configuration cause) := by
  intro failed
  rcases refuses_or_unsaved (index.upserted batch host) failed with refused | ⟨_, -, -, -, unsaved⟩
  · cases refused with
    | failed _ answered => exact embedder _ _ cause answered
  · cases Corpus.save_error unsaved

theorem embedder_upsert (batch : Table String Properties) (host : Host σ) :
    (index.upsert batch host).2.1.embedder = index.embedder := by
  rcases index.upsert_cases batch host with same | ⟨reply, -, accepted⟩
  · rw [same]
  · exact embedder_of_accept accepted

end Index

namespace Corpus

variable {σ : Type}

/-! ## Starts -/

/-- Why a corpus is not started, with the files after that. -/
inductive Unstarted (options : CorpusOptions) (embedder : Option (Embedder σ))
    (files : FileStore) : Failure → FileStore → Prop where
  | stuck (larger : options.chunkSize ≤ options.chunkOverlap) :
      Unstarted options embedder files
        (.configuration (.stride options.chunkSize options.chunkOverlap)) files
  | unmade {made : FileStore}
      (refused : files.makeDirectories options.workingDirectory = (false, made)) :
      Unstarted options embedder files .io made
  | unloaded {made : FileStore} {provider : Embedder σ} {indexName : String} {failure : Failure}
      (directories : files.makeDirectories options.workingDirectory = (true, made))
      (given : embedder = some provider) (listed : indexName ∈ indexNames)
      (present : made.contains (indexOptions options indexName).file = true)
      (unloaded : (Index.fresh indexName (indexOptions options indexName) provider).Unloaded made
        failure) :
      Unstarted options embedder files failure made

section Start

variable {options : CorpusOptions} {embedder : Option (Embedder σ)} {files made : FileStore}
  {failure : Failure}

theorem startIndex_error {indexName : String} {isWanted : Bool}
    (failed : startIndex options embedder files indexName isWanted = .error failure) :
    ∃ provider, embedder = some provider ∧
      Index.start indexName (indexOptions options indexName) provider files = .error failure := by
  unfold startIndex at failed
  split at failed
  · cases failed
  · next provider =>
    split at failed
    · exact ⟨provider, rfl, map_error_iff.mp failed⟩
    · cases failed

theorem opened_error {tokenizer : Tokenizer}
    (failed : opened options tokenizer embedder files = .error failure) :
    ∃ indexName ∈ indexNames, ∃ provider, embedder = some provider ∧
      Index.start indexName (indexOptions options indexName) provider files = .error failure := by
  unfold opened at failed
  rcases bind_error_iff.mp failed with chunks | ⟨chunkIndex, -, failed⟩
  · exact ⟨chunkIndexName, chunkIndexName_mem, startIndex_error chunks⟩
  · rcases bind_error_iff.mp failed with entities | ⟨entityIndex, -, failed⟩
    · exact ⟨entityIndexName, entityIndexName_mem, startIndex_error entities⟩
    · cases failed

theorem unstarted_of_start {tokenizer : Tokenizer}
    (failed : Corpus.start options tokenizer embedder files = (.error failure, made)) :
    Unstarted options embedder files failure made := by
  rcases Nat.lt_or_ge options.chunkOverlap options.chunkSize with smaller | larger
  · have measured : Window.stride options.chunkSize options.chunkOverlap =
        .ok (options.chunkSize - options.chunkOverlap) := if_pos smaller
    unfold Corpus.start at failed
    rw [measured] at failed
    cases directories : files.makeDirectories options.workingDirectory with
    | mk done later =>
        rw [directories] at failed
        cases done with
        | false =>
            cases failed
            exact .unmade directories
        | true =>
            obtain ⟨fails, rfl⟩ := Prod.mk.inj failed
            obtain ⟨indexName, listed, provider, given, fails⟩ := opened_error fails
            obtain ⟨-, present, unloaded⟩ := Index.start_error_iff.mp fails
            exact .unloaded directories given listed present unloaded
  · have stuck : Window.stride options.chunkSize options.chunkOverlap =
        .error (.configuration (.stride options.chunkSize options.chunkOverlap)) :=
      if_neg (Nat.not_lt.mpr larger)
    unfold Corpus.start at failed
    rw [stuck] at failed
    cases failed
    exact .stuck larger

theorem Unstarted.blamesFiles (unstarted : Unstarted options embedder files failure made)
    (smaller : options.chunkOverlap < options.chunkSize) : failure.BlamesFiles := by
  cases unstarted with
  | stuck larger => exact absurd smaller (Nat.not_lt.mpr larger)
  | unmade => exact .io
  | unloaded _ _ _ _ unloaded => exact unloaded.blamesFiles

end Start

/-! ## Insertions -/

/-- No insertion into the corpus can blame the settings. -/
structure Blameless (corpus : Corpus σ) : Prop where
  advances : corpus.options.chunkOverlap < corpus.options.chunkSize
  tokenizer : corpus.tokenizer.BlamesNoSettings
  embedder : ∀ index, corpus.chunkIndex = some index → index.embedder.BlamesNoSettings

section Blameless

variable {corpus : Corpus σ}

theorem Blameless.cut_ne_configuration (blameless : corpus.Blameless) (texts : List String)
    (cause : Misconfiguration) : corpus.cut texts ≠ .error (.configuration cause) := by
  intro failed
  obtain ⟨-, document, -, -, -, -, failed⟩ :=
    (Chunk.tableOf_error_of_lt blameless.advances).mp failed
  exact blameless.tokenizer _ _ cause failed

theorem Blameless.insert_ne_configuration (blameless : corpus.Blameless) (texts : List String)
    (host : Host σ) (cause : Misconfiguration) :
    (corpus.insert texts host).1 ≠ .error (.configuration cause) := by
  intro failed
  have ending := corpus.inserted texts host
  rw [failed] at ending
  generalize (corpus.insert texts host).2.1 = after at ending
  cases ending with
  | uncut _ refusal => exact blameless.cut_ne_configuration texts cause refusal
  | unindexed _ _ refusal =>
      cases present : corpus.chunkIndex with
      | none =>
          rw [indexChunks_of_none present] at refusal
          cases refusal
      | some index =>
          rw [indexChunks_of_some present] at refusal
          exact Index.upsert_ne_configuration (blameless.embedder index present) _ host cause
            (Prod.mk.inj refusal).1

/-! ## Runs -/

/-- A tokenizer that the operation brings in does not blame the settings. -/
def Operation.BringsNoBlame : Operation σ → Prop
  | .setTokenizer tokenizer => tokenizer.BlamesNoSettings
  | _ => True

theorem Blameless.perform (blameless : corpus.Blameless) {operation : Operation σ}
    (brings : operation.BringsNoBlame) (host : Host σ) :
    Blameless (operation.perform corpus host).1 := by
  cases operation with
  | insert texts =>
      obtain ⟨sameTokenizer, sameOptions, -⟩ := corpus.insert_cases texts host
      refine ⟨sameOptions ▸ blameless.advances, sameTokenizer ▸ blameless.tokenizer, ?_⟩
      intro grown indexed
      rcases corpus.chunkIndex_insert texts host with same | ⟨batch, upserted⟩
      · exact blameless.embedder grown (same.symm.trans indexed)
      · obtain ⟨index, present, rfl⟩ := Option.map_eq_some_iff.mp (upserted.symm.trans indexed)
        rw [Index.embedder_upsert]
        exact blameless.embedder index present
  | answer => exact blameless
  | save => exact blameless
  | setTokenizer tokenizer => exact ⟨blameless.advances, brings, blameless.embedder⟩
  | setGenerator => exact ⟨blameless.advances, blameless.tokenizer, blameless.embedder⟩
  | setWindows chunkSize chunkOverlap =>
      rcases corpus.perform_setWindows chunkSize chunkOverlap host with same | ⟨smaller, changed⟩
      · rw [same]
        exact blameless
      · rw [changed]
        exact ⟨smaller, blameless.tokenizer, blameless.embedder⟩

/-- The corpus after some operations, each of which finds the host in some state. -/
def performAll (corpus : Corpus σ) (run : List (Operation σ × Host σ)) : Corpus σ :=
  run.foldl (fun corpus step => (step.1.perform corpus step.2).1) corpus

theorem Blameless.performAll (blameless : corpus.Blameless) {run : List (Operation σ × Host σ)}
    (brings : ∀ step ∈ run, step.1.BringsNoBlame) : (corpus.performAll run).Blameless := by
  induction run generalizing corpus with
  | nil => exact blameless
  | cons step rest ih =>
      obtain ⟨first, others⟩ := List.forall_mem_cons.mp brings
      exact ih (blameless.perform first step.2) others

end Blameless

end Corpus

end Retrieval
