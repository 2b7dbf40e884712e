/-
# The evidence keys of one dispatch

`workers/executor.py`: the f-strings under which `QueuedTaskWorker` appends its
rows.  A key is the dispatch, and behind it what the row is about; numbers are
written with four digits at least.  Two rows that are about different things have
different keys (`WorkerKey.text_injective`), whatever the numbers are.
-/

import DevFlow.Library.Lines
import DevFlow.Workers.Slices

namespace DevFlow

theorem toList_pad4 (n : ℕ) :
    (pad4 n).toList = List.replicate (4 - (toString n).length) '0' ++ Nat.toDigits 10 n := by
  simp [pad4]

/-- Leading zeros do not change a number. -/
theorem pad4_injective : Function.Injective pad4 := by
  intro m n h
  have hdigits := congrArg (fun text => Nat.ofDigitChars 10 (String.toList text) 0) h
  simpa [toList_pad4, Nat.ofDigitChars_append] using hdigits

theorem not_mem_pad4 (n : ℕ) : ':' ∉ (pad4 n).toList := by
  rw [toList_pad4, List.mem_append, not_or]
  refine ⟨fun h => absurd (List.eq_of_mem_replicate h) (by decide), fun h => ?_⟩
  exact absurd (Nat.isDigit_of_mem_toDigits (by decide) (by decide) h) (by decide)

/-- What a row about a run result is about. -/
inductive ResultKey
  | state (sequence : ℕ)
  | developer
  | verification (index : ℕ)
  | review (index : ℕ)
  | repair (attempt : ℕ)
  | failure (index : ℕ)
  | workflow
deriving DecidableEq, Repr

/-- What a row of a worker is about; `slice` is `slice_index` where the key has it. -/
inductive WorkerKey
  | received
  | completed
  | result (slice : Option ℕ) (key : ResultKey)
  | checkpoint (slice : Option ℕ)
  | execution
  | postExecutionFailure
deriving DecidableEq, Repr

/-- The keys of `_persist_runtime_result` behind their prefix. -/
def ResultKey.text (keyPrefix : String) : ResultKey → String
  | .state sequence => keyPrefix ++ ":state:" ++ pad4 sequence
  | .developer => keyPrefix ++ ":developer"
  | .verification index => keyPrefix ++ ":verification:" ++ pad4 index
  | .review index => keyPrefix ++ ":review:" ++ pad4 index
  | .repair attempt => keyPrefix ++ ":repair:" ++ pad4 attempt
  | .failure index => keyPrefix ++ ":failure:" ++ pad4 index
  | .workflow => keyPrefix ++ ":workflow"

/-- The evidence key. -/
def WorkerKey.text (dispatchId : UUID) : WorkerKey → String
  | .received => "dispatch:" ++ dispatchId.str ++ ":received"
  | .completed => "dispatch:" ++ dispatchId.str ++ ":completed"
  | .result none key => key.text ("dispatch:" ++ dispatchId.str)
  | .result (some i) key => key.text ("dispatch:" ++ dispatchId.str ++ ":slice:" ++ pad4 i)
  | .checkpoint none => "dispatch:" ++ dispatchId.str ++ ":checkpoint"
  | .checkpoint (some i) => "dispatch:" ++ dispatchId.str ++ ":checkpoint:slice:" ++ pad4 i
  | .execution => "dispatch:" ++ dispatchId.str ++ ":execution"
  | .postExecutionFailure =>
    "dispatch:" ++ dispatchId.str ++ ":post-execution-finalization-failure"

/-- The kind of the row. -/
def WorkerKey.kind : WorkerKey → EvidenceKind
  | .received | .completed => .dispatchEvent
  | .result _ (.state _) => .stateTransition
  | .result _ .developer => .developerRun
  | .result _ (.verification _) => .verificationResult
  | .result _ (.review _) => .reviewDecision
  | .result _ (.repair _) => .repairRun
  | .result _ (.failure _) => .failureReport
  | .result _ .workflow => .workflowExecution
  | .checkpoint _ => .taskCheckpoint
  | .execution => .workerExecution
  | .postExecutionFailure => .failureReport

theorem WorkerKey.kind_eq_workerExecution_iff {key : WorkerKey} :
    key.kind = .workerExecution ↔ key = .execution := by
  rcases key with - | - | ⟨-, - | - | - | - | - | - | -⟩ | - | - | - <;> simp [kind]

/-! ### Keys about different things -/

/-- The part of a key behind the dispatch and the slice. -/
def ResultKey.segments : ResultKey → List String
  | .state sequence => ["state", pad4 sequence]
  | .developer => ["developer"]
  | .verification index => ["verification", pad4 index]
  | .review index => ["review", pad4 index]
  | .repair attempt => ["repair", pad4 attempt]
  | .failure index => ["failure", pad4 index]
  | .workflow => ["workflow"]

/-- The part of a key behind the dispatch. -/
def WorkerKey.segments : WorkerKey → List String
  | .received => ["received"]
  | .completed => ["completed"]
  | .result none key => key.segments
  | .result (some i) key => "slice" :: pad4 i :: key.segments
  | .checkpoint none => ["checkpoint"]
  | .checkpoint (some i) => ["checkpoint", "slice", pad4 i]
  | .execution => ["execution"]
  | .postExecutionFailure => ["post-execution-finalization-failure"]

theorem ResultKey.toList_text (keyPrefix : String) (key : ResultKey) :
    (key.text keyPrefix).toList =
      keyPrefix.toList ++ ':' :: [':'].intercalate (key.segments.map String.toList) := by
  cases key <;> simp [text, segments, List.intercalate]

/-- **A key is its segments**, joined behind the dispatch. -/
theorem WorkerKey.toList_text (dispatchId : UUID) (key : WorkerKey) :
    (key.text dispatchId).toList = ("dispatch:" ++ dispatchId.str).toList ++
      ':' :: [':'].intercalate (key.segments.map String.toList) := by
  rcases key with - | - | ⟨- | i, key⟩ | ⟨- | i⟩ | - | -
  case result.none => exact key.toList_text _
  case result.some =>
    have hsegments : key.segments.map String.toList ≠ [] := by cases key <;> simp [ResultKey.segments]
    obtain ⟨part, parts, hparts⟩ := List.exists_cons_of_ne_nil hsegments
    rw [text, key.toList_text, segments, List.map_cons, List.map_cons, hparts,
      List.intercalate_cons_cons, List.intercalate_cons_cons]
    simp
  all_goals simp [text, segments, List.intercalate]

theorem ResultKey.head_mem_segments (key : ResultKey) (word : String) (rest : List String)
    (h : key.segments = word :: rest) :
    word ∈ ["state", "developer", "verification", "review", "repair", "failure", "workflow"] := by
  cases key <;> obtain ⟨rfl, -⟩ := List.cons.inj h <;> simp

theorem ResultKey.segments_injective : Function.Injective segments := by
  intro key key' h
  cases key <;> cases key' <;> simp [segments, pad4_injective.eq_iff] at h ⊢ <;> exact h

/-- The first word of a key of a result is that of no other key. -/
theorem ResultKey.segments_ne {key : ResultKey} {word : String} {rest : List String}
    (hword : word ∉
      ["state", "developer", "verification", "review", "repair", "failure", "workflow"]) :
    key.segments ≠ word :: rest :=
  fun h => hword (key.head_mem_segments word rest h)

theorem WorkerKey.segments_injective : Function.Injective segments := by
  intro key key' h
  rcases key with - | - | ⟨- | i, key⟩ | ⟨- | i⟩ | - | - <;>
    rcases key' with - | - | ⟨- | i', key'⟩ | ⟨- | i'⟩ | - | -
  case result.none.result.none => rw [ResultKey.segments_injective h]
  case result.some.result.some =>
    obtain ⟨-, htail⟩ := List.cons.inj h
    obtain ⟨hpad, hkey⟩ := List.cons.inj htail
    rw [pad4_injective hpad, ResultKey.segments_injective hkey]
  case checkpoint.some.checkpoint.some =>
    rw [pad4_injective (List.singleton_inj.1 (List.tail_eq_of_cons_eq (List.tail_eq_of_cons_eq h)))]
  -- the first two words of two other keys are not the same
  all_goals first
    | rfl
    | exact absurd h (ResultKey.segments_ne (by simp))
    | exact absurd h.symm (ResultKey.segments_ne (by simp))
    | exact absurd h (by simp [segments])

theorem ResultKey.not_mem_segments (key : ResultKey) : ∀ part ∈ key.segments, ':' ∉ part.toList := by
  cases key <;> simp [segments, not_mem_pad4]

theorem WorkerKey.not_mem_segments (key : WorkerKey) : ∀ part ∈ key.segments, ':' ∉ part.toList := by
  rcases key with - | - | ⟨- | i, key⟩ | ⟨- | i⟩ | - | -
  case result.none => exact key.not_mem_segments
  case result.some =>
    refine List.forall_mem_cons.2 ⟨by simp, List.forall_mem_cons.2 ⟨not_mem_pad4 i, ?_⟩⟩
    exact key.not_mem_segments
  all_goals simp [segments, not_mem_pad4]

theorem WorkerKey.segments_ne_nil (key : WorkerKey) : key.segments ≠ [] := by
  rcases key with - | - | ⟨- | i, - | - | - | - | - | - | -⟩ | ⟨- | i⟩ | - | - <;>
    simp [segments, ResultKey.segments]

/-- **Rows about different things have different keys.** -/
theorem WorkerKey.text_injective (dispatchId : UUID) : Function.Injective (text dispatchId) := by
  intro key key' h
  have htext := congrArg String.toList h
  rw [key.toList_text, key'.toList_text] at htext
  obtain ⟨-, hjoined⟩ := List.cons.inj (List.append_cancel_left htext)
  have hparts := Lines.intercalate_inj (by simpa using key.segments_ne_nil)
    (by simpa using key'.segments_ne_nil) (by simpa using key.not_mem_segments)
    (by simpa using key'.not_mem_segments) hjoined
  exact segments_injective (List.map_injective_iff.2 (fun _ _ => String.toList_injective) hparts)

/-- The key of the terminal evidence. -/
theorem WorkerKey.text_execution (dispatchId : UUID) :
    text dispatchId .execution = workerEvidenceKey (dispatchId, none) := by
  simp [text, workerEvidenceKey, String.append_assoc]

end DevFlow
