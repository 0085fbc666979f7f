import Mathlib.Data.List.Nodup
import StructuralProducts.Proofs.Diagnostic.Collecting

namespace StructuralProducts

/-!
# Histories of a queue

A queue is used through three calls: a diagnostic is added with or without asking
for evidence, and everything is flushed.  A ledger is a queue together with the
diagnostics that it counted since it was last flushed.  The ledger is kept from the
answers of the calls alone, so it says what the queue should hold.

After any history, under any configuration, the queue holds the counted diagnostics
in order, and after them at most the marker that it puts there itself.  This is why
evidence is sound although it is handed out for diagnostics that are filtered: a
diagnostic is filtered only by a queue that already counted another one.
-/

/-- A call on a queue. -/
inductive QueueCall where
  | add (diagnostic : Diagnostic)
  | emit (diagnostic : Diagnostic)
  | flush
  deriving DecidableEq

/-- A queue with the diagnostics that it counted since the last flush, in order. -/
structure QueueLedger where
  queue : DiagnosticQueue
  counted : List Diagnostic
  deriving DecidableEq

namespace QueueCall

/-- The queue after a call. -/
def perform (call : QueueCall) (queue : DiagnosticQueue) : DiagnosticQueue :=
  match call with
  | .add diagnostic => (queue.add diagnostic).2
  | .emit diagnostic => (queue.emit diagnostic).2
  | .flush => queue.flush.2

/-- Whether a diagnostic is counted is the answer of adding it. -/
def record (call : QueueCall) (ledger : QueueLedger) : QueueLedger where
  queue := call.perform ledger.queue
  counted :=
    match call with
    | .add diagnostic | .emit diagnostic =>
        if (ledger.queue.add diagnostic).1 then ledger.counted ++ [diagnostic] else ledger.counted
    | .flush => []

end QueueCall

namespace DiagnosticQueue

variable {queue : DiagnosticQueue} {diagnostic : Diagnostic}

/-! ## The ways in which adding can end -/

theorem reported?_isSome_iff : queue.reported?.isSome = true ↔ 0 < queue.count := by
  unfold reported?
  split
  · next counted => exact iff_of_true rfl counted
  · next none => exact iff_of_false Bool.false_ne_true none

/-- A repetition is never counted.  It changes nothing but a full queue that has no
marker yet, which takes the marker. -/
theorem add_of_mem_entries (drops : queue.config.dropDuplicates = true)
    (known : diagnostic ∈ queue.entries) :
    queue.add diagnostic =
      (false, if queue.isFull = true ∧ queue.marked = false then queue.withMarker
        else queue) := by
  by_cases full : queue.isFull = true
  · rw [add_of_isFull full]
    by_cases marked : queue.marked = true
    · rw [if_pos marked, if_neg (fun both => by simp [marked] at both)]
    · rw [if_neg marked, if_pos ⟨full, Bool.eq_false_iff.mpr marked⟩]
  · rw [add_of_not_isFull full, if_pos ⟨drops, known⟩, if_neg (fun both => full both.1)]

/-- The answer of adding tells a counted diagnostic from a filtered one. -/
theorem add_fst_iff (queue : DiagnosticQueue) (diagnostic : Diagnostic) :
    (queue.add diagnostic).1 = true ↔
      (queue.add diagnostic).2.count = queue.count + 1 ∧
      (queue.add diagnostic).2.entries = queue.entries ++ [diagnostic] := by
  have unchanged : ¬ (queue.count = queue.count + 1) := Nat.ne_of_lt (Nat.lt_succ_self _)
  by_cases full : queue.isFull = true
  · rw [add_of_isFull full]
    refine iff_of_false Bool.false_ne_true fun both => unchanged ?_
    have count := both.1
    dsimp only at count
    split at count
    · exact count
    · exact count
  · rw [add_of_not_isFull full]
    split
    · exact iff_of_false Bool.false_ne_true fun both => unchanged both.1
    · exact iff_of_true rfl ⟨rfl, rfl⟩

end DiagnosticQueue

namespace QueueLedger

/-- The ledger after some calls on an empty queue. -/
def run (config : QueueConfig) (calls : List QueueCall) : QueueLedger :=
  calls.foldl (fun ledger call => call.record ledger) ⟨.empty config, []⟩

/-- Some calls on an empty queue lead to this one. -/
def Reaches (config : QueueConfig) (queue : DiagnosticQueue) : Prop :=
  Exists fun calls => (run config calls).queue = queue

/-- The queue agrees with what was counted. -/
structure Balanced (ledger : QueueLedger) : Prop where
  /-- The queue holds what was counted, and the marker if it was put there. -/
  entries : ledger.queue.entries = ledger.counted ++
    if ledger.queue.marked = true then [.tooManyErrors ledger.queue.config.limit] else []
  count : ledger.queue.count = ledger.counted.length
  /-- Not more is counted than a positive limit allows. -/
  within : 0 < ledger.queue.config.limit -> ledger.queue.count ≤ ledger.queue.config.limit
  /-- The marker stands in full queues only. -/
  marked : ledger.queue.marked = true ->
    0 < ledger.queue.config.limit ∧ ledger.queue.count = ledger.queue.config.limit
  /-- A queue that drops repetitions counts nothing twice. -/
  distinct : ledger.queue.config.dropDuplicates = true -> ledger.counted.Nodup

theorem balanced_empty (config : QueueConfig) : Balanced ⟨.empty config, []⟩ where
  entries := rfl
  count := rfl
  within _ := Nat.zero_le _
  marked := nofun
  distinct _ := List.nodup_nil

namespace Balanced

variable {ledger : QueueLedger}

theorem mem_entries_of_mem_counted (balanced : ledger.Balanced) {diagnostic : Diagnostic}
    (member : diagnostic ∈ ledger.counted) : diagnostic ∈ ledger.queue.entries := by
  rw [balanced.entries]
  exact List.mem_append_left _ member

/-- What a queue holds is enough to know whether it counted anything: the marker
never stands alone. -/
theorem entries_ne_nil_iff (balanced : ledger.Balanced) :
    ledger.queue.entries ≠ [] ↔ 0 < ledger.queue.count := by
  constructor
  · intro nonempty
    by_cases marked : ledger.queue.marked = true
    · have full := balanced.marked marked
      exact full.2 ▸ full.1
    · have entries := balanced.entries
      rw [if_neg marked, List.append_nil] at entries
      rw [balanced.count, ← entries]
      exact List.length_pos_iff.mpr nonempty
  · intro counted
    rw [balanced.count] at counted
    rcases List.exists_mem_of_ne_nil _ (List.ne_nil_of_length_pos counted) with
      ⟨diagnostic, member⟩
    exact List.ne_nil_of_mem (balanced.mem_entries_of_mem_counted member)

/-- One more diagnostic is added. -/
theorem add (balanced : ledger.Balanced) (diagnostic : Diagnostic) :
    ((QueueCall.add diagnostic).record ledger).Balanced := by
  by_cases full : ledger.queue.isFull = true
  · have reached := DiagnosticQueue.isFull_iff.mp full
    have exact : ledger.queue.count = ledger.queue.config.limit :=
      Nat.le_antisymm (balanced.within reached.1) reached.2
    simp only [QueueCall.record, QueueCall.perform, DiagnosticQueue.add_of_isFull full]
    by_cases marked : ledger.queue.marked = true
    · simp only [if_pos marked]
      exact ⟨balanced.entries, balanced.count, balanced.within, balanced.marked,
        balanced.distinct⟩
    · simp only [if_neg marked]
      refine ⟨?_, balanced.count, balanced.within, fun _ => ⟨reached.1, exact⟩,
        balanced.distinct⟩
      have entries := balanced.entries
      rw [if_neg marked, List.append_nil] at entries
      exact congrArg (· ++ _) entries
  · have unmarked : ¬ ledger.queue.marked = true := by
      intro marked
      have reached := balanced.marked marked
      exact full (DiagnosticQueue.isFull_iff.mpr ⟨reached.1, Nat.le_of_eq reached.2.symm⟩)
    have entries := balanced.entries
    rw [if_neg unmarked, List.append_nil] at entries
    simp only [QueueCall.record, QueueCall.perform, DiagnosticQueue.add_of_not_isFull full]
    by_cases repeated :
        ledger.queue.config.dropDuplicates = true ∧ diagnostic ∈ ledger.queue.entries
    · simp only [if_pos repeated]
      exact ⟨balanced.entries, balanced.count, balanced.within, balanced.marked,
        balanced.distinct⟩
    · simp only [if_neg repeated]
      refine ⟨?_, ?_, ?_, fun marked => absurd marked unmarked, ?_⟩
      · simp only [unmarked, Bool.false_eq_true, if_false, if_true, List.append_nil, entries]
      · simp only [if_true, List.length_append, List.length_singleton, balanced.count]
      · intro positive
        have room := mt DiagnosticQueue.isFull_iff.mpr full
        change ledger.queue.count + 1 ≤ ledger.queue.config.limit
        change 0 < ledger.queue.config.limit at positive
        omega
      · intro drops
        have fresh : diagnostic ∉ ledger.counted := fun member =>
          repeated ⟨drops, balanced.mem_entries_of_mem_counted member⟩
        simp only [if_true]
        exact List.nodup_append_comm.mp (List.nodup_cons.mpr ⟨fresh, balanced.distinct drops⟩)

/-- Whatever becomes of an added diagnostic, something is counted afterwards: a full
queue counted as many as its limit, and a repetition is one of an entry. -/
theorem count_add_pos (balanced : ledger.Balanced) (diagnostic : Diagnostic) :
    0 < (ledger.queue.add diagnostic).2.count := by
  by_cases full : ledger.queue.isFull = true
  · have reached := DiagnosticQueue.isFull_iff.mp full
    exact Nat.lt_of_lt_of_le (Nat.lt_of_lt_of_le reached.1 reached.2)
      (ledger.queue.count_le_of_add diagnostic)
  · rw [DiagnosticQueue.add_of_not_isFull full]
    split
    · next repeated => exact balanced.entries_ne_nil_iff.mp (List.ne_nil_of_mem repeated.2)
    · exact Nat.succ_pos _

/-- Every call keeps the balance.  Evidence is given without looking at the queue,
so asking for it changes nothing. -/
theorem record (balanced : ledger.Balanced) (call : QueueCall) :
    (call.record ledger).Balanced := by
  cases call with
  | add diagnostic => exact balanced.add diagnostic
  | emit diagnostic => exact balanced.add diagnostic
  | flush => exact balanced_empty ledger.queue.config

end Balanced

theorem config_record (call : QueueCall) (ledger : QueueLedger) :
    (call.record ledger).queue.config = ledger.queue.config := by
  cases call with
  | add diagnostic => exact ledger.queue.config_add diagnostic
  | emit diagnostic => exact ledger.queue.config_add diagnostic
  | flush => rfl

theorem run_concat (config : QueueConfig) (calls : List QueueCall) (call : QueueCall) :
    run config (calls ++ [call]) = call.record (run config calls) := by
  rw [run, List.foldl_append]
  rfl

/-- At every point of a history the ledger balances, and the configuration is the
one that the queue was made with. -/
theorem balanced_run (config : QueueConfig) (calls : List QueueCall) :
    (run config calls).Balanced ∧ (run config calls).queue.config = config := by
  induction calls using List.reverseRecOn with
  | nil => exact ⟨balanced_empty config, rfl⟩
  | append_singleton calls call inductionHypothesis =>
      rw [run_concat]
      exact ⟨inductionHypothesis.1.record call,
        (config_record call _).trans inductionHypothesis.2⟩

/-- After any calls, under any configuration: the ledger balances, an addition is
answered with yes exactly when it is counted and appended, there is evidence exactly
when the queue holds something, and both are the case after evidence was handed
out. -/
theorem run_accounts (config : QueueConfig) (calls : List QueueCall) :
    (run config calls).queue.config = config ∧ (run config calls).Balanced ∧
    (forall diagnostic, ((run config calls).queue.add diagnostic).1 = true ↔
      ((run config calls).queue.add diagnostic).2.count = (run config calls).queue.count + 1 ∧
      ((run config calls).queue.add diagnostic).2.entries =
        (run config calls).queue.entries ++ [diagnostic]) ∧
    ((run config calls).queue.reported?.isSome = true ↔
      (run config calls).queue.entries ≠ []) ∧
    forall diagnostic, (run config (calls ++ [.emit diagnostic])).queue.entries ≠ [] ∧
      (run config (calls ++ [.emit diagnostic])).queue.reported?.isSome = true := by
  have balanced := (balanced_run config calls).1
  refine ⟨(balanced_run config calls).2, balanced, (run config calls).queue.add_fst_iff, ?_, ?_⟩
  · rw [DiagnosticQueue.reported?_isSome_iff, balanced.entries_ne_nil_iff]
  · intro diagnostic
    have later := (balanced_run config (calls ++ [.emit diagnostic])).1
    rw [later.entries_ne_nil_iff, DiagnosticQueue.reported?_isSome_iff, and_self, run_concat]
    exact balanced.count_add_pos diagnostic

end QueueLedger
end StructuralProducts
