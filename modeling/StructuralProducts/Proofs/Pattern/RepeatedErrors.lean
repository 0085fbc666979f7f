import StructuralProducts.Proofs.Diagnostic.Histories
import StructuralProducts.Proofs.Pattern.ErrorLimit

namespace StructuralProducts

/-!
# Repeated errors

A queue that drops repetitions does not quite ignore them.  It tests its limit first,
so a repetition that comes when the limit has just been reached is taken for an error
too many and calls for the marker.  Before the limit is reached, and once the marker
stands there, a repetition changes nothing.

For a unit this means that the marker says less than it seems to: it is reported as
soon as anything at all is raised after as many distinct errors as the limit allows.
A unit with exactly that many is reported to have too many errors if the last one it
raises is a repetition.
-/

namespace PatternUnit

variable {registry : Registry} {written : PatternUnit} {maxDepth? : Option Nat}

/-- The marker is reported exactly when something is raised, new or not, after as many
distinct diagnostics as a positive limit allows. -/
theorem marker_reported_iff {session : SessionId} {limit : Nat} {failure : LoweringFailure}
    (fails : written.compile session registry ⟨maxDepth?, limit⟩ = .error failure) :
    (Exists fun marker => marker ∈ failure.diagnostics ∧ marker.isMarker = true) ↔
      0 < limit ∧ Exists fun earlier => Exists fun last =>
        written.allRaised registry maxDepth? = earlier ++ [last] ∧
        limit ≤ earlier.eraseDups.length := by
  rw [← DiagnosticQueue.marked_addAll_iff]
  constructor
  · rintro ⟨marker, member, isMarker⟩
    rcases (mem_reported_iff fails marker).mp member with ordinary | ⟨marked, _⟩
    · have complaint :=
        complaint_of_mem_distinctRaised (DiagnosticQueue.mem_of_mem_allowed ordinary)
      exact absurd (eq_of_beq isMarker) complaint.code_ne_tooManyErrors
    · exact marked
  · intro marked
    exact ⟨.tooManyErrors limit, (mem_reported_iff fails _).mpr (.inr ⟨marked, rfl⟩), rfl⟩

end PatternUnit

/-- A queue that drops repetitions never counts one.  It stays as it is, unless it has
just reached its limit; then it takes the marker. -/
theorem QueueLedger.Reaches.add_known {limit : Nat} {queue : DiagnosticQueue}
    (reaches : Reaches ⟨limit, true⟩ queue) {diagnostic : Diagnostic}
    (known : diagnostic ∈ queue.entries) :
    queue.add diagnostic = (false,
      if 0 < limit ∧ queue.count = limit ∧ queue.marked = false then queue.withMarker
      else queue) := by
  rcases reaches with ⟨calls, rfl⟩
  have balanced := balanced_run ⟨limit, true⟩ calls
  generalize run ⟨limit, true⟩ calls = ledger at known balanced ⊢
  have drops : ledger.queue.config.dropDuplicates = true := by rw [balanced.2]
  have within := balanced.1.within
  rw [balanced.2] at within
  have full_iff : ledger.queue.isFull = true ↔ 0 < limit ∧ ledger.queue.count = limit := by
    rw [DiagnosticQueue.isFull_iff, balanced.2]
    apply and_congr_right
    intro positive
    exact ⟨Nat.le_antisymm (within positive), fun same => Nat.le_of_eq same.symm⟩
  rw [DiagnosticQueue.add_of_mem_entries drops known]
  simp only [full_iff, and_assoc]

/-- What a repetition does under a given limit.  Added to a queue that drops
repetitions it is never counted, and it changes the queue exactly when the limit has
just been reached, which it marks.  A unit reports the marker exactly when anything is
raised after as many distinct errors as the limit allows. -/
theorem DiagnosticQueue.repetition_neutral_iff (limit : Nat) :
    (forall queue diagnostic, QueueLedger.Reaches ⟨limit, true⟩ queue ->
      diagnostic ∈ queue.entries ->
        (queue.add diagnostic).1 = false ∧
        ((queue.add diagnostic).2 = queue ↔
          ¬ (0 < limit ∧ queue.count = limit ∧ queue.marked = false)) ∧
        (0 < limit -> queue.count = limit -> queue.marked = false ->
          (queue.add diagnostic).2 = queue.withMarker)) ∧
    forall (written : PatternUnit) session registry maxDepth? failure,
      written.compile session registry ⟨maxDepth?, limit⟩ = .error failure ->
        ((Exists fun marker => marker ∈ failure.diagnostics ∧ marker.isMarker = true) ↔
          0 < limit ∧ Exists fun earlier => Exists fun last =>
            written.allRaised registry maxDepth? = earlier ++ [last] ∧
            limit ≤ earlier.eraseDups.length) := by
  refine ⟨?_, fun _ _ _ _ _ fails => PatternUnit.marker_reported_iff fails⟩
  intro queue diagnostic reaches known
  rw [reaches.add_known known]
  refine ⟨rfl, ?_, ?_⟩
  · split
    · next reached => exact iff_of_false queue.withMarker_ne (not_not_intro reached)
    · next elsewhere => exact iff_of_true rfl elsewhere
  · intro positive count unmarked
    rw [if_pos ⟨positive, count, unmarked⟩]

namespace Sample

/-- An error at a position. -/
def unknownAt (start : UInt32) : Diagnostic := .unknownType ⟨start, start + 1⟩ "Nope"

/-- A queue with a limit of two that two errors have just filled. -/
def filledQueue : DiagnosticQueue :=
  (QueueLedger.run ⟨2, true⟩ [.add (unknownAt 9), .emit (unknownAt 4)]).queue

/-- Two different errors, the first of them raised once more at the end. -/
def repeatingUnit : PatternUnit where
  name := "repeating"
  exports := []
  sites :=
    [{ kind := .matchArms
       scrutinee? := none
       patterns := [misnamed xLabel 9, misnamed yLabel 4, misnamed xLabel 9]
       span := Span.synthetic }]

/-- The third error comes after two distinct ones and is one of them. -/
theorem exists_repetition_repeatingUnit :
    (repeatingUnit.distinctRaised registry none).length = 2 ∧
      Exists fun earlier => Exists fun last =>
        repeatingUnit.allRaised registry none = earlier ++ [last] ∧
        2 ≤ earlier.eraseDups.length := by
  have count : (repeatingUnit.allRaised registry none).length = 3 := by decide +kernel
  have nonempty : repeatingUnit.allRaised registry none ≠ [] :=
    List.length_pos_iff.mp (count ▸ Nat.succ_pos 2)
  exact ⟨by decide +kernel, _, _, (List.dropLast_concat_getLast nonempty).symm,
    by decide +kernel⟩

theorem exists_failure_repeatingUnit : Exists fun failure =>
    repeatingUnit.compile ⟨0⟩ registry ⟨none, 2⟩ = .error failure := by
  rcases exists_repetition_repeatingUnit.2 with ⟨earlier, last, raised, _⟩
  have member : last ∈ repeatingUnit.allRaised registry none :=
    raised ▸ List.mem_append_right _ List.mem_cons_self
  exact PatternUnit.exists_failure_of_mem member ⟨0⟩ 2

end Sample

/-- The filled queue takes the marker for a repetition, and the unit reports it although
no more distinct errors were raised than the limit allows. -/
theorem DiagnosticQueue.repetition_neutral_iff_two :
    QueueLedger.Reaches ⟨2, true⟩ Sample.filledQueue ∧
    Sample.unknownAt 9 ∈ Sample.filledQueue.entries ∧
    (Sample.filledQueue.add (Sample.unknownAt 9)).2 = Sample.filledQueue.withMarker ∧
    Exists fun failure =>
      Sample.repeatingUnit.compile ⟨0⟩ Sample.registry ⟨none, 2⟩ = .error failure ∧
      Exists fun marker => marker ∈ failure.diagnostics ∧ marker.isMarker = true := by
  have reaches : QueueLedger.Reaches ⟨2, true⟩ Sample.filledQueue := ⟨_, rfl⟩
  have known : Sample.unknownAt 9 ∈ Sample.filledQueue.entries := by decide
  have exact := repetition_neutral_iff 2
  rcases Sample.exists_failure_repeatingUnit with ⟨failure, fails⟩
  have positive : 0 < 2 := by decide
  have count : Sample.filledQueue.count = 2 := by decide
  have unmarked : Sample.filledQueue.marked = false := by decide
  exact ⟨reaches, known, (exact.1 _ _ reaches known).2.2 positive count unmarked, failure, fails,
    (exact.2 _ _ _ _ _ fails).mpr ⟨positive, Sample.exists_repetition_repeatingUnit.2⟩⟩

/-- A repetition changes a queue that has just reached its limit, and a unit with as many
distinct errors as the limit allows reports the marker. -/
theorem DiagnosticQueue.repetition_not_neutral :
    (QueueLedger.Reaches ⟨2, true⟩ Sample.filledQueue ∧
      Sample.unknownAt 9 ∈ Sample.filledQueue.entries ∧
      (Sample.filledQueue.add (Sample.unknownAt 9)).2 ≠ Sample.filledQueue) ∧
    Exists fun failure =>
      Sample.repeatingUnit.compile ⟨0⟩ Sample.registry ⟨none, 2⟩ = .error failure ∧
      (Sample.repeatingUnit.distinctRaised Sample.registry none).length ≤ 2 ∧
      Exists fun marker => marker ∈ failure.diagnostics ∧ marker.isMarker = true := by
  refine ⟨⟨⟨_, rfl⟩, by decide, by decide⟩, ?_⟩
  rcases Sample.exists_failure_repeatingUnit with ⟨failure, fails⟩
  have repetition := Sample.exists_repetition_repeatingUnit
  exact ⟨failure, fails, Nat.le_of_eq repetition.1,
    (PatternUnit.marker_reported_iff fails).mpr ⟨by decide, repetition.2⟩⟩

end StructuralProducts
