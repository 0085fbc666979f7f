import StructuralProducts.Proofs.RegisteredContracts
import StructuralProducts.Proofs.Caching.Consistency

namespace StructuralProducts

/-!
# At most one computation finishes

However the calls of a cache are interleaved, one computation at most finishes for
each identity, and its outcome is what every call for the identity returns.

A computation that is abandoned ends no other call.  It leaves the entry pending,
and those that wait and those that come later can compute in its place.  That is
why the counters are compared when no call is under way: every call has then been
counted once, and a computation that settled no entry was abandoned.
-/

/-! ## Counting terminal entries -/

def EntryState.isTerminal : EntryState -> Bool
  | .pending => false
  | .ready | .failed => true

/-- The identities whose entries are ready or failed. -/
def DescriptorCache.terminal (cache : DescriptorCache) : List TypeId :=
  cache.entries.keys.filter fun ident => (cache.state? ident).any EntryState.isTerminal

theorem DescriptorCache.mem_terminal_iff (cache : DescriptorCache) (ident : TypeId) :
    ident ∈ cache.terminal ↔
      Exists fun outcome => cache.entries.get? ident = some (.settled outcome) := by
  rw [terminal, List.mem_filter, KeyedList.mem_keys_iff, state?]
  cases cache.entries.get? ident with
  | none => exact iff_of_false (fun both => nomatch both.1) (fun settled => nomatch settled)
  | some entry =>
      cases entry with
      | pending => exact iff_of_false (fun both => nomatch both.2) (fun settled => nomatch settled)
      | settled outcome =>
          refine ⟨fun _ => ⟨outcome, rfl⟩, fun _ => ⟨rfl, ?_⟩⟩
          cases outcome <;> rfl

namespace CacheTraffic

variable {traffic : CacheTraffic}

/-- Each terminal entry was settled by one call. -/
theorem Consistent.length_terminal (consistent : traffic.Consistent) :
    traffic.cache.terminal.length = traffic.tally CallPhase.isComputed := by
  have distinct : ((traffic.calls.filter (·.phase.isComputed)).map (·.ident)).Nodup := by
    rw [List.Nodup, List.pairwise_map, List.pairwise_filter, List.pairwise_iff_getElem]
    intro first second inside insideToo less one other same
    have position := consistent.sole first second _ _ (List.getElem?_eq_getElem inside)
      (List.getElem?_eq_getElem insideToo) same (Bool.or_eq_true_iff.mpr (.inr one))
      (Bool.or_eq_true_iff.mpr (.inr other))
    exact absurd position (Nat.ne_of_lt less)
  have members : forall ident, ident ∈ traffic.cache.terminal ↔
      ident ∈ (traffic.calls.filter (·.phase.isComputed)).map (·.ident) := by
    intro ident
    rw [DescriptorCache.mem_terminal_iff, List.mem_map]
    constructor
    · rintro ⟨outcome, settled⟩
      rcases consistent.source ident outcome settled with ⟨position, found⟩
      exact ⟨_, List.mem_filter.mpr ⟨List.mem_of_getElem? found, rfl⟩, rfl⟩
    · rintro ⟨call, member, rfl⟩
      rcases List.mem_filter.mp member with ⟨present, computed⟩
      rcases List.mem_iff_getElem?.mp present with ⟨position, found⟩
      rcases CallPhase.eq_computed computed with ⟨outcome, phase⟩
      have fits := consistent.fits position call found
      rw [phase] at fits
      exact ⟨outcome, fits⟩
  have terminal : traffic.cache.terminal.Nodup := consistent.keys.filter _
  have permutation := (List.perm_ext_iff_of_nodup terminal distinct).mpr members
  rw [permutation.length_eq, List.length_map, ← List.countP_eq_length_filter]
  rfl

/-- Calls that are over are answered, computed or abandoned. -/
theorem length_of_done {calls : List CacheCall}
    (done : forall call, call ∈ calls -> call.phase.isDone = true) :
    calls.length = calls.countP (·.phase.isAnswered) + calls.countP (·.phase.isComputed) +
      calls.countP (·.phase.isAbandoned) := by
  induction calls with
  | nil => rfl
  | cons call rest inductionHypothesis =>
      have others := inductionHypothesis fun other member => done other (List.mem_cons_of_mem _ member)
      have finished := done call List.mem_cons_self
      rw [List.length_cons, List.countP_cons, List.countP_cons, List.countP_cons, others]
      cases phase : call.phase with
      | waiting | computing => rw [phase] at finished; cases finished
      | answered _ | computed _ | abandoned =>
          simp only [CallPhase.isAnswered, CallPhase.isComputed, CallPhase.isAbandoned, if_true,
            Bool.false_eq_true, if_false]
          omega

/-- When no call is under way, the counters add up. -/
theorem Consistent.balance (consistent : traffic.Consistent)
    (done : forall call, call ∈ traffic.calls -> call.phase.isDone = true) :
    traffic.cache.hits + traffic.cache.computations = traffic.calls.length ∧
      traffic.cache.computations =
        traffic.cache.terminal.length + traffic.tally CallPhase.isAbandoned := by
  have idle : traffic.tally CallPhase.isComputing = 0 := by
    refine List.countP_eq_zero.mpr fun call member computing => ?_
    have finished := done call member
    cases phase : call.phase with
    | computing => rw [phase] at finished; cases finished
    | _ => rw [phase] at computing; cases computing
  have counted := consistent.computations
  rw [idle, Nat.zero_add] at counted
  refine ⟨?_, ?_⟩
  · rw [consistent.hits, counted, length_of_done done, ← Nat.add_assoc]
    rfl
  · rw [counted, consistent.length_terminal]

/-! ## What callers can rely on -/

/-- For this identity a caller that waits can start to compute, and so can one that
comes now. -/
structure Admits (traffic : CacheTraffic) (ident : TypeId) : Prop where
  waiting : forall position : Nat, traffic.calls[position]? = some ⟨ident, .waiting⟩ ->
    Exists fun next => traffic.step (.proceed position) = some next ∧
      next.calls[position]? = some ⟨ident, .computing⟩
  entering : Exists fun next =>
    traffic.run [.enter ident, .proceed traffic.calls.length] = some next ∧
      next.calls[traffic.calls.length]? = some ⟨ident, .computing⟩

theorem proceeds_of_pending {ident : TypeId} {position : Nat}
    (waits : traffic.calls[position]? = some ⟨ident, .waiting⟩)
    (pending : traffic.cache.entries.get? ident = some .pending)
    (free : traffic.isComputing ident = false) :
    Exists fun next => traffic.step (.proceed position) = some next ∧
      next.calls[position]? = some ⟨ident, .computing⟩ := by
  have unsettled : forall outcome, traffic.cache.entries.get? ident ≠ some (.settled outcome) :=
    fun outcome settled => nomatch pending.symm.trans settled
  exact ⟨_, step_of_moves (.started waits unsettled free), getElem?_set_at waits⟩

theorem admits_of_pending {ident : TypeId}
    (pending : traffic.cache.entries.get? ident = some .pending)
    (free : traffic.isComputing ident = false) : traffic.Admits ident := by
  refine ⟨fun position waits => proceeds_of_pending waits pending free, ?_⟩
  have present : traffic.cache.entries.get? ident ≠ none :=
    fun absent => nomatch pending.symm.trans absent
  have proceeds : Exists fun next =>
      step ⟨traffic.cache.opened ident, traffic.calls ++ [⟨ident, .waiting⟩]⟩
        (.proceed traffic.calls.length) = some next ∧
      next.calls[traffic.calls.length]? = some ⟨ident, .computing⟩ :=
    proceeds_of_pending (getElem?_last traffic.calls _)
      ((DescriptorCache.get?_opened_of_ne_none present ident).trans pending)
      ((traffic.isComputing_entered _ ident ident).trans free)
  rcases proceeds with ⟨next, stepped, computing⟩
  refine ⟨next, ?_, computing⟩
  rw [run, step, Option.bind_some, run, stepped]
  rfl

/-- When a computation is abandoned, others can take its place. -/
theorem Consistent.admits_abandoned (consistent : traffic.Consistent) {index : Nat}
    {ident : TypeId} (computes : traffic.calls[index]? = some ⟨ident, .computing⟩) :
    Admits ⟨traffic.cache, traffic.calls.set index ⟨ident, .abandoned⟩⟩ ident := by
  refine admits_of_pending (consistent.fits index _ computes) ?_
  refine (isComputing_eq_false_iff _ ident).mpr fun position call found same => ?_
  rcases getElem?_set_cases found with ⟨_, rfl⟩ | ⟨apart, found⟩
  · rfl
  · refine Bool.eq_false_iff.mpr fun computing => apart ?_
    exact consistent.sole position index call _ found computes same
      (Bool.or_eq_true_iff.mpr (.inl computing)) rfl

/-- What holds of the calls of a cache and of the entries behind them. -/
structure SingleFlight (traffic : CacheTraffic) : Prop where
  finishes_once : forall (first second : Nat) ident outcome other,
    traffic.calls[first]? = some ⟨ident, .computed outcome⟩ ->
    traffic.calls[second]? = some ⟨ident, .computed other⟩ -> first = second
  agree : forall first second, first ∈ traffic.calls -> second ∈ traffic.calls ->
    first.ident = second.ident -> forall outcome other, first.phase.outcome? = some outcome ->
    second.phase.outcome? = some other -> outcome = other
  advances : forall action next, traffic.step action = some next -> forall ident,
    EntryState.Becomes (traffic.cache.state? ident) (next.cache.state? ident)
  apart : forall action next, traffic.step action = some next -> forall ident,
    traffic.identOf? action ≠ some ident ->
      next.cache.entries.get? ident = traffic.cache.entries.get? ident
  keeps : forall actions last, traffic.run actions = some last ->
    (forall ident outcome, traffic.cache.entries.get? ident = some (.settled outcome) ->
      last.cache.entries.get? ident = some (.settled outcome)) ∧
    (forall (position : Nat) call, traffic.calls[position]? = some call ->
      call.phase.isDone = true -> last.calls[position]? = some call)
  abandoned : forall (index : Nat) ident, traffic.calls[index]? = some ⟨ident, .computing⟩ ->
    Exists fun next => traffic.step (.abandon index) = some next ∧
      next.cache.state? ident = some .pending ∧ next.Admits ident
  balance : (forall call, call ∈ traffic.calls -> call.phase.isDone = true) ->
    traffic.cache.hits + traffic.cache.computations = traffic.calls.length ∧
      traffic.cache.computations =
        traffic.cache.terminal.length + traffic.tally CallPhase.isAbandoned

theorem Consistent.singleFlight (consistent : traffic.Consistent) : traffic.SingleFlight where
  finishes_once first second ident outcome other one two :=
    consistent.sole first second _ _ one two rfl rfl rfl
  agree first second member memberToo same outcome other returned returnedToo := by
    rcases List.mem_iff_getElem?.mp member with ⟨position, found⟩
    rcases List.mem_iff_getElem?.mp memberToo with ⟨positionToo, foundToo⟩
    have entry := (consistent.fits position first found).of_outcome? returned
    have entryToo := (consistent.fits positionToo second foundToo).of_outcome? returnedToo
    rw [same, entryToo] at entry
    cases entry
    rfl
  advances action next stepped ident := (consistent.becomes stepped ident).1.state
  apart action next stepped ident := (consistent.becomes stepped ident).2
  keeps actions last ran := consistent.keeps ran
  abandoned index ident computes := by
    have pending : traffic.cache.entries.get? ident = some .pending :=
      consistent.fits index _ computes
    refine ⟨_, step_of_moves (.abandoned computes), ?_, consistent.admits_abandoned computes⟩
    rw [DescriptorCache.state?, pending]
    rfl
  balance := consistent.balance

/-- However the calls of a cache take their turns, and whichever computations are
abandoned, at most one computation finishes for an identity and all who return get
its outcome. -/
theorem run_singleFlight {owner? : Option SessionId} {actions : List CallAction}
    (ran : (fresh owner?).run actions = some traffic) : traffic.SingleFlight :=
  ((consistent_fresh owner?).run ran).singleFlight

end CacheTraffic

namespace Sample

/-- Two calls for one identity, of which the first is abandoned and a third comes
late, and a call for another identity in between. -/
def contended : List CallAction :=
  [.enter ⟨xLabel⟩, .enter ⟨xLabel⟩, .proceed 0, .abandon 0, .proceed 1,
    .enter ⟨yLabel⟩, .proceed 2, .finish 2 (.error (.typeNotFound "y")),
    .finish 1 (.error (.typeNotFound "x")), .enter ⟨xLabel⟩, .proceed 3]

def contendedTraffic : CacheTraffic where
  cache :=
    { entries := ⟨[(⟨xLabel⟩, .settled (.error (.typeNotFound "x"))),
        (⟨yLabel⟩, .settled (.error (.typeNotFound "y")))]⟩
      owner? := none
      hits := 1
      computations := 3 }
  calls :=
    [⟨⟨xLabel⟩, .abandoned⟩, ⟨⟨xLabel⟩, .computed (.error (.typeNotFound "x"))⟩,
      ⟨⟨yLabel⟩, .computed (.error (.typeNotFound "y"))⟩,
      ⟨⟨xLabel⟩, .answered (.error (.typeNotFound "x"))⟩]

end Sample

theorem CacheTraffic.contended_singleFlight :
    (CacheTraffic.fresh none).run Sample.contended = some Sample.contendedTraffic ∧
      Sample.contendedTraffic.SingleFlight ∧
      Sample.contendedTraffic.cache.hits + Sample.contendedTraffic.cache.computations = 4 := by
  have ran : (CacheTraffic.fresh none).run Sample.contended = some Sample.contendedTraffic := rfl
  have flight := CacheTraffic.run_singleFlight ran
  exact ⟨ran, flight, (flight.balance (by decide)).1⟩

end StructuralProducts
