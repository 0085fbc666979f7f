import Mathlib.Data.List.Nodup
import StructuralProducts.Proofs.Caching.Calls

namespace StructuralProducts

/-!
# The invariant of interleaved calls

The phase of each call fits the entry of its identity, a settled entry was settled
by a call, of the calls for one identity at most one computes or has computed, and
the counters count calls.  Every step keeps this (`Consistent.step`), in whatever
order the calls take their steps, and so does every run.

In consistent traffic entries only ever move forward, and what a call returned
stays.
-/

namespace CallPhase

/-- The phase of a call goes with the entry of its identity. -/
def Fits : CallPhase -> Option CacheEntry -> Prop
  | .waiting, entry | .abandoned, entry => entry ≠ none
  | .computing, entry => entry = some .pending
  | .answered outcome, entry | .computed outcome, entry => entry = some (.settled outcome)

/-- The call computes or has computed. -/
def isFlight (phase : CallPhase) : Bool :=
  phase.isComputing || phase.isComputed

theorem Fits.ne_none {phase : CallPhase} {entry : Option CacheEntry} (fits : phase.Fits entry) :
    entry ≠ none := by
  cases phase with
  | waiting => exact fits
  | abandoned => exact fits
  | computing => exact fun absent => nomatch absent.symm.trans fits
  | answered outcome => exact fun absent => nomatch absent.symm.trans fits
  | computed outcome => exact fun absent => nomatch absent.symm.trans fits

/-- A call that is not in flight suits the entry also after it was settled. -/
theorem Fits.settle {phase : CallPhase} (fits : phase.Fits (some .pending))
    (other : phase.isFlight = false) (outcome : Outcome) :
    phase.Fits (some (.settled outcome)) := by
  cases phase with
  | waiting => exact nofun
  | abandoned => exact nofun
  | computing => cases other
  | answered outcome => cases fits
  | computed outcome => cases other

theorem Fits.of_outcome? {phase : CallPhase} {entry : Option CacheEntry} {outcome : Outcome}
    (fits : phase.Fits entry) (returned : phase.outcome? = some outcome) :
    entry = some (.settled outcome) := by
  cases phase with
  | answered _ | computed _ => cases returned; exact fits
  | _ => cases returned

theorem eq_computed {phase : CallPhase} (computed : phase.isComputed = true) :
    Exists fun outcome => phase = .computed outcome := by
  cases phase with
  | computed outcome => exact ⟨outcome, rfl⟩
  | _ => cases computed

end CallPhase

namespace CacheTraffic

/-! ## One call among the others -/

section Calls

variable {calls : List CacheCall} {index : Nat} {old new : CacheCall}

theorem getElem?_set_cases {position : Nat} {call : CacheCall}
    (found : (calls.set index new)[position]? = some call) :
    (position = index ∧ call = new) ∨ (position ≠ index ∧ calls[position]? = some call) := by
  by_cases same : position = index
  · subst same
    rw [List.getElem?_set_self'] at found
    rcases Option.map_eq_some_iff.mp found with ⟨_, _, equal⟩
    exact .inl ⟨rfl, equal.symm⟩
  · rw [List.getElem?_set_ne (Ne.symm same)] at found
    exact .inr ⟨same, found⟩

theorem getElem?_set_at (present : calls[index]? = some old) :
    (calls.set index new)[index]? = some new := by
  rcases List.getElem?_eq_some_iff.mp present with ⟨inside, _⟩
  exact List.getElem?_set_self inside

theorem getElem?_append_cases {position : Nat} {call : CacheCall}
    (found : (calls ++ [new])[position]? = some call) :
    calls[position]? = some call ∨ call = new := by
  by_cases inside : position < calls.length
  · exact .inl ((List.getElem?_append_left inside).symm.trans found)
  · rw [List.getElem?_append_right (Nat.le_of_not_lt inside)] at found
    exact .inr (List.mem_singleton.mp (List.mem_of_getElem? found))

end Calls

/-- The number of calls in some phases. -/
def tally (traffic : CacheTraffic) (phases : CallPhase -> Bool) : Nat :=
  traffic.calls.countP fun call => phases call.phase

section Tally

variable {traffic : CacheTraffic} {ident : TypeId} {index : Nat} {old : CallPhase}
  (phases : CallPhase -> Bool) (cache : DescriptorCache)

/-- The tally after one call has changed its phase, without subtraction. -/
theorem tally_set (present : traffic.calls[index]? = some ⟨ident, old⟩) (new : CallPhase) :
    tally ⟨cache, traffic.calls.set index ⟨ident, new⟩⟩ phases + (phases old).toNat =
      traffic.tally phases + (phases new).toNat := by
  rcases List.getElem?_eq_some_iff.mp present with ⟨inside, held⟩
  have counted : phases old = true -> 0 < traffic.tally phases := fun holds =>
    List.countP_pos_iff.mpr ⟨_, List.getElem_mem inside, held ▸ holds⟩
  rw [tally, List.countP_set inside, held, ← tally]
  cases before : phases old <;> cases after : phases new <;>
    simp only [before, forall_const, if_true, if_false, Bool.toNat_true, Bool.toNat_false,
      Bool.false_eq_true] at counted ⊢ <;> omega

theorem tally_set_same (present : traffic.calls[index]? = some ⟨ident, old⟩) (new : CallPhase)
    (same : phases new = phases old) :
    tally ⟨cache, traffic.calls.set index ⟨ident, new⟩⟩ phases = traffic.tally phases :=
  Nat.add_right_cancel (same ▸ tally_set phases cache present new)

theorem tally_set_gain (present : traffic.calls[index]? = some ⟨ident, old⟩) (new : CallPhase)
    (before : phases old = false) (after : phases new = true) :
    tally ⟨cache, traffic.calls.set index ⟨ident, new⟩⟩ phases = traffic.tally phases + 1 := by
  have counted := tally_set phases cache present new
  rw [before, after] at counted
  exact counted

theorem tally_set_loss (present : traffic.calls[index]? = some ⟨ident, old⟩) (new : CallPhase)
    (before : phases old = true) (after : phases new = false) :
    tally ⟨cache, traffic.calls.set index ⟨ident, new⟩⟩ phases + 1 = traffic.tally phases := by
  have counted := tally_set phases cache present new
  rw [before, after] at counted
  exact counted

theorem tally_entered (ident : TypeId) (waiting : phases .waiting = false) :
    tally ⟨cache, traffic.calls ++ [⟨ident, .waiting⟩]⟩ phases = traffic.tally phases := by
  rw [tally, List.countP_append, List.countP_singleton, waiting]
  rfl

end Tally

/-! ## The invariant -/

structure Consistent (traffic : CacheTraffic) : Prop where
  keys : traffic.cache.entries.keys.Nodup
  fits : forall (position : Nat) (call : CacheCall), traffic.calls[position]? = some call ->
    call.phase.Fits (traffic.cache.entries.get? call.ident)
  source : forall ident outcome, traffic.cache.entries.get? ident = some (.settled outcome) ->
    Exists fun position : Nat => traffic.calls[position]? = some ⟨ident, .computed outcome⟩
  sole : forall (first second : Nat) (one other : CacheCall),
    traffic.calls[first]? = some one -> traffic.calls[second]? = some other ->
    one.ident = other.ident -> one.phase.isFlight = true -> other.phase.isFlight = true ->
    first = second
  hits : traffic.cache.hits = traffic.tally CallPhase.isAnswered
  computations : traffic.cache.computations =
    traffic.tally CallPhase.isComputing + traffic.tally CallPhase.isComputed + traffic.tally CallPhase.isAbandoned

theorem consistent_fresh (owner? : Option SessionId) : (fresh owner?).Consistent where
  keys := List.nodup_nil
  fits _ _ found := nomatch found
  source _ _ found := nomatch found
  sole _ _ _ _ found := nomatch found
  hits := rfl
  computations := rfl

theorem isComputing_eq_false_iff (traffic : CacheTraffic) (ident : TypeId) :
    traffic.isComputing ident = false ↔ forall (position : Nat) (call : CacheCall),
      traffic.calls[position]? = some call -> call.ident = ident ->
        call.phase.isComputing = false := by
  rw [isComputing, List.any_eq_false]
  constructor
  · intro free position call found same
    have other := free call (List.mem_of_getElem? found)
    rw [same, beq_self_eq_true, Bool.and_true] at other
    exact Bool.eq_false_iff.mpr other
  · intro free call member both
    rcases List.mem_iff_getElem?.mp member with ⟨position, found⟩
    rcases Bool.and_eq_true_iff.mp both with ⟨computing, same⟩
    rw [free position call found (beq_iff_eq.mp same)] at computing
    cases computing

namespace Consistent

variable {traffic next : CacheTraffic} {ident : TypeId} {index : Nat}

/-- A call may take flight if no other call for its identity has. -/
theorem sole_set (consistent : traffic.Consistent) {phase : CallPhase}
    (alone : phase.isFlight = true -> forall (position : Nat) (call : CacheCall),
      traffic.calls[position]? = some call -> call.ident = ident ->
      call.phase.isFlight = true -> position = index)
    (first second : Nat) (one other : CacheCall)
    (foundOne : (traffic.calls.set index ⟨ident, phase⟩)[first]? = some one)
    (foundOther : (traffic.calls.set index ⟨ident, phase⟩)[second]? = some other)
    (same : one.ident = other.ident) (flight : one.phase.isFlight = true)
    (otherFlight : other.phase.isFlight = true) : first = second := by
  rcases getElem?_set_cases foundOne with ⟨atOne, rfl⟩ | ⟨_, foundOne⟩ <;>
    rcases getElem?_set_cases foundOther with ⟨atOther, rfl⟩ | ⟨_, foundOther⟩
  · exact atOne.trans atOther.symm
  · exact atOne.trans (alone flight second other foundOther same.symm otherFlight).symm
  · exact (alone otherFlight first one foundOne same flight).trans atOther.symm
  · exact consistent.sole first second one other foundOne foundOther same flight otherFlight

/-- Replacing a call that is not computed keeps what computed calls account for. -/
theorem source_set (consistent : traffic.Consistent) {old phase : CallPhase}
    (present : traffic.calls[index]? = some ⟨ident, old⟩) (unfinished : old.isComputed = false)
    (other : TypeId) (outcome : Outcome)
    (settled : traffic.cache.entries.get? other = some (.settled outcome)) :
    Exists fun position : Nat =>
      (traffic.calls.set index ⟨ident, phase⟩)[position]? = some ⟨other, .computed outcome⟩ := by
  rcases consistent.source other outcome settled with ⟨position, found⟩
  refine ⟨position, ?_⟩
  have apart : index ≠ position := by
    intro same
    rw [same, found] at present
    cases present
    cases unfinished
  rw [List.getElem?_set_ne apart]
  exact found

theorem fits_set (consistent : traffic.Consistent) {phase : CallPhase}
    (fits : phase.Fits (traffic.cache.entries.get? ident)) (position : Nat) (call : CacheCall)
    (found : (traffic.calls.set index ⟨ident, phase⟩)[position]? = some call) :
    call.phase.Fits (traffic.cache.entries.get? call.ident) := by
  rcases getElem?_set_cases found with ⟨_, rfl⟩ | ⟨_, found⟩
  · exact fits
  · exact consistent.fits position call found

/-- The entry of a call that waits is pending as long as it is not settled. -/
theorem pending_of_waiting (consistent : traffic.Consistent)
    (waits : traffic.calls[index]? = some ⟨ident, .waiting⟩)
    (unsettled : forall outcome, traffic.cache.entries.get? ident ≠ some (.settled outcome)) :
    traffic.cache.entries.get? ident = some .pending := by
  have present := consistent.fits index _ waits
  cases found : traffic.cache.entries.get? ident with
  | none => exact absurd found present
  | some entry =>
      cases entry with
      | pending => rfl
      | settled outcome => exact absurd found (unsettled outcome)

/-! ## Every step keeps it -/

theorem entered (consistent : traffic.Consistent) (ident : TypeId) :
    Consistent ⟨traffic.cache.opened ident, traffic.calls ++ [⟨ident, .waiting⟩]⟩ where
  keys := DescriptorCache.nodup_keys_opened consistent.keys ident
  fits position call found := by
    rcases getElem?_append_cases found with found | rfl
    · have fits := consistent.fits position call found
      rw [DescriptorCache.get?_opened_of_ne_none fits.ne_none]
      exact fits
    · rw [DescriptorCache.get?_opened_self]
      exact nofun
  source other outcome settled := by
    have before : traffic.cache.entries.get? other = some (.settled outcome) := by
      by_cases same : other = ident
      · subst same
        rw [DescriptorCache.get?_opened_self] at settled
        cases found : traffic.cache.entries.get? other with
        | none => rw [found] at settled; cases settled
        | some entry => rw [found] at settled; exact settled
      · exact (DescriptorCache.get?_opened_of_ne _ same).symm.trans settled
    rcases consistent.source other outcome before with ⟨position, found⟩
    rcases List.getElem?_eq_some_iff.mp found with ⟨inside, _⟩
    exact ⟨position, (List.getElem?_append_left inside).trans found⟩
  sole first second one other foundOne foundOther same flight otherFlight := by
    rcases getElem?_append_cases foundOne with foundOne | rfl
    · rcases getElem?_append_cases foundOther with foundOther | rfl
      · exact consistent.sole first second one other foundOne foundOther same flight otherFlight
      · cases otherFlight
    · cases flight
  hits := by
    rw [tally_entered CallPhase.isAnswered _ ident rfl, DescriptorCache.hits_opened]
    exact consistent.hits
  computations := by
    rw [tally_entered CallPhase.isComputing _ ident rfl, tally_entered CallPhase.isComputed _ ident rfl,
      tally_entered CallPhase.isAbandoned _ ident rfl, DescriptorCache.computations_opened]
    exact consistent.computations

theorem answered (consistent : traffic.Consistent) {outcome : Outcome}
    (waits : traffic.calls[index]? = some ⟨ident, .waiting⟩)
    (found : traffic.cache.entries.get? ident = some (.settled outcome)) :
    Consistent ⟨{ traffic.cache with hits := traffic.cache.hits + 1 },
      traffic.calls.set index ⟨ident, .answered outcome⟩⟩ where
  keys := consistent.keys
  fits := consistent.fits_set found
  source := consistent.source_set waits rfl
  sole := consistent.sole_set nofun
  hits := by
    rw [tally_set_gain CallPhase.isAnswered _ waits (.answered outcome) rfl rfl, consistent.hits]
  computations := by
    rw [tally_set_same CallPhase.isComputing _ waits (.answered outcome) rfl,
      tally_set_same CallPhase.isComputed _ waits (.answered outcome) rfl,
      tally_set_same CallPhase.isAbandoned _ waits (.answered outcome) rfl]
    exact consistent.computations

theorem started (consistent : traffic.Consistent)
    (waits : traffic.calls[index]? = some ⟨ident, .waiting⟩)
    (unsettled : forall outcome, traffic.cache.entries.get? ident ≠ some (.settled outcome))
    (free : traffic.isComputing ident = false) :
    Consistent ⟨{ traffic.cache with
        entries := traffic.cache.entries.insert ident .pending
        computations := traffic.cache.computations + 1 },
      traffic.calls.set index ⟨ident, .computing⟩⟩ := by
  have pending := consistent.pending_of_waiting waits unsettled
  rw [KeyedList.insert_of_get? pending]
  refine ⟨consistent.keys, consistent.fits_set pending, consistent.source_set waits rfl,
    consistent.sole_set ?_, ?_, ?_⟩
  · -- No other call computes, and none has computed, since the entry is not settled.
    intro _ position call found same flight
    rcases Bool.or_eq_true_iff.mp flight with computing | computed
    · have idle := (traffic.isComputing_eq_false_iff ident).mp free position call found same
      exact absurd (computing.symm.trans idle) nofun
    · rcases CallPhase.eq_computed computed with ⟨outcome, phase⟩
      have fits := consistent.fits position call found
      rw [phase, same] at fits
      exact absurd fits (unsettled outcome)
  · rw [tally_set_same CallPhase.isAnswered _ waits .computing rfl]
    exact consistent.hits
  · rw [tally_set_gain CallPhase.isComputing _ waits .computing rfl rfl,
      tally_set_same CallPhase.isComputed _ waits .computing rfl,
      tally_set_same CallPhase.isAbandoned _ waits .computing rfl]
    have counted := consistent.computations
    dsimp only
    omega

theorem abandoned (consistent : traffic.Consistent)
    (computes : traffic.calls[index]? = some ⟨ident, .computing⟩) :
    Consistent ⟨traffic.cache, traffic.calls.set index ⟨ident, .abandoned⟩⟩ where
  keys := consistent.keys
  fits := consistent.fits_set (CallPhase.Fits.ne_none (consistent.fits index _ computes))
  source := consistent.source_set computes rfl
  sole := consistent.sole_set nofun
  hits := by
    rw [tally_set_same CallPhase.isAnswered _ computes .abandoned rfl]
    exact consistent.hits
  computations := by
    have computing : tally ⟨traffic.cache, traffic.calls.set index ⟨ident, .abandoned⟩⟩
        CallPhase.isComputing + 1 = traffic.tally CallPhase.isComputing :=
      tally_set_loss _ _ computes .abandoned rfl rfl
    rw [tally_set_same CallPhase.isComputed _ computes .abandoned rfl,
      tally_set_gain CallPhase.isAbandoned _ computes .abandoned rfl rfl]
    have counted := consistent.computations
    dsimp only
    omega

/-- What finishes settles the entry.  The other calls for the identity wait or were
abandoned, so the new entry suits them too. -/
theorem finished (consistent : traffic.Consistent)
    (computes : traffic.calls[index]? = some ⟨ident, .computing⟩) (outcome : Outcome) :
    Consistent ⟨traffic.cache.settle ident outcome,
      traffic.calls.set index ⟨ident, .computed outcome⟩⟩ := by
  have pending : traffic.cache.entries.get? ident = some .pending :=
    consistent.fits index _ computes
  have alone : forall (position : Nat) (call : CacheCall), traffic.calls[position]? = some call ->
      call.ident = ident -> call.phase.isFlight = true -> position = index :=
    fun position call found same flight =>
      consistent.sole position index call _ found computes same flight rfl
  refine ⟨KeyedList.nodup_keys_insert consistent.keys _ _, ?_, ?_,
    consistent.sole_set fun _ => alone, ?_, ?_⟩
  · intro position call found
    rcases getElem?_set_cases found with ⟨_, rfl⟩ | ⟨apart, found⟩
    · exact KeyedList.get?_insert_self ..
    · have fits := consistent.fits position call found
      by_cases same : call.ident = ident
      · have idle : call.phase.isFlight = false :=
          Bool.eq_false_iff.mpr fun flight => apart (alone position call found same flight)
        rw [same, pending] at fits
        rw [same]
        simp only [DescriptorCache.settle, KeyedList.get?_insert_self]
        exact fits.settle idle outcome
      · simp only [DescriptorCache.settle, KeyedList.get?_insert_of_ne _ _ same]
        exact fits
  · intro other later settled
    by_cases same : other = ident
    · subst same
      cases (KeyedList.get?_insert_self ..).symm.trans settled
      exact ⟨index, getElem?_set_at computes⟩
    · exact consistent.source_set computes rfl other later
        ((KeyedList.get?_insert_of_ne _ _ same).symm.trans settled)
  · rw [tally_set_same CallPhase.isAnswered _ computes (.computed outcome) rfl]
    exact consistent.hits
  · have computing : tally ⟨traffic.cache.settle ident outcome,
          traffic.calls.set index ⟨ident, .computed outcome⟩⟩ CallPhase.isComputing + 1 =
        traffic.tally CallPhase.isComputing :=
      tally_set_loss _ _ computes (.computed outcome) rfl rfl
    rw [tally_set_gain CallPhase.isComputed _ computes (.computed outcome) rfl rfl,
      tally_set_same CallPhase.isAbandoned _ computes (.computed outcome) rfl]
    have counted := consistent.computations
    simp only [DescriptorCache.settle] at computing ⊢
    omega

theorem step (consistent : traffic.Consistent) {action : CallAction}
    (stepped : traffic.step action = some next) : next.Consistent := by
  cases moves_of_step stepped with
  | entered ident => exact consistent.entered ident
  | answered waits found => exact consistent.answered waits found
  | started waits unsettled free => exact consistent.started waits unsettled free
  | finished computes outcome => exact consistent.finished computes outcome
  | abandoned computes => exact consistent.abandoned computes

theorem run (consistent : traffic.Consistent) {actions : List CallAction} {last : CacheTraffic}
    (ran : traffic.run actions = some last) : last.Consistent := by
  induction actions generalizing traffic with
  | nil => cases ran; exact consistent
  | cons action rest inductionHypothesis =>
      rcases Option.bind_eq_some_iff.mp ran with ⟨next, stepped, ran⟩
      exact inductionHypothesis (consistent.step stepped) ran

end Consistent
end CacheTraffic

/-! ## How entries and calls move on -/

/-- What can become of an entry in one step. -/
inductive CacheEntry.Becomes : Option CacheEntry -> Option CacheEntry -> Prop where
  | same (entry : Option CacheEntry) : Becomes entry entry
  | opened : Becomes none (some .pending)
  | settled (outcome : Outcome) : Becomes (some .pending) (some (.settled outcome))

/-- What can become of the state of an entry in one step. -/
inductive EntryState.Becomes : Option EntryState -> Option EntryState -> Prop where
  | same (state : Option EntryState) : Becomes state state
  | opened : Becomes none (some .pending)
  | ready : Becomes (some .pending) (some .ready)
  | failed : Becomes (some .pending) (some .failed)

theorem CacheEntry.Becomes.state {before after : Option CacheEntry}
    (becomes : CacheEntry.Becomes before after) :
    EntryState.Becomes (before.map CacheEntry.state) (after.map CacheEntry.state) := by
  cases becomes with
  | same entry => exact .same _
  | opened => exact .opened
  | settled outcome =>
      cases outcome with
      | ok descriptor => exact .ready
      | error failure => exact .failed

theorem CacheEntry.Becomes.of_settled {outcome : Outcome} {after : Option CacheEntry}
    (becomes : CacheEntry.Becomes (some (.settled outcome)) after) :
    after = some (.settled outcome) := by
  cases becomes
  rfl

namespace CacheTraffic

variable {traffic next : CacheTraffic} {action : CallAction}

/-- A step moves the entry of its own identity only, and only forward. -/
theorem Consistent.becomes (consistent : traffic.Consistent)
    (stepped : traffic.step action = some next) (ident : TypeId) :
    CacheEntry.Becomes (traffic.cache.entries.get? ident) (next.cache.entries.get? ident) ∧
      (traffic.identOf? action ≠ some ident ->
        next.cache.entries.get? ident = traffic.cache.entries.get? ident) := by
  cases moves_of_step stepped with
  | entered entering =>
      by_cases same : ident = entering
      · subst same
        refine ⟨?_, fun other => absurd rfl other⟩
        rw [DescriptorCache.get?_opened_self]
        cases traffic.cache.entries.get? ident with
        | none => exact .opened
        | some entry => exact .same _
      · rw [DescriptorCache.get?_opened_of_ne _ same]
        exact ⟨.same _, fun _ => rfl⟩
  | answered waits found => exact ⟨.same _, fun _ => rfl⟩
  | started waits unsettled free =>
      rw [KeyedList.insert_of_get? (consistent.pending_of_waiting waits unsettled)]
      exact ⟨.same _, fun _ => rfl⟩
  | @finished index computing computes outcome =>
      simp only [DescriptorCache.settle, identOf?, computes, Option.map_some]
      by_cases same : ident = computing
      · subst same
        refine ⟨?_, fun other => absurd rfl other⟩
        have pending : traffic.cache.entries.get? ident = some .pending :=
          consistent.fits index _ computes
        rw [KeyedList.get?_insert_self, pending]
        exact .settled outcome
      · rw [KeyedList.get?_insert_of_ne _ _ same]
        exact ⟨.same _, fun _ => rfl⟩
  | abandoned computes => exact ⟨.same _, fun _ => rfl⟩

/-- Whatever is done next, what a call returned is not changed. -/
theorem getElem?_of_isDone (stepped : traffic.step action = some next) {position : Nat}
    {call : CacheCall} (found : traffic.calls[position]? = some call)
    (done : call.phase.isDone = true) : next.calls[position]? = some call := by
  have apart : forall {index : Nat} {other : CacheCall}, traffic.calls[index]? = some other ->
      other.phase.isDone = false -> index ≠ position := by
    intro index other present unfinished same
    subst same
    cases found.symm.trans present
    exact absurd (done.symm.trans unfinished) nofun
  cases moves_of_step stepped with
  | entered ident =>
      rcases List.getElem?_eq_some_iff.mp found with ⟨inside, _⟩
      exact (List.getElem?_append_left inside).trans found
  | answered waits _ => exact (List.getElem?_set_ne (apart waits rfl)).trans found
  | started waits _ _ => exact (List.getElem?_set_ne (apart waits rfl)).trans found
  | finished computes _ => exact (List.getElem?_set_ne (apart computes rfl)).trans found
  | abandoned computes => exact (List.getElem?_set_ne (apart computes rfl)).trans found

/-- Settled entries and finished calls stay for good. -/
theorem Consistent.keeps (consistent : traffic.Consistent) {actions : List CallAction}
    {last : CacheTraffic} (ran : traffic.run actions = some last) :
    (forall ident outcome, traffic.cache.entries.get? ident = some (.settled outcome) ->
      last.cache.entries.get? ident = some (.settled outcome)) ∧
    (forall (position : Nat) (call : CacheCall), traffic.calls[position]? = some call ->
      call.phase.isDone = true -> last.calls[position]? = some call) := by
  induction actions generalizing traffic with
  | nil => cases ran; exact ⟨fun _ _ settled => settled, fun _ _ found _ => found⟩
  | cons action rest inductionHypothesis =>
      rcases Option.bind_eq_some_iff.mp ran with ⟨next, stepped, ran⟩
      rcases inductionHypothesis (consistent.step stepped) ran with ⟨entries, calls⟩
      constructor
      · intro ident outcome settled
        refine entries ident outcome (CacheEntry.Becomes.of_settled ?_)
        rw [← settled]
        exact (consistent.becomes stepped ident).1
      · intro position call found done
        exact calls position call (getElem?_of_isDone stepped found done) done

end CacheTraffic

end StructuralProducts
