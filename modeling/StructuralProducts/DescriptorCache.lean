import StructuralProducts.Descriptor
import StructuralProducts.KeyedList

namespace StructuralProducts

/-!
# The descriptor cache

Discovery runs at most once for each identity.  The cache keeps what it gave,
failures included, and hands it to every later caller.  Nothing is ever evicted
or tried again.

A request is answered in two steps.  `request` opens the entry of an identity
and either answers from it or tells the caller to do the discovery; `settle`
records what the discovery gave.  A caller that is told to discover and never
settles leaves the entry pending, and the next request is told the same again.

Identities mean something in one session only.  The first session that binds the
cache owns it, and all others are refused.
-/

abbrev Outcome := Except DescriptorError Descriptor

/-- Two discoveries gave the same: descriptors of the same shape, or equal errors. -/
def Outcome.agrees : Outcome -> Outcome -> Bool
  | .ok first, .ok second => first.sameShape second
  | .error first, .error second => first == second
  | _, _ => false

/-- What is known about an identity. -/
inductive CacheEntry where
  /-- A discovery was asked for and has not given anything. -/
  | pending
  /-- A discovery gave this outcome. -/
  | settled (outcome : Outcome)

/-- The three states in which an entry shows itself. -/
inductive EntryState where
  | pending
  | ready
  | failed
  deriving DecidableEq

def EntryState.inspect : EntryState -> String
  | .pending => "Pending"
  | .ready => "Ready"
  | .failed => "Failed"

def CacheEntry.state : CacheEntry -> EntryState
  | .pending => .pending
  | .settled (.ok _) => .ready
  | .settled (.error _) => .failed

/-- The outcomes of discoveries, by identity. -/
structure DescriptorCache where
  entries : KeyedList TypeId CacheEntry
  owner? : Option SessionId
  /-- The requests that were answered from an entry. -/
  hits : Nat
  /-- The requests that were told to discover. -/
  computations : Nat

namespace DescriptorCache

def empty : DescriptorCache := ⟨.empty, none, 0, 0⟩

instance : Inhabited DescriptorCache := ⟨empty⟩

/-- Bind the cache to a session on first use; after that, test that the session
is its owner.  The path is what a refusal names. -/
def bindSession (cache : DescriptorCache) (session : SessionId) (path : String) :
    Except DescriptorError Unit × DescriptorCache :=
  match cache.owner? with
  | none => (.ok (), { cache with owner? := some session })
  | some owner =>
      if owner = session then (.ok (), cache) else (.error (.sessionMismatch path), cache)

/-- Ask for the outcome of an identity.  Without an outcome in the answer the
caller has to discover it and settle the entry. -/
def request (cache : DescriptorCache) (ident : TypeId) : Option Outcome × DescriptorCache :=
  match cache.entries.get? ident with
  | some (.settled outcome) => (some outcome, { cache with hits := cache.hits + 1 })
  | _ =>
      (none, { cache with
        entries := cache.entries.insert ident .pending
        computations := cache.computations + 1 })

def settle (cache : DescriptorCache) (ident : TypeId) (outcome : Outcome) : DescriptorCache :=
  { cache with entries := cache.entries.insert ident (.settled outcome) }

/-- Make sure that an identity has an entry. -/
def opened (cache : DescriptorCache) (ident : TypeId) : DescriptorCache :=
  match cache.entries.get? ident with
  | some _ => cache
  | none => { cache with entries := cache.entries.insert ident .pending }

/-- The state of the entry of an identity, if there is an entry. -/
def state? (cache : DescriptorCache) (ident : TypeId) : Option EntryState :=
  (cache.entries.get? ident).map CacheEntry.state

def size (cache : DescriptorCache) : Nat :=
  cache.entries.size

/-- The one-line form of a describer that uses this cache. -/
def inspectDescriber (cache : DescriptorCache) : String :=
  s!"MirrorSynthesizer \x7b cached: {cache.size}, .. \x7d"

/-- A cache without an owner and one of the session's own take the session. -/
theorem bindSession_of_owned {cache : DescriptorCache} {session : SessionId}
    (owned : cache.owner? = none ∨ cache.owner? = some session) (path : String) :
    cache.bindSession session path = (.ok (), { cache with owner? := some session }) := by
  obtain ⟨entries, owner?, hits, computations⟩ := cache
  rcases owned with free | owned
  · cases free
    rfl
  · cases owned
    simp only [bindSession, if_true]

theorem bindSession_of_other {cache : DescriptorCache} {owner session : SessionId}
    (owned : cache.owner? = some owner) (other : owner ≠ session) (path : String) :
    cache.bindSession session path = (.error (.sessionMismatch path), cache) := by
  simp only [bindSession, owned, if_neg other]

theorem request_of_settled {cache : DescriptorCache} {ident : TypeId} {outcome : Outcome}
    (found : cache.entries.get? ident = some (.settled outcome)) :
    cache.request ident = (some outcome, { cache with hits := cache.hits + 1 }) := by
  simp only [request, found]

/-- Without an outcome the caller is told to discover, also where others have been
told before. -/
theorem request_of_unsettled {cache : DescriptorCache} {ident : TypeId}
    (unsettled : forall outcome, cache.entries.get? ident ≠ some (.settled outcome)) :
    cache.request ident =
      (none, { cache with
        entries := cache.entries.insert ident .pending
        computations := cache.computations + 1 }) := by
  unfold request
  split
  · next outcome found => exact absurd found (unsettled outcome)
  · rfl

theorem get?_opened_self (cache : DescriptorCache) (ident : TypeId) :
    (cache.opened ident).entries.get? ident =
      some ((cache.entries.get? ident).getD .pending) := by
  unfold opened
  split
  · next entry found => rw [found]; rfl
  · next absent => rw [absent]; exact KeyedList.get?_insert_self ..

theorem get?_opened_of_ne (cache : DescriptorCache) {ident other : TypeId}
    (different : other ≠ ident) :
    (cache.opened ident).entries.get? other = cache.entries.get? other := by
  unfold opened
  split
  · rfl
  · exact KeyedList.get?_insert_of_ne _ _ different

/-- An entry that is there is kept. -/
theorem get?_opened_of_ne_none {cache : DescriptorCache} {other : TypeId}
    (present : cache.entries.get? other ≠ none) (ident : TypeId) :
    (cache.opened ident).entries.get? other = cache.entries.get? other := by
  by_cases same : other = ident
  · subst same
    rcases Option.ne_none_iff_exists'.mp present with ⟨entry, found⟩
    rw [get?_opened_self, found, Option.getD_some]
  · exact get?_opened_of_ne cache same

theorem nodup_keys_opened {cache : DescriptorCache} (distinct : cache.entries.keys.Nodup)
    (ident : TypeId) : (cache.opened ident).entries.keys.Nodup := by
  unfold opened
  split
  · exact distinct
  · exact KeyedList.nodup_keys_insert distinct _ _

@[simp] theorem hits_opened (cache : DescriptorCache) (ident : TypeId) :
    (cache.opened ident).hits = cache.hits := by
  unfold opened
  split <;> rfl

@[simp] theorem computations_opened (cache : DescriptorCache) (ident : TypeId) :
    (cache.opened ident).computations = cache.computations := by
  unfold opened
  split <;> rfl

end DescriptorCache
end StructuralProducts
