import Mathlib.Logic.Function.Basic
import StructuralProducts.Proofs.Descriptor.Native
import StructuralProducts.Session

namespace StructuralProducts

/-!
# Requests of describers that share a cache

A describer answers requests for descriptors from the registry of a session, a
host and a cache.  Several describers may share the cache, and any of them may
share an interner or a host.  Names of different interners mean nothing to each
other, although they may be the same words.

A request can take four courses, and `Request.Course` says everything about each.
It is settled by a native declaration, refused because the cache belongs to
another session, answered from the cache, or answered by a discovery, which the
cache then keeps.  What a run of requests does to the cache follows from the
courses alone.
-/

/-! ## Describers and what they share -/

/-- The number of a host. -/
structure HostId where
  index : Nat
  deriving DecidableEq, Inhabited

/-- A registry and a host, with the session whose interner both are used with.
The registry is as it was when the describer was made; only its interner has been
in use since. -/
structure Describer where
  session : SessionId
  registry : Registry
  host : HostId

/-- The interners, the hosts, and the one cache. -/
structure SharedState where
  interners : SessionId -> Interner
  tables : HostId -> SymbolTable
  cache : DescriptorCache

/-- A request for the descriptor of an identity, with what it found and what it
left behind. -/
structure Request where
  describer : Describer
  ident : TypeId
  before : SharedState
  outcome : Outcome
  after : SharedState

namespace SharedState

/-- Interners and hosts as given, and a cache that nobody has used. -/
def fresh (interners : SessionId -> Interner) (tables : HostId -> SymbolTable) : SharedState :=
  ⟨interners, tables, .empty⟩

/-- The session that a describer works in. -/
def session (shared : SharedState) (describer : Describer) : Session where
  id := describer.session
  registry := { describer.registry with interner := shared.interners describer.session }
  symbols := shared.tables describer.host

/-- The state in which a describer leaves its session and the cache. -/
def store (shared : SharedState) (describer : Describer) (session : Session)
    (cache : DescriptorCache) : SharedState where
  interners := Function.update shared.interners describer.session session.interner
  tables := Function.update shared.tables describer.host session.symbols
  cache := cache

def intern (shared : SharedState) (session : SessionId) (text : String) : Name × SharedState :=
  let (name, interner) := (shared.interners session).intern text
  (name, { shared with interners := Function.update shared.interners session interner })

def load (shared : SharedState) (host : HostId) (loaded : ForeignClass) :
    ClassHandle × SharedState :=
  let (handle, table) := (shared.tables host).load loaded
  (handle, { shared with tables := Function.update shared.tables host table })

/-- Ask a describer for the descriptor of an identity. -/
def ask (shared : SharedState) (describer : Describer) (ident : TypeId) : Request :=
  let (outcome, session, cache) := (shared.session describer).describe shared.cache ident
  { describer, ident, before := shared, outcome, after := shared.store describer session cache }

/-- Ask a describer for the descriptor of the type at a path.  The request proper
begins when the path has been interned. -/
def askPath (shared : SharedState) (describer : Describer) (path : String) : Request :=
  let (name, before) := shared.intern describer.session path
  let (outcome, session, cache) := (shared.session describer).describePath shared.cache path
  { describer, ident := ⟨name⟩, before, outcome, after := shared.store describer session cache }

theorem store_session_cache (shared : SharedState) (describer : Describer)
    (cache : DescriptorCache) :
    shared.store describer (shared.session describer) cache = { shared with cache } := by
  simp only [store, session, Session.interner, Function.update_eq_self]

theorem store_session (shared : SharedState) (describer : Describer) :
    shared.store describer (shared.session describer) shared.cache = shared :=
  shared.store_session_cache describer shared.cache

/-- The session of a describer that has interned a path itself. -/
theorem session_intern (shared : SharedState) (describer : Describer) (path : String) :
    (shared.intern describer.session path).2.session describer =
      (shared.session describer).withInterner
        ((shared.interners describer.session).intern path).2 := by
  simp only [session, intern, Session.withInterner, Function.update_self]

theorem store_intern (shared : SharedState) (describer : Describer) (path : String)
    (session : Session) (cache : DescriptorCache) :
    (shared.intern describer.session path).2.store describer session cache =
      shared.store describer session cache := by
  simp only [store, intern, Function.update_idem]

/-- A request by path is a request for the identity as which the path is interned. -/
theorem askPath_eq_ask (shared : SharedState) (describer : Describer) (path : String) :
    shared.askPath describer path =
      (shared.intern describer.session path).2.ask describer
        ⟨(shared.intern describer.session path).1⟩ := by
  simp only [ask, session_intern, store_intern]
  rfl

end SharedState

/-! ## The courses of a request -/

/-- An outcome is what a declaration gives by itself: the descriptor of its
shape, or everything that is wrong with it. -/
def TypeDecl.Gives (decl : TypeDecl) (interner : Interner) (outcome : Outcome) : Prop :=
  (Exists fun shape => Exists fun descriptor =>
    ProductShape.recognize decl = .ok shape ∧ shape.descriptor interner = .ok descriptor ∧
      outcome = .ok descriptor) ∨
  Exists fun problems => ProductShape.recognize decl = .error problems ∧
    outcome = .error (.notAProduct (decl.ident.path interner) problems)

theorem Session.gives_describeDecl (session : Session) (decl : TypeDecl) :
    decl.Gives session.interner (session.describeDecl decl) := by
  unfold describeDecl
  cases recognized : ProductShape.recognize decl with
  | error problems => exact .inr ⟨problems, recognized, rfl⟩
  | ok shape =>
      rcases ProductShape.exists_descriptor recognized session.interner with ⟨descriptor, made⟩
      exact .inl ⟨shape, descriptor, recognized, made, made⟩

namespace Request

/-- The identity has no native declaration, so the cache is asked. -/
def isForeign (request : Request) : Bool :=
  !request.describer.registry.isNative request.ident

/-- What discovery gives for the identity in the state of the request. -/
def discovery (request : Request) : Outcome :=
  ((request.before.session request.describer).introspect request.ident).1

/-- The host of the describer has answered for one more path. -/
def countResolution (request : Request) : HostId -> SymbolTable :=
  let table := request.before.tables request.describer.host
  Function.update request.before.tables request.describer.host
    { table with resolutions := table.resolutions + 1 }

/-- The courses that a request can take. -/
inductive Course (request : Request) : Prop where
  /-- A native declaration gives the outcome. -/
  | native {decl : TypeDecl}
      (declared : request.describer.registry.decl? request.ident = some decl)
      (isNative : decl.isNative = true)
      (gives : decl.Gives (request.before.interners request.describer.session) request.outcome)
      (unchanged : request.after = request.before) : Course request
  /-- The cache belongs to another session. -/
  | refused {owner : SessionId} (foreign : request.isForeign = true)
      (owned : request.before.cache.owner? = some owner)
      (other : owner ≠ request.describer.session)
      (refusal : request.outcome = .error (.sessionMismatch
        (request.ident.path (request.before.interners request.describer.session))))
      (unchanged : request.after = request.before) : Course request
  /-- The cache has an outcome. -/
  | answered (foreign : request.isForeign = true)
      (owned : request.before.cache.owner? = none ∨
        request.before.cache.owner? = some request.describer.session)
      (found : request.before.cache.entries.get? request.ident = some (.settled request.outcome))
      (after : request.after = { request.before with
        cache := { request.before.cache with
          owner? := some request.describer.session
          hits := request.before.cache.hits + 1 } }) : Course request
  /-- The cache has no outcome, and keeps the one that is discovered. -/
  | discovered (foreign : request.isForeign = true)
      (owned : request.before.cache.owner? = none ∨
        request.before.cache.owner? = some request.describer.session)
      (unsettled : forall outcome,
        request.before.cache.entries.get? request.ident ≠ some (.settled outcome))
      (discovers : request.outcome = request.discovery)
      (cache : request.after.cache =
        { owner? := some request.describer.session
          entries := request.before.cache.entries.insert request.ident (.settled request.outcome)
          hits := request.before.cache.hits
          computations := request.before.cache.computations + 1 })
      (tables : request.after.tables = request.countResolution) : Course request

end Request

namespace SharedState

theorem ask_of_describe {shared : SharedState} {describer : Describer} {ident : TypeId}
    {outcome : Outcome} {session : Session} {cache : DescriptorCache}
    (described : (shared.session describer).describe shared.cache ident =
      (outcome, session, cache)) :
    shared.ask describer ident =
      { describer, ident, before := shared, outcome,
        after := shared.store describer session cache } := by
  simp only [ask, described]

theorem course_ask_native {shared : SharedState} {describer : Describer} {ident : TypeId}
    (native : describer.registry.isNative ident = true) :
    (shared.ask describer ident).Course := by
  unfold Registry.isNative at native
  split at native
  · next decl declared =>
      rw [ask_of_describe (Session.describe_native declared native)]
      exact .native declared native ((shared.session describer).gives_describeDecl decl)
        (shared.store_session describer)
  · cases native

theorem course_ask_foreign {shared : SharedState} {describer : Describer} {ident : TypeId}
    (foreign : describer.registry.isNative ident = false) :
    (shared.ask describer ident).Course := by
  have described : (shared.session describer).describe shared.cache ident =
      (shared.session describer).describeForeign shared.cache ident :=
    Session.describe_foreign foreign shared.cache
  have isForeign : (!describer.registry.isNative ident) = true := by
    rw [foreign, Bool.not_false]
  by_cases other : Exists fun owner =>
    shared.cache.owner? = some owner ∧ owner ≠ describer.session
  · rcases other with ⟨owner, owned, other⟩
    rw [ask_of_describe (described.trans (Session.describeForeign_of_other owned other))]
    exact .refused isForeign owned other rfl (shared.store_session describer)
  · have owned : shared.cache.owner? = none ∨ shared.cache.owner? = some describer.session := by
      cases bound : shared.cache.owner? with
      | none => exact .inl rfl
      | some owner =>
          have same : owner = describer.session :=
            of_not_not fun different => other ⟨owner, bound, different⟩
          exact .inr (congrArg some same)
    by_cases settled : Exists fun outcome =>
      shared.cache.entries.get? ident = some (.settled outcome)
    · rcases settled with ⟨outcome, found⟩
      rw [ask_of_describe (described.trans (Session.describeForeign_of_settled owned found))]
      exact .answered isForeign owned found (shared.store_session_cache describer _)
    · have unsettled : forall outcome,
          shared.cache.entries.get? ident ≠ some (.settled outcome) :=
        fun outcome found => settled ⟨outcome, found⟩
      rw [ask_of_describe (described.trans (Session.describeForeign_of_unsettled owned unsettled))]
      refine .discovered isForeign owned unsettled rfl rfl ?_
      exact congrArg (Function.update shared.tables describer.host)
        ((shared.session describer).host.symbols_introspect ident)

/-- Every request takes one of the courses. -/
theorem course_ask (shared : SharedState) (describer : Describer) (ident : TypeId) :
    (shared.ask describer ident).Course := by
  cases native : describer.registry.isNative ident with
  | true => exact course_ask_native native
  | false => exact course_ask_foreign native

end SharedState
end StructuralProducts
