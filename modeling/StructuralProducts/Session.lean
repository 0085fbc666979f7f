import StructuralProducts.DescriptorCache
import StructuralProducts.Registry
import StructuralProducts.Reflection.Introspection

namespace StructuralProducts

/-!
# Sessions

A session is a registry together with the foreign classes that are loaded in it;
both use the interner of the registry.  A session gives the descriptor of any
type: that of a native declaration is made from the declaration, and every other
one is discovered by reflection through a cache.
-/

/-- A registry and the classes that are loaded beside it. -/
structure Session where
  id : SessionId
  registry : Registry
  symbols : SymbolTable

namespace Session

/-- A session in which nothing has been declared or loaded. -/
def empty (id : SessionId) : Session :=
  ⟨id, .empty .empty, .empty⟩

def interner (session : Session) : Interner :=
  session.registry.interner

def withInterner (session : Session) (interner : Interner) : Session :=
  { session with registry := { session.registry with interner } }

def host (session : Session) : Host :=
  ⟨session.id, session.interner, session.symbols⟩

def withHost (session : Session) (host : Host) : Session :=
  { session.withInterner host.interner with symbols := host.symbols }

def load (session : Session) (loaded : ForeignClass) : ClassHandle × Session :=
  let (handle, host) := session.host.load loaded
  (handle, session.withHost host)

/-- Discover the descriptor of an identity by reflection, without a cache. -/
def introspect (session : Session) (ident : TypeId) : Outcome × Session :=
  let (outcome, host) := session.host.introspect ident
  (outcome, session.withHost host)

def describeDecl (session : Session) (decl : TypeDecl) : Outcome :=
  match ProductShape.recognize decl with
  | .error problems => .error (.notAProduct (decl.ident.path session.interner) problems)
  | .ok shape => shape.descriptor session.interner

/-- The descriptor of an identity that has no native declaration: discovered once
for each cache, and only for the session that owns the cache. -/
def describeForeign (session : Session) (cache : DescriptorCache) (ident : TypeId) :
    Outcome × Session × DescriptorCache :=
  match cache.bindSession session.id (ident.path session.interner) with
  | (.error refusal, cache) => (.error refusal, session, cache)
  | (.ok (), cache) =>
      match cache.request ident with
      | (some outcome, cache) => (outcome, session, cache)
      | (none, cache) =>
          let (outcome, session) := session.introspect ident
          (outcome, session, cache.settle ident outcome)

def describe (session : Session) (cache : DescriptorCache) (ident : TypeId) :
    Outcome × Session × DescriptorCache :=
  match session.registry.decl? ident with
  | some decl =>
      if decl.isNative then (session.describeDecl decl, session, cache)
      else session.describeForeign cache ident
  | none => session.describeForeign cache ident

/-- The descriptor of the type at a path, which is interned first. -/
def describePath (session : Session) (cache : DescriptorCache) (path : String) :
    Outcome × Session × DescriptorCache :=
  let (name, interner) := session.interner.intern path
  (session.withInterner interner).describe cache ⟨name⟩

def inspectHost (_ : Session) : String :=
  "ReflectiveBridge \x7b .. \x7d"

/-- A native declaration is described without touching the cache or the host. -/
theorem describe_native {session : Session} {cache : DescriptorCache} {ident : TypeId}
    {decl : TypeDecl} (declared : session.registry.decl? ident = some decl)
    (native : decl.isNative = true) :
    session.describe cache ident = (session.describeDecl decl, session, cache) := by
  simp [describe, declared, native]

theorem describe_foreign {session : Session} {ident : TypeId}
    (foreign : session.registry.isNative ident = false) (cache : DescriptorCache) :
    session.describe cache ident = session.describeForeign cache ident := by
  unfold Registry.isNative at foreign
  unfold describe
  split
  · next decl declared =>
      simp only [declared] at foreign
      simp only [foreign, Bool.false_eq_true, if_false]
  · rfl

section Foreign

variable {session : Session} {cache : DescriptorCache} {ident : TypeId}

theorem describeForeign_of_other {owner : SessionId} (owned : cache.owner? = some owner)
    (other : owner ≠ session.id) :
    session.describeForeign cache ident =
      (.error (.sessionMismatch (ident.path session.interner)), session, cache) := by
  simp only [describeForeign, DescriptorCache.bindSession_of_other owned other]

theorem describeForeign_of_settled {outcome : Outcome}
    (owned : cache.owner? = none ∨ cache.owner? = some session.id)
    (found : cache.entries.get? ident = some (.settled outcome)) :
    session.describeForeign cache ident =
      (outcome, session, { cache with owner? := some session.id, hits := cache.hits + 1 }) := by
  have answered : ({ cache with owner? := some session.id } : DescriptorCache).request ident =
      (some outcome, { cache with owner? := some session.id, hits := cache.hits + 1 }) :=
    DescriptorCache.request_of_settled found
  simp only [describeForeign, DescriptorCache.bindSession_of_owned owned, answered]

/-- What is discovered takes the place of the entry that the request opened. -/
theorem describeForeign_of_unsettled
    (owned : cache.owner? = none ∨ cache.owner? = some session.id)
    (unsettled : forall outcome, cache.entries.get? ident ≠ some (.settled outcome)) :
    session.describeForeign cache ident =
      ((session.introspect ident).1, (session.introspect ident).2,
        { owner? := some session.id
          entries := cache.entries.insert ident (.settled (session.introspect ident).1)
          hits := cache.hits
          computations := cache.computations + 1 }) := by
  have opened : ({ cache with owner? := some session.id } : DescriptorCache).request ident =
      (none, { owner? := some session.id
               entries := cache.entries.insert ident .pending
               hits := cache.hits
               computations := cache.computations + 1 }) :=
    DescriptorCache.request_of_unsettled unsettled
  simp only [describeForeign, DescriptorCache.bindSession_of_owned owned, opened,
    DescriptorCache.settle, KeyedList.insert_insert_self]

end Foreign

end Session
end StructuralProducts
