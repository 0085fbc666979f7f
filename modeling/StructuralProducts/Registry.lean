import StructuralProducts.Contract
import StructuralProducts.KeyedList

namespace StructuralProducts

/-!
# The registry of a session

The registry knows the declared types and the contracts that were registered for
types, and it resolves the names that patterns write.  A name is first taken as a full
path; only if no type of that path is known is it taken as the last segment of
one.  Several types may share a last segment.

The registry holds the interner that gives its names their meaning, since
registering a type interns the last segment of its path.
-/

/-- What a written name refers to. -/
inductive Resolution where
  | unique (ident : TypeId)
  /-- Several types share the last segment, in increasing order of their names. -/
  | ambiguous (candidates : List TypeId)
  | unknown
  deriving DecidableEq

/-- The declarations and registered contracts of a session.  A registered contract
is usually one that the author of the type wrote, but one that was made from a
descriptor can be registered as well. -/
structure Registry where
  interner : Interner
  decls : KeyedList TypeId TypeDecl
  userContracts : KeyedList TypeId Contract
  /-- The types with a given last segment, in increasing order of their names. -/
  bySimpleName : KeyedList Name (List TypeId)

/-- Insert an identity into an increasing list that does not contain it. -/
def TypeId.insertSorted (ident : TypeId) : List TypeId -> List TypeId
  | [] => [ident]
  | first :: rest =>
      if ident.precedes first then ident :: first :: rest
      else first :: ident.insertSorted rest

/-- Inserting adds the identity and keeps everything else. -/
theorem TypeId.insertSorted_perm (ident : TypeId) (present : List TypeId) :
    (ident.insertSorted present).Perm (ident :: present) := by
  induction present with
  | nil => exact List.Perm.refl _
  | cons first rest inductionHypothesis =>
      unfold insertSorted
      split
      · exact List.Perm.refl _
      · exact (inductionHypothesis.cons first).trans (List.Perm.swap ident first rest)

/-- The members after an insertion are the identity and the members before. -/
theorem TypeId.mem_insertSorted_iff (ident other : TypeId) (present : List TypeId) :
    other ∈ ident.insertSorted present ↔ other = ident ∨ other ∈ present :=
  (ident.insertSorted_perm present).mem_iff.trans List.mem_cons

namespace Registry

def empty (interner : Interner) : Registry :=
  ⟨interner, .empty, .empty, .empty⟩

def candidates (registry : Registry) (name : Name) : List TypeId :=
  (registry.bySimpleName.get? name).getD []

/-- Index an identity under the last segment of its path. -/
def index (registry : Registry) (ident : TypeId) : Registry :=
  let (simple, interner) := registry.interner.intern (ident.simpleName registry.interner)
  let present := registry.candidates simple
  let updated := if ident ∈ present then present else ident.insertSorted present
  { registry with interner, bySimpleName := registry.bySimpleName.insert simple updated }

def decl? (registry : Registry) (ident : TypeId) : Option TypeDecl :=
  registry.decls.get? ident

/-- The contract that is registered for an identity. -/
def registered? (registry : Registry) (ident : TypeId) : Option Contract :=
  registry.userContracts.get? ident

/-- The contract that the author of a type wrote, if that is the registered one. -/
def userContract? (registry : Registry) (ident : TypeId) : Option UserContract :=
  (registry.registered? ident).bind Contract.supplied?

/-- Register a declaration and give back the one that it replaces. -/
def declare (registry : Registry) (decl : TypeDecl) : Option TypeDecl × Registry :=
  let registry := registry.index decl.ident
  (registry.decl? decl.ident, { registry with decls := registry.decls.insert decl.ident decl })

/-- Register a contract, of either origin, for the type that it takes apart.
Patterns use it in preference to one synthesized from the declaration. -/
def register (registry : Registry) (contract : Contract) : Registry :=
  let registry := registry.index contract.ident
  { registry with userContracts := registry.userContracts.insert contract.ident contract }

/-- Register an author's contract. -/
def registerContract (registry : Registry) (supplied : UserContract) : Registry :=
  registry.register (.userSupplied supplied)

/-- The identity has a declaration or a registered contract. -/
def knows (registry : Registry) (ident : TypeId) : Bool :=
  registry.decls.contains ident || registry.userContracts.contains ident

def resolve (registry : Registry) (name : Name) : Resolution :=
  if registry.knows ⟨name⟩ then .unique ⟨name⟩
  else
    match registry.candidates name with
    | [] => .unknown
    | [only] => .unique only
    | several => .ambiguous several

/-- The identity has a native declaration, so its descriptor is made from the
declaration alone. -/
def isNative (registry : Registry) (ident : TypeId) : Bool :=
  match registry.decl? ident with
  | some decl => decl.isNative
  | none => false

/-- A known path resolves to itself, whatever types have it as last segment. -/
theorem resolve_of_knows {registry : Registry} {name : Name}
    (known : registry.knows ⟨name⟩ = true) : registry.resolve name = .unique ⟨name⟩ := by
  simp [resolve, known]

end Registry
end StructuralProducts
