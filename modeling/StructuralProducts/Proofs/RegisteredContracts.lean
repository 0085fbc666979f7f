import StructuralProducts.Contract.Table
import StructuralProducts.Registry
import StructuralProducts.Proofs.Descriptor.Native

namespace StructuralProducts

/-!
# What a registry offers for deconstruction

A registry is filled by declarations and registered contracts, in any order and
with replacements.  Whatever the order was, everything in it stands under its
own identity.  This is the one fact about the history that patterns rely on:
they look a contract up by identity and then trust the identity it carries.

`componentTypes?` says which types a deconstruction of an identity may expect,
and `provision?` which contract it goes through.  Where no contract is registered
the first speaks of the declaration alone and does not mention descriptors.
-/

namespace Registry

/-- The registries that declarations and registered contracts lead to.  The
interner is shared, so others may intern strings in between. -/
inductive Built : Registry -> Prop where
  | empty (interner : Interner) : Built (.empty interner)
  | declare {registry : Registry} (decl : TypeDecl) (built : Built registry) :
      Built (registry.declare decl).2
  | register {registry : Registry} (contract : Contract) (built : Built registry) :
      Built (registry.register contract)
  | intern {registry : Registry} (text : String) (built : Built registry) :
      Built { registry with interner := (registry.interner.intern text).2 }

/-- Every declaration and every registered contract stands under its identity. -/
structure KeysAgree (registry : Registry) : Prop where
  decl : forall {ident decl}, registry.decl? ident = some decl -> decl.ident = ident
  registered : forall {ident contract},
    registry.registered? ident = some contract -> contract.ident = ident

theorem KeysAgree.declare {registry : Registry} (agree : registry.KeysAgree) (decl : TypeDecl) :
    (registry.declare decl).2.KeysAgree where
  decl := by
    intro ident found declared
    change (registry.decls.insert decl.ident decl).get? ident = some found at declared
    by_cases same : ident = decl.ident
    · subst same
      rw [KeyedList.get?_insert_self] at declared
      cases declared
      rfl
    · rw [KeyedList.get?_insert_of_ne _ _ same] at declared
      exact agree.decl declared
  registered := agree.registered

theorem KeysAgree.register {registry : Registry} (agree : registry.KeysAgree)
    (contract : Contract) : (registry.register contract).KeysAgree where
  decl := agree.decl
  registered := by
    intro ident found known
    change (registry.userContracts.insert contract.ident contract).get? ident = some found
      at known
    by_cases same : ident = contract.ident
    · subst same
      rw [KeyedList.get?_insert_self] at known
      cases known
      rfl
    · rw [KeyedList.get?_insert_of_ne _ _ same] at known
      exact agree.registered known

/-- No history of registrations puts anything under a foreign identity. -/
theorem Built.keysAgree {registry : Registry} (built : registry.Built) : registry.KeysAgree := by
  induction built with
  | empty interner =>
      constructor
      · intro ident decl declared
        cases declared
      · intro ident contract known
        cases known
  | declare decl _ inductionHypothesis => exact inductionHypothesis.declare decl
  | register contract _ inductionHypothesis => exact inductionHypothesis.register contract
  | intern text _ inductionHypothesis =>
      exact ⟨inductionHypothesis.decl, inductionHypothesis.registered⟩

/-- The component types of an identity that can be deconstructed: those of its
registered contract, else those of its declaration if that is a product. -/
def componentTypes? (registry : Registry) (ident : TypeId) : Option (List Ty) :=
  match registry.registered? ident with
  | some contract => some contract.types
  | none =>
      match registry.decl? ident with
      | none => none
      | some decl =>
          match ProductShape.recognize decl with
          | .ok shape => some shape.types
          | .error _ => none

/-- The contract through which an identity is deconstructed, as it stands in the
table of a unit. -/
def provision? (registry : Registry) (ident : TypeId) : Option ContractEntry :=
  match registry.registered? ident with
  | some contract => some ⟨contract, none⟩
  | none =>
      match registry.decl? ident with
      | none => none
      | some decl =>
          match Contract.synthesize decl registry.interner with
          | .ok descriptor => some ⟨.synthesized descriptor, some descriptor⟩
          | .error _ => none

/-- The entry of an identity is the registered contract, or else synthesized from
the declaration. -/
theorem provision?_cases {registry : Registry} {ident : TypeId} {entry : ContractEntry}
    (provided : registry.provision? ident = some entry) :
    (Exists fun contract => registry.registered? ident = some contract ∧
      entry = ⟨contract, none⟩) ∨
    (Exists fun decl => Exists fun descriptor =>
      registry.registered? ident = none ∧ registry.decl? ident = some decl ∧
      Contract.synthesize decl registry.interner = .ok descriptor ∧
      entry = ⟨.synthesized descriptor, some descriptor⟩) := by
  unfold provision? at provided
  split at provided
  · next contract found =>
      cases provided
      exact .inl ⟨contract, found, rfl⟩
  · next absent =>
      split at provided
      · cases provided
      · next decl declared =>
          split at provided
          · next descriptor synthesized =>
              cases provided
              exact .inr ⟨decl, descriptor, absent, declared, synthesized, rfl⟩
          · cases provided

theorem KeysAgree.ident_of_provision? {registry : Registry} (agree : registry.KeysAgree)
    {ident : TypeId} {entry : ContractEntry}
    (provided : registry.provision? ident = some entry) : entry.contract.ident = ident := by
  rcases provision?_cases provided with
    ⟨contract, found, rfl⟩ | ⟨decl, descriptor, _, declared, synthesized, rfl⟩
  · exact agree.registered found
  · rcases Contract.of_synthesize synthesized with ⟨shape, recognized, made⟩
    obtain ⟨_, rfl⟩ := (ProductShape.recognize_eq_ok_iff decl shape).mp recognized
    exact (Descriptor.make_of_descriptor made).ident.trans (agree.decl declared)

theorem types_of_provision? {registry : Registry} {ident : TypeId}
    {entry : ContractEntry} (provided : registry.provision? ident = some entry) :
    entry.types = entry.contract.types := by
  rcases provision?_cases provided with
    ⟨contract, _, rfl⟩ | ⟨decl, descriptor, _, _, _, rfl⟩
  · rfl
  · rfl

theorem componentTypes?_eq_map (registry : Registry) (ident : TypeId) :
    registry.componentTypes? ident = (registry.provision? ident).map ContractEntry.types := by
  unfold componentTypes? provision?
  cases registry.registered? ident with
  | some contract => rfl
  | none =>
      cases registry.decl? ident with
      | none => rfl
      | some decl =>
          cases recognized : ProductShape.recognize decl with
          | error problems => simp only [Contract.synthesize, recognized, Option.map_none]
          | ok shape =>
              rcases Contract.exists_synthesize recognized registry.interner with
                ⟨descriptor, synthesized, made⟩
              simp only [recognized, synthesized, Option.map_some]
              exact congrArg some (Descriptor.make_of_descriptor made).types.symm

end Registry

/-! ## A small registry

One record type with two integer components, on which statements about
registries are tried. -/

namespace Sample

/-- The path of the record type and the labels of its components. -/
def interner : Interner :=
  (Interner.empty.internAll ["geo.Point", "x", "y"]).2

def pointPath : Name := Name.ofParts 1 0

/-- The last segment of the path, which the registry interns itself. -/
def pointName : Name := Name.ofParts 0 1

def xLabel : Name := Name.ofParts 8 0

def yLabel : Name := Name.ofParts 9 0

def point : TypeId := ⟨pointPath⟩

def pointDecl : TypeDecl := .record point [(xLabel, .int), (yLabel, .int)]

/-- The descriptor that the declaration gives. -/
def pointNative : Descriptor where
  ident := point
  path := "geo.Point"
  labels := [xLabel, yLabel]
  types := [.int, .int]
  builder := .record [⟨"x", .int, "int"⟩, ⟨"y", .int, "int"⟩]
  readers := [.field 0, .field 1]
  types_length := rfl
  readers_length := rfl
  labels_nodup := by decide

def registry : Registry := ((Registry.empty interner).declare pointDecl).2

theorem registry_built : registry.Built :=
  .declare pointDecl (.empty interner)

theorem registry_unsupplied (ident : TypeId) : registry.registered? ident = none := rfl

example : registry.resolve pointName = .unique point := by decide +kernel

/-- Every session shares the interner and has loaded nothing. -/
def runtime : Runtime := fun session => ⟨session, interner, .empty⟩

end Sample
end StructuralProducts
