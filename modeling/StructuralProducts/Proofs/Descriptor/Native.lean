import StructuralProducts.Contract
import StructuralProducts.Proofs.Descriptor.Parts
import StructuralProducts.Proofs.Recognition

namespace StructuralProducts

/-!
# Descriptors of recognized products, exactly

Recognition leaves nothing that the check of descriptor parts could object to,
so every recognized product has a descriptor.  This module says which one, and
what it does: it builds exactly from the argument lists that inhabit the
component types, and it reads an instance field by field.

Nothing here depends on hosts.  The builder and the readers of a native
descriptor ignore the runtime, which is why the statements hold for every one.
-/

/-! ## Recognition makes the parts agree -/

namespace TypeDecl

theorem labels_nodup {decl : TypeDecl} (clean : decl.shapeProblems = []) : decl.labels.Nodup :=
  (decl.isProduct_iff.mpr clean).distinct

end TypeDecl

namespace ProductShape

theorem descriptorParts_agree {decl : TypeDecl} {shape : ProductShape}
    (recognized : recognize decl = .ok shape) (interner : Interner) :
    (shape.descriptorParts interner).Agree := by
  obtain ⟨clean, rfl⟩ := (recognize_eq_ok_iff decl shape).mp recognized
  refine ⟨?_, ?_, ?_, ?_⟩
  · simp only [descriptorParts, types, labels, List.length_map]
  · simp only [descriptorParts, arity, labels, List.length_map]
  · simp only [descriptorParts, arity, labels, List.length_map, List.length_range]
  · change (ofDecl decl).labels.Nodup
    rw [labels_ofDecl]
    exact decl.labels_nodup clean

theorem exists_descriptor {decl : TypeDecl} {shape : ProductShape}
    (recognized : recognize decl = .ok shape) (interner : Interner) :
    Exists fun descriptor => shape.descriptor interner = .ok descriptor :=
  DescriptorParts.exists_check (descriptorParts_agree recognized interner)

theorem parameters_ty (shape : ProductShape) (interner : Interner) :
    (shape.parameters interner).map (·.ty) = shape.types := by
  simp only [parameters, types, List.map_map, Function.comp_def]

end ProductShape

/-- A contract is synthesized for every recognized declaration: the check of the
parts never contradicts recognition. -/
theorem Contract.exists_synthesize {decl : TypeDecl} {shape : ProductShape}
    (recognized : ProductShape.recognize decl = .ok shape) (interner : Interner) :
    Exists fun descriptor => Contract.synthesize decl interner = .ok descriptor ∧
      shape.descriptor interner = .ok descriptor := by
  rcases ProductShape.exists_descriptor recognized interner with ⟨descriptor, made⟩
  exact ⟨descriptor, by simp only [Contract.synthesize, recognized, made], made⟩

theorem Contract.of_synthesize {decl : TypeDecl} {interner : Interner} {descriptor : Descriptor}
    (synthesized : Contract.synthesize decl interner = .ok descriptor) :
    Exists fun shape => ProductShape.recognize decl = .ok shape ∧
      shape.descriptor interner = .ok descriptor := by
  unfold Contract.synthesize at synthesized
  split at synthesized
  · cases synthesized
  · next shape recognized =>
      split at synthesized
      · cases synthesized
      · next made =>
          cases synthesized
          exact ⟨shape, recognized, made⟩

/-! ## Building and reading native instances -/

/-- Testing the arguments finds nothing exactly when equally many arguments
inhabit the types of the parameters. -/
theorem Parameter.firstMismatch?_eq_none_iff {parameters : List Parameter} {arguments : List Value}
    (count : arguments.length = parameters.length) (index : Nat) :
    Parameter.firstMismatch? index parameters arguments = none ↔
      Value.eachConforms arguments (parameters.map (·.ty)) = true := by
  induction parameters generalizing arguments index with
  | nil =>
      rw [List.length_nil, List.length_eq_zero_iff] at count
      subst count
      simp [firstMismatch?, Value.eachConforms]
  | cons parameter rest inductionHypothesis =>
      cases arguments with
      | nil => cases count
      | cons argument others =>
          have later := inductionHypothesis (Nat.succ.inj count) (index + 1)
          cases conforms : argument.conforms parameter.ty with
          | false => simp [firstMismatch?, Value.eachConforms, conforms]
          | true => simpa [firstMismatch?, Value.eachConforms, conforms] using later

/-- A construction as both kinds of descriptors do it: count the arguments, test
each against its parameter in order, and only then make the instance. -/
def Parameter.tested (path : String) (parameters : List Parameter) (arguments : List Value)
    (made : Value) : Except DescriptorError Value :=
  if arguments.length = parameters.length then
    match firstMismatch? 0 parameters arguments with
    | some mismatch => .error (.invocation path mismatch)
    | none => .ok made
  else .error (.arityMismatch path parameters.length arguments.length)

theorem Parameter.tested_eq_ok_iff (path : String) (parameters : List Parameter)
    (arguments : List Value) (made value : Value) :
    tested path parameters arguments made = .ok value ↔
      Value.eachConforms arguments (parameters.map (·.ty)) = true ∧ value = made := by
  unfold tested
  by_cases count : arguments.length = parameters.length
  · rw [if_pos count, ← firstMismatch?_eq_none_iff count 0]
    cases firstMismatch? 0 parameters arguments with
    | some mismatch => simp
    | none => simp [eq_comm]
  · rw [if_neg count]
    apply iff_of_false nofun
    rintro ⟨conform, _⟩
    exact count ((Value.length_of_eachConforms conform).trans (List.length_map _))

/-- The instance matters only for arguments that inhabit the types. -/
theorem Parameter.tested_congr {path : String} {parameters : List Parameter}
    {arguments : List Value} {first second : Value}
    (same : Value.eachConforms arguments (parameters.map (·.ty)) = true -> first = second) :
    tested path parameters arguments first = tested path parameters arguments second := by
  unfold tested
  by_cases count : arguments.length = parameters.length
  · rw [if_pos count, if_pos count]
    cases clean : firstMismatch? 0 parameters arguments with
    | some mismatch => rfl
    | none => rw [same ((firstMismatch?_eq_none_iff count 0).mp clean)]
  · rw [if_neg count, if_neg count]

namespace Descriptor

variable {shape : ProductShape} {interner : Interner} {descriptor : Descriptor}

theorem make_of_descriptor (made : shape.descriptor interner = .ok descriptor) :
    (shape.descriptorParts interner).Make descriptor :=
  (DescriptorParts.of_check made).2

theorem arity_native (made : shape.descriptor interner = .ok descriptor) :
    descriptor.arity = shape.types.length := by
  rw [arity, (make_of_descriptor made).labels]
  simp only [ProductShape.descriptorParts, ProductShape.labels, ProductShape.types,
    List.length_map]

theorem construct_native (made : shape.descriptor interner = .ok descriptor) (runtime : Runtime)
    (arguments : List Value) :
    descriptor.construct runtime arguments =
      Parameter.tested descriptor.path (shape.parameters interner) arguments
        (.record shape.ident arguments) := by
  have parts := make_of_descriptor made
  have count : descriptor.arity = (shape.parameters interner).length := by
    rw [arity_native made, ← shape.parameters_ty interner, List.length_map]
  unfold construct build Parameter.tested
  rw [parts.builder, parts.ident, count]
  rfl

/-- Native construction succeeds exactly on the argument lists that inhabit the
component types, and packs the arguments in order. -/
theorem construct_native_iff (made : shape.descriptor interner = .ok descriptor)
    (runtime : Runtime) (arguments : List Value) (value : Value) :
    descriptor.construct runtime arguments = .ok value ↔
      Value.eachConforms arguments shape.types = true ∧ value = .record shape.ident arguments := by
  rw [construct_native made, Parameter.tested_eq_ok_iff, shape.parameters_ty interner]

/-- A native component is the field at its position, and nothing else has one. -/
theorem exists_component_native_eq (made : shape.descriptor interner = .ok descriptor)
    (runtime : Runtime) {index : Nat} (inside : index < shape.types.length) (value : Value) :
    Exists fun detail => descriptor.component runtime value index =
      (value.fieldOf? shape.ident index).elim (.error (.componentAccess descriptor.path detail))
        .ok := by
  have parts := make_of_descriptor made
  have ident : descriptor.ident = shape.ident := parts.ident
  have reader : descriptor.readers[index]? = some (.field index) := by
    rw [ProductShape.types, List.length_map] at inside
    rw [parts.readers, ProductShape.descriptorParts, ProductShape.arity, List.getElem?_map,
      List.getElem?_range inside]
    rfl
  simp only [component, reader, readWith, ident]
  cases value with
  | record other fields =>
      by_cases same : other = shape.ident
      · simp only [Value.fieldOf?, if_pos same]
        cases fields[index]? with
        | some field => exact ⟨"", rfl⟩
        | none => exact ⟨_, rfl⟩
      · simp only [Value.fieldOf?, if_neg same]
        exact ⟨_, rfl⟩
  | _ => exact ⟨_, rfl⟩

/-- A native descriptor reads the leading fields of a record of its identity, as
many as it has components. -/
theorem components_native (made : shape.descriptor interner = .ok descriptor)
    (runtime : Runtime) (fields : List Value) (enough : shape.types.length ≤ fields.length) :
    descriptor.components runtime (.record shape.ident fields) =
      .ok (fields.take shape.types.length) := by
  rw [components_eq_ok_iff, arity_native made, List.length_take, Nat.min_eq_left enough]
  refine ⟨rfl, ?_⟩
  intro index field found
  have inside : index < shape.types.length := by
    have bound := (List.getElem?_eq_some_iff.mp found).1
    rw [List.length_take] at bound
    omega
  rw [List.getElem?_take_of_lt inside] at found
  rcases exists_component_native_eq made runtime inside (.record shape.ident fields) with
    ⟨detail, component⟩
  rw [component, Value.fieldOf?, if_pos rfl, found, Option.elim_some]

end Descriptor
end StructuralProducts
