import Mathlib.Data.List.Perm.Subperm
import StructuralProducts.Proofs.Descriptor.Native
import StructuralProducts.Proofs.Pattern.Typing
import StructuralProducts.Proofs.Reflection.Instances
import StructuralProducts.Proofs.SoleTypes

namespace StructuralProducts

/-!
# Patterns and the field order of foreign classes

A synthesized contract reads the leading fields of a record, whatever the origin
of the declaration is.  The mirror of a foreign class reads the fields by name.
Both read the same where the fields follow the canonical parameters, and that is
a condition on the class alone, which descriptors of the same shape do not imply.

The order may differ only at a position where nothing can be told apart: the
component and whatever the field at its position holds have one and the same
value.
-/

/-! ## Arguments position by position -/

theorem eachConforms_set {values : List Value} {types : List Ty}
    (conform : Value.eachConforms values types = true) {index : Nat} {value : Value} {ty : Ty}
    (typed : types[index]? = some ty) (conforms : value.conforms ty = true) :
    Value.eachConforms (values.set index value) types = true := by
  rw [Value.eachConforms_iff_getElem?] at conform ⊢
  refine ⟨List.length_set.trans conform.1, ?_⟩
  intro position other otherTy found otherTyped
  by_cases same : index = position
  · subst same
    rw [typed] at otherTyped
    cases otherTyped
    rw [List.getElem?_set_self'] at found
    rcases Option.map_eq_some_iff.mp found with ⟨_, _, rfl⟩
    exact conforms
  · rw [List.getElem?_set_ne same] at found
    exact conform.2 position other otherTy found otherTyped

/-! ## What the fields hold -/

namespace ForeignClass

variable {owner : ForeignClass}

/-- The type of what a slot holds after a constructor call, where the parameters
have given types: unit, if no parameter names the field. -/
def typeHeld (owner : ForeignClass) (parameters : List String) (types : List Ty) (slot : Nat) :
    Ty :=
  ((owner.setter? slot parameters).bind (types[·]?)).getD .unit

/-- What a slot holds after a constructor call is the argument at a position.  The
parameter there sets the slot, or the argument and the content of the slot have one
and the same value. -/
def Returns (owner : ForeignClass) (parameters : List String) (types : List Ty)
    (slot index : Nat) : Prop :=
  slot < owner.fields.length ∧
    (owner.setter? slot parameters = some index ∨
      Exists fun sole => types[index]?.bind Ty.sole? = some sole ∧
        (owner.typeHeld parameters types slot).sole? = some sole)

section

variable {parameters : List String} {types : List Ty} {slot : Nat}

/-- A slot holds a value of the type that it is said to hold. -/
theorem exists_getElem?_filled (count : parameters.length = types.length)
    {arguments : List Value} (conform : Value.eachConforms arguments types = true)
    (inside : slot < owner.fields.length) :
    Exists fun held => (owner.filled parameters arguments)[slot]? = some held ∧
      held.conforms (owner.typeHeld parameters types slot) = true := by
  rcases (Value.eachConforms_iff_getElem? _ _).mp conform with ⟨sameCount, each⟩
  rw [getElem?_filled (sameCount.trans count.symm) inside, typeHeld]
  cases located : owner.setter? slot parameters with
  | none => exact ⟨.unit, rfl, rfl⟩
  | some setter =>
      have typed := List.getElem?_eq_getElem (count ▸ setter?_lt_length located)
      have given := List.getElem?_eq_getElem (sameCount ▸ count ▸ setter?_lt_length located)
      refine ⟨_, given, ?_⟩
      rw [Option.bind_some, typed, Option.getD_some]
      exact each setter _ _ given typed

/-- Where the parameter at a position does not set a slot, the argument there and
the content of the slot can be chosen independently. -/
theorem exists_filled_apart (count : parameters.length = types.length) {index : Nat} {ty : Ty}
    (typed : types[index]? = some ty) (apart : owner.setter? slot parameters ≠ some index)
    (inside : slot < owner.fields.length) {value other : Value}
    (conforms : value.conforms ty = true)
    (otherConforms : other.conforms (owner.typeHeld parameters types slot) = true) :
    Exists fun arguments => Value.eachConforms arguments types = true ∧
      arguments[index]? = some value ∧
      (owner.filled parameters arguments)[slot]? = some other := by
  rcases Ty.exists_eachConforms types with ⟨defaults, defaultsConform⟩
  have chosen := eachConforms_set defaultsConform typed conforms
  have sameCount := Value.length_of_eachConforms defaultsConform
  have given : index < defaults.length :=
    sameCount ▸ (List.getElem?_eq_some_iff.mp typed).1
  unfold typeHeld at otherConforms
  cases located : owner.setter? slot parameters with
  | none =>
      rw [located] at otherConforms
      cases other with
      | unit =>
          refine ⟨defaults.set index value, chosen, List.getElem?_set_self given, ?_⟩
          have enough := (Value.length_of_eachConforms chosen).trans count.symm
          rw [getElem?_filled enough inside, located, Option.elim_none]
      | _ => cases otherConforms
  | some setter =>
      have differ : setter ≠ index := by
        rintro rfl
        exact apart located
      have setterTyped := List.getElem?_eq_getElem (count ▸ setter?_lt_length located)
      rw [located, Option.bind_some, setterTyped, Option.getD_some] at otherConforms
      have both := eachConforms_set chosen setterTyped otherConforms
      refine ⟨(defaults.set index value).set setter other, both, ?_, ?_⟩
      · rw [List.getElem?_set_ne differ, List.getElem?_set_self given]
      · have enough := (Value.length_of_eachConforms both).trans count.symm
        rw [getElem?_filled enough inside, located, Option.elim_some]
        apply List.getElem?_set_self
        rw [List.length_set, sameCount]
        exact count ▸ setter?_lt_length located

/-- A slot returns the argument at a position exactly when it does so in every
instance. -/
theorem forall_getElem?_filled_iff (count : parameters.length = types.length) {index : Nat}
    (typedInside : index < types.length) :
    (forall arguments, Value.eachConforms arguments types = true ->
      (owner.filled parameters arguments)[slot]? = arguments[index]?) ↔
      owner.Returns parameters types slot index := by
  have typed := List.getElem?_eq_getElem typedInside
  constructor
  · intro same
    have inside : slot < owner.fields.length := by
      rcases Ty.exists_eachConforms types with ⟨defaults, conform⟩
      have given := List.getElem?_eq_getElem (Value.length_of_eachConforms conform ▸ typedInside)
      have held := (same defaults conform).trans given
      rw [← owner.length_filled parameters defaults]
      exact (List.getElem?_eq_some_iff.mp held).1
    refine ⟨inside, ?_⟩
    by_cases set : owner.setter? slot parameters = some index
    · exact .inl set
    · right
      rw [typed, Option.bind_some]
      apply (Ty.forall_eq_iff _ _).mp
      intro value other conforms otherConforms
      rcases exists_filled_apart count typed set inside conforms otherConforms with
        ⟨arguments, conform, given, held⟩
      exact Option.some.inj (held.symm.trans ((same arguments conform).trans given))
  · rintro ⟨inside, set | ⟨sole, typeSole, heldSole⟩⟩ arguments conform
    · have enough := (Value.length_of_eachConforms conform).trans count.symm
      rw [getElem?_filled enough inside, set, Option.elim_some]
    · rcases exists_getElem?_filled count conform inside with ⟨held, found, heldConforms⟩
      have given := List.getElem?_eq_getElem (Value.length_of_eachConforms conform ▸ typedInside)
      have conforms := ((Value.eachConforms_iff_getElem? _ _).mp conform).2 index _ _ given typed
      rw [typed, Option.bind_some] at typeSole
      rw [found, given, Ty.eq_of_sole? heldSole heldConforms, Ty.eq_of_sole? typeSole conforms]

end

/-- The type of what the field at a position holds in an instance: unit, if no
canonical parameter sets the field. -/
def heldType (owner : ForeignClass) (slot : Nat) : Ty :=
  ((owner.canonicalParameters.find? (owner.slot? · == some slot)).bind owner.fieldType?).getD .unit

/-- The fields begin with those of the canonical parameters in order, up to
components that have only the value that the field holds anyway. -/
def InOrder (owner : ForeignClass) : Prop :=
  forall index parameter, owner.canonicalParameters[index]? = some parameter ->
    owner.slot? parameter = some index ∨
      Exists fun sole => (owner.fieldType? parameter).bind Ty.sole? = some sole ∧
        (owner.heldType index).sole? = some sole

end ForeignClass

namespace Host.Discovers

variable {host : Host} {handle : ClassHandle} {owner : ForeignClass} {mirror : Descriptor}

theorem exists_type (discovers : host.Discovers handle owner mirror) {index : Nat}
    {parameter : String} (named : owner.canonicalParameters[index]? = some parameter) :
    Exists fun ty => mirror.types[index]? = some ty ∧ owner.fieldType? parameter = some ty := by
  have typed := congrArg (fun types => types[index]?) discovers.types
  simp only [List.getElem?_map, named, Option.map_some] at typed
  rcases Option.map_eq_some_iff.mp typed.symm with ⟨ty, present, found⟩
  exact ⟨ty, present, found.symm⟩

/-- Distinct parameters name distinct fields, so there are enough of them. -/
theorem arity_le_length_fields (discovers : host.Discovers handle owner mirror) :
    mirror.arity ≤ owner.fields.length := by
  have named : owner.canonicalParameters ⊆ owner.fields.map (·.name) := by
    intro parameter member
    rcases List.mem_iff_getElem?.mp member with ⟨index, present⟩
    rcases discovers.exists_slot? present with ⟨slot, located⟩
    rcases ForeignClass.exists_field_of_slot? located with ⟨field, found, name, _⟩
    exact List.mem_map.mpr ⟨field, List.mem_of_getElem? found, name⟩
  have count := (List.subperm_of_subset discovers.nodup_canonicalParameters named).length_le
  rw [discovers.length_canonicalParameters, List.length_map] at count
  exact count

/-- A field holds a value of the same type, said by the position of the parameter
that sets it or by its name. -/
theorem typeHeld_eq_heldType (discovers : host.Discovers handle owner mirror) (slot : Nat) :
    owner.typeHeld owner.canonicalParameters mirror.types slot = owner.heldType slot := by
  unfold ForeignClass.typeHeld ForeignClass.heldType
  cases setter : owner.setter? slot owner.canonicalParameters with
  | none =>
      have absent : owner.canonicalParameters.find? (owner.slot? · == some slot) = none := by
        rw [List.find?_eq_none]
        intro parameter member located
        exact ForeignClass.slot?_ne_of_setter?_eq_none setter member (eq_of_beq located)
      rw [absent]
      rfl
  | some index =>
      rcases ForeignClass.exists_located_of_setter? setter with ⟨parameter, named, located⟩
      rcases discovers.exists_type named with ⟨ty, typed, fieldTyped⟩
      have found : owner.canonicalParameters.find? (owner.slot? · == some slot) =
          some parameter := by
        cases first : owner.canonicalParameters.find? (owner.slot? · == some slot) with
        | none =>
            have missing := List.find?_eq_none.mp first parameter (List.mem_of_getElem? named)
            exact absurd (beq_iff_eq.mpr located) missing
        | some other =>
            have otherLocated := List.find?_some first
            rw [ForeignClass.slot?_injective (eq_of_beq otherLocated) located]
      rw [found, Option.bind_some, Option.bind_some, typed, fieldTyped]

/-- The fields are in order exactly when the field at each position returns the
argument there. -/
theorem inOrder_iff_returns (discovers : host.Discovers handle owner mirror) :
    owner.InOrder ↔ forall index, index < mirror.arity ->
      owner.Returns owner.canonicalParameters mirror.types index index := by
  have setter_iff {index : Nat} {parameter : String}
      (named : owner.canonicalParameters[index]? = some parameter) :
      owner.setter? index owner.canonicalParameters = some index ↔
        owner.slot? parameter = some index := by
    constructor
    · intro set
      rcases ForeignClass.exists_located_of_setter? set with ⟨other, otherNamed, located⟩
      rw [named] at otherNamed
      cases otherNamed
      exact located
    · exact ForeignClass.setter?_of_nodup discovers.nodup_canonicalParameters named
  have clause_iff {index : Nat} {parameter : String}
      (named : owner.canonicalParameters[index]? = some parameter) :
      owner.Returns owner.canonicalParameters mirror.types index index ↔
        (owner.slot? parameter = some index ∨
          Exists fun sole => (owner.fieldType? parameter).bind Ty.sole? = some sole ∧
            (owner.heldType index).sole? = some sole) := by
    rcases discovers.exists_type named with ⟨ty, typed, fieldTyped⟩
    have inside : index < owner.fields.length := by
      have listed := (List.getElem?_eq_some_iff.mp named).1
      rw [discovers.length_canonicalParameters] at listed
      exact Nat.lt_of_lt_of_le listed discovers.arity_le_length_fields
    rw [ForeignClass.Returns, setter_iff named, discovers.typeHeld_eq_heldType, typed, fieldTyped]
    exact and_iff_right inside
  constructor
  · intro inOrder index inside
    rw [← discovers.length_canonicalParameters] at inside
    have named := List.getElem?_eq_getElem inside
    exact (clause_iff named).mpr (inOrder index _ named)
  · intro returns index parameter named
    apply (clause_iff named).mp (returns index _)
    rw [← discovers.length_canonicalParameters]
    exact (List.getElem?_eq_some_iff.mp named).1

/-- The leading fields of every instance are its arguments exactly when the fields
are in order. -/
theorem forall_take_stored_iff (discovers : host.Discovers handle owner mirror) :
    (forall arguments, Value.eachConforms arguments mirror.types = true ->
      (owner.stored arguments).take mirror.arity = arguments) ↔ owner.InOrder := by
  have count : owner.canonicalParameters.length = mirror.types.length :=
    discovers.length_canonicalParameters.trans mirror.types_length_eq_arity.symm
  rw [discovers.inOrder_iff_returns]
  constructor
  · intro same index inside
    rw [← ForeignClass.forall_getElem?_filled_iff count
      (mirror.types_length_eq_arity.symm ▸ inside)]
    intro arguments conform
    have read := congrArg (fun values => values[index]?) (same arguments conform)
    simp only [List.getElem?_take_of_lt inside] at read
    exact read
  · intro returns arguments conform
    have given := (Value.length_of_eachConforms conform).trans mirror.types_length_eq_arity
    apply List.ext_getElem?
    intro index
    by_cases inside : index < mirror.arity
    · rw [List.getElem?_take_of_lt inside]
      exact (ForeignClass.forall_getElem?_filled_iff count
        (mirror.types_length_eq_arity.symm ▸ inside)).mpr (returns index inside) arguments conform
    · rw [List.getElem?_eq_none, List.getElem?_eq_none]
      · exact given ▸ Nat.le_of_not_lt inside
      · rw [List.length_take]
        omega

end Host.Discovers

/-! ## The contract against the mirror -/

/-- Every unit takes a declared product without a registered contract apart with
the contract that is synthesized from its declaration. -/
theorem PatternUnit.contract_of_compile {registry : Registry} (keys : registry.KeysAgree)
    {decl : TypeDecl} (declared : registry.decl? decl.ident = some decl)
    (unsupplied : registry.registered? decl.ident = none) {native : Descriptor}
    (synthesized : Contract.synthesize decl registry.interner = .ok native)
    {written : PatternUnit} {session : SessionId} {limits : LoweringLimits}
    {compiled : CompiledUnit} (compiles : written.compile session registry limits = .ok compiled)
    {id : ContractId} {contract : Contract}
    (found : compiled.contracts.contract? id = some contract)
    (identity : contract.ident = decl.ident) : contract = .synthesized native := by
  rcases Option.map_eq_some_iff.mp found with ⟨entry, present, rfl⟩
  have provided := provision?_of_compile keys compiles present
  simp only [identity, Registry.provision?, unsupplied, declared, synthesized] at provided
  cases provided
  rfl

/-- A class is loaded under the path of a declared product without a registered
contract.  It has the identity of the product, its accessors read the fields of
their names, and introspection finds the shape that the declaration gives. -/
structure Host.Mirrors (host : Host) (registry : Registry) (decl : TypeDecl)
    (native : Descriptor) (handle : ClassHandle) (owner : ForeignClass) (mirror : Descriptor) :
    Prop where
  declared : registry.decl? decl.ident = some decl
  unsupplied : registry.registered? decl.ident = none
  synthesized : Contract.synthesize decl registry.interner = .ok native
  named : host.symbols.handleOf? (decl.ident.path host.interner) = some handle
  loaded : host.symbols.classAt? handle = some owner
  identity : owner.ident = decl.ident
  reads : owner.ReadsFields
  introspected : (host.introspect decl.ident).1 = .ok mirror
  sameShape : mirror.sameShape native = true

theorem Host.Mirrors.discovers {host : Host} {registry : Registry} {decl : TypeDecl}
    {native : Descriptor} {handle : ClassHandle} {owner : ForeignClass} {mirror : Descriptor}
    (mirrors : host.Mirrors registry decl native handle owner mirror) :
    host.Discovers handle owner mirror :=
  (host.discovers_of_named mirrors.named mirrors.loaded mirrors.introspected).2

/-- The synthesized contract takes the leading fields of an instance, as many as
the mirror has components. -/
theorem Host.Mirrors.bind_stored {host : Host} {registry : Registry} {decl : TypeDecl}
    {native : Descriptor} {handle : ClassHandle} {owner : ForeignClass} {mirror : Descriptor}
    (mirrors : host.Mirrors registry decl native handle owner mirror) (runtime : Runtime)
    (arguments : List Value) :
    (Contract.synthesized native).bind runtime (.record owner.ident (owner.stored arguments)) =
      .ok ((owner.stored arguments).take mirror.arity) := by
  rcases Contract.of_synthesize mirrors.synthesized with ⟨shape, recognized, made⟩
  obtain ⟨_, rfl⟩ := (ProductShape.recognize_eq_ok_iff decl shape).mp recognized
  have same := mirrors.sameShape
  simp only [Descriptor.sameShape, Bool.and_eq_true, beq_iff_eq] at same
  have arity : (ProductShape.ofDecl decl).types.length = mirror.arity := by
    rw [← mirror.types_length_eq_arity, same.2, (Descriptor.make_of_descriptor made).types]
    rfl
  have enough : (ProductShape.ofDecl decl).types.length ≤ (owner.stored arguments).length := by
    rw [arity, ForeignClass.stored, ForeignClass.length_scatter, List.length_replicate]
    exact mirrors.discovers.arity_le_length_fields
  rw [Contract.bind_synthesized, mirrors.identity, ← arity]
  exact Descriptor.components_native made runtime _ enough

/-- The mirror of a declared product reads the arguments of every instance back.
Patterns go through the contract that is synthesized from the declaration.  That
contract reads them back, for every instance, exactly when the fields of the class
are in order. -/
theorem Host.bind_constructed_iff_inOrder {registry : Registry} (built : registry.Built)
    {host : Host} {decl : TypeDecl} {native mirror : Descriptor} {handle : ClassHandle}
    {owner : ForeignClass} (mirrors : host.Mirrors registry decl native handle owner mirror)
    (runtime : Runtime)
    (remains : (runtime host.session).symbols.classAt? handle = some owner) :
    (forall (written : PatternUnit) (session : SessionId) (limits : LoweringLimits)
        (compiled : CompiledUnit) (id : ContractId) (contract : Contract),
      written.compile session registry limits = .ok compiled ->
        compiled.contracts.contract? id = some contract -> contract.ident = decl.ident ->
          contract = .synthesized native) ∧
    (forall arguments value, mirror.construct runtime arguments = .ok value ->
      mirror.components runtime value = .ok arguments) ∧
    ((forall arguments value, mirror.construct runtime arguments = .ok value ->
        (Contract.synthesized native).bind runtime value = .ok arguments) ↔
      owner.InOrder) := by
  have discovers := mirrors.discovers
  refine ⟨?_, ?_, ?_⟩
  · intro written session limits compiled id contract compiles found identity
    exact PatternUnit.contract_of_compile built.keysAgree mirrors.declared mirrors.unsupplied
      mirrors.synthesized compiles found identity
  · intro arguments value constructed
    obtain ⟨conform, rfl⟩ := (discovers.construct_iff remains arguments value).mp constructed
    exact discovers.components_stored remains mirrors.reads conform
  · rw [← discovers.forall_take_stored_iff]
    constructor
    · intro reading arguments conform
      have constructed := (discovers.construct_iff remains arguments _).mpr ⟨conform, rfl⟩
      have bound := mirrors.bind_stored runtime arguments
      exact Except.ok.inj (bound.symm.trans (reading arguments _ constructed))
    · intro ordered arguments value constructed
      obtain ⟨conform, rfl⟩ := (discovers.construct_iff remains arguments value).mp constructed
      rw [mirrors.bind_stored, ordered arguments conform]

namespace Sample

/-- The point of the registry as a foreign declaration. -/
def foreignDecl : TypeDecl := { pointDecl with origin := .foreign }

def foreignRegistry : Registry := ((Registry.empty interner).declare foreignDecl).2

theorem foreignRegistry_built : foreignRegistry.Built :=
  .declare foreignDecl (.empty interner)

/-- A class of points that declares its fields in the order given. -/
def pointClass (fields : List String) : ForeignClass :=
  (((fields.foldl (fun owner name => owner.withField name .int)
    (ForeignClass.bare point "geo.Point")).withConstructor ["x", "y"] true).withAccessor
    "x").withAccessor "y"

def pointHost (fields : List String) : Host :=
  ⟨⟨0⟩, interner, (SymbolTable.empty.load (pointClass fields)).2⟩

/-- What introspection finds, whichever field comes first. -/
def pointMirror : Descriptor where
  ident := point
  path := "geo.Point"
  labels := [xLabel, yLabel]
  types := [.int, .int]
  builder := .reflective ⟨0⟩ ⟨⟨0⟩, 0⟩
  readers := [.reflective ⟨0⟩ ⟨⟨0⟩, 0⟩, .reflective ⟨0⟩ ⟨⟨0⟩, 1⟩]
  types_length := pointNative.types_length
  readers_length := rfl
  labels_nodup := pointNative.labels_nodup

theorem mirrors_inOrder : (pointHost ["x", "y"]).Mirrors foreignRegistry foreignDecl pointNative
    ⟨0⟩ (pointClass ["x", "y"]) pointMirror where
  declared := rfl
  unsupplied := rfl
  synthesized := by with_unfolding_all rfl
  named := by decide +kernel
  loaded := rfl
  identity := rfl
  reads := by
    unfold ForeignClass.ReadsFields
    decide +kernel
  introspected := by with_unfolding_all rfl
  sameShape := by decide

theorem mirrors_swapped : (pointHost ["y", "x"]).Mirrors foreignRegistry foreignDecl pointNative
    ⟨0⟩ (pointClass ["y", "x"]) pointMirror where
  declared := rfl
  unsupplied := rfl
  synthesized := by with_unfolding_all rfl
  named := by decide +kernel
  loaded := rfl
  identity := rfl
  reads := by
    unfold ForeignClass.ReadsFields
    decide +kernel
  introspected := by with_unfolding_all rfl
  sameShape := by decide

theorem pointClass_inOrder : (pointClass ["x", "y"]).InOrder := by
  have slots : forall index, index < 2 ->
      ((pointClass ["x", "y"]).canonicalParameters[index]?).bind (pointClass ["x", "y"]).slot? =
        some index := by decide +kernel
  have count : (pointClass ["x", "y"]).canonicalParameters.length = 2 := by decide +kernel
  intro index parameter named
  have located := slots index (count ▸ (List.getElem?_eq_some_iff.mp named).1)
  rw [named] at located
  exact .inl located

end Sample

/-- With the fields in order, a point is taken apart into the arguments that made
it. -/
theorem Host.bind_constructed_inOrder :
    (Sample.pointClass ["x", "y"]).InOrder ∧
      (Contract.synthesized Sample.pointNative).bind (fun _ => Sample.pointHost ["x", "y"])
        (.record Sample.point [.int 1, .int 2]) = .ok [.int 1, .int 2] := by
  have readings := Host.bind_constructed_iff_inOrder Sample.foreignRegistry_built
    Sample.mirrors_inOrder (fun _ => Sample.pointHost ["x", "y"]) rfl
  refine ⟨Sample.pointClass_inOrder, ?_⟩
  exact readings.2.2.mpr Sample.pointClass_inOrder [.int 1, .int 2] _ rfl

/-- With the fields the other way round, the descriptors agree as before, the
mirror reads the arguments back, and the contract reads them the other way round. -/
theorem Host.bind_constructed_swapped :
    Sample.foreignDecl.origin = .foreign ∧ Sample.foreignRegistry.Built ∧
      (Sample.pointHost ["y", "x"]).Mirrors Sample.foreignRegistry Sample.foreignDecl
        Sample.pointNative ⟨0⟩ (Sample.pointClass ["y", "x"]) Sample.pointMirror ∧
      Sample.pointMirror.construct (fun _ => Sample.pointHost ["y", "x"]) [.int 1, .int 2] =
        .ok (.record Sample.point [.int 2, .int 1]) ∧
      Sample.pointMirror.components (fun _ => Sample.pointHost ["y", "x"])
        (.record Sample.point [.int 2, .int 1]) = .ok [.int 1, .int 2] ∧
      (Contract.synthesized Sample.pointNative).bind (fun _ => Sample.pointHost ["y", "x"])
        (.record Sample.point [.int 2, .int 1]) = .ok [.int 2, .int 1] ∧
      ¬ forall arguments value,
        Sample.pointMirror.construct (fun _ => Sample.pointHost ["y", "x"]) arguments =
            .ok value ->
          (Contract.synthesized Sample.pointNative).bind
            (fun _ => Sample.pointHost ["y", "x"]) value = .ok arguments := by
  refine ⟨rfl, Sample.foreignRegistry_built, Sample.mirrors_swapped, rfl, rfl, rfl, ?_⟩
  intro reading
  have read := Except.ok.inj (reading [.int 1, .int 2] _ rfl)
  exact absurd (Value.int.inj (List.cons.inj read).1) (by decide)

end StructuralProducts
