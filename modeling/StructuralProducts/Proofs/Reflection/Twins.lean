import StructuralProducts.Proofs.IssuedNames
import StructuralProducts.Proofs.Reflection.FieldOrder
import StructuralProducts.Proofs.Reflection.Surveys

namespace StructuralProducts

/-!
# Declarations and the classes that copy them

A class copies a declaration when its fields are the components in order and its
one canonical constructor takes all of them in order.  It may have whatever other
constructors and methods besides.  Then there are two descriptors of one type:
the declaration gives one and introspection finds the other.

They have the same shape, and their constructions cannot be told apart, neither
by what they make nor by how they refuse.  Their components can: both read the
same fields, but they refuse in different ways.
-/

/-! ## What a constructor call gives -/

namespace ForeignClass

variable {owner : ForeignClass}

/-- Fields of different names are found by their names. -/
theorem typedSlot?_of_nodup (distinct : (owner.fields.map (·.name)).Nodup) {slot : Nat}
    {field : ForeignField} (present : owner.fields[slot]? = some field) :
    owner.typedSlot? field.name = some (slot, field.ty) := by
  rcases List.getElem?_eq_some_iff.mp present with ⟨inside, rfl⟩
  have located : owner.fields.findIdx? (·.name == owner.fields[slot].name) = some slot := by
    rw [List.findIdx?_eq_some_iff_getElem]
    refine ⟨inside, beq_self_eq_true _, ?_⟩
    intro earlier before same
    have earlierInside := Nat.lt_trans before inside
    have names : (owner.fields.map (·.name))[earlier]? = (owner.fields.map (·.name))[slot]? := by
      rw [List.getElem?_map, List.getElem?_map, List.getElem?_eq_getElem earlierInside,
        List.getElem?_eq_getElem inside, Option.map_some, Option.map_some, eq_of_beq same]
    have bound : earlier < (owner.fields.map (·.name)).length := by
      rw [List.length_map]
      exact earlierInside
    exact Nat.ne_of_lt before ((List.getElem?_inj bound distinct).mp names)
  simp only [typedSlot?, located, Option.bind_some, List.getElem?_eq_getElem inside,
    Option.map_some]

/-- A parameter has the type of the field it names, and is shown by it. -/
def Shows (owner : ForeignClass) (interner : Interner) (parameter : Parameter) : Prop :=
  owner.fieldType? parameter.label = some parameter.ty ∧
    parameter.shown = parameter.ty.display interner

/-- The host tests arguments as a record builder does, and in the same order. -/
theorem place_eq {interner : Interner} {parameters : List Parameter}
    (shows : forall parameter, parameter ∈ parameters -> owner.Shows interner parameter)
    (index : Nat) (arguments slots : List Value) :
    owner.place interner index (parameters.map (·.label)) arguments slots =
      match Parameter.firstMismatch? index parameters arguments with
      | some mismatch => .error mismatch
      | none => .ok (owner.scatter (parameters.map (·.label)) arguments slots) := by
  induction parameters generalizing index arguments slots with
  | nil => simp only [List.map_nil, place, Parameter.firstMismatch?, scatter]
  | cons parameter rest inductionHypothesis =>
      cases arguments with
      | nil => simp only [List.map_cons, place, Parameter.firstMismatch?, scatter]
      | cons argument others =>
          rcases shows parameter List.mem_cons_self with ⟨typed, shown⟩
          rcases Option.map_eq_some_iff.mp typed with ⟨⟨slot, ty⟩, found, rfl⟩
          have located : owner.slot? parameter.label = some slot := by
            rw [slot?, found, Option.map_some]
          have later := inductionHypothesis
            (fun other member => shows other (List.mem_cons_of_mem _ member))
            (index + 1) others (slots.set slot argument)
          by_cases conforms : argument.conforms parameter.ty = true
          · simp only [List.map_cons, place, found, Parameter.firstMismatch?, conforms, if_true,
              scatter, located, later]
          · simp only [List.map_cons, place, found, Parameter.firstMismatch?, conforms, shown,
              if_false, Bool.false_eq_true]

end ForeignClass

/-- A discovered descriptor tests its arguments as a native one does, whatever the
order of the fields is. -/
theorem Host.Discovers.construct_eq {host : Host} {handle : ClassHandle} {owner : ForeignClass}
    {mirror : Descriptor} {runtime : Runtime} (discovers : host.Discovers handle owner mirror)
    (loaded : (runtime host.session).symbols.classAt? handle = some owner)
    {parameters : List Parameter} (labels : parameters.map (·.label) = owner.canonicalParameters)
    (shows : forall parameter, parameter ∈ parameters ->
      owner.Shows (runtime host.session).interner parameter)
    (arguments : List Value) :
    mirror.construct runtime arguments =
      Parameter.tested mirror.path parameters arguments
        (.record owner.ident (owner.stored arguments)) := by
  rcases discovers.builder with ⟨index, constructor, present, canonical, builder⟩
  have parameterCount : parameters.length = constructor.parameters.length := by
    rw [canonical, ← labels, List.length_map]
  have arity : mirror.arity = parameters.length := by
    rw [← discovers.length_canonicalParameters, ← labels, List.length_map]
  unfold Descriptor.construct Parameter.tested
  rw [arity]
  by_cases count : arguments.length = parameters.length
  · rw [if_pos count, if_pos count]
    have placed := ForeignClass.place_eq shows 0 arguments
      (List.replicate owner.fields.length .unit)
    rw [labels] at placed
    simp only [Descriptor.build, builder, Host.invoke, loaded, ForeignClass.invoke, present,
      count, parameterCount, if_true, canonical, placed]
    cases Parameter.firstMismatch? 0 parameters arguments with
    | some mismatch => rfl
    | none => rfl
  · rw [if_neg count, if_neg count]

/-! ## Copies -/

/-- A class with the fields and the canonical constructor of a declaration, and
an accessor for each component.  `known` gives the strings of the labels. -/
structure ForeignClass.Copies (owner : ForeignClass) (known : Interner) (decl : TypeDecl) :
    Prop where
  identity : owner.ident = decl.ident
  fields : owner.fields = decl.components.map fun component =>
    ⟨known.lookup component.label, component.ty⟩
  canonical : owner.constructors.filter (·.isCanonical) =
    [⟨decl.labels.map known.lookup, true⟩]
  accessors : forall label, label ∈ decl.labels -> Exists fun method =>
    method ∈ owner.methods ∧ method.name = known.lookup label ∧ method.parameterCount = 0

/-- A class that copies a declaration is loaded under the path of the declaration,
and all names of the declaration were issued before. -/
structure Host.Twin (host : Host) (known : Interner) (decl : TypeDecl) (handle : ClassHandle)
    (owner : ForeignClass) : Prop where
  names : decl.NamedIn known
  grown : known.Grows host.interner
  named : host.symbols.handleOf? (decl.ident.path known) = some handle
  loaded : host.symbols.classAt? handle = some owner
  copies : owner.Copies known decl

namespace ForeignClass.Copies

variable {owner : ForeignClass} {known : Interner} {decl : TypeDecl}

theorem canonicalParameters (copies : owner.Copies known decl) :
    owner.canonicalParameters = decl.labels.map known.lookup := by
  rw [ForeignClass.canonicalParameters, copies.canonical]
  exact List.append_nil _

theorem map_name_fields (copies : owner.Copies known decl) :
    owner.fields.map (·.name) = decl.labels.map known.lookup := by
  simp only [copies.fields, TypeDecl.labels, List.map_map, Function.comp_def]

/-- Each label finds the field at the position of its component. -/
theorem typedSlot? (copies : owner.Copies known decl) (names : decl.NamedIn known)
    (distinct : decl.labels.Nodup) {index : Nat} {component : ComponentDecl}
    (present : decl.components[index]? = some component) :
    owner.typedSlot? (known.lookup component.label) = some (index, component.ty) := by
  have fieldNames : (owner.fields.map (·.name)).Nodup := by
    rw [copies.map_name_fields]
    exact Interner.nodup_map_lookup names.started names.issued_label distinct
  have field : owner.fields[index]? = some ⟨known.lookup component.label, component.ty⟩ := by
    rw [copies.fields, List.getElem?_map, present, Option.map_some]
  exact ForeignClass.typedSlot?_of_nodup fieldNames field

theorem fieldType? (copies : owner.Copies known decl) (names : decl.NamedIn known)
    (distinct : decl.labels.Nodup) {component : ComponentDecl}
    (member : component ∈ decl.components) :
    owner.fieldType? (known.lookup component.label) = some component.ty := by
  rcases List.mem_iff_getElem?.mp member with ⟨index, present⟩
  rw [ForeignClass.fieldType?, copies.typedSlot? names distinct present, Option.map_some]

theorem map_fieldType? (copies : owner.Copies known decl) (names : decl.NamedIn known)
    (distinct : decl.labels.Nodup) :
    owner.canonicalParameters.map owner.fieldType? = (decl.components.map (·.ty)).map some := by
  rw [copies.canonicalParameters, TypeDecl.labels, List.map_map, List.map_map, List.map_map]
  apply List.map_congr_left
  intro component member
  exact copies.fieldType? names distinct member

theorem slot? (copies : owner.Copies known decl) (names : decl.NamedIn known)
    (distinct : decl.labels.Nodup) {index : Nat} {parameter : String}
    (named : owner.canonicalParameters[index]? = some parameter) :
    owner.slot? parameter = some index := by
  rw [copies.canonicalParameters, TypeDecl.labels, List.map_map, List.getElem?_map] at named
  rcases Option.map_eq_some_iff.mp named with ⟨component, present, rfl⟩
  rw [Function.comp_apply, ForeignClass.slot?, copies.typedSlot? names distinct present,
    Option.map_some]

theorem wellShaped (copies : owner.Copies known decl) (names : decl.NamedIn known)
    (distinct : decl.labels.Nodup) : owner.WellShaped where
  canonical := ⟨_, copies.canonical⟩
  accessors := by
    intro parameter member
    rw [copies.canonicalParameters] at member
    rcases List.mem_map.mp member with ⟨label, present, rfl⟩
    exact copies.accessors label present
  typed := by
    intro parameter member
    rw [copies.canonicalParameters, TypeDecl.labels, List.map_map] at member
    rcases List.mem_map.mp member with ⟨component, present, rfl⟩
    exact ⟨component.ty, copies.fieldType? names distinct present⟩

end ForeignClass.Copies

namespace Host.Twin

variable {host : Host} {known : Interner} {decl : TypeDecl} {handle : ClassHandle}
  {owner : ForeignClass} {shape : ProductShape} {interner : Interner} {native mirror : Descriptor}

/-- Introspection finds a descriptor with the path, the identity, the labels and
the types of the declaration. -/
theorem exists_introspect (twin : host.Twin known decl handle owner)
    (distinct : decl.labels.Nodup) : Exists fun mirror =>
      (host.introspect decl.ident).1 = .ok mirror ∧ host.Discovers handle owner mirror ∧
      mirror.ident = decl.ident ∧ mirror.path = decl.ident.path known ∧
      mirror.labels = decl.labels ∧ mirror.types = decl.components.map (·.ty) := by
  have named := twin.named
  rw [← twin.names.path_eq twin.grown] at named
  have interned : (host.interner.internAll owner.canonicalParameters).1 = decl.labels := by
    rw [twin.copies.canonicalParameters,
      Interner.internAll_of_issued twin.names.started twin.grown twin.names.issued_label]
  have found := (SymbolTable.classNamed?_of_handleOf? named).trans twin.loaded
  rcases Host.exists_introspect found (twin.copies.wellShaped twin.names distinct)
    (interned.symm ▸ distinct) with ⟨mirror, introspected⟩
  rcases Host.discovers_of_named named twin.loaded introspected with ⟨identity, discovers⟩
  refine ⟨mirror, introspected, discovers, identity, ?_, discovers.labels.trans interned, ?_⟩
  · rw [Host.path_of_introspect introspected, twin.names.path_eq twin.grown]
  · have types := discovers.types
    rw [twin.copies.map_fieldType? twin.names distinct] at types
    exact (List.map_injective_iff.mpr (fun _ _ => Option.some.inj) types).symm

/-- The parameters that a native descriptor tests are those that the host shows. -/
theorem shows_parameters (twin : host.Twin known decl handle owner)
    (distinct : decl.labels.Nodup) (grown : known.Grows interner) {runtime : Runtime}
    (running : known.Grows (runtime host.session).interner) :
    forall parameter, parameter ∈ (ProductShape.ofDecl decl).parameters interner ->
      owner.Shows (runtime host.session).interner parameter := by
  intro parameter member
  simp only [ProductShape.parameters, ProductShape.ofDecl, List.map_map, List.mem_map,
    Function.comp_apply] at member
  rcases member with ⟨component, present, rfl⟩
  refine ⟨?_, ?_⟩
  · rw [twin.names.label_eq grown present]
    exact twin.copies.fieldType? twin.names distinct present
  · rw [twin.names.display_eq grown present, twin.names.display_eq running present]

theorem map_label_parameters (twin : host.Twin known decl handle owner)
    (grown : known.Grows interner) :
    ((ProductShape.ofDecl decl).parameters interner).map (·.label) =
      owner.canonicalParameters := by
  simp only [twin.copies.canonicalParameters, ProductShape.parameters, ProductShape.ofDecl,
    TypeDecl.labels, List.map_map]
  apply List.map_congr_left
  intro component member
  exact twin.names.label_eq grown member

/-- The fields of an instance are its arguments. -/
theorem stored_eq (twin : host.Twin known decl handle owner) (distinct : decl.labels.Nodup)
    (discovers : host.Discovers handle owner mirror) {arguments : List Value}
    (conform : Value.eachConforms arguments mirror.types = true) :
    owner.stored arguments = arguments := by
  have inOrder : owner.InOrder := fun index parameter named =>
    .inl (twin.copies.slot? twin.names distinct named)
  have leading := discovers.forall_take_stored_iff.mpr inOrder arguments conform
  have count : (owner.stored arguments).length = mirror.arity := by
    rw [ForeignClass.stored, ForeignClass.length_scatter, List.length_replicate,
      ← discovers.length_canonicalParameters, twin.copies.canonicalParameters,
      ← twin.copies.map_name_fields, List.length_map]
  rwa [← count, List.take_length] at leading

/-- What the declaration gives and what introspection finds. -/
theorem exists_descriptors (twin : host.Twin known decl handle owner)
    (recognized : ProductShape.recognize decl = .ok shape) (grown : known.Grows interner) :
    Exists fun native => Exists fun mirror =>
      shape.descriptor interner = .ok native ∧ (host.introspect decl.ident).1 = .ok mirror ∧
      host.Discovers handle owner mirror ∧ native.path = decl.ident.path known ∧
      mirror.path = decl.ident.path known ∧ mirror.sameShape native = true := by
  rcases ProductShape.exists_descriptor recognized interner with ⟨native, made⟩
  obtain ⟨clean, rfl⟩ := (ProductShape.recognize_eq_ok_iff decl shape).mp recognized
  rcases twin.exists_introspect (decl.labels_nodup clean) with
    ⟨mirror, introspected, discovers, identity, path, labels, types⟩
  have parts := Descriptor.make_of_descriptor made
  refine ⟨native, mirror, made, introspected, discovers, ?_, path, ?_⟩
  · rw [parts.path, ← twin.names.path_eq grown]
    rfl
  · have nativeLabels : native.labels = decl.labels :=
      parts.labels.trans (ProductShape.labels_ofDecl decl)
    have nativeTypes : native.types = decl.components.map (·.ty) := by
      rw [parts.types]
      simp only [ProductShape.descriptorParts, ProductShape.types, ProductShape.ofDecl,
        List.map_map, Function.comp_def]
    have nativeIdent : native.ident = decl.ident := parts.ident
    simp only [Descriptor.sameShape, nativeIdent, nativeLabels, nativeTypes, identity, labels,
      types, beq_self_eq_true, Bool.and_self]

/-- A recognized declaration and a class that copies it have descriptors of one
shape.  Their constructions agree for all arguments: they make the same instances
and refuse with the same errors. -/
theorem construct_alike (twin : host.Twin known decl handle owner)
    (recognized : ProductShape.recognize decl = .ok shape) (grown : known.Grows interner) :
    Exists fun native => Exists fun mirror =>
      shape.descriptor interner = .ok native ∧ (host.introspect decl.ident).1 = .ok mirror ∧
      mirror.sameShape native = true ∧
      forall runtime : Runtime, known.Grows (runtime host.session).interner ->
        (runtime host.session).symbols.classAt? handle = some owner ->
          forall arguments,
            mirror.construct runtime arguments = native.construct runtime arguments := by
  rcases twin.exists_descriptors recognized grown with
    ⟨native, mirror, made, introspected, discovers, nativePath, mirrorPath, same⟩
  refine ⟨native, mirror, made, introspected, same, ?_⟩
  intro runtime running loaded arguments
  obtain ⟨clean, rfl⟩ := (ProductShape.recognize_eq_ok_iff decl shape).mp recognized
  have distinct := decl.labels_nodup clean
  rw [discovers.construct_eq loaded (twin.map_label_parameters grown)
    (twin.shows_parameters distinct grown running), Descriptor.construct_native made, mirrorPath,
    nativePath, twin.copies.identity]
  apply Parameter.tested_congr
  intro conform
  simp only [Descriptor.sameShape, Bool.and_eq_true, beq_iff_eq] at same
  have types : mirror.types = (ProductShape.ofDecl decl).types :=
    same.2.trans (Descriptor.make_of_descriptor made).types
  rw [ProductShape.parameters_ty, ← types] at conform
  rw [twin.stored_eq distinct discovers conform]
  rfl

/-- A component of the mirror is the field at its position. -/
theorem exists_component_eq (twin : host.Twin known decl handle owner)
    (distinct : decl.labels.Nodup) (reads : owner.ReadsFields)
    (discovers : host.Discovers handle owner mirror) {runtime : Runtime}
    (loaded : (runtime host.session).symbols.classAt? handle = some owner) {index : Nat}
    (inside : index < decl.components.length) (value : Value) : Exists fun cause =>
      mirror.component runtime value index =
        (value.fieldOf? decl.ident index).elim (.error (.invocation mirror.path cause)) .ok := by
  have count : index < owner.canonicalParameters.length := by
    rw [twin.copies.canonicalParameters, List.length_map, TypeDecl.labels, List.length_map]
    exact inside
  have named := List.getElem?_eq_getElem count
  rw [← twin.copies.identity]
  exact discovers.exists_component_eq loaded reads named
    (twin.copies.slot? twin.names distinct named) value

/-- The two descriptors read the same components off the same values.  They differ
in how they refuse a component that is in range but not there: the declaration
reports the access and introspection reports the failed call. -/
theorem component_alike_iff (twin : host.Twin known decl handle owner)
    (recognized : ProductShape.recognize decl = .ok shape) (grown : known.Grows interner)
    (reads : owner.ReadsFields) :
    Exists fun native => Exists fun mirror =>
      shape.descriptor interner = .ok native ∧ (host.introspect decl.ident).1 = .ok mirror ∧
      forall runtime : Runtime, (runtime host.session).symbols.classAt? handle = some owner ->
        forall value index,
          (forall field, native.component runtime value index = .ok field ↔
            index < shape.arity ∧ value.fieldOf? decl.ident index = some field) ∧
          (forall field, mirror.component runtime value index = .ok field ↔
            native.component runtime value index = .ok field) ∧
          (mirror.component runtime value index = native.component runtime value index ↔
            shape.arity ≤ index ∨ (value.fieldOf? decl.ident index).isSome = true) ∧
          (forall failure, native.component runtime value index = .error failure ->
            Exists fun detail => failure = .componentAccess (decl.ident.path known) detail) ∧
          (index < shape.arity -> forall failure,
            mirror.component runtime value index = .error failure ->
              Exists fun cause => failure = .invocation (decl.ident.path known) cause) := by
  rcases twin.exists_descriptors recognized grown with
    ⟨native, mirror, made, introspected, discovers, nativePath, mirrorPath, same⟩
  refine ⟨native, mirror, made, introspected, ?_⟩
  intro runtime loaded value index
  obtain ⟨clean, rfl⟩ := (ProductShape.recognize_eq_ok_iff decl shape).mp recognized
  have arity : (ProductShape.ofDecl decl).arity = decl.components.length := List.length_map _
  have nativeArity : native.arity = (ProductShape.ofDecl decl).arity :=
    (Descriptor.arity_native made).trans (List.length_map _)
  have mirrorArity : mirror.arity = native.arity := by
    simp only [Descriptor.sameShape, Bool.and_eq_true, beq_iff_eq] at same
    rw [Descriptor.arity, same.1.2, Descriptor.arity]
  -- In range, the field at the position decides both results.  Out of range, no
  -- reader is asked and both refuse in the same way.
  by_cases inside : index < (ProductShape.ofDecl decl).arity
  · rcases Descriptor.exists_component_native_eq made runtime
      (Nat.lt_of_lt_of_eq inside (List.length_map _).symm) value with ⟨detail, nativeRead⟩
    rcases twin.exists_component_eq (decl.labels_nodup clean) reads discovers loaded
      (arity ▸ inside) value with ⟨cause, mirrorRead⟩
    have ident : (ProductShape.ofDecl decl).ident = decl.ident := rfl
    rw [nativeRead, mirrorRead, ident, nativePath, mirrorPath]
    cases value.fieldOf? decl.ident index with
    | some field => simp [inside]
    | none => simp [inside]
  · have outside := Nat.le_of_not_lt inside
    rw [Descriptor.component_of_arity_le (nativeArity ▸ outside),
      Descriptor.component_of_arity_le (mirrorArity ▸ nativeArity ▸ outside),
      nativePath, mirrorPath, mirrorArity]
    simp [inside, outside, DescriptorError.outOfRange]

end Host.Twin

namespace Sample

theorem pointDecl_named : pointDecl.NamedIn interner where
  started := Interner.Grows.refl.internAll ["geo.Point", "x", "y"]
  issued := by
    intro name member
    have listed : name = pointPath ∨ name = xLabel ∨ name = yLabel := by
      simpa [TypeDecl.names, pointDecl, TypeDecl.record, point, Ty.names] using member
    rcases listed with rfl | rfl | rfl
    · exact ⟨"geo.Point", by decide +kernel⟩
    · exact ⟨"x", by decide +kernel⟩
    · exact ⟨"y", by decide +kernel⟩

theorem pointDecl_recognized : ProductShape.recognize pointDecl = .ok (.ofDecl pointDecl) := by
  decide +kernel

theorem pointDecl_copied : (pointClass ["x", "y"]).Copies interner pointDecl where
  identity := rfl
  fields := by decide +kernel
  canonical := by decide +kernel
  accessors := by decide +kernel

theorem pointTwin :
    (pointHost ["x", "y"]).Twin interner pointDecl ⟨0⟩ (pointClass ["x", "y"]) where
  names := pointDecl_named
  grown := .refl
  named := by decide +kernel
  loaded := rfl
  copies := pointDecl_copied

/-- The class of points with constructors and methods that do not matter: the
methods stand in another order and those of the labels are overloaded. -/
def crowdedClass : ForeignClass :=
  { pointClass ["x", "y"] with
    constructors := [⟨["y"], false⟩, ⟨["x", "y"], true⟩, ⟨[], false⟩]
    methods := [⟨"x", 1, none⟩, ⟨"y", 0, some 1⟩, ⟨"x", 0, some 0⟩, ⟨"y", 0, none⟩] }

def crowdedHost : Host :=
  ⟨⟨0⟩, interner, (SymbolTable.empty.load crowdedClass).2⟩

theorem crowdedTwin : crowdedHost.Twin interner pointDecl ⟨0⟩ crowdedClass where
  names := pointDecl_named
  grown := .refl
  named := by decide +kernel
  loaded := rfl
  copies :=
    { identity := rfl
      fields := by decide +kernel
      canonical := by decide +kernel
      accessors := by decide +kernel }

theorem pointDecl_descriptor :
    (ProductShape.ofDecl pointDecl).descriptor interner = .ok pointNative := by
  with_unfolding_all rfl

end Sample

/-- Points are made alike, and both descriptors refuse a truth value in the second
place with the same error. -/
theorem Host.Twin.construct_crowded_alike :
    Sample.crowdedHost.Twin Sample.interner Sample.pointDecl ⟨0⟩ Sample.crowdedClass ∧
    Exists fun mirror => (Sample.crowdedHost.introspect Sample.point).1 = .ok mirror ∧
      mirror.sameShape Sample.pointNative = true ∧
      mirror.construct (fun _ => Sample.crowdedHost) [.int 3, .int 4] =
        .ok (.record Sample.point [.int 3, .int 4]) ∧
      mirror.construct (fun _ => Sample.crowdedHost) [.int 3, .bool true] =
        .error (.invocation "geo.Point" (.argumentType 1 "y" "int" "bool")) ∧
      mirror.construct (fun _ => Sample.crowdedHost) [.int 3] =
        .error (.arityMismatch "geo.Point" 2 1) := by
  rcases construct_alike Sample.crowdedTwin Sample.pointDecl_recognized
    (.refl : Sample.interner.Grows Sample.interner) with
    ⟨native, mirror, made, introspected, same, alike⟩
  obtain rfl := Except.ok.inj (Sample.pointDecl_descriptor.symm.trans made)
  have alike := alike (fun _ => Sample.crowdedHost) .refl rfl
  exact ⟨Sample.crowdedTwin, mirror, introspected, same, alike _, alike _, alike _⟩

/-- Of a record with too few fields, the first component is read alike and the
second is refused in two ways. -/
theorem Host.Twin.component_short_point :
    (Sample.pointHost ["x", "y"]).Twin Sample.interner Sample.pointDecl ⟨0⟩
      (Sample.pointClass ["x", "y"]) ∧
    Exists fun native => Exists fun mirror =>
      (ProductShape.ofDecl Sample.pointDecl).descriptor Sample.interner = .ok native ∧
      ((Sample.pointHost ["x", "y"]).introspect Sample.point).1 = .ok mirror ∧
      mirror.component (fun _ => Sample.pointHost ["x", "y"]) (.record Sample.point [.int 3]) 0 =
        native.component (fun _ => Sample.pointHost ["x", "y"]) (.record Sample.point [.int 3]) 0 ∧
      mirror.component (fun _ => Sample.pointHost ["x", "y"]) (.record Sample.point [.int 3]) 1 ≠
        native.component (fun _ => Sample.pointHost ["x", "y"])
          (.record Sample.point [.int 3]) 1 := by
  rcases component_alike_iff Sample.pointTwin Sample.pointDecl_recognized
    (.refl : Sample.interner.Grows Sample.interner) Sample.mirrors_inOrder.reads with
    ⟨native, mirror, made, introspected, alike⟩
  have alike := alike (fun _ => Sample.pointHost ["x", "y"]) rfl (.record Sample.point [.int 3])
  refine ⟨Sample.pointTwin, native, mirror, made, introspected, ?_, ?_⟩
  · exact (alike 0).2.2.1.mpr (.inr (by decide))
  · intro same
    exact absurd ((alike 1).2.2.1.mp same) (by decide)

/-- A number is no point.  The declaration refuses it as an access, introspection
as a failed call, so the component tells which of the two made the descriptor. -/
theorem Host.Twin.component_point_apart :
    (Sample.pointHost ["x", "y"]).Twin Sample.interner Sample.pointDecl ⟨0⟩
      (Sample.pointClass ["x", "y"]) ∧
    (Sample.pointClass ["x", "y"]).ReadsFields ∧
    (ProductShape.ofDecl Sample.pointDecl).descriptor Sample.interner = .ok Sample.pointNative ∧
    ((Sample.pointHost ["x", "y"]).introspect Sample.point).1 = .ok Sample.pointMirror ∧
    Sample.pointNative.component (fun _ => Sample.pointHost ["x", "y"]) (.int 1) 0 =
      .error (.notAnInstance "geo.Point" "int") ∧
    Sample.pointMirror.component (fun _ => Sample.pointHost ["x", "y"]) (.int 1) 0 =
      .error (.invocation "geo.Point" (.receiver "geo.Point" "int")) ∧
    ¬ forall value index,
      Sample.pointMirror.component (fun _ => Sample.pointHost ["x", "y"]) value index =
        Sample.pointNative.component (fun _ => Sample.pointHost ["x", "y"]) value index := by
  refine ⟨Sample.pointTwin, Sample.mirrors_inOrder.reads, Sample.pointDecl_descriptor,
    Sample.mirrors_inOrder.introspected, rfl, rfl, ?_⟩
  intro alike
  have same := Except.error.inj (alike (.int 1) 0)
  exact absurd same nofun

end StructuralProducts
