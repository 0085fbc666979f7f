import StructuralProducts.Reflection.Introspection
import StructuralProducts.Proofs.Descriptor.Parts
import StructuralProducts.Proofs.StableNames

namespace StructuralProducts

/-!
# What introspection finds

Introspection asks a host through handles and reports.  When it succeeds, the
descriptor says the following about the class behind the path: the builder calls
the canonical constructor, the labels are its parameters, the types are those of
the fields that the parameters name, and the reader of each component calls a
method of the name of the parameter that takes no arguments.

Which field such a method reads is not asked, and neither is the order of the
fields.
-/

/-- The parameters of the canonical constructor, if there is exactly one. -/
def ForeignClass.canonicalParameters (owner : ForeignClass) : List String :=
  (owner.constructors.filter (·.isCanonical)).flatMap (·.parameters)

/-- What a descriptor that was discovered for a class consists of. -/
structure Host.Discovers (host : Host) (handle : ClassHandle) (owner : ForeignClass)
    (descriptor : Descriptor) : Prop where
  /-- The builder calls a constructor with the canonical parameters. -/
  builder : Exists fun index => Exists fun constructor =>
    owner.constructors[index]? = some constructor ∧
    constructor.parameters = owner.canonicalParameters ∧
    descriptor.builder = .reflective host.session ⟨handle, index⟩
  labels : descriptor.labels = (host.interner.internAll owner.canonicalParameters).1
  types : owner.canonicalParameters.map owner.fieldType? = descriptor.types.map some
  /-- The readers call methods of the names of the parameters. -/
  readers : List.Forall₂ (fun parameter reader => Exists fun index => Exists fun method =>
      owner.methods[index]? = some method ∧ method.name = parameter ∧
      method.parameterCount = 0 ∧ reader = .reflective host.session ⟨handle, index⟩)
    owner.canonicalParameters descriptor.readers

namespace SymbolTable

variable {table : SymbolTable} {handle : ClassHandle} {owner : ForeignClass}

/-- The constructor that a report describes. -/
def declared (reported : ConstructorInfo) : ForeignConstructor :=
  ⟨reported.parameters.map (·.name), reported.isCanonical⟩

theorem map_declared_constructors (loaded : table.classAt? handle = some owner) :
    (table.constructors handle).map declared = owner.constructors := by
  apply List.ext_getElem?
  intro index
  rw [List.getElem?_map]
  simp only [constructors, loaded, List.getElem?_mapIdx]
  cases owner.constructors[index]? with
  | none => rfl
  | some constructor =>
      simp only [Option.map_some, declared, List.map_map, Function.comp_def, List.map_id']

/-- A report says where the constructor stands and which types its parameters
have. -/
theorem of_mem_constructors (loaded : table.classAt? handle = some owner)
    {reported : ConstructorInfo} (member : reported ∈ table.constructors handle) :
    Exists fun index => owner.constructors[index]? = some (declared reported) ∧
      reported.handle = ⟨handle, index⟩ ∧
      reported.parameters.map (·.ty) =
        (reported.parameters.map (·.name)).map owner.fieldType? := by
  simp only [constructors, loaded, List.mem_mapIdx] at member
  rcases member with ⟨index, inside, rfl⟩
  refine ⟨index, ?_, rfl, ?_⟩
  · simp only [declared, List.map_map, Function.comp_def, List.map_id']
    exact List.getElem?_eq_getElem inside
  · simp only [List.map_map, Function.comp_def]

/-- The names of the one canonical constructor are the canonical parameters. -/
theorem map_name_of_single (loaded : table.classAt? handle = some owner)
    {chosen : ConstructorInfo}
    (single : (table.constructors handle).filter (·.isCanonical) = [chosen]) :
    chosen.parameters.map (·.name) = owner.canonicalParameters := by
  have filtered := congrArg (List.filter (·.isCanonical)) (map_declared_constructors loaded)
  rw [List.filter_map] at filtered
  have same : ((fun constructor : ForeignConstructor => constructor.isCanonical) ∘ declared) =
      (·.isCanonical) := rfl
  rw [same, single] at filtered
  rw [ForeignClass.canonicalParameters, ← filtered]
  exact (List.append_nil _).symm

theorem of_mem_findAccessor (loaded : table.classAt? handle = some owner) {name : String}
    {reported : AccessorInfo} (member : reported ∈ table.findAccessor handle name) :
    Exists fun index => Exists fun method => owner.methods[index]? = some method ∧
      method.name = name ∧ method.parameterCount = reported.parameterCount ∧
      reported.handle = ⟨handle, index⟩ := by
  simp only [findAccessor, loaded, List.mem_filterMap, List.mem_mapIdx] at member
  rcases member with ⟨entry, ⟨index, inside, rfl⟩, kept⟩
  split at kept
  · next named =>
      cases kept
      exact ⟨index, owner.methods[index], List.getElem?_eq_getElem inside, named, rfl, rfl⟩
  · cases kept

end SymbolTable

namespace Introspection

variable {path : String}

theorem chooseConstructor_eq_ok_iff (constructors : List ConstructorInfo)
    (chosen : ConstructorInfo) :
    chooseConstructor path constructors = .ok chosen ↔
      constructors.filter (·.isCanonical) = [chosen] := by
  unfold chooseConstructor
  split
  · next single => simp [single]
  · next others several =>
      constructor
      · intro failed
        cases failed
      · intro single
        exact absurd single (several chosen)

theorem of_chooseAccessor {parameter : String} {accessors : List AccessorInfo}
    {handle : AccessorHandle} (chosen : chooseAccessor path parameter accessors = .ok handle) :
    Exists fun reported => reported ∈ accessors ∧ reported.parameterCount = 0 ∧
      reported.handle = handle := by
  unfold chooseAccessor at chosen
  split at chosen
  · next reported found =>
      cases chosen
      have plain := List.find?_some found
      exact ⟨reported, List.mem_of_find?_eq_some found, eq_of_beq plain, rfl⟩
  · cases chosen

theorem of_chooseAccessors {report : String -> List AccessorInfo} {parameters : List ParameterInfo}
    {handles : List AccessorHandle}
    (chosen : chooseAccessors path report parameters = .ok handles) :
    List.Forall₂ (fun parameter handle =>
        chooseAccessor path parameter.name (report parameter.name) = .ok handle)
      parameters handles := by
  induction parameters generalizing handles with
  | nil =>
      cases chosen
      exact .nil
  | cons parameter rest inductionHypothesis =>
      unfold chooseAccessors at chosen
      split at chosen
      · cases chosen
      · next handle found =>
          split at chosen
          · cases chosen
          · next others complete =>
              cases chosen
              exact .cons found (inductionHypothesis complete)

theorem map_ty_of_parameterTypes {parameters : List ParameterInfo} {types : List Ty}
    (typed : parameterTypes path parameters = .ok types) :
    parameters.map (·.ty) = types.map some := by
  induction parameters generalizing types with
  | nil =>
      cases typed
      rfl
  | cons parameter rest inductionHypothesis =>
      unfold parameterTypes at typed
      split at typed
      · cases typed
      · next ty found =>
          split at typed
          · cases typed
          · next others complete =>
              cases typed
              rw [List.map_cons, List.map_cons, found, inductionHypothesis complete]

/-- The choices succeed only for a loaded class.  They give its one canonical
constructor and, for each of its parameters, a method without arguments. -/
theorem of_chooseHandles {table : SymbolTable} {handle : ClassHandle} {chosen : ConstructorInfo}
    {handles : List AccessorHandle}
    (choices : chooseHandles path table handle = .ok (chosen, handles)) :
    Exists fun owner => table.classAt? handle = some owner ∧
      (table.constructors handle).filter (·.isCanonical) = [chosen] ∧
      List.Forall₂ (fun parameter accessor => Exists fun index => Exists fun method =>
          owner.methods[index]? = some method ∧ method.name = parameter ∧
          method.parameterCount = 0 ∧ accessor = ⟨handle, index⟩)
        (chosen.parameters.map (·.name)) handles := by
  unfold chooseHandles at choices
  split at choices
  · cases choices
  · next constructor found =>
      split at choices
      · cases choices
      · next accessors complete =>
          cases choices
          have single := (chooseConstructor_eq_ok_iff _ _).mp found
          cases loaded : table.classAt? handle with
          | none =>
              simp [SymbolTable.constructors, loaded] at single
          | some owner =>
              refine ⟨owner, rfl, single, ?_⟩
              rw [List.forall₂_map_left_iff]
              apply (of_chooseAccessors complete).imp
              intro parameter accessor chosenAccessor
              rcases of_chooseAccessor chosenAccessor with ⟨reported, member, plain, same⟩
              rcases SymbolTable.of_mem_findAccessor loaded member with
                ⟨index, method, present, named, count, located⟩
              exact ⟨index, method, present, named, count.trans plain, same.symm.trans located⟩

end Introspection

namespace Host

theorem discovers_of_assemble {host : Host} {handle : ClassHandle} {owner : ForeignClass}
    {ident : TypeId} {path : String} {chosen : ConstructorInfo} {handles : List AccessorHandle}
    {descriptor : Descriptor} (loaded : host.symbols.classAt? handle = some owner)
    (single : (host.symbols.constructors handle).filter (·.isCanonical) = [chosen])
    (accessors : List.Forall₂ (fun parameter accessor => Exists fun index =>
        Exists fun method => owner.methods[index]? = some method ∧ method.name = parameter ∧
          method.parameterCount = 0 ∧ accessor = ⟨handle, index⟩)
      (chosen.parameters.map (·.name)) handles)
    (assembled : (Introspection.assemble host.session host.interner ident path chosen
      handles).1 = .ok descriptor) :
    descriptor.ident = ident ∧ host.Discovers handle owner descriptor := by
  have member : chosen ∈ host.symbols.constructors handle :=
    List.mem_of_mem_filter (single ▸ List.mem_singleton_self chosen)
  rcases SymbolTable.of_mem_constructors loaded member with ⟨index, declared, located, typed⟩
  have canonical := SymbolTable.map_name_of_single loaded single
  rw [canonical] at accessors typed
  simp only [Introspection.assemble] at assembled
  split at assembled
  · cases assembled
  · next types found =>
      have parts := (DescriptorParts.of_check assembled).2
      refine ⟨parts.ident, ⟨index, _, declared, canonical, ?_⟩, ?_, ?_, ?_⟩
      · rw [parts.builder, located]
      · rw [parts.labels, canonical]
      · rw [parts.types, ← typed, Introspection.map_ty_of_parameterTypes found]
      · rw [parts.readers, List.forall₂_map_right_iff]
        apply accessors.imp
        rintro parameter accessor ⟨position, method, present, named, plain, rfl⟩
        exact ⟨position, method, present, named, plain, rfl⟩

/-- A successful introspection has found a class behind the path, and a
descriptor for it. -/
theorem discovers_of_introspect {host : Host} {ident : TypeId} {descriptor : Descriptor}
    (introspected : (host.introspect ident).1 = .ok descriptor) :
    Exists fun handle => Exists fun owner =>
      host.symbols.handleOf? (ident.path host.interner) = some handle ∧
      host.symbols.classAt? handle = some owner ∧ descriptor.ident = ident ∧
      host.Discovers handle owner descriptor := by
  unfold introspect at introspected
  simp only [SymbolTable.resolve] at introspected
  split at introspected
  · cases introspected
  · next handle resolved =>
      split at introspected
      · cases introspected
      · next constructor accessors chosen =>
          rcases Introspection.of_chooseHandles chosen with ⟨owner, loaded, single, reported⟩
          exact ⟨handle, owner, resolved, loaded,
            discovers_of_assemble loaded single reported introspected⟩

/-- What introspection finds is the class behind the path. -/
theorem discovers_of_named {host : Host} {ident : TypeId} {descriptor : Descriptor}
    {handle : ClassHandle} {owner : ForeignClass}
    (named : host.symbols.handleOf? (ident.path host.interner) = some handle)
    (loaded : host.symbols.classAt? handle = some owner)
    (introspected : (host.introspect ident).1 = .ok descriptor) :
    descriptor.ident = ident ∧ host.Discovers handle owner descriptor := by
  rcases host.discovers_of_introspect introspected with
    ⟨otherHandle, otherOwner, otherNamed, otherLoaded, identity, discovers⟩
  rw [named] at otherNamed
  cases otherNamed
  rw [loaded] at otherLoaded
  cases otherLoaded
  exact ⟨identity, discovers⟩

/-- A discovered descriptor shows the path that it was asked for. -/
theorem path_of_introspect {host : Host} {ident : TypeId} {descriptor : Descriptor}
    (introspected : (host.introspect ident).1 = .ok descriptor) :
    descriptor.path = ident.path host.interner := by
  unfold introspect at introspected
  simp only [SymbolTable.resolve] at introspected
  split at introspected
  · cases introspected
  · split at introspected
    · cases introspected
    · simp only [Introspection.assemble] at introspected
      split at introspected
      · cases introspected
      · exact (DescriptorParts.of_check introspected).2.path

end Host
end StructuralProducts
