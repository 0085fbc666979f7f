import StructuralProducts.Proofs.Reflection.Discovery

namespace StructuralProducts

/-!
# Classes that introspection accepts

A class is well shaped when exactly one constructor is canonical and every
parameter of it names a field and has a method of its name without arguments.
What else the class has makes no difference: fields that no parameter names,
other constructors, methods that take arguments, or several methods of a name.

Each of these conditions is what one of the questions of introspection is about.
This module says how the questions come out for a loaded class.
-/

/-- One constructor is canonical, and each of its parameters has a field and an
accessor. -/
structure ForeignClass.WellShaped (owner : ForeignClass) : Prop where
  canonical : Exists fun constructor => owner.constructors.filter (·.isCanonical) = [constructor]
  accessors : forall parameter, parameter ∈ owner.canonicalParameters -> Exists fun method =>
    method ∈ owner.methods ∧ method.name = parameter ∧ method.parameterCount = 0
  typed : forall parameter, parameter ∈ owner.canonicalParameters ->
    Exists fun ty => owner.fieldType? parameter = some ty

namespace ForeignClass

variable (owner : ForeignClass)

/-- The number of constructors that are canonical. -/
def canonicalCount : Nat :=
  owner.constructors.countP (·.isCanonical)

/-- Some method of a name takes no arguments. -/
def offers (name : String) : Bool :=
  owner.methods.any fun method => method.name == name && method.parameterCount == 0

theorem offers_iff (name : String) : owner.offers name = true ↔
    Exists fun method => method ∈ owner.methods ∧ method.name = name ∧
      method.parameterCount = 0 := by
  simp only [offers, List.any_eq_true, Bool.and_eq_true, beq_iff_eq]

theorem canonicalCount_eq_one_iff : owner.canonicalCount = 1 ↔
    Exists fun constructor => owner.constructors.filter (·.isCanonical) = [constructor] := by
  rw [canonicalCount, List.countP_eq_length_filter, List.length_eq_one_iff]

theorem wellShaped_iff : owner.WellShaped ↔ owner.canonicalCount = 1 ∧
    owner.canonicalParameters.find? (!owner.offers ·) = none ∧
    (owner.canonicalParameters.find? fun name => (owner.fieldType? name).isNone) = none := by
  simp only [canonicalCount_eq_one_iff, List.find?_eq_none, Bool.not_eq_true', Bool.not_eq_false,
    Option.isNone_iff_eq_none, ← Option.isSome_iff_ne_none, Option.isSome_iff_exists, offers_iff]
  exact ⟨fun shaped => ⟨shaped.canonical, shaped.accessors, shaped.typed⟩,
    fun ⟨canonical, accessors, typed⟩ => ⟨canonical, accessors, typed⟩⟩

end ForeignClass

/-! ## The single questions -/

theorem ParameterInfo.map_name_map (typeOf? : String -> Option Ty) (names : List String) :
    (names.map fun name => ParameterInfo.mk name (typeOf? name)).map (·.name) = names := by
  rw [List.map_map]
  exact List.map_id _

namespace SymbolTable

variable {table : SymbolTable} {handle : ClassHandle} {owner : ForeignClass}

/-- The one canonical constructor of a class is reported as its parameters and
their types. -/
theorem exists_constructors_filter (loaded : table.classAt? handle = some owner)
    {constructor : ForeignConstructor}
    (single : owner.constructors.filter (·.isCanonical) = [constructor]) :
    Exists fun reported => (table.constructors handle).filter (·.isCanonical) = [reported] ∧
      reported.parameters = constructor.parameters.map fun name =>
        ⟨name, owner.fieldType? name⟩ := by
  have reports := map_declared_constructors loaded
  rw [← reports, List.filter_map] at single
  rcases List.map_eq_singleton_iff.mp single with ⟨reported, found, rfl⟩
  refine ⟨reported, found, ?_⟩
  have member : reported ∈ table.constructors handle :=
    List.mem_of_mem_filter (found ▸ List.mem_singleton_self reported)
  rcases of_mem_constructors loaded member with ⟨_, _, _, typed⟩
  apply List.ext_getElem?
  intro index
  have types := congrArg (fun types => types[index]?) typed
  simp only [declared, List.getElem?_map] at types ⊢
  cases present : reported.parameters[index]? with
  | none => rfl
  | some parameter =>
      rw [present] at types
      exact congrArg some (congrArg (ParameterInfo.mk parameter.name) (Option.some.inj types))

/-- A method is among those that are reported for its name. -/
theorem mem_findAccessor (loaded : table.classAt? handle = some owner) {method : ForeignMethod}
    (member : method ∈ owner.methods) : Exists fun reported =>
      reported ∈ table.findAccessor handle method.name ∧
        reported.parameterCount = method.parameterCount := by
  rcases List.getElem_of_mem member with ⟨index, inside, rfl⟩
  refine ⟨⟨⟨handle, index⟩, owner.methods[index].parameterCount⟩, ?_, rfl⟩
  simp only [findAccessor, loaded, List.mem_filterMap, List.mem_mapIdx]
  exact ⟨(index, owner.methods[index]), ⟨index, inside, rfl⟩, if_pos rfl⟩

end SymbolTable

namespace Introspection

variable {path : String} {table : SymbolTable} {handle : ClassHandle} {owner : ForeignClass}

theorem chooseConstructor_of_count_ne (loaded : table.classAt? handle = some owner)
    (count : owner.canonicalCount ≠ 1) :
    chooseConstructor path (table.constructors handle) =
      .error (.noCanonicalConstructor path owner.canonicalCount) := by
  have reported : ((table.constructors handle).filter (·.isCanonical)).length =
      owner.canonicalCount := by
    rw [ForeignClass.canonicalCount, ← SymbolTable.map_declared_constructors loaded,
      List.countP_map, List.countP_eq_length_filter]
    rfl
  unfold chooseConstructor
  split
  · next single =>
      rw [single] at reported
      exact absurd reported.symm count
  · rw [reported]

/-- The one canonical constructor is chosen. -/
theorem exists_chooseConstructor (loaded : table.classAt? handle = some owner)
    (single : owner.canonicalCount = 1) : Exists fun chosen =>
      chooseConstructor path (table.constructors handle) = .ok chosen ∧
      chosen.parameters = owner.canonicalParameters.map fun name =>
        ⟨name, owner.fieldType? name⟩ := by
  rcases owner.canonicalCount_eq_one_iff.mp single with ⟨constructor, only⟩
  rcases SymbolTable.exists_constructors_filter loaded only with ⟨reported, found, parameters⟩
  refine ⟨reported, (chooseConstructor_eq_ok_iff _ _).mpr found, ?_⟩
  rw [parameters, ForeignClass.canonicalParameters, only]
  exact congrArg _ (List.append_nil _).symm

theorem exists_chooseAccessor {parameter : String} {accessors : List AccessorInfo}
    (plain : Exists fun reported => reported ∈ accessors ∧ reported.parameterCount = 0) :
    Exists fun handle => chooseAccessor path parameter accessors = .ok handle := by
  rcases plain with ⟨reported, member, count⟩
  unfold chooseAccessor
  cases found : accessors.find? (·.parameterCount == 0) with
  | some accessor => exact ⟨accessor.handle, rfl⟩
  | none => exact absurd (beq_iff_eq.mpr count) (List.find?_eq_none.mp found reported member)

theorem exists_chooseAccessor_of_offers (loaded : table.classAt? handle = some owner)
    {name : String} (offered : owner.offers name = true) : Exists fun accessor =>
      chooseAccessor path name (table.findAccessor handle name) = .ok accessor := by
  rcases (owner.offers_iff name).mp offered with ⟨method, member, rfl, plain⟩
  rcases SymbolTable.mem_findAccessor loaded member with ⟨reported, listed, count⟩
  exact exists_chooseAccessor ⟨reported, listed, count.trans plain⟩

theorem chooseAccessor_of_not_offers (loaded : table.classAt? handle = some owner)
    {name : String} (missing : owner.offers name = false) :
    chooseAccessor path name (table.findAccessor handle name) =
      .error (.accessorMismatch path name) := by
  unfold chooseAccessor
  split
  · next reported found =>
      rcases SymbolTable.of_mem_findAccessor loaded (List.mem_of_find?_eq_some found) with
        ⟨_, method, present, named, count, _⟩
      have plain := List.find?_some found
      have offered := (owner.offers_iff name).mpr
        ⟨method, List.mem_of_getElem? present, named, count.trans (eq_of_beq plain)⟩
      rw [missing] at offered
      cases offered
  · rfl

/-- Accessors are chosen for all parameters, or refused for the first that has
none. -/
theorem chooseAccessors_cases (loaded : table.classAt? handle = some owner)
    (parameters : List ParameterInfo) :
    match (parameters.map (·.name)).find? (!owner.offers ·) with
    | some name => chooseAccessors path (table.findAccessor handle) parameters =
        .error (.accessorMismatch path name)
    | none => Exists fun handles =>
        chooseAccessors path (table.findAccessor handle) parameters = .ok handles ∧
          handles.length = parameters.length := by
  induction parameters with
  | nil => exact ⟨[], rfl, rfl⟩
  | cons parameter rest inductionHypothesis =>
      rw [List.map_cons, List.find?_cons]
      cases offered : owner.offers parameter.name with
      | false =>
          have refused := @chooseAccessor_of_not_offers path _ _ _ loaded _ offered
          simp only [Bool.not_false, chooseAccessors, refused]
      | true =>
          rcases @exists_chooseAccessor_of_offers path _ _ _ loaded _ offered with
            ⟨accessor, chosen⟩
          simp only [Bool.not_true, chooseAccessors, chosen]
          split at inductionHypothesis
          · next name found => simp only [found, inductionHypothesis]
          · next found =>
              rcases inductionHypothesis with ⟨handles, complete, count⟩
              simp only [found, complete]
              exact ⟨_, rfl, congrArg Nat.succ count⟩

/-- All parameters have types, or the first that has none is refused. -/
theorem parameterTypes_cases (typeOf? : String -> Option Ty) (names : List String) :
    match names.find? fun name => (typeOf? name).isNone with
    | some name => parameterTypes path (names.map fun name => ⟨name, typeOf? name⟩) =
        .error (.untypedParameter path name)
    | none => Exists fun types =>
        parameterTypes path (names.map fun name => ⟨name, typeOf? name⟩) = .ok types ∧
          names.map typeOf? = types.map some := by
  induction names with
  | nil => exact ⟨[], rfl, rfl⟩
  | cons name rest inductionHypothesis =>
      rw [List.find?_cons]
      cases typed : typeOf? name with
      | none => simp only [Option.isNone_none, List.map_cons, parameterTypes, typed]
      | some ty =>
          simp only [Option.isNone_some, List.map_cons, parameterTypes, typed]
          split at inductionHypothesis
          · next other found => simp only [found, inductionHypothesis]
          · next found =>
              rcases inductionHypothesis with ⟨types, complete, same⟩
              simp only [found, complete]
              exact ⟨_, rfl, by rw [List.map_cons, same]⟩

end Introspection
end StructuralProducts
