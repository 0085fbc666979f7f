import StructuralProducts.Proofs.Reflection.FieldOrder
import StructuralProducts.Proofs.Reflection.Loads

namespace StructuralProducts

/-!
# Descriptors after later loads

A discovered descriptor calls by position: a class in the table, a constructor in
that class, and a method for each component.  Loads at other paths leave alone
what stands there.  A load at the path of the descriptor puts another class there,
and the descriptor keeps its labels and types but calls whatever the new class has
at the same positions.

The descriptor is still faithful after such loads exactly when the class that was
loaded last serves it.  The constructor at the position of the builder has the
component types, in order, and the method at the position of each reader reads a
field that the constructor fills with that component.  The second may fail only
where nothing can be told apart, because the component and what the field holds
have one and the same value.
-/

/-- A descriptor accepts every list of arguments of its types, and reads the
arguments back from what it built. -/
def Descriptor.Faithful (descriptor : Descriptor) (runtime : Runtime) : Prop :=
  forall arguments : List Value, arguments.length = descriptor.arity ->
    (forall (index : Nat) (argument : Value) (ty : Ty), arguments[index]? = some argument ->
      descriptor.componentType? index = some ty -> argument.conforms ty = true) ->
    Exists fun value => descriptor.construct runtime arguments = .ok value ∧
      descriptor.components runtime value = .ok arguments

theorem Descriptor.faithful_iff_forall_eachConforms (descriptor : Descriptor)
    (runtime : Runtime) : descriptor.Faithful runtime ↔
      forall arguments, Value.eachConforms arguments descriptor.types = true ->
        Exists fun value => descriptor.construct runtime arguments = .ok value ∧
          descriptor.components runtime value = .ok arguments := by
  simp only [Faithful, Value.eachConforms_iff_getElem?, types_length_eq_arity, and_imp,
    componentType?]

namespace ForeignClass

variable {owner : ForeignClass}

/-- If every list of arguments of some types suits the parameters, these types are
those of the fields. -/
theorem fieldTypes_of_forall_suits {parameters : List String} {types : List Ty}
    (suits : forall arguments, Value.eachConforms arguments types = true ->
      List.Forall₂ owner.Suits parameters arguments) :
    parameters.map owner.fieldType? = types.map some := by
  induction types generalizing parameters with
  | nil =>
      rw [List.forall₂_nil_right_iff.mp (suits [] rfl)]
      rfl
  | cons ty rest inductionHypothesis =>
      rcases Ty.exists_conforms ty with ⟨value, conforms⟩
      rcases Ty.exists_eachConforms rest with ⟨others, conform⟩
      have accepted := suits (value :: others) (Bool.and_eq_true_iff.mpr ⟨conforms, conform⟩)
      cases accepted with
      | @cons parameter _ later _ first _ =>
          rcases first with ⟨fieldTy, found, _⟩
          have included : forall item : Value, item.conforms ty = true ->
              item.conforms fieldTy = true := by
            intro item inhabits
            have both := suits (item :: others) (Bool.and_eq_true_iff.mpr ⟨inhabits, conform⟩)
            rcases (List.forall₂_cons.mp both).1 with ⟨otherTy, otherFound, itemConforms⟩
            rw [found] at otherFound
            cases otherFound
            exact itemConforms
          have tail : later.map owner.fieldType? = rest.map some := by
            apply inductionHypothesis
            intro arguments inhabit
            have both := suits (value :: arguments) (Bool.and_eq_true_iff.mpr ⟨conforms, inhabit⟩)
            exact (List.forall₂_cons.mp both).2
          rw [List.map_cons, List.map_cons, found, tail, Ty.eq_of_forall_conforms _ _ included]

end ForeignClass

/-! ## Classes that serve a descriptor -/

/-- A class has what a descriptor calls, at the positions where it calls: a
constructor for arguments of the component types, and for each component a method
that reads it back. -/
def ForeignClass.Serves (owner : ForeignClass) (descriptor : Descriptor) : Prop :=
  Exists fun constructor : ForeignConstructor =>
    descriptor.builder.position?.bind (owner.constructors[·]?) = some constructor ∧
    constructor.parameters.map owner.fieldType? = descriptor.types.map some ∧
    forall (index : Nat) (reader : Reader), descriptor.readers[index]? = some reader ->
      Exists fun method : ForeignMethod =>
        reader.position?.bind (owner.methods[·]?) = some method ∧ method.parameterCount = 0 ∧
        Exists fun slot => method.slot = some slot ∧
          owner.Returns constructor.parameters descriptor.types slot index

namespace Descriptor.CallsInto

variable {descriptor : Descriptor} {session : SessionId} {handle : ClassHandle}
  {owner : ForeignClass} {runtime : Runtime}

/-- A faithful descriptor calls one constructor, which accepts every list of
arguments of its types and builds an instance that reads them back. -/
theorem exists_constructor_of_faithful (calls : descriptor.CallsInto session handle)
    (present : (runtime session).symbols.classAt? handle = some owner)
    (faithful : descriptor.Faithful runtime) : Exists fun constructor =>
      descriptor.builder.position?.bind (owner.constructors[·]?) = some constructor ∧
      forall arguments, Value.eachConforms arguments descriptor.types = true ->
        List.Forall₂ owner.Suits constructor.parameters arguments ∧
          descriptor.components runtime
            (.record owner.ident (owner.filled constructor.parameters arguments)) =
              .ok arguments := by
  rw [descriptor.faithful_iff_forall_eachConforms] at faithful
  rcases Ty.exists_eachConforms descriptor.types with ⟨defaults, defaultsConform⟩
  rcases faithful defaults defaultsConform with ⟨first, firstBuilt, _⟩
  rcases (calls.construct_eq_ok_iff present _ _).mp firstBuilt with
    ⟨_, constructor, located, _, _⟩
  refine ⟨constructor, located, ?_⟩
  intro arguments conform
  rcases faithful arguments conform with ⟨value, built, read⟩
  rcases (calls.construct_eq_ok_iff present _ _).mp built with
    ⟨_, other, otherLocated, suits, rfl⟩
  rw [located] at otherLocated
  cases otherLocated
  exact ⟨suits, read⟩

/-- If the instances of a constructor all give the argument at a position as that
component, then one method reads it, from a slot that returns it. -/
theorem exists_method_of_forall_component (calls : descriptor.CallsInto session handle)
    (present : (runtime session).symbols.classAt? handle = some owner)
    {parameters : List String} (count : parameters.length = descriptor.types.length)
    {index : Nat} {reader : Reader} (found : descriptor.readers[index]? = some reader)
    (reads : forall arguments, Value.eachConforms arguments descriptor.types = true ->
      forall part : Value, arguments[index]? = some part ->
        descriptor.component runtime (.record owner.ident (owner.filled parameters arguments))
          index = .ok part) :
    Exists fun method => reader.position?.bind (owner.methods[·]?) = some method ∧
      method.parameterCount = 0 ∧ Exists fun slot => method.slot = some slot ∧
        owner.Returns parameters descriptor.types slot index := by
  have inside : index < descriptor.types.length := by
    rw [descriptor.types_length_eq_arity, ← descriptor.readers_length_eq_arity]
    exact (List.getElem?_eq_some_iff.mp found).1
  have given : forall arguments, Value.eachConforms arguments descriptor.types = true ->
      Exists fun part => arguments[index]? = some part := by
    intro arguments conform
    exact ⟨_, List.getElem?_eq_getElem (Value.length_of_eachConforms conform ▸ inside)⟩
  rcases Ty.exists_eachConforms descriptor.types with ⟨defaults, defaultsConform⟩
  rcases given defaults defaultsConform with ⟨first, firstGiven⟩
  rcases (calls.component_eq_ok_iff present found _ _).mp
    (reads defaults defaultsConform first firstGiven) with ⟨method, located, plain, slot, reading, _⟩
  refine ⟨method, located, plain, slot, reading, ?_⟩
  rw [← ForeignClass.forall_getElem?_filled_iff count inside]
  intro arguments conform
  rcases given arguments conform with ⟨part, partGiven⟩
  rcases (calls.component_eq_ok_iff present found _ _).mp
    (reads arguments conform part partGiven) with
    ⟨other, otherLocated, _, otherSlot, otherReading, held⟩
  rw [located] at otherLocated
  cases otherLocated
  rw [reading] at otherReading
  cases otherReading
  exact held.trans partGiven.symm

theorem serves_of_faithful (calls : descriptor.CallsInto session handle)
    (present : (runtime session).symbols.classAt? handle = some owner)
    (faithful : descriptor.Faithful runtime) : owner.Serves descriptor := by
  rcases calls.exists_constructor_of_faithful present faithful with
    ⟨constructor, located, accepts⟩
  have typed := ForeignClass.fieldTypes_of_forall_suits fun arguments conform =>
    (accepts arguments conform).1
  have count : constructor.parameters.length = descriptor.types.length := by
    have lengths := congrArg List.length typed
    rw [List.length_map, List.length_map] at lengths
    exact lengths
  refine ⟨constructor, located, typed, ?_⟩
  intro index reader found
  apply calls.exists_method_of_forall_component present count found
  intro arguments conform
  exact ((descriptor.components_eq_ok_iff _).mp (accepts arguments conform).2).2 index

theorem faithful_of_serves (calls : descriptor.CallsInto session handle)
    (present : (runtime session).symbols.classAt? handle = some owner)
    (serves : owner.Serves descriptor) : descriptor.Faithful runtime := by
  rw [descriptor.faithful_iff_forall_eachConforms]
  intro arguments conform
  rcases serves with ⟨constructor, located, typed, readings⟩
  have sameCount := (Value.length_of_eachConforms conform).trans descriptor.types_length_eq_arity
  have suits := (ForeignClass.suits_iff_eachConforms typed arguments).mpr conform
  have count : constructor.parameters.length = descriptor.types.length :=
    suits.length_eq.trans (Value.length_of_eachConforms conform)
  refine ⟨_, (calls.construct_eq_ok_iff present _ _).mpr
    ⟨sameCount, constructor, located, suits, rfl⟩, ?_⟩
  rw [descriptor.components_eq_ok_iff]
  refine ⟨sameCount, ?_⟩
  intro index part given
  have inside : index < arguments.length := (List.getElem?_eq_some_iff.mp given).1
  have readerInside : index < descriptor.readers.length := by
    rw [descriptor.readers_length_eq_arity, ← sameCount]
    exact inside
  have found := List.getElem?_eq_getElem readerInside
  rcases readings index _ found with ⟨method, methodLocated, plain, slot, reading, returns⟩
  rw [calls.component_eq_ok_iff present found]
  refine ⟨method, methodLocated, plain, slot, reading, ?_⟩
  rw [← given]
  have typedInside := Value.length_of_eachConforms conform ▸ inside
  exact (ForeignClass.forall_getElem?_filled_iff count typedInside).mpr returns arguments conform

/-- A descriptor is faithful exactly when the class that it calls into serves it. -/
theorem faithful_iff_serves (calls : descriptor.CallsInto session handle)
    (present : (runtime session).symbols.classAt? handle = some owner) :
    descriptor.Faithful runtime ↔ owner.Serves descriptor :=
  ⟨calls.serves_of_faithful present, calls.faithful_of_serves present⟩

end Descriptor.CallsInto

/-! ## After loads -/

/-- Whatever is loaded after a descriptor was discovered: without a load at its own
path it stays faithful, and otherwise it is faithful exactly when the class that was
loaded there last serves it. -/
theorem Host.faithful_after_loads {host : Host} {ident : TypeId} {mirror : Descriptor}
    {handle : ClassHandle} {owner : ForeignClass}
    (named : host.symbols.handleOf? (ident.path host.interner) = some handle)
    (loaded : host.symbols.classAt? handle = some owner) (reads : owner.ReadsFields)
    (introspected : (host.introspect ident).1 = .ok mirror) (loads : List ForeignClass)
    (runtime : Runtime)
    (later : (runtime host.session).symbols.classes = (host.loadAll loads).symbols.classes) :
    ((forall other, other ∈ loads -> other.path ≠ mirror.path) -> mirror.Faithful runtime) ∧
      (mirror.Faithful runtime ↔ (owner.replacedBy loads).Serves mirror) := by
  have discovers := (host.discovers_of_named named loaded introspected).2
  have present : (runtime host.session).symbols.classAt? handle =
      some (owner.replacedBy loads) := by
    rw [SymbolTable.classAt?, later, host.symbols_loadAll]
    exact (SymbolTable.classAt?_loadAll named loaded loads).2
  refine ⟨?_, discovers.callsInto.faithful_iff_serves present⟩
  intro elsewhere
  have samePath : mirror.path = owner.path := by
    rcases SymbolTable.exists_classAt?_of_handleOf? named with ⟨other, otherLoaded, otherPath⟩
    rw [loaded] at otherLoaded
    cases otherLoaded
    exact (Host.path_of_introspect introspected).trans otherPath.symm
  have kept : (runtime host.session).symbols.classAt? handle = some owner := by
    rw [present, ForeignClass.replacedBy_of_forall_ne (samePath ▸ elsewhere)]
  rw [mirror.faithful_iff_forall_eachConforms]
  intro arguments conform
  have constructed := (discovers.construct_iff kept arguments _).mpr ⟨conform, rfl⟩
  exact ⟨_, constructed, discovers.components_stored kept reads conform⟩

namespace Sample

/-- The class of points with the parameters of its constructor the other way round. -/
def turnedClass : ForeignClass :=
  { pointClass ["x", "y"] with constructors := [⟨["y", "x"], true⟩] }

theorem swapped_serves : (pointClass ["y", "x"]).Serves pointMirror := by
  refine ⟨⟨["x", "y"], true⟩, by decide +kernel, by decide +kernel, ?_⟩
  intro index reader found
  match index with
  | 0 =>
      cases found
      refine ⟨⟨"x", 0, some 1⟩, by decide +kernel, rfl, 1, rfl, by decide, .inl ?_⟩
      decide +kernel
  | 1 =>
      cases found
      refine ⟨⟨"y", 0, some 0⟩, by decide +kernel, rfl, 0, rfl, by decide, .inl ?_⟩
      decide +kernel
  | _ + 2 => cases found

end Sample

/-- The points are loaded again with their fields the other way round, after a class
at another path.  Their descriptor is as faithful as before. -/
theorem Host.faithful_after_reordering :
    Sample.pointMirror.Faithful fun _ => (Sample.pointHost ["x", "y"]).loadAll
      [ForeignClass.bare Sample.point "geo.Line", Sample.pointClass ["y", "x"]] := by
  have mirrors := Sample.mirrors_inOrder
  have loads := Host.faithful_after_loads mirrors.named mirrors.loaded mirrors.reads
    mirrors.introspected [ForeignClass.bare Sample.point "geo.Line", Sample.pointClass ["y", "x"]]
    (fun _ => (Sample.pointHost ["x", "y"]).loadAll
      [ForeignClass.bare Sample.point "geo.Line", Sample.pointClass ["y", "x"]]) rfl
  apply loads.2.mpr
  have last : (Sample.pointClass ["x", "y"]).replacedBy
      [ForeignClass.bare Sample.point "geo.Line", Sample.pointClass ["y", "x"]] =
        Sample.pointClass ["y", "x"] := by decide +kernel
  rw [last]
  exact Sample.swapped_serves

/-- The points are loaded again with the parameters of their constructor the other
way round.  The descriptor found before still says `x` and then `y`, but what it
builds from two arguments has them as its components in the other order. -/
theorem Host.not_faithful_after_turning :
    (Sample.pointHost ["x", "y"]).symbols.handleOf?
        (Sample.point.path (Sample.pointHost ["x", "y"]).interner) = some ⟨0⟩ ∧
      (Sample.pointHost ["x", "y"]).symbols.classAt? ⟨0⟩ = some (Sample.pointClass ["x", "y"]) ∧
      (Sample.pointClass ["x", "y"]).ReadsFields ∧
      ((Sample.pointHost ["x", "y"]).introspect Sample.point).1 = .ok Sample.pointMirror ∧
      Value.eachConforms [.int 1, .int 2] Sample.pointMirror.types = true ∧
      Sample.pointMirror.construct
          (fun _ => (Sample.pointHost ["x", "y"]).loadAll [Sample.turnedClass])
          [.int 1, .int 2] = .ok (.record Sample.point [.int 2, .int 1]) ∧
      Sample.pointMirror.components
          (fun _ => (Sample.pointHost ["x", "y"]).loadAll [Sample.turnedClass])
          (.record Sample.point [.int 2, .int 1]) = .ok [.int 2, .int 1] ∧
      ¬ Sample.pointMirror.Faithful
        fun _ => (Sample.pointHost ["x", "y"]).loadAll [Sample.turnedClass] := by
  have mirrors := Sample.mirrors_inOrder
  have built : Sample.pointMirror.construct
      (fun _ => (Sample.pointHost ["x", "y"]).loadAll [Sample.turnedClass])
      [.int 1, .int 2] = .ok (.record Sample.point [.int 2, .int 1]) := by
    with_unfolding_all rfl
  have read : Sample.pointMirror.components
      (fun _ => (Sample.pointHost ["x", "y"]).loadAll [Sample.turnedClass])
      (.record Sample.point [.int 2, .int 1]) = .ok [.int 2, .int 1] := by
    with_unfolding_all rfl
  refine ⟨mirrors.named, mirrors.loaded, mirrors.reads, mirrors.introspected, rfl, built, read, ?_⟩
  intro faithful
  rw [Descriptor.faithful_iff_forall_eachConforms] at faithful
  rcases faithful [.int 1, .int 2] rfl with ⟨value, otherBuilt, returned⟩
  rw [built] at otherBuilt
  cases otherBuilt
  have same := Except.ok.inj (read.symm.trans returned)
  exact absurd (Value.int.inj (List.cons.inj same).1) (by decide)

end StructuralProducts
