import Mathlib.Data.List.Nodup
import StructuralProducts.Contract
import StructuralProducts.Proofs.Descriptor.Native
import StructuralProducts.Proofs.RegisteredContracts
import StructuralProducts.Proofs.Reflection.Instances

namespace StructuralProducts

/-!
# Building and reading are inverse

A native descriptor packs its arguments in order.  That of a foreign class
scatters them over the fields, in whatever order these are, and its accessors
gather them again.  Both are round trips, for the same reason: construction
depends on the arguments alone, and reading gives them back.

On the foreign side the reason rests on how the class was built.  An accessor
that is added before its field reads nothing, and then there is no way back.
-/

/-! ## How accessors come to read their fields -/

namespace ForeignClass

/-- A class under construction.  Whatever is added to it, in whatever order: a
method without arguments that has one of the given names is an accessor, and it
is added after the field of its name. -/
inductive AccessorsFollow (names : List String) : ForeignClass -> Prop where
  | bare (ident : TypeId) (path : String) : AccessorsFollow names (.bare ident path)
  | field {owner : ForeignClass} (follow : AccessorsFollow names owner) (name : String) (ty : Ty) :
      AccessorsFollow names (owner.withField name ty)
  | constructor {owner : ForeignClass} (follow : AccessorsFollow names owner)
      (parameters : List String) (isCanonical : Bool) :
      AccessorsFollow names (owner.withConstructor parameters isCanonical)
  | canonicalConstructor {owner : ForeignClass} (follow : AccessorsFollow names owner) :
      AccessorsFollow names owner.withCanonicalConstructor
  | accessor {owner : ForeignClass} (follow : AccessorsFollow names owner) (name : String)
      (after : name ∈ names -> name ∈ owner.fields.map (·.name)) :
      AccessorsFollow names (owner.withAccessor name)
  | accessors {owner : ForeignClass} (follow : AccessorsFollow names owner) :
      AccessorsFollow names owner.withAccessors
  | method {owner : ForeignClass} (follow : AccessorsFollow names owner) (name : String)
      (parameterCount : Nat) (other : parameterCount = 0 -> name ∉ names) :
      AccessorsFollow names (owner.withMethod name parameterCount)

variable {owner : ForeignClass} {names : List String}

theorem slot?_eq_findIdx? (owner : ForeignClass) (name : String) :
    owner.slot? name = owner.fields.findIdx? (·.name == name) := by
  cases found : owner.fields.findIdx? (·.name == name) with
  | none => simp only [slot?, typedSlot?, found, Option.bind_none, Option.map_none]
  | some slot =>
      rcases List.findIdx?_eq_some_iff_getElem.mp found with ⟨inside, _⟩
      simp only [slot?, typedSlot?, found, Option.bind_some, List.getElem?_eq_getElem inside,
        Option.map_some]

/-- A field that is there stays where it is when others are added. -/
theorem slot?_withField {name : String} {slot : Nat} (located : owner.slot? name = some slot)
    (added : String) (ty : Ty) : (owner.withField added ty).slot? name = some slot := by
  rw [slot?_eq_findIdx?] at located ⊢
  rw [withField, List.findIdx?_append, located]
  rfl

theorem exists_slot?_of_mem {name : String} (member : name ∈ owner.fields.map (·.name)) :
    Exists fun slot => owner.slot? name = some slot := by
  rcases List.mem_map.mp member with ⟨field, present, same⟩
  rw [slot?_eq_findIdx?]
  cases found : owner.fields.findIdx? (·.name == name) with
  | some slot => exact ⟨slot, rfl⟩
  | none =>
      have absent := List.findIdx?_eq_none_iff.mp found field present
      exact absurd (beq_iff_eq.mpr same) (Bool.eq_false_iff.mp absent)

/-- Each method without arguments that has one of the names reads the field of its
name. -/
def Reads (owner : ForeignClass) (names : List String) : Prop :=
  forall method, method ∈ owner.methods -> method.parameterCount = 0 -> method.name ∈ names ->
    Exists fun slot => method.slot = some slot ∧ owner.slot? method.name = some slot

theorem Reads.withAccessor (reads : owner.Reads names) {name : String}
    (after : name ∈ names -> name ∈ owner.fields.map (·.name)) :
    (owner.withAccessor name).Reads names := by
  intro method member plain named
  rcases List.mem_append.mp member with present | new
  · exact reads method present plain named
  · cases List.mem_singleton.mp new
    rcases exists_slot?_of_mem (after named) with ⟨slot, located⟩
    exact ⟨slot, located, located⟩

/-- Adding accessors leaves the fields as they are, so each of several finds its
field if the field is there before the first. -/
theorem Reads.foldl_withAccessor (reads : owner.Reads names) {added : List String}
    (present : forall name, name ∈ added -> name ∈ owner.fields.map (·.name)) :
    (added.foldl ForeignClass.withAccessor owner).Reads names := by
  induction added generalizing owner with
  | nil => exact reads
  | cons name rest inductionHypothesis =>
      refine inductionHypothesis (reads.withAccessor fun _ => present name List.mem_cons_self) ?_
      exact fun other member => present other (List.mem_cons_of_mem _ member)

theorem AccessorsFollow.reads (follow : AccessorsFollow names owner) : owner.Reads names := by
  induction follow with
  | bare ident path => exact fun method member => absurd member List.not_mem_nil
  | field _ added ty inductionHypothesis =>
      -- Fields are only ever added behind the others, so slots once found stay right.
      intro method member plain named
      rcases inductionHypothesis method member plain named with ⟨slot, reading, located⟩
      exact ⟨slot, reading, slot?_withField located added ty⟩
  | constructor _ parameters isCanonical inductionHypothesis => exact inductionHypothesis
  | canonicalConstructor _ inductionHypothesis => exact inductionHypothesis
  | accessor _ name after inductionHypothesis => exact inductionHypothesis.withAccessor after
  | accessors _ inductionHypothesis =>
      exact inductionHypothesis.foldl_withAccessor fun _ member => member
  | method _ name parameterCount other inductionHypothesis =>
      intro method member plain named
      rcases List.mem_append.mp member with present | new
      · exact inductionHypothesis method present plain named
      · cases List.mem_singleton.mp new
        exact absurd named (other plain)

/-- Where the accessors of the canonical parameters were added after their fields,
they read them. -/
theorem AccessorsFollow.readsFields (follow : AccessorsFollow owner.canonicalParameters owner) :
    owner.ReadsFields := by
  intro method member plain named
  rcases follow.reads method member plain named with ⟨slot, reading, located⟩
  exact reading.trans located.symm

end ForeignClass

/-! ## Round trips -/

namespace Descriptor

/-- A descriptor builds from the arguments that inhabit its types, and what it
makes depends on the arguments alone.  It reads them back. -/
structure Recovers (descriptor : Descriptor) (usable : Runtime -> Prop)
    (make : List Value -> Value) : Prop where
  construct_iff : forall runtime, usable runtime -> forall arguments value,
    descriptor.construct runtime arguments = .ok value ↔
      Value.eachConforms arguments descriptor.types = true ∧ value = make arguments
  components_make : forall runtime, usable runtime -> forall arguments,
    Value.eachConforms arguments descriptor.types = true ->
      descriptor.components runtime (make arguments) = .ok arguments

/-- A descriptor that a declaration gives, or that introspection finds for a class
whose accessors follow its fields.  It is usable while the class stays loaded. -/
inductive Produced : Descriptor -> (Runtime -> Prop) -> Prop where
  | native {decl : TypeDecl} {shape : ProductShape} {interner : Interner}
      {descriptor : Descriptor} (recognized : ProductShape.recognize decl = .ok shape)
      (made : shape.descriptor interner = .ok descriptor) :
      Produced descriptor (fun _ => True)
  | reflective {host : Host} {ident : TypeId} {handle : ClassHandle} {owner : ForeignClass}
      {descriptor : Descriptor}
      (named : host.symbols.handleOf? (ident.path host.interner) = some handle)
      (loaded : host.symbols.classAt? handle = some owner)
      (follow : ForeignClass.AccessorsFollow owner.canonicalParameters owner)
      (introspected : (host.introspect ident).1 = .ok descriptor) :
      Produced descriptor
        (fun runtime => (runtime host.session).symbols.classAt? handle = some owner)

variable {descriptor : Descriptor} {usable : Runtime -> Prop}

theorem recovers_native {shape : ProductShape} {interner : Interner}
    (made : shape.descriptor interner = .ok descriptor) :
    descriptor.Recovers usable (.record shape.ident) := by
  have types : descriptor.types = shape.types := (make_of_descriptor made).types
  constructor
  · intro runtime _ arguments value
    rw [types]
    exact construct_native_iff made runtime arguments value
  · intro runtime _ arguments conform
    have count : arguments.length = shape.types.length :=
      Value.length_of_eachConforms (types ▸ conform)
    rw [components_native made runtime arguments (Nat.le_of_eq count.symm), ← count, List.take_length]

theorem recovers_reflective {host : Host} {handle : ClassHandle} {owner : ForeignClass}
    (discovers : host.Discovers handle owner descriptor) (reads : owner.ReadsFields) :
    descriptor.Recovers
      (fun runtime => (runtime host.session).symbols.classAt? handle = some owner)
      (fun arguments => .record owner.ident (owner.stored arguments)) where
  construct_iff _ loaded := discovers.construct_iff loaded
  components_make _ loaded _ := discovers.components_stored loaded reads

theorem Produced.exists_recovers (produced : descriptor.Produced usable) :
    Exists fun make => descriptor.Recovers usable make := by
  cases produced with
  | native recognized made => exact ⟨_, recovers_native made⟩
  | reflective named loaded follow introspected =>
      have discovers := (Host.discovers_of_named named loaded introspected).2
      exact ⟨_, recovers_reflective discovers follow.readsFields⟩

/-- Building and reading are inverse, on both ways to a descriptor.  What was built
at one time is read at another, as long as the class behind the descriptor is the
same at both. -/
theorem Produced.round_trip (produced : descriptor.Produced usable) {earlier later : Runtime}
    (before : usable earlier) (after : usable later) {arguments : List Value} {value : Value}
    (constructed : descriptor.construct earlier arguments = .ok value) :
    descriptor.components later value = .ok arguments ∧
    (forall index, index < descriptor.arity -> Exists fun argument =>
      arguments[index]? = some argument ∧
        descriptor.component later value index = .ok argument) ∧
    (Contract.synthesized descriptor).bind later value = .ok arguments ∧
    (descriptor.components later value).bind (descriptor.construct later) = .ok value := by
  rcases produced.exists_recovers with ⟨make, recovers⟩
  obtain ⟨conform, rfl⟩ := (recovers.construct_iff earlier before arguments value).mp constructed
  have read := recovers.components_make later after arguments conform
  rcases (components_eq_ok_iff arguments).mp read with ⟨count, each⟩
  refine ⟨read, ?_, ?_, ?_⟩
  · intro index inside
    have given := List.getElem?_eq_getElem (count ▸ inside : index < arguments.length)
    exact ⟨arguments[index], given, each index _ given⟩
  · rw [Contract.bind_synthesized, read]
  · rw [read]
    exact (recovers.construct_iff later after arguments _).mpr ⟨conform, rfl⟩

end Descriptor

namespace Sample

/-- A class of points in disorder: its fields, its canonical parameters and its
accessors stand in three different orders.  No constructor sets the fourth field,
which once had an accessor too early, and there are overloads of a parameter. -/
def mixedClass : ForeignClass :=
  ForeignClass.bare point "geo.Point"
    |>.withField "z" .str
    |>.withField "x" .int
    |>.withAccessor "note"
    |>.withConstructor ["x"] false
    |>.withMethod "y" 1
    |>.withField "y" (.option .int)
    |>.withAccessor "y"
    |>.withField "note" .str
    |>.withConstructor ["y", "z", "x"] true
    |>.withAccessors

def mixedHost : Host :=
  ⟨⟨0⟩, interner, (SymbolTable.empty.load mixedClass).2⟩

/-- What introspection finds. -/
def mixedMirror : Descriptor where
  ident := point
  path := "geo.Point"
  labels := [yLabel, (interner.intern "z").1, xLabel]
  types := [.option .int, .str, .int]
  builder := .reflective ⟨0⟩ ⟨⟨0⟩, 1⟩
  readers := [.reflective ⟨0⟩ ⟨⟨0⟩, 2⟩, .reflective ⟨0⟩ ⟨⟨0⟩, 3⟩, .reflective ⟨0⟩ ⟨⟨0⟩, 4⟩]
  types_length := rfl
  readers_length := rfl
  labels_nodup := by decide +kernel

theorem mixedClass_accessorsFollow :
    ForeignClass.AccessorsFollow mixedClass.canonicalParameters mixedClass := by
  have canonical : mixedClass.canonicalParameters = ["y", "z", "x"] := by decide +kernel
  rw [canonical]
  refine .accessors (.constructor (.field (.accessor (.field (.method (.constructor (.accessor
    (.field (.field (.bare _ _) _ _) _ _) _ ?_) _ _) _ _ ?_) _ _) _ ?_) _ _) _ _)
  · decide
  · decide
  · decide +kernel

theorem mixedHost_named :
    mixedHost.symbols.handleOf? (point.path mixedHost.interner) = some ⟨0⟩ := by
  decide +kernel

theorem mixedHost_introspected : (mixedHost.introspect point).1 = .ok mixedMirror := by
  with_unfolding_all rfl

theorem mixedMirror_produced : mixedMirror.Produced
    (fun runtime => (runtime mixedHost.session).symbols.classAt? ⟨0⟩ = some mixedClass) :=
  .reflective mixedHost_named rfl mixedClass_accessorsFollow mixedHost_introspected

end Sample

/-- The instance keeps its fields in their order, with unit in the one that no
parameter names, and yields the arguments in theirs. -/
theorem Descriptor.mixed_round_trip :
    Sample.mixedMirror.construct (fun _ => Sample.mixedHost)
        [.some (.int 2), .str "a", .int 1] =
      .ok (.record Sample.point [.str "a", .int 1, .some (.int 2), .unit]) ∧
    Sample.mixedMirror.components (fun _ => Sample.mixedHost)
        (.record Sample.point [.str "a", .int 1, .some (.int 2), .unit]) =
      .ok [.some (.int 2), .str "a", .int 1] := by
  have constructed : Sample.mixedMirror.construct (fun _ => Sample.mixedHost)
      [.some (.int 2), .str "a", .int 1] =
        .ok (.record Sample.point [.str "a", .int 1, .some (.int 2), .unit]) := rfl
  exact ⟨constructed, (Sample.mixedMirror_produced.round_trip rfl rfl constructed).1⟩

end StructuralProducts
