import StructuralProducts.Proofs.Pattern.Meaning
import StructuralProducts.Proofs.Pattern.Typing

namespace StructuralProducts

/-!
# Access paths of bindings

The bindings of a pattern are collected with a path that grows on the way down.
Here they are put together from the bindings of the parts instead: what is bound
below a step is bound in the part, with the step in front of its path.

Two properties of all nodes of a pattern are needed when bindings are compared.
A deconstruction has one pattern for every component of its contract, and the
alternatives of an alternation are related, by their names or by their bindings.
The nodes of a compiled pattern have the first property and bind the same names.
-/

namespace LoweredPattern

/-! ## Bindings of the parts -/

/-- What a part binds, seen from the whole: a step leads to the part. -/
def behind (step : AccessStep) (entry : Name × AccessPath) : Name × AccessPath :=
  (entry.1, step :: entry.2)

/-- The bindings of consecutive parts, where the part at a position is reached by
one step. -/
def partBindings (step : Nat -> AccessStep) :
    List LoweredPattern -> Nat -> List (Name × AccessPath)
  | [], _ => []
  | pattern :: rest, index =>
      pattern.bindings.map (behind (step index)) ++ partBindings step rest (index + 1)

mutual

/-- Bindings below a path are those of the pattern, with the path in front. -/
theorem bindingsFrom_eq_map : (pattern : LoweredPattern) -> (path : AccessPath) ->
    pattern.bindingsFrom path = pattern.bindings.map fun entry => (entry.1, path ++ entry.2)
  | .wildcard, _ => rfl
  | .binding _, path => by
      simp only [bindings, bindingsFrom, List.map_cons, List.map_nil, List.append_nil]
  | .literal _, _ => rfl
  | .tuple elements, path => by
      simp only [bindings, bindingsFrom, elementBindings_eq_map elements 0 path,
        elementBindings_eq_map elements 0 [], List.map_map, Function.comp_def, List.nil_append]
  | .deconstruct id fields, path => by
      simp only [bindings, bindingsFrom, componentBindings_eq_map id fields 0 path,
        componentBindings_eq_map id fields 0 [], List.map_map, Function.comp_def, List.nil_append]
  | .anyOf [], _ => rfl
  | .anyOf (first :: _), path => bindingsFrom_eq_map first path
  | .asPattern name inner, path => by
      have inside := bindingsFrom_eq_map inner path
      simp only [bindings] at inside ⊢
      rw [bindingsFrom, bindingsFrom, inside, List.map_cons, List.append_nil]

theorem elementBindings_eq_map : (elements : List LoweredPattern) -> (index : Nat) ->
    (path : AccessPath) ->
    elementBindings elements index path =
      (partBindings .element elements index).map fun entry => (entry.1, path ++ entry.2)
  | [], _, _ => rfl
  | pattern :: rest, index, path => by
      simp only [elementBindings, partBindings, bindingsFrom_eq_map pattern,
        elementBindings_eq_map rest, List.map_append, List.map_map, Function.comp_def, behind,
        List.append_assoc, List.singleton_append]

theorem componentBindings_eq_map : (id : ContractId) -> (fields : List LoweredPattern) ->
    (index : Nat) -> (path : AccessPath) ->
    componentBindings id fields index path =
      (partBindings (.component id) fields index).map fun entry => (entry.1, path ++ entry.2)
  | _, [], _, _ => rfl
  | id, pattern :: rest, index, path => by
      simp only [componentBindings, partBindings, bindingsFrom_eq_map pattern,
        componentBindings_eq_map id rest, List.map_append, List.map_map, Function.comp_def, behind,
        List.append_assoc, List.singleton_append]

end

theorem bindings_tuple (elements : List LoweredPattern) :
    (tuple elements).bindings = partBindings .element elements 0 := by
  simp only [bindings, bindingsFrom, elementBindings_eq_map, List.nil_append, List.map_id']

theorem bindings_deconstruct (id : ContractId) (fields : List LoweredPattern) :
    (deconstruct id fields).bindings = partBindings (.component id) fields 0 := by
  simp only [bindings, bindingsFrom, componentBindings_eq_map, List.nil_append, List.map_id']

/-- The patterns directly below a pattern. -/
def children : LoweredPattern -> List LoweredPattern
  | .wildcard => []
  | .binding _ => []
  | .literal _ => []
  | .tuple elements => elements
  | .deconstruct _ fields => fields
  | .anyOf alternatives => alternatives
  | .asPattern _ inner => [inner]

/-- The pattern and everything below it have a property. -/
inductive Everywhere (property : LoweredPattern -> Prop) : LoweredPattern -> Prop where
  | node {pattern : LoweredPattern} (here : property pattern)
      (parts : forall child, child ∈ pattern.children -> Everywhere property child) :
      Everywhere property pattern

theorem Everywhere.here {property : LoweredPattern -> Prop} {pattern : LoweredPattern}
    (everywhere : Everywhere property pattern) : property pattern := by
  cases everywhere with
  | node here parts => exact here

theorem Everywhere.parts {property : LoweredPattern -> Prop} {pattern : LoweredPattern}
    (everywhere : Everywhere property pattern) :
    forall child, child ∈ pattern.children -> Everywhere property child := by
  cases everywhere with
  | node here parts => exact parts

/-- A deconstruction has one pattern for each component of its contract. -/
def Counted (table : ContractTable) (pattern : LoweredPattern) : Prop :=
  forall id fields, pattern = .deconstruct id fields ->
    Exists fun contract => table.contract? id = some contract ∧ fields.length = contract.arity

/-- Any two alternatives of an alternation are related. -/
def Alike (related : LoweredPattern -> LoweredPattern -> Prop) (pattern : LoweredPattern) : Prop :=
  forall alternatives, pattern = .anyOf alternatives ->
    forall first, first ∈ alternatives -> forall second, second ∈ alternatives ->
      related first second

/-- The patterns bind the same names, with multiplicity. -/
def SameNames (first second : LoweredPattern) : Prop :=
  first.boundNames.Perm second.boundNames

/-- The patterns bind the same names along the same paths. -/
def SameBindings (first second : LoweredPattern) : Prop :=
  first.bindings.Perm second.bindings

end LoweredPattern

/-! ## Compiled patterns -/

namespace Pattern

open PatternNode

variable {registry : Registry} {table : ContractTable} {maxDepth? : Option Nat}

/-- A property that the image of every fitting node has is had by all nodes of
the image of a fitting pattern. -/
theorem Image.everywhere {property : LoweredPattern -> Prop}
    (each : forall (node : PatternNode) (lowered : LoweredPattern),
      node.Fits registry maxDepth? -> Image registry table node.pattern lowered ->
        property lowered)
    (pattern : Pattern) {lowered : LoweredPattern} {expected? : Option Ty} {depth : Nat}
    (image : Image registry table pattern lowered)
    (fits : Fits registry maxDepth? ⟨pattern, expected?, depth⟩) :
    lowered.Everywhere property := by
  induction pattern using Pattern.ind generalizing lowered expected? depth with
  | wildcard =>
      apply LoweredPattern.Everywhere.node (each _ _ fits image)
      cases image
      nofun
  | binding name =>
      apply LoweredPattern.Everywhere.node (each _ _ fits image)
      cases image
      nofun
  | literal literal =>
      apply LoweredPattern.Everywhere.node (each _ _ fits image)
      cases image
      nofun
  | tuple elements inductionHypothesis =>
      apply LoweredPattern.Everywhere.node (each _ _ fits image)
      cases image with
      | tuple images =>
          intro child member
          rcases images.exists_of_mem member with ⟨element, elementMember, elementImage⟩
          rcases List.getElem?_of_mem elementMember with ⟨position, found⟩
          exact inductionHypothesis element elementMember elementImage
            (((fits_tuple_iff _ _ _).mp fits).2.2 position element found)
  | deconstruct typeName arguments span inductionHypothesis =>
      apply LoweredPattern.Everywhere.node (each _ _ fits image)
      cases image with
      | deconstruct opens images =>
          intro child member
          rcases images.exists_of_mem member with ⟨argument, argumentMember, argumentImage⟩
          rcases List.getElem?_of_mem argumentMember with ⟨position, found⟩
          exact inductionHypothesis argument argumentMember argumentImage
            (((fits_deconstruct_iff _ _ _ _ _).mp fits).2.2 position argument found)
  | anyOf alternatives inductionHypothesis =>
      apply LoweredPattern.Everywhere.node (each _ _ fits image)
      cases image with
      | anyOf images =>
          intro child member
          rcases images.exists_of_mem member with ⟨written, writtenMember, writtenImage⟩
          exact inductionHypothesis written writtenMember writtenImage
            (((fits_anyOf_iff _ _ _).mp fits).2.2 written writtenMember)
  | asPattern name inner inductionHypothesis =>
      apply LoweredPattern.Everywhere.node (each _ _ fits image)
      cases image with
      | asPattern innerImage =>
          intro child member
          rw [LoweredPattern.children, List.mem_singleton] at member
          rw [member]
          exact inductionHypothesis innerImage ((fits_asPattern_iff _ _ _ _).mp fits).2

theorem Image.counted {node : PatternNode} {lowered : LoweredPattern}
    (fits : node.Fits registry maxDepth?) (image : Image registry table node.pattern lowered) :
    lowered.Counted table := by
  rintro id fields rfl
  rcases node with ⟨pattern, expected?, depth⟩
  cases image with
  | deconstruct opens images =>
      rcases (fits_deconstruct_iff _ _ _ _ _).mp fits with
        ⟨_, ⟨ident, types, unique, _, components, count⟩, _⟩
      have resolved := opens.resolved
      rw [unique] at resolved
      cases resolved
      have provided := opens.provided
      rw [registry.componentTypes?_eq_map, provided] at components
      have types_eq := (Registry.types_of_provision? provided).symm.trans
        (Option.some.inj components)
      refine ⟨_, congrArg (Option.map ContractEntry.contract) opens.present, ?_⟩
      rw [Contract.arity, types_eq, count, images.length_eq]

theorem Image.alike_names {node : PatternNode} {lowered : LoweredPattern}
    (fits : node.Fits registry maxDepth?) (image : Image registry table node.pattern lowered) :
    lowered.Alike LoweredPattern.SameNames := by
  rintro alternatives rfl
  rcases node with ⟨pattern, expected?, depth⟩
  cases image with
  | anyOf images => exact images.perm_iff.mpr ((fits_anyOf_iff _ _ _).mp fits).2.1

end Pattern
end StructuralProducts
