import Mathlib.Logic.Relation
import StructuralProducts.Pattern.Site
import StructuralProducts.Proofs.RegisteredContracts

namespace StructuralProducts

/-!
# Well-formed patterns

What a unit has to satisfy in order to compile, said on the patterns as they are
written.  Lowering, contract tables and diagnostics do not occur here.

A node is a pattern at the place where it stands: with the type that is expected
there, if one is known, and with its nesting depth.  The expected type flows from
the scrutinee to the root, through a tuple to its elements, through the component
types of a deconstructed type to the arguments, and unchanged into alternatives
and below a name for the whole value.  A pattern is well formed when each node
at or below its root is, and when it binds no name twice.
-/

/-- Induction over patterns, with the hypothesis for each pattern of a list. -/
theorem Pattern.ind {motive : Pattern -> Prop}
    (wildcard : motive .wildcard)
    (binding : forall name, motive (.binding name))
    (literal : forall literal, motive (.literal literal))
    (tuple : forall elements, (forall element, element ∈ elements -> motive element) ->
      motive (.tuple elements))
    (deconstruct : forall typeName arguments span,
      (forall argument, argument ∈ arguments -> motive argument) ->
      motive (.deconstruct typeName arguments span))
    (anyOf : forall alternatives,
      (forall alternative, alternative ∈ alternatives -> motive alternative) ->
      motive (.anyOf alternatives))
    (asPattern : forall name inner, motive inner -> motive (.asPattern name inner))
    (pattern : Pattern) : motive pattern :=
  @Pattern.rec motive (fun patterns => forall pattern, pattern ∈ patterns -> motive pattern)
    wildcard binding literal tuple deconstruct anyOf asPattern
    (fun _ member => absurd member List.not_mem_nil)
    (fun _ _ head tail pattern member => by
      rcases List.mem_cons.mp member with rfl | later
      · exact head
      · exact tail pattern later)
    pattern

namespace Pattern

/-! ## Bound names -/

mutual

/-- The names that a pattern binds, in binding order.  An alternation counts as
its first alternative. -/
def boundNames : Pattern -> List Name
  | .wildcard => []
  | .binding name => [name]
  | .literal _ => []
  | .tuple elements => allBoundNames elements
  | .deconstruct _ arguments _ => allBoundNames arguments
  | .anyOf alternatives => firstBoundNames alternatives
  | .asPattern name inner => name :: inner.boundNames

/-- The names bound by any pattern of a list, in binding order. -/
def allBoundNames : List Pattern -> List Name
  | [] => []
  | pattern :: rest => pattern.boundNames ++ allBoundNames rest

/-- The names bound by the first pattern of a list. -/
def firstBoundNames : List Pattern -> List Name
  | [] => []
  | pattern :: _ => pattern.boundNames

end

end Pattern

/-! ## Nodes and the flow of expected types -/

/-- A pattern at the place where it stands. -/
structure PatternNode where
  pattern : Pattern
  expected? : Option Ty
  depth : Nat

/-- The type expected of an element of a tuple. -/
def Ty.elementType? (expected? : Option Ty) (position : Nat) : Option Ty :=
  match expected? with
  | some (.tuple types) => types[position]?
  | _ => none

/-- The type expected of an argument of a deconstruction. -/
def Registry.argumentType? (registry : Registry) (typeName : Name) (position : Nat) : Option Ty :=
  match registry.resolve typeName with
  | .unique ident => (registry.componentTypes? ident).bind (·[position]?)
  | _ => none

namespace PatternNode

/-- One node stands directly below another. -/
inductive Child (registry : Registry) : PatternNode -> PatternNode -> Prop where
  | element {elements : List Pattern} {expected? : Option Ty} {depth position : Nat}
      {pattern : Pattern} (found : elements[position]? = some pattern) :
      Child registry ⟨.tuple elements, expected?, depth⟩
        ⟨pattern, Ty.elementType? expected? position, depth + 1⟩
  | argument {typeName : Name} {arguments : List Pattern} {span : Span} {expected? : Option Ty}
      {depth position : Nat} {pattern : Pattern} (found : arguments[position]? = some pattern) :
      Child registry ⟨.deconstruct typeName arguments span, expected?, depth⟩
        ⟨pattern, registry.argumentType? typeName position, depth + 1⟩
  | alternative {alternatives : List Pattern} {expected? : Option Ty} {depth : Nat}
      {pattern : Pattern} (member : pattern ∈ alternatives) :
      Child registry ⟨.anyOf alternatives, expected?, depth⟩ ⟨pattern, expected?, depth + 1⟩
  | inner {name : Name} {pattern : Pattern} {expected? : Option Ty} {depth : Nat} :
      Child registry ⟨.asPattern name pattern, expected?, depth⟩ ⟨pattern, expected?, depth + 1⟩

/-- One node stands at or below another. -/
abbrev Below (registry : Registry) : PatternNode -> PatternNode -> Prop :=
  Relation.ReflTransGen (Child registry)

/-- What is required of a node by itself. -/
structure Sound (registry : Registry) (maxDepth? : Option Nat) (node : PatternNode) : Prop where
  /-- The node is not nested beyond the limit. -/
  nesting : forall limit, maxDepth? = some limit -> node.depth ≤ limit
  /-- A literal stands where nothing or its own type is expected. -/
  literal : forall literal expected, node.pattern = .literal literal ->
    node.expected? = some expected -> expected = literal.ty
  /-- A tuple stands where nothing or a tuple of the same length is expected. -/
  tuple : forall elements expected, node.pattern = .tuple elements ->
    node.expected? = some expected ->
      Exists fun types => expected = .tuple types ∧ types.length = elements.length
  /-- A deconstruction names one type.  Nothing or that type is expected, and the
  type can be deconstructed into as many components as there are arguments. -/
  deconstruct : forall typeName arguments span,
    node.pattern = .deconstruct typeName arguments span ->
      Exists fun ident => Exists fun types =>
        registry.resolve typeName = .unique ident ∧
        (forall expected, node.expected? = some expected -> expected = .named ident) ∧
        registry.componentTypes? ident = some types ∧ types.length = arguments.length
  /-- All alternatives bind the same names, with multiplicity. -/
  alternatives : forall alternatives, node.pattern = .anyOf alternatives ->
    forall first, first ∈ alternatives -> forall second, second ∈ alternatives ->
      first.boundNames.Perm second.boundNames

/-- Every node at or below this one is sound. -/
def Fits (registry : Registry) (maxDepth? : Option Nat) (node : PatternNode) : Prop :=
  forall below, Below registry node below -> below.Sound registry maxDepth?

variable {registry : Registry} {maxDepth? : Option Nat}

/-- A node fits when it is sound and all nodes directly below it fit. -/
theorem fits_iff (node : PatternNode) :
    node.Fits registry maxDepth? ↔
      node.Sound registry maxDepth? ∧
        forall child, Child registry node child -> child.Fits registry maxDepth? := by
  constructor
  · intro fits
    refine ⟨fits node .refl, ?_⟩
    intro child direct below reached
    exact fits below (.head direct reached)
  · rintro ⟨sound, children⟩ below reached
    rcases Relation.ReflTransGen.cases_head reached with rfl | ⟨child, direct, later⟩
    · exact sound
    · exact children child direct below later

/-- A depth is within the limit, if there is one. -/
def Within (maxDepth? : Option Nat) (depth : Nat) : Prop :=
  forall limit, maxDepth? = some limit -> depth ≤ limit

/-- A type that is expected, if there is one, is the given one. -/
def Accepts (ty : Ty) (expected? : Option Ty) : Prop :=
  forall expected, expected? = some expected -> expected = ty

/-- A type that is expected, if there is one, is that of tuples of a length. -/
def AcceptsTuple (elementCount : Nat) (expected? : Option Ty) : Prop :=
  forall expected, expected? = some expected ->
    Exists fun types => expected = .tuple types ∧ types.length = elementCount

/-- What a deconstruction needs in order to be opened. -/
def Openable (registry : Registry) (typeName : Name) (argumentCount : Nat)
    (expected? : Option Ty) : Prop :=
  Exists fun ident => Exists fun types => registry.resolve typeName = .unique ident ∧
    Accepts (.named ident) expected? ∧ registry.componentTypes? ident = some types ∧
    types.length = argumentCount

/-! Each form of pattern fits under its own condition, and if what stands
directly below it fits. -/

theorem fits_wildcard_iff (expected? : Option Ty) (depth : Nat) :
    Fits registry maxDepth? ⟨.wildcard, expected?, depth⟩ ↔ Within maxDepth? depth := by
  rw [fits_iff]
  constructor
  · rintro ⟨sound, _⟩
    exact sound.nesting
  · intro within
    exact ⟨⟨within, nofun, nofun, nofun, nofun⟩, nofun⟩

theorem fits_binding_iff (name : Name) (expected? : Option Ty) (depth : Nat) :
    Fits registry maxDepth? ⟨.binding name, expected?, depth⟩ ↔ Within maxDepth? depth := by
  rw [fits_iff]
  constructor
  · rintro ⟨sound, _⟩
    exact sound.nesting
  · intro within
    exact ⟨⟨within, nofun, nofun, nofun, nofun⟩, nofun⟩

theorem fits_literal_iff (literal : Literal) (expected? : Option Ty) (depth : Nat) :
    Fits registry maxDepth? ⟨.literal literal, expected?, depth⟩ ↔
      Within maxDepth? depth ∧ Accepts literal.ty expected? := by
  rw [fits_iff]
  constructor
  · rintro ⟨sound, _⟩
    exact ⟨sound.nesting, fun expected => sound.literal literal expected rfl⟩
  · rintro ⟨within, accepts⟩
    refine ⟨⟨within, ?_, nofun, nofun, nofun⟩, nofun⟩
    rintro _ expected ⟨rfl⟩ same
    exact accepts expected same

theorem fits_tuple_iff (elements : List Pattern) (expected? : Option Ty) (depth : Nat) :
    Fits registry maxDepth? ⟨.tuple elements, expected?, depth⟩ ↔
      Within maxDepth? depth ∧ AcceptsTuple elements.length expected? ∧
      forall position pattern, elements[position]? = some pattern ->
        Fits registry maxDepth? ⟨pattern, Ty.elementType? expected? position, depth + 1⟩ := by
  rw [fits_iff]
  constructor
  · rintro ⟨sound, children⟩
    exact ⟨sound.nesting, fun expected => sound.tuple elements expected rfl,
      fun position pattern found => children _ (.element found)⟩
  · rintro ⟨within, accepts, each⟩
    refine ⟨⟨within, nofun, ?_, nofun, nofun⟩, ?_⟩
    · rintro _ expected ⟨rfl⟩ same
      exact accepts expected same
    · rintro child (found | _ | _ | _)
      exact each _ _ found

theorem fits_deconstruct_iff (typeName : Name) (arguments : List Pattern) (span : Span)
    (expected? : Option Ty) (depth : Nat) :
    Fits registry maxDepth? ⟨.deconstruct typeName arguments span, expected?, depth⟩ ↔
      Within maxDepth? depth ∧ Openable registry typeName arguments.length expected? ∧
      forall position pattern, arguments[position]? = some pattern ->
        Fits registry maxDepth?
          ⟨pattern, registry.argumentType? typeName position, depth + 1⟩ := by
  rw [fits_iff]
  constructor
  · rintro ⟨sound, children⟩
    exact ⟨sound.nesting, sound.deconstruct typeName arguments span rfl,
      fun position pattern found => children _ (.argument found)⟩
  · rintro ⟨within, openable, each⟩
    refine ⟨⟨within, nofun, nofun, ?_, nofun⟩, ?_⟩
    · rintro _ _ _ ⟨rfl⟩
      exact openable
    · rintro child (_ | found | _ | _)
      exact each _ _ found

theorem fits_anyOf_iff (alternatives : List Pattern) (expected? : Option Ty) (depth : Nat) :
    Fits registry maxDepth? ⟨.anyOf alternatives, expected?, depth⟩ ↔
      Within maxDepth? depth ∧
      (forall first, first ∈ alternatives -> forall second, second ∈ alternatives ->
        first.boundNames.Perm second.boundNames) ∧
      forall pattern, pattern ∈ alternatives ->
        Fits registry maxDepth? ⟨pattern, expected?, depth + 1⟩ := by
  rw [fits_iff]
  constructor
  · rintro ⟨sound, children⟩
    exact ⟨sound.nesting, sound.alternatives alternatives rfl,
      fun pattern member => children _ (.alternative member)⟩
  · rintro ⟨within, agree, each⟩
    refine ⟨⟨within, nofun, nofun, nofun, ?_⟩, ?_⟩
    · rintro _ ⟨rfl⟩
      exact agree
    · rintro child (_ | _ | member | _)
      exact each _ member

theorem fits_asPattern_iff (name : Name) (inner : Pattern) (expected? : Option Ty)
    (depth : Nat) :
    Fits registry maxDepth? ⟨.asPattern name inner, expected?, depth⟩ ↔
      Within maxDepth? depth ∧ Fits registry maxDepth? ⟨inner, expected?, depth + 1⟩ := by
  rw [fits_iff]
  constructor
  · rintro ⟨sound, children⟩
    exact ⟨sound.nesting, children _ .inner⟩
  · rintro ⟨within, fits⟩
    refine ⟨⟨within, nofun, nofun, nofun, nofun⟩, ?_⟩
    rintro child (_ | _ | _ | _)
    exact fits

end PatternNode

/-! ## Patterns, sites and units -/

/-- A pattern fits the type that is expected of it as far as one is known, and
binds no name twice. -/
structure Pattern.WellFormed (registry : Registry) (maxDepth? : Option Nat)
    (expected? : Option Ty) (pattern : Pattern) : Prop where
  nodes : forall node, PatternNode.Below registry ⟨pattern, expected?, 0⟩ node ->
    node.Sound registry maxDepth?
  names : pattern.boundNames.Nodup

/-- Every pattern of every site is well formed against the scrutinee of the
site. -/
def PatternUnit.WellFormed (registry : Registry) (maxDepth? : Option Nat)
    (written : PatternUnit) : Prop :=
  forall site, site ∈ written.sites -> forall pattern, pattern ∈ site.patterns ->
    pattern.WellFormed registry maxDepth? site.scrutinee?

end StructuralProducts
