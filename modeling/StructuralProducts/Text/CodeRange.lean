namespace StructuralProducts
namespace Text

/-!
# Ranges of code points

Character properties that no short rule describes are given as lists of closed
ranges in increasing order.  Membership walks the list and stops at the first
range that ends at or after the character; the order of the list is what makes
that stop right.
-/

/-- A closed range of code points, first and last included. -/
abbrev CodeRange := Nat × Nat

/-- Membership of a code point in an increasing list of ranges. -/
def codeInRanges (code : Nat) : List CodeRange -> Bool
  | [] => false
  | range :: rest =>
      if code <= range.2 then range.1 <= code else codeInRanges code rest

/-- Membership of a character in an increasing list of ranges. -/
def inRanges (ranges : List CodeRange) (character : Char) : Bool :=
  codeInRanges character.toNat ranges

end Text
end StructuralProducts
