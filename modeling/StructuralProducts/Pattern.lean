import StructuralProducts.Span
import StructuralProducts.Ty

namespace StructuralProducts

/-!
# Patterns as written

The patterns of a source file, after parsing.  A deconstruction pattern carries
the name of its type as it was written and the place where it stands; no other
form carries a place of its own.
-/

/-- A literal in a pattern.  Strings are interned. -/
inductive Literal where
  | int (number : Int64)
  | bool (truth : Bool)
  | str (text : Name)
  | char (character : Char)
  deriving DecidableEq

/-- A pattern as written. -/
inductive Pattern where
  /-- Matches anything. -/
  | wildcard
  /-- Matches anything and binds it. -/
  | binding (name : Name)
  /-- Matches one value. -/
  | literal (literal : Literal)
  /-- Matches tuples of the same length, element by element. -/
  | tuple (elements : List Pattern)
  /-- Takes an instance of a named type apart. -/
  | deconstruct (typeName : Name) (arguments : List Pattern) (span : Span)
  /-- Matches what one of the alternatives matches. -/
  | anyOf (alternatives : List Pattern)
  /-- Binds the whole value and matches the inner pattern. -/
  | asPattern (name : Name) (inner : Pattern)
  deriving Inhabited

namespace Literal

/-- The only type whose values the literal can equal. -/
def ty : Literal -> Ty
  | .int _ => .int
  | .bool _ => .bool
  | .str _ => .str
  | .char _ => .char

def description : Literal -> String
  | .int _ => "an int literal"
  | .bool _ => "a bool literal"
  | .str _ => "a str literal"
  | .char _ => "a char literal"

end Literal

namespace Pattern

/-- The place of the outermost deconstruction, if the pattern is one, possibly
under names for the whole value. -/
def span? : Pattern -> Option Span
  | .deconstruct _ _ span => some span
  | .asPattern _ inner => inner.span?
  | _ => none

end Pattern
end StructuralProducts
