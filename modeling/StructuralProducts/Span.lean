namespace StructuralProducts

/-!
# Source spans

A span is a range of byte offsets in a source file, the start included and the
end excluded.  Offsets are 32-bit words.  A span whose end does not come after
its start covers nothing; such spans are legal and mark synthesized code.
-/

/-- A range of byte offsets. -/
structure Span where
  start : UInt32
  stop : UInt32
  deriving DecidableEq, Inhabited

namespace Span

/-- The span of code that stands in no source file. -/
def synthetic : Span := ⟨0, 0⟩

def length (span : Span) : Nat :=
  span.stop.toNat - span.start.toNat

def isEmpty (span : Span) : Bool :=
  span.stop <= span.start

/-- The least span that reaches from the earlier start to the later end. -/
def merge (first second : Span) : Span :=
  ⟨min first.start second.start, max first.stop second.stop⟩

def display (span : Span) : String :=
  s!"{span.start.toNat}..{span.stop.toNat}"

end Span
end StructuralProducts
