import StructuralProducts.Pattern.Lowered

namespace StructuralProducts

/-!
# Pattern sites

Patterns stand in `let` bindings, in the arms of a `match` and in parameters.  A
unit is the sequence of its sites together with the symbols that it exports.
Contracts are internal to a compiled unit; its exports are the declared ones.
-/

/-- Where a pattern stands. -/
inductive SiteKind where
  | letBinding
  | matchArms
  | parameter
  deriving DecidableEq

/-- A site as written: one pattern, or one for each arm of a `match`. -/
structure PatternSite where
  kind : SiteKind
  /-- The static type of the matched value, when it is known. -/
  scrutinee? : Option Ty
  patterns : List Pattern
  span : Span

/-- The sites of a unit and what it exports. -/
structure PatternUnit where
  name : String
  exports : List String
  sites : List PatternSite

/-- A lowered pattern with the paths to what it binds. -/
structure CompiledArm where
  pattern : LoweredPattern
  bindings : List (Name × AccessPath)

/-- A site after lowering. -/
structure CompiledSite where
  kind : SiteKind
  span : Span
  arms : List CompiledArm

/-- A unit after lowering.  Its names belong to the interner of its session. -/
structure CompiledUnit where
  session : SessionId
  name : String
  exports : List String
  sites : List CompiledSite
  contracts : ContractTable

namespace CompiledArm

def ofPattern (pattern : LoweredPattern) : CompiledArm :=
  ⟨pattern, pattern.bindings⟩

end CompiledArm
end StructuralProducts
