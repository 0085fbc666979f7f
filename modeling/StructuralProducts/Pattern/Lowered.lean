import StructuralProducts.Contract.Table
import StructuralProducts.Pattern

namespace StructuralProducts

/-!
# Lowered patterns

A lowered pattern refers to a contract where the written pattern names a type.
Whatever is bound is reached from the matched value by an access path.  The
paths of an alternation are those of its first alternative; lowering sees to it
that the other alternatives bind the same names.
-/

/-- A pattern after lowering. -/
inductive LoweredPattern where
  | wildcard
  | binding (name : Name)
  | literal (literal : Literal)
  | tuple (elements : List LoweredPattern)
  /-- One pattern for each component that the contract gives. -/
  | deconstruct (contract : ContractId) (fields : List LoweredPattern)
  | anyOf (alternatives : List LoweredPattern)
  | asPattern (name : Name) (inner : LoweredPattern)
  deriving Inhabited

/-- One step from a value to a part of it. -/
inductive AccessStep where
  /-- The element of a tuple at a position. -/
  | element (index : Nat)
  /-- The component that a contract gives at a position. -/
  | component (contract : ContractId) (index : Nat)
  deriving DecidableEq

/-- The steps from a matched value to a part of it. -/
abbrev AccessPath := List AccessStep

namespace LoweredPattern

mutual

/-- The pattern matches every value of its type. -/
def isIrrefutable : LoweredPattern -> Bool
  | .wildcard => true
  | .binding _ => true
  | .literal _ => false
  | .tuple elements => areIrrefutable elements
  | .deconstruct _ fields => areIrrefutable fields
  | .anyOf alternatives => someIrrefutable alternatives
  | .asPattern _ inner => inner.isIrrefutable

/-- Every pattern of a list matches every value of its type. -/
def areIrrefutable : List LoweredPattern -> Bool
  | [] => true
  | pattern :: rest => pattern.isIrrefutable && areIrrefutable rest

/-- Some pattern of a list matches every value of its type. -/
def someIrrefutable : List LoweredPattern -> Bool
  | [] => false
  | pattern :: rest => pattern.isIrrefutable || someIrrefutable rest

end

mutual

/-- The bound names with the paths that reach them, in binding order, below a
given path. -/
def bindingsFrom : LoweredPattern -> AccessPath -> List (Name × AccessPath)
  | .wildcard, _ => []
  | .binding name, path => [(name, path)]
  | .literal _, _ => []
  | .tuple elements, path => elementBindings elements 0 path
  | .deconstruct contract fields, path => componentBindings contract fields 0 path
  | .anyOf alternatives, path => firstBindings alternatives path
  | .asPattern name inner, path => (name, path) :: inner.bindingsFrom path

def elementBindings : List LoweredPattern -> Nat -> AccessPath -> List (Name × AccessPath)
  | [], _, _ => []
  | pattern :: rest, index, path =>
      pattern.bindingsFrom (path ++ [.element index]) ++ elementBindings rest (index + 1) path

def componentBindings (contract : ContractId) :
    List LoweredPattern -> Nat -> AccessPath -> List (Name × AccessPath)
  | [], _, _ => []
  | pattern :: rest, index, path =>
      pattern.bindingsFrom (path ++ [.component contract index]) ++
        componentBindings contract rest (index + 1) path

def firstBindings : List LoweredPattern -> AccessPath -> List (Name × AccessPath)
  | [], _ => []
  | pattern :: _, path => pattern.bindingsFrom path

end

/-- The bound names with the paths that reach them from the matched value. -/
def bindings (pattern : LoweredPattern) : List (Name × AccessPath) :=
  pattern.bindingsFrom []

mutual

def boundNames : LoweredPattern -> List Name
  | .wildcard => []
  | .binding name => [name]
  | .literal _ => []
  | .tuple elements => allBoundNames elements
  | .deconstruct _ fields => allBoundNames fields
  | .anyOf alternatives => firstBoundNames alternatives
  | .asPattern name inner => name :: inner.boundNames

/-- The names bound by any pattern of a list, in binding order. -/
def allBoundNames : List LoweredPattern -> List Name
  | [] => []
  | pattern :: rest => pattern.boundNames ++ allBoundNames rest

/-- The names bound by the first pattern of a list. -/
def firstBoundNames : List LoweredPattern -> List Name
  | [] => []
  | pattern :: _ => pattern.boundNames

end

mutual

theorem map_fst_bindingsFrom : (pattern : LoweredPattern) -> (path : AccessPath) ->
    (pattern.bindingsFrom path).map (·.1) = pattern.boundNames
  | .wildcard, _ => rfl
  | .binding _, _ => rfl
  | .literal _, _ => rfl
  | .tuple elements, path => map_fst_elementBindings elements 0 path
  | .deconstruct contract fields, path => map_fst_componentBindings contract fields 0 path
  | .anyOf [], _ => rfl
  | .anyOf (first :: _), path => map_fst_bindingsFrom first path
  | .asPattern _ inner, path => by
      simp only [bindingsFrom, boundNames, List.map_cons, map_fst_bindingsFrom inner path]

theorem map_fst_elementBindings : (elements : List LoweredPattern) -> (index : Nat) ->
    (path : AccessPath) ->
    (elementBindings elements index path).map (·.1) = allBoundNames elements
  | [], _, _ => rfl
  | pattern :: rest, index, path => by
      simp only [elementBindings, allBoundNames, List.map_append,
        map_fst_bindingsFrom pattern, map_fst_elementBindings rest]

theorem map_fst_componentBindings : (contract : ContractId) ->
    (fields : List LoweredPattern) -> (index : Nat) -> (path : AccessPath) ->
    (componentBindings contract fields index path).map (·.1) = allBoundNames fields
  | _, [], _, _ => rfl
  | contract, pattern :: rest, index, path => by
      simp only [componentBindings, allBoundNames, List.map_append,
        map_fst_bindingsFrom pattern, map_fst_componentBindings contract rest]

end

/-- The bindings bind the bound names, in the same order. -/
theorem map_fst_bindings (pattern : LoweredPattern) :
    pattern.bindings.map (·.1) = pattern.boundNames :=
  map_fst_bindingsFrom pattern []

end LoweredPattern
end StructuralProducts
