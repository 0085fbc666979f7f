import StructuralProducts.Interner

namespace StructuralProducts

/-!
# Types

A nominal type is identified by its interned fully qualified path.  The same
path names the same type in every compilation unit and at run time.

Component types are built from a few ground types by lists, options, tuples and
references to nominal types.  A reference records the identity only: what the
nominal type looks like is not part of the component type.
-/

/-- The identity of a nominal type: its interned fully qualified path. -/
structure TypeId where
  name : Name
  deriving DecidableEq, Inhabited

namespace TypeId

def path (ident : TypeId) (interner : Interner) : String :=
  interner.lookup ident.name

/-- The part of a path after its last dot; the whole path if it has no dot. -/
def lastSegment (path : String) : String :=
  String.ofList (path.toList.reverse.takeWhile (· != '.')).reverse

/-- The last segment of the path, which source code may use for the type when
no other type shares it. -/
def simpleName (ident : TypeId) (interner : Interner) : String :=
  lastSegment (ident.path interner)

/-- Identities are ordered by their names. -/
def precedes (first second : TypeId) : Bool :=
  first.name.precedes second.name

end TypeId

/-- The declared type of a component. -/
inductive Ty where
  | unit
  | int
  | float
  | bool
  | str
  | char
  | list (element : Ty)
  | option (content : Ty)
  | tuple (elements : List Ty)
  | named (ident : TypeId)
  deriving Inhabited

namespace Ty

mutual

/-- Structural equality, decided. -/
def same : Ty -> Ty -> Bool
  | .unit, .unit => true
  | .int, .int => true
  | .float, .float => true
  | .bool, .bool => true
  | .str, .str => true
  | .char, .char => true
  | .list first, .list second => first.same second
  | .option first, .option second => first.same second
  | .tuple first, .tuple second => sameAll first second
  | .named first, .named second => first == second
  | _, _ => false

/-- Structural equality of lists of types, decided. -/
def sameAll : List Ty -> List Ty -> Bool
  | [], [] => true
  | first :: firstRest, second :: secondRest => first.same second && sameAll firstRest secondRest
  | _, _ => false

end

mutual

theorem same_self : (ty : Ty) -> ty.same ty = true
  | .unit | .int | .float | .bool | .str | .char => rfl
  | .list element => same_self element
  | .option content => same_self content
  | .tuple elements => sameAll_self elements
  | .named _ => beq_self_eq_true _

theorem sameAll_self : (types : List Ty) -> sameAll types types = true
  | [] => rfl
  | ty :: rest => by simp [sameAll, same_self ty, sameAll_self rest]

end

mutual

theorem eq_of_same : (first second : Ty) -> first.same second = true -> first = second
  | .unit, second, equal => by cases second <;> simp_all [same]
  | .int, second, equal => by cases second <;> simp_all [same]
  | .float, second, equal => by cases second <;> simp_all [same]
  | .bool, second, equal => by cases second <;> simp_all [same]
  | .str, second, equal => by cases second <;> simp_all [same]
  | .char, second, equal => by cases second <;> simp_all [same]
  | .list element, second, equal => by
      cases second <;> simp_all [same]
      exact eq_of_same element _ equal
  | .option content, second, equal => by
      cases second <;> simp_all [same]
      exact eq_of_same content _ equal
  | .tuple elements, second, equal => by
      cases second <;> simp_all [same]
      exact eq_of_sameAll elements _ equal
  | .named ident, second, equal => by cases second <;> simp_all [same]

theorem eq_of_sameAll : (first second : List Ty) -> sameAll first second = true -> first = second
  | [], second, equal => by cases second <;> simp_all [sameAll]
  | ty :: rest, second, equal => by
      cases second with
      | nil => simp [sameAll] at equal
      | cons other others =>
          simp only [sameAll, Bool.and_eq_true] at equal
          rw [eq_of_same ty other equal.1, eq_of_sameAll rest others equal.2]

end

/-- The decision procedure decides equality. -/
theorem same_iff (first second : Ty) : first.same second = true ↔ first = second :=
  ⟨eq_of_same first second, fun equal => equal ▸ same_self first⟩

instance : DecidableEq Ty :=
  fun first second => decidable_of_iff _ (same_iff first second)

mutual

def display (interner : Interner) : Ty -> String
  | .unit => "()"
  | .int => "int"
  | .float => "float"
  | .bool => "bool"
  | .str => "str"
  | .char => "char"
  | .list element => "[" ++ element.display interner ++ "]"
  | .option content => "Option<" ++ content.display interner ++ ">"
  | .tuple elements => "(" ++ ", ".intercalate (displayAll interner elements) ++ ")"
  | .named ident => ident.path interner

def displayAll (interner : Interner) : List Ty -> List String
  | [] => []
  | ty :: rest => ty.display interner :: displayAll interner rest

end

mutual

/-- The one-line form for inspection, with identities left as names. -/
def inspect : Ty -> String
  | .unit => "Unit"
  | .int => "Int"
  | .float => "Float"
  | .bool => "Bool"
  | .str => "Str"
  | .char => "Char"
  | .list element => "List(" ++ element.inspect ++ ")"
  | .option content => "Option(" ++ content.inspect ++ ")"
  | .tuple elements => "Tuple([" ++ ", ".intercalate (inspectAll elements) ++ "])"
  | .named ident => "Named(TypeIdent(" ++ ident.name.inspect ++ "))"

def inspectAll : List Ty -> List String
  | [] => []
  | ty :: rest => ty.inspect :: inspectAll rest

end

end Ty
end StructuralProducts
