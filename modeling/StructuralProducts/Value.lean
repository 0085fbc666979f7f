import StructuralProducts.Ty
import StructuralProducts.Numeric.ShortestDecimal
import StructuralProducts.Text.Quoted

namespace StructuralProducts

/-!
# Run-time values

An instance of a product type is a record: the identity of its type together
with its component values in canonical order.  Nothing in the value itself says
whether the components fit the type; that is the business of the descriptor that
constructed it.

Equality of the inductive type is structural, floats by their bits.  The
comparison that programs see is `agrees`, which compares floats numerically.
-/

/-- A run-time value. -/
inductive Value where
  | unit
  | int (number : Int64)
  | float (number : Binary64)
  | bool (truth : Bool)
  | str (text : String)
  | char (character : Char)
  | list (elements : List Value)
  | tuple (elements : List Value)
  | none
  | some (content : Value)
  | record (ident : TypeId) (fields : List Value)
  deriving Inhabited

namespace Value

/-- The short word for the kind of a value that messages use. -/
def kindName : Value -> String
  | .unit => "()"
  | .int _ => "int"
  | .float _ => "float"
  | .bool _ => "bool"
  | .str _ => "str"
  | .char _ => "char"
  | .list _ => "list"
  | .tuple _ => "tuple"
  | .none => "option"
  | .some _ => "option"
  | .record _ _ => "record"

mutual

/-- The comparison of values that programs see. -/
def agrees : Value -> Value -> Bool
  | .unit, .unit => true
  | .int first, .int second => first == second
  | .float first, .float second => first.agrees second
  | .bool first, .bool second => first == second
  | .str first, .str second => first == second
  | .char first, .char second => first == second
  | .list first, .list second => agreesAll first second
  | .tuple first, .tuple second => agreesAll first second
  | .none, .none => true
  | .some first, .some second => first.agrees second
  | .record firstIdent first, .record secondIdent second =>
      firstIdent == secondIdent && agreesAll first second
  | _, _ => false

/-- Lists agree when they are equally long and agree element by element. -/
def agreesAll : List Value -> List Value -> Bool
  | [], [] => true
  | first :: firstRest, second :: secondRest =>
      first.agrees second && agreesAll firstRest secondRest
  | _, _ => false

end

mutual

/-- The run-time shape test: does the value inhabit the type?  A record is
tested by its identity alone, so its fields are not looked at. -/
def conforms : Value -> Ty -> Bool
  | .unit, .unit => true
  | .int _, .int => true
  | .float _, .float => true
  | .bool _, .bool => true
  | .str _, .str => true
  | .char _, .char => true
  | .none, .option _ => true
  | .some content, .option ty => content.conforms ty
  | .list elements, .list ty => allConform elements ty
  | .tuple elements, .tuple types => eachConforms elements types
  | .record ident _, .named wanted => ident == wanted
  | _, _ => false

/-- Every element inhabits the one type. -/
def allConform : List Value -> Ty -> Bool
  | [], _ => true
  | value :: rest, ty => value.conforms ty && allConform rest ty

/-- Equally many values as types, each inhabiting the type at its position. -/
def eachConforms : List Value -> List Ty -> Bool
  | [], [] => true
  | value :: rest, ty :: types => value.conforms ty && eachConforms rest types
  | _, _ => false

end

mutual

/-- The displayed form.  Records show the last segment of their path. -/
def display (interner : Interner) : Value -> String
  | .unit => "()"
  | .int number => toString number.toInt
  | .float number => number.display
  | .bool truth => if truth then "true" else "false"
  | .str text => Text.quotedString text
  | .char character => Text.quotedCharacter character
  | .list elements => "[" ++ ", ".intercalate (displayAll interner elements) ++ "]"
  | .tuple elements => "(" ++ ", ".intercalate (displayAll interner elements) ++ ")"
  | .none => "None"
  | .some content => "Some(" ++ content.display interner ++ ")"
  | .record ident fields =>
      ident.simpleName interner ++ "(" ++ ", ".intercalate (displayAll interner fields) ++ ")"

def displayAll (interner : Interner) : List Value -> List String
  | [] => []
  | value :: rest => value.display interner :: displayAll interner rest

end

/-- A conforming tuple has as many elements as its type. -/
theorem length_of_eachConforms : {values : List Value} -> {types : List Ty} ->
    eachConforms values types = true -> values.length = types.length
  | [], [], _ => rfl
  | [], _ :: _, conform => by simp [eachConforms] at conform
  | _ :: _, [], conform => by simp [eachConforms] at conform
  | _ :: _, _ :: _, conform => by
      simp only [eachConforms, Bool.and_eq_true] at conform
      simp [length_of_eachConforms conform.2]

/-- A tuple conforms when it has as many elements as its type and each element
inhabits the type at its position. -/
theorem eachConforms_iff_getElem? (values : List Value) (types : List Ty) :
    eachConforms values types = true ↔ values.length = types.length ∧
      forall (index : Nat) (value : Value) (ty : Ty), values[index]? = Option.some value ->
        types[index]? = Option.some ty -> value.conforms ty = true := by
  induction types generalizing values with
  | nil =>
      cases values with
      | nil => exact iff_of_true rfl ⟨rfl, fun _ _ _ absent => nomatch absent⟩
      | cons value others => exact iff_of_false nofun nofun
  | cons ty rest inductionHypothesis =>
      cases values with
      | nil => exact iff_of_false nofun nofun
      | cons value others =>
          rw [eachConforms, Bool.and_eq_true, inductionHypothesis others]
          constructor
          · rintro ⟨conforms, count, each⟩
            refine ⟨congrArg Nat.succ count, ?_⟩
            intro index other otherTy found typed
            cases index with
            | zero =>
                cases found
                cases typed
                exact conforms
            | succ position => exact each position other otherTy found typed
          · rintro ⟨count, each⟩
            refine ⟨each 0 value ty rfl rfl, Nat.succ.inj count, ?_⟩
            intro index other otherTy found typed
            exact each (index + 1) other otherTy found typed

end Value
end StructuralProducts
