import StructuralProducts.Value

namespace StructuralProducts

/-!
# Types with one value

Unit has one value, and so has a tuple of types that have one value each.  Every
other type has at least two: an option may be absent or not, a list may be empty
or not, and a record is tested by its identity alone.

Values of two types are always equal only if both types have the same one value.
The values of a type never all inhabit another type.
-/

namespace Ty

mutual

/-- The only value of a type, if there is only one. -/
def sole? : Ty -> Option Value
  | .unit => some .unit
  | .tuple elements => (soleAll? elements).map .tuple
  | _ => none

/-- The only list of values of several types, if there is only one. -/
def soleAll? : List Ty -> Option (List Value)
  | [] => some []
  | ty :: rest => ty.sole?.bind fun sole => (soleAll? rest).map (sole :: ·)

end

/-- The value is the only one that passes a test. -/
def Only {Item : Type} (test : Item -> Bool) (only : Item) : Prop :=
  test only = true ∧ forall item, test item = true -> item = only

/-- Two different values pass a test. -/
def Several {Item : Type} (test : Item -> Bool) : Prop :=
  Exists fun first => Exists fun second =>
    test first = true ∧ test second = true ∧ first ≠ second

theorem only_tuple {types : List Ty} {soles : List Value}
    (only : Only (Value.eachConforms · types) soles) :
    Only (Value.conforms · (.tuple types)) (.tuple soles) := by
  refine ⟨only.1, ?_⟩
  intro value conforms
  cases value with
  | tuple elements => rw [only.2 elements conforms]
  | _ => cases conforms

theorem only_cons {ty : Ty} {rest : List Ty} {sole : Value} {soles : List Value}
    (head : Only (Value.conforms · ty) sole) (tail : Only (Value.eachConforms · rest) soles) :
    Only (Value.eachConforms · (ty :: rest)) (sole :: soles) := by
  refine ⟨Bool.and_eq_true_iff.mpr ⟨head.1, tail.1⟩, ?_⟩
  intro values conform
  cases values with
  | nil => cases conform
  | cons value others =>
      rcases Bool.and_eq_true_iff.mp conform with ⟨first, later⟩
      rw [head.2 value first, tail.2 others later]

mutual

/-- A type has one value, or several. -/
theorem sole?_cases : (ty : Ty) ->
    (Exists fun sole => ty.sole? = some sole ∧ Only (Value.conforms · ty) sole) ∨
      (ty.sole? = none ∧ Several (Value.conforms · ty))
  | .unit => by
      refine .inl ⟨.unit, rfl, rfl, ?_⟩
      intro value conforms
      cases value with
      | unit => rfl
      | _ => cases conforms
  | .int => .inr ⟨rfl, .int 0, .int 1, rfl, rfl, by simp⟩
  | .float => .inr ⟨rfl, .float ⟨0⟩, .float ⟨1⟩, rfl, rfl, by simp⟩
  | .bool => .inr ⟨rfl, .bool true, .bool false, rfl, rfl, by simp⟩
  | .str => .inr ⟨rfl, .str "", .str "one", rfl, rfl, by simp⟩
  | .char => .inr ⟨rfl, .char 'a', .char 'b', rfl, rfl, by simp⟩
  | .named ident =>
      .inr ⟨rfl, .record ident [], .record ident [.unit], beq_self_eq_true ident,
        beq_self_eq_true ident, by simp⟩
  | .list element => by
      refine .inr ⟨rfl, ?_⟩
      rcases sole?_cases element with ⟨sole, _, only⟩ | ⟨_, first, _, conforms, _⟩
      · exact ⟨.list [], .list [sole], rfl, Bool.and_eq_true_iff.mpr ⟨only.1, rfl⟩, by simp⟩
      · exact ⟨.list [], .list [first], rfl, Bool.and_eq_true_iff.mpr ⟨conforms, rfl⟩, by simp⟩
  | .option content => by
      refine .inr ⟨rfl, ?_⟩
      rcases sole?_cases content with ⟨sole, _, only⟩ | ⟨_, first, _, conforms, _⟩
      · exact ⟨.none, .some sole, rfl, only.1, by simp⟩
      · exact ⟨.none, .some first, rfl, conforms, by simp⟩
  | .tuple elements => by
      rcases soleAll?_cases elements with ⟨soles, found, only⟩ | ⟨found, first, second, several⟩
      · exact .inl ⟨.tuple soles, by simp [sole?, found], only_tuple only⟩
      · refine .inr ⟨by simp [sole?, found], .tuple first, .tuple second, several.1,
          several.2.1, ?_⟩
        intro same
        exact several.2.2 (Value.tuple.inj same)

theorem soleAll?_cases : (types : List Ty) ->
    (Exists fun soles => soleAll? types = some soles ∧ Only (Value.eachConforms · types) soles) ∨
      (soleAll? types = none ∧ Several (Value.eachConforms · types))
  | [] => by
      refine .inl ⟨[], rfl, rfl, ?_⟩
      intro values conform
      cases values with
      | nil => rfl
      | cons value others => cases conform
  | ty :: rest => by
      rcases sole?_cases ty with ⟨sole, found, only⟩ | ⟨found, first, second, several⟩
      · rcases soleAll?_cases rest with
          ⟨soles, allFound, all⟩ | ⟨allFound, firsts, seconds, allSeveral⟩
        · exact .inl ⟨sole :: soles, by simp [soleAll?, found, allFound], only_cons only all⟩
        · refine .inr ⟨by simp [soleAll?, found, allFound], sole :: firsts, sole :: seconds,
            Bool.and_eq_true_iff.mpr ⟨only.1, allSeveral.1⟩,
            Bool.and_eq_true_iff.mpr ⟨only.1, allSeveral.2.1⟩, ?_⟩
          intro same
          exact allSeveral.2.2 (List.cons.inj same).2
      · have some_rest : Exists fun others => Value.eachConforms others rest = true := by
          rcases soleAll?_cases rest with ⟨soles, _, all⟩ | ⟨_, firsts, _, conform, _⟩
          · exact ⟨soles, all.1⟩
          · exact ⟨firsts, conform⟩
        rcases some_rest with ⟨others, conform⟩
        refine .inr ⟨by simp [soleAll?, found], first :: others, second :: others,
          Bool.and_eq_true_iff.mpr ⟨several.1, conform⟩,
          Bool.and_eq_true_iff.mpr ⟨several.2.1, conform⟩, ?_⟩
        intro same
        exact several.2.2 (List.cons.inj same).1

end

theorem exists_conforms (ty : Ty) : Exists fun value => Value.conforms value ty = true := by
  rcases sole?_cases ty with ⟨sole, _, only⟩ | ⟨_, first, _, conforms, _⟩
  · exact ⟨sole, only.1⟩
  · exact ⟨first, conforms⟩

theorem exists_eachConforms (types : List Ty) :
    Exists fun values => Value.eachConforms values types = true := by
  rcases soleAll?_cases types with ⟨soles, _, only⟩ | ⟨_, first, _, conform, _⟩
  · exact ⟨soles, only.1⟩
  · exact ⟨first, conform⟩

theorem sole?_of_forall_eq {ty : Ty} {value : Value}
    (equal : forall other, Value.conforms other ty = true -> other = value) :
    ty.sole? = some value := by
  rcases sole?_cases ty with ⟨sole, found, only⟩ | ⟨_, first, second, conforms, also, differ⟩
  · rw [found, equal sole only.1]
  · exact absurd ((equal first conforms).trans (equal second also).symm) differ

theorem eq_of_sole? {ty : Ty} {sole value : Value} (found : ty.sole? = some sole)
    (conforms : value.conforms ty = true) : value = sole := by
  rcases sole?_cases ty with ⟨other, same, only⟩ | ⟨none, _⟩
  · rw [found] at same
    cases same
    exact only.2 value conforms
  · rw [found] at none
    cases none

/-- The values of two types are always equal exactly when both types have the same
sole value. -/
theorem forall_eq_iff (first second : Ty) :
    (forall value other : Value, value.conforms first = true -> other.conforms second = true ->
      other = value) ↔
      Exists fun sole => first.sole? = some sole ∧ second.sole? = some sole := by
  constructor
  · intro equal
    rcases exists_conforms first with ⟨value, conforms⟩
    rcases exists_conforms second with ⟨other, otherConforms⟩
    have same := equal value other conforms otherConforms
    refine ⟨value, sole?_of_forall_eq ?_, sole?_of_forall_eq ?_⟩
    · intro another anotherConforms
      exact (equal another other anotherConforms otherConforms).symm.trans same
    · intro another anotherConforms
      exact equal value another conforms anotherConforms
  · rintro ⟨sole, firstSole, secondSole⟩ value other conforms otherConforms
    rw [eq_of_sole? firstSole conforms, eq_of_sole? secondSole otherConforms]

mutual

/-- Different types have different values: a type whose values all inhabit another
type is that type. -/
theorem eq_of_forall_conforms : (first second : Ty) ->
    (forall value : Value, value.conforms first = true -> value.conforms second = true) ->
    first = second
  | .unit, second, included => by
      have conforms := included .unit rfl
      cases second with
      | unit => rfl
      | _ => cases conforms
  | .int, second, included => by
      have conforms := included (.int 0) rfl
      cases second with
      | int => rfl
      | _ => cases conforms
  | .float, second, included => by
      have conforms := included (.float ⟨0⟩) rfl
      cases second with
      | float => rfl
      | _ => cases conforms
  | .bool, second, included => by
      have conforms := included (.bool true) rfl
      cases second with
      | bool => rfl
      | _ => cases conforms
  | .str, second, included => by
      have conforms := included (.str "") rfl
      cases second with
      | str => rfl
      | _ => cases conforms
  | .char, second, included => by
      have conforms := included (.char 'a') rfl
      cases second with
      | char => rfl
      | _ => cases conforms
  | .named ident, second, included => by
      have conforms := included (.record ident []) (beq_self_eq_true ident)
      cases second with
      | named wanted => rw [eq_of_beq conforms]
      | _ => cases conforms
  | .list element, second, included => by
      have conforms := included (.list []) rfl
      cases second with
      | list other =>
          rw [eq_of_forall_conforms element other]
          intro value inhabits
          have single : (Value.list [value]).conforms (.list element) = true :=
            Bool.and_eq_true_iff.mpr ⟨inhabits, rfl⟩
          exact (Bool.and_eq_true_iff.mp (included _ single)).1
      | _ => cases conforms
  | .option content, second, included => by
      have conforms := included .none rfl
      cases second with
      | option other =>
          rw [eq_of_forall_conforms content other]
          intro value inhabits
          exact included (.some value) inhabits
      | _ => cases conforms
  | .tuple elements, second, included => by
      rcases exists_eachConforms elements with ⟨values, conform⟩
      have conforms := included (.tuple values) conform
      cases second with
      | tuple others =>
          rw [eq_of_forall_eachConforms elements others]
          intro others inhabit
          exact included (.tuple others) inhabit
      | _ => cases conforms

theorem eq_of_forall_eachConforms : (first second : List Ty) ->
    (forall values : List Value, Value.eachConforms values first = true ->
      Value.eachConforms values second = true) -> first = second
  | [], second, included => by
      have conform := included [] rfl
      cases second with
      | nil => rfl
      | cons ty rest => cases conform
  | ty :: rest, second, included => by
      rcases exists_conforms ty with ⟨value, conforms⟩
      rcases exists_eachConforms rest with ⟨others, conform⟩
      have both := included (value :: others) (Bool.and_eq_true_iff.mpr ⟨conforms, conform⟩)
      cases second with
      | nil => cases both
      | cons otherTy otherRest =>
          have head := eq_of_forall_conforms ty otherTy (fun item inhabits =>
            (Bool.and_eq_true_iff.mp (included (item :: others)
              (Bool.and_eq_true_iff.mpr ⟨inhabits, conform⟩))).1)
          have tail := eq_of_forall_eachConforms rest otherRest (fun items inhabit =>
            (Bool.and_eq_true_iff.mp (included (value :: items)
              (Bool.and_eq_true_iff.mpr ⟨conforms, inhabit⟩))).2)
          rw [head, tail]

end

end Ty
end StructuralProducts
