import StructuralProducts.Proofs.Pattern.BindCalls
import StructuralProducts.Proofs.Pattern.Interpretation

namespace StructuralProducts

/-!
# Where a match arrives

Matching a value goes from a node of the pattern to its children, and gives each child
the value that it is matched against.  It arrives at an element or a field only if all
before it match, and at an alternative only if all before it are mismatches.  Behind a
deconstruction it goes on only with what the contract gave.

The contract of a deconstruction is called exactly if the match arrives there with a
value that is not a record of another type.  It is called once then, for the value with
which the match arrives: no node is tried again, and no call is repeated.
-/

namespace Matcher

/-- The value is a record, but not of the type that the contract takes apart. -/
def OfOtherType (matcher : Matcher) (id : ContractId) (value : Value) : Prop :=
  Exists fun contract => Exists fun ident => Exists fun fields =>
    matcher.contracts.contract? id = some contract ∧ value = .record ident fields ∧
    ident ≠ contract.ident

/-- All patterns before an index match the values at their positions. -/
def MatchesBefore (matcher : Matcher) (patterns : List LoweredPattern) (values : List Value)
    (index : Nat) : Prop :=
  forall earlier pattern value, earlier < index -> patterns[earlier]? = some pattern ->
    values[earlier]? = some value ->
      Exists fun bound => (matcher.matchPattern pattern value).1 = .ok (some bound)

/-- All alternatives before an index are mismatches. -/
def MismatchesBefore (matcher : Matcher) (alternatives : List LoweredPattern) (value : Value)
    (index : Nat) : Prop :=
  forall earlier alternative, earlier < index -> alternatives[earlier]? = some alternative ->
    (matcher.matchPattern alternative value).1 = .ok none

/-- Matching a pattern against a value goes on with the child at an index and a value. -/
inductive Enters (matcher : Matcher) :
    LoweredPattern -> Value -> Nat -> LoweredPattern -> Value -> Prop where
  | element {elements : List LoweredPattern} {parts : List Value} {index : Nat}
      {element : LoweredPattern} {part : Value} (count : elements.length = parts.length)
      (before : matcher.MatchesBefore elements parts index)
      (present : elements[index]? = some element) (given : parts[index]? = some part) :
      Enters matcher (.tuple elements) (.tuple parts) index element part
  | field {id : ContractId} {contract : Contract} {fields : List LoweredPattern} {value : Value}
      {parts : List Value} {index : Nat} {field : LoweredPattern} {part : Value}
      (found : matcher.contracts.contract? id = some contract)
      (own : ¬ matcher.OfOtherType id value)
      (opened : contract.bind matcher.runtime value = .ok parts)
      (before : matcher.MatchesBefore fields parts index)
      (present : fields[index]? = some field) (given : parts[index]? = some part) :
      Enters matcher (.deconstruct id fields) value index field part
  | alternative {alternatives : List LoweredPattern} {value : Value} {index : Nat}
      {alternative : LoweredPattern} (before : matcher.MismatchesBefore alternatives value index)
      (present : alternatives[index]? = some alternative) :
      Enters matcher (.anyOf alternatives) value index alternative value
  | inner {name : Name} {inner : LoweredPattern} {value : Value} :
      Enters matcher (.asPattern name inner) value 0 inner value

/-- Matching a pattern against a value arrives at the node to which positions lead, with
a value for that node. -/
inductive Arrives (matcher : Matcher) :
    LoweredPattern -> Value -> List Nat -> LoweredPattern -> Value -> Prop where
  | root {pattern : LoweredPattern} {value : Value} : Arrives matcher pattern value [] pattern value
  | child {pattern child node : LoweredPattern} {value part given : Value} {index : Nat}
      {position : List Nat} (enters : matcher.Enters pattern value index child part)
      (further : Arrives matcher child part position node given) :
      Arrives matcher pattern value (index :: position) node given

variable {matcher : Matcher}

theorem ofOtherType_iff {id : ContractId} {contract : Contract}
    (found : matcher.contracts.contract? id = some contract) (value : Value) :
    matcher.OfOtherType id value ↔ isForeignRecord contract.ident value = true := by
  constructor
  · rintro ⟨other, ident, fields, foundToo, rfl, different⟩
    rw [found] at foundToo
    cases foundToo
    exact bne_iff_ne.mpr different
  · intro foreign
    cases value with
    | record ident fields => exact ⟨contract, ident, fields, found, rfl, bne_iff_ne.mp foreign⟩
    | _ => cases foreign

/-! ## Arriving is unambiguous -/

theorem Enters.child {pattern child : LoweredPattern} {value part : Value} {index : Nat}
    (enters : matcher.Enters pattern value index child part) :
    pattern.children[index]? = some child := by
  cases enters with
  | element _ _ present _ => exact present
  | field _ _ _ _ present _ => exact present
  | alternative _ present => exact present
  | inner => rfl

theorem Enters.unique {pattern first second : LoweredPattern} {value firstPart secondPart : Value}
    {index : Nat} (one : matcher.Enters pattern value index first firstPart)
    (other : matcher.Enters pattern value index second secondPart) :
    first = second ∧ firstPart = secondPart := by
  have same : first = second := Option.some.inj (one.child.symm.trans other.child)
  refine ⟨same, ?_⟩
  cases one with
  | element _ _ _ given =>
      cases other with
      | element _ _ _ givenToo => exact Option.some.inj (given.symm.trans givenToo)
  | field found _ opened _ _ given =>
      cases other with
      | field foundToo _ openedToo _ _ givenToo =>
          rw [found] at foundToo
          cases foundToo
          rw [opened] at openedToo
          cases openedToo
          exact Option.some.inj (given.symm.trans givenToo)
  | alternative _ _ =>
      cases other with
      | alternative _ _ => rfl
  | inner =>
      cases other with
      | inner => rfl

theorem Arrives.at? {pattern node : LoweredPattern} {value given : Value} {position : List Nat}
    (arrives : matcher.Arrives pattern value position node given) :
    pattern.at? position = some node := by
  induction arrives with
  | root => rfl
  | child enters _ inductionHypothesis =>
      rw [LoweredPattern.at?, enters.child, Option.bind_some, inductionHypothesis]

/-- A match arrives at a place with one value at most. -/
theorem Arrives.unique {pattern first second : LoweredPattern} {value firstGiven secondGiven : Value}
    {position : List Nat} (one : matcher.Arrives pattern value position first firstGiven)
    (other : matcher.Arrives pattern value position second secondGiven) :
    first = second ∧ firstGiven = secondGiven := by
  induction one with
  | root =>
      cases other with
      | root => exact ⟨rfl, rfl⟩
  | child enters _ inductionHypothesis =>
      cases other with
      | child entersToo further =>
          rcases enters.unique entersToo with ⟨rfl, rfl⟩
          exact inductionHypothesis further

/-! ## Calls are made where a match arrives -/

theorem matchesBefore_zero {patterns : List LoweredPattern} {values : List Value} :
    matcher.MatchesBefore patterns values 0 := by
  intro earlier _ _ inside
  exact absurd inside (Nat.not_lt_zero earlier)

theorem mismatchesBefore_zero {alternatives : List LoweredPattern} {value : Value} :
    matcher.MismatchesBefore alternatives value 0 := by
  intro earlier _ inside
  exact absurd inside (Nat.not_lt_zero earlier)

theorem matchesBefore_cons_iff {pattern : LoweredPattern} {rest : List LoweredPattern}
    {value : Value} {others : List Value} {index : Nat} :
    matcher.MatchesBefore (pattern :: rest) (value :: others) (index + 1) ↔
      (Exists fun bound => matcher.meaning pattern value = .ok (some bound)) ∧
      matcher.MatchesBefore rest others index := by
  rw [← matchPattern_eq_meaning]
  constructor
  · intro before
    refine ⟨before 0 pattern value (Nat.succ_pos index) rfl rfl, ?_⟩
    intro earlier other part inside
    exact before (earlier + 1) other part (Nat.succ_lt_succ inside)
  · rintro ⟨first, later⟩ earlier other part inside present given
    cases earlier with
    | zero =>
        cases present
        cases given
        exact first
    | succ earlier => exact later earlier other part (Nat.lt_of_succ_lt_succ inside) present given

theorem mismatchesBefore_cons_iff {alternative : LoweredPattern} {rest : List LoweredPattern}
    {value : Value} {index : Nat} :
    matcher.MismatchesBefore (alternative :: rest) value (index + 1) ↔
      matcher.meaning alternative value = .ok none ∧
      matcher.MismatchesBefore rest value index := by
  rw [← matchPattern_eq_meaning]
  constructor
  · intro before
    refine ⟨before 0 alternative (Nat.succ_pos index) rfl, ?_⟩
    intro earlier other inside
    exact before (earlier + 1) other (Nat.succ_lt_succ inside)
  · rintro ⟨first, later⟩ earlier other inside present
    cases earlier with
    | zero =>
        cases present
        exact first
    | succ earlier => exact later earlier other (Nat.lt_of_succ_lt_succ inside) present

theorem mem_calledEach_cons_iff {pattern : LoweredPattern} {rest : List LoweredPattern}
    {value : Value} {others : List Value} {start : Nat} {entry : Deconstruction} :
    entry ∈ matcher.calledEach (pattern :: rest) start (value :: others) ↔
      entry ∈ (matcher.called pattern value).map (.below start) ∨
      (Exists fun bound => matcher.meaning pattern value = .ok (some bound)) ∧
        entry ∈ matcher.calledEach rest (start + 1) others := by
  simp only [calledEach, List.mem_append]
  rcases matcher.meaning pattern value with failure | _ | bound <;> simp

theorem mem_calledAny_cons_iff {pattern : LoweredPattern} {rest : List LoweredPattern}
    {value : Value} {start : Nat} {entry : Deconstruction} :
    entry ∈ matcher.calledAny (pattern :: rest) start value ↔
      entry ∈ (matcher.called pattern value).map (.below start) ∨
      matcher.meaning pattern value = .ok none ∧
        entry ∈ matcher.calledAny rest (start + 1) value := by
  simp only [calledAny, List.mem_append]
  rcases matcher.meaning pattern value with failure | _ | bound <;> simp

/-- In patterns and values in pairs the calls are made in a child before which all
match. -/
theorem mem_calledEach_iff {patterns : List LoweredPattern} {values : List Value} {start : Nat}
    {entry : Deconstruction} :
    entry ∈ matcher.calledEach patterns start values ↔
      Exists fun index => Exists fun child => Exists fun part => Exists fun inside =>
        matcher.MatchesBefore patterns values index ∧ patterns[index]? = some child ∧
        values[index]? = some part ∧ inside ∈ matcher.called child part ∧
        entry = .below (start + index) inside := by
  induction patterns generalizing values start with
  | nil => simp [calledEach]
  | cons pattern rest inductionHypothesis =>
      cases values with
      | nil => simp [calledEach]
      | cons value others =>
          rw [mem_calledEach_cons_iff, inductionHypothesis, List.mem_map]
          constructor
          · rintro (⟨inside, member, rfl⟩ |
              ⟨matched, index, child, part, inside, before, present, given, member, rfl⟩)
            · exact ⟨0, pattern, value, inside, matchesBefore_zero, rfl, rfl, member, rfl⟩
            · refine ⟨index + 1, child, part, inside, matchesBefore_cons_iff.mpr ⟨matched, before⟩,
                present, given, member, ?_⟩
              rw [Nat.add_assoc, Nat.add_comm 1]
          · rintro ⟨index, child, part, inside, before, present, given, member, rfl⟩
            cases index with
            | zero =>
                cases present
                cases given
                exact .inl ⟨inside, member, rfl⟩
            | succ index =>
                rcases matchesBefore_cons_iff.mp before with ⟨matched, beforeRest⟩
                refine .inr ⟨matched, index, child, part, inside, beforeRest, present, given,
                  member, ?_⟩
                rw [Nat.add_assoc, Nat.add_comm 1]

/-- Among alternatives the calls are made in one before which all are mismatches. -/
theorem mem_calledAny_iff {alternatives : List LoweredPattern} {value : Value} {start : Nat}
    {entry : Deconstruction} :
    entry ∈ matcher.calledAny alternatives start value ↔
      Exists fun index => Exists fun child => Exists fun inside =>
        matcher.MismatchesBefore alternatives value index ∧ alternatives[index]? = some child ∧
        inside ∈ matcher.called child value ∧ entry = .below (start + index) inside := by
  induction alternatives generalizing start with
  | nil => simp [calledAny]
  | cons pattern rest inductionHypothesis =>
      rw [mem_calledAny_cons_iff, inductionHypothesis, List.mem_map]
      constructor
      · rintro (⟨inside, member, rfl⟩ |
          ⟨mismatch, index, child, inside, before, present, member, rfl⟩)
        · exact ⟨0, pattern, inside, mismatchesBefore_zero, rfl, member, rfl⟩
        · refine ⟨index + 1, child, inside, mismatchesBefore_cons_iff.mpr ⟨mismatch, before⟩,
            present, member, ?_⟩
          rw [Nat.add_assoc, Nat.add_comm 1]
      · rintro ⟨index, child, inside, before, present, member, rfl⟩
        cases index with
        | zero =>
            cases present
            exact .inl ⟨inside, member, rfl⟩
        | succ index =>
            rcases mismatchesBefore_cons_iff.mp before with ⟨mismatch, beforeRest⟩
            refine .inr ⟨mismatch, index, child, inside, beforeRest, present, member, ?_⟩
            rw [Nat.add_assoc, Nat.add_comm 1]

/-- The contract at the root is called exactly if it is there and the value is not of
another type. -/
theorem mem_called_root_iff {pattern : LoweredPattern} {value : Value} {id : ContractId} :
    ⟨[], id⟩ ∈ matcher.called pattern value ↔
      (Exists fun fields => pattern = .deconstruct id fields) ∧
      (Exists fun contract => matcher.contracts.contract? id = some contract) ∧
      ¬ matcher.OfOtherType id value := by
  constructor
  · intro member
    rcases LoweredPattern.mem_deconstructions_iff.mp
      ((matcher.called_sublist pattern value).subset member) with ⟨fields, root⟩
    cases root
    rw [called] at member
    cases found : matcher.contracts.contract? id with
    | none =>
        rw [found] at member
        cases member
    | some contract =>
        refine ⟨⟨fields, rfl⟩, ⟨contract, rfl⟩, ?_⟩
        intro other
        rw [found] at member
        simp only [(ofOtherType_iff found value).mp other, if_true, List.not_mem_nil] at member
  · rintro ⟨⟨fields, rfl⟩, ⟨contract, found⟩, own⟩
    rw [ofOtherType_iff found] at own
    simp only [called, found, if_neg own, List.mem_cons_self]

theorem eq_below_iff {index other : Nat} {position : List Nat} {id : ContractId}
    {inside : Deconstruction} :
    ⟨index :: position, id⟩ = Deconstruction.below other inside ↔
      other = index ∧ inside = ⟨position, id⟩ := by
  rcases inside with ⟨insidePosition, insideId⟩
  simp only [Deconstruction.below, Deconstruction.mk.injEq, List.cons.injEq, eq_comm]
  tauto

/-- A contract below the root is called exactly if it is called in a child with which
the match goes on. -/
theorem mem_called_below_iff {pattern : LoweredPattern} {value : Value} {index : Nat}
    {position : List Nat} {id : ContractId} :
    ⟨index :: position, id⟩ ∈ matcher.called pattern value ↔
      Exists fun child => Exists fun part =>
        matcher.Enters pattern value index child part ∧
        ⟨position, id⟩ ∈ matcher.called child part := by
  cases pattern with
  | wildcard => exact iff_of_false (by simp [called]) (by rintro ⟨_, _, enters, _⟩; cases enters)
  | binding name =>
      exact iff_of_false (by simp [called]) (by rintro ⟨_, _, enters, _⟩; cases enters)
  | literal literal =>
      exact iff_of_false (by simp [called]) (by rintro ⟨_, _, enters, _⟩; cases enters)
  | tuple elements =>
      constructor
      · intro member
        cases value with
        | tuple parts =>
            simp only [called] at member
            split at member
            · next count =>
                rcases mem_calledEach_iff.mp member with
                  ⟨_, child, part, _, before, present, given, inside, equal⟩
                rcases eq_below_iff.mp equal with ⟨same, rfl⟩
                rw [Nat.zero_add] at same
                subst same
                exact ⟨child, part, .element count before present given, inside⟩
            · cases member
        | _ => simp only [called, List.not_mem_nil] at member
      · rintro ⟨child, part, enters, member⟩
        cases enters with
        | element count before present given =>
            simp only [called, if_pos count]
            refine mem_calledEach_iff.mpr
              ⟨index, child, part, _, before, present, given, member, ?_⟩
            rw [Nat.zero_add]
            rfl
  | deconstruct own fields =>
      constructor
      · intro member
        cases found : matcher.contracts.contract? own with
        | none => simp only [called, found, List.not_mem_nil] at member
        | some contract =>
            simp only [called, found] at member
            split at member
            · cases member
            · next domestic =>
                rcases List.mem_cons.mp member with root | inside
                · cases root
                · cases opened : contract.bind matcher.runtime value with
                  | error failure =>
                      rw [opened] at inside
                      cases inside
                  | ok parts =>
                      rw [opened] at inside
                      rcases mem_calledEach_iff.mp inside with
                        ⟨_, child, part, _, before, present, given, deeper, equal⟩
                      rcases eq_below_iff.mp equal with ⟨same, rfl⟩
                      rw [Nat.zero_add] at same
                      subst same
                      exact ⟨child, part, .field found (mt (ofOtherType_iff found value).mp domestic)
                        opened before present given, deeper⟩
      · rintro ⟨child, part, enters, member⟩
        cases enters with
        | field found domestic opened before present given =>
            rw [ofOtherType_iff found] at domestic
            simp only [called, found, if_neg domestic, opened]
            refine List.mem_cons_of_mem _ (mem_calledEach_iff.mpr
              ⟨index, child, part, _, before, present, given, member, ?_⟩)
            rw [Nat.zero_add]
            rfl
  | anyOf alternatives =>
      rw [called, mem_calledAny_iff]
      constructor
      · rintro ⟨_, child, _, before, present, inside, equal⟩
        rcases eq_below_iff.mp equal with ⟨same, rfl⟩
        rw [Nat.zero_add] at same
        subst same
        exact ⟨child, value, .alternative before present, inside⟩
      · rintro ⟨child, part, enters, member⟩
        cases enters with
        | alternative before present =>
            refine ⟨index, child, _, before, present, member, ?_⟩
            rw [Nat.zero_add]
            rfl
  | asPattern name inner =>
      rw [called, List.mem_map]
      constructor
      · rintro ⟨inside, member, equal⟩
        rcases eq_below_iff.mp equal.symm with ⟨rfl, rfl⟩
        exact ⟨inner, value, .inner, member⟩
      · rintro ⟨child, part, enters, member⟩
        cases enters with
        | inner => exact ⟨_, member, rfl⟩

/-- A contract is called exactly if it is in the table and the match arrives at its
deconstruction with a value that is not of another type. -/
theorem mem_called_iff {pattern : LoweredPattern} {value : Value} {position : List Nat}
    {id : ContractId} :
    ⟨position, id⟩ ∈ matcher.called pattern value ↔
      Exists fun fields => Exists fun given =>
        matcher.Arrives pattern value position (.deconstruct id fields) given ∧
        (Exists fun contract => matcher.contracts.contract? id = some contract) ∧
        ¬ matcher.OfOtherType id given := by
  induction position generalizing pattern value with
  | nil =>
      rw [mem_called_root_iff]
      constructor
      · rintro ⟨⟨fields, rfl⟩, present, own⟩
        exact ⟨fields, value, .root, present, own⟩
      · rintro ⟨fields, given, arrives, present, own⟩
        cases arrives with
        | root => exact ⟨⟨fields, rfl⟩, present, own⟩
  | cons index rest inductionHypothesis =>
      rw [mem_called_below_iff]
      constructor
      · rintro ⟨child, part, enters, member⟩
        rcases inductionHypothesis.mp member with ⟨fields, given, arrives, present, own⟩
        exact ⟨fields, given, .child enters arrives, present, own⟩
      · rintro ⟨fields, given, arrives, present, own⟩
        cases arrives with
        | child enters further =>
            exact ⟨_, _, enters, inductionHypothesis.mpr ⟨fields, given, further, present, own⟩⟩

end Matcher
end StructuralProducts
