import StructuralProducts.Proofs.Pattern.Bindings

namespace StructuralProducts

/-!
# Matching is the compositional reading of patterns

What a pattern says about a value can be told clause by clause, from what its
parts say: a tuple joins what its elements bind, a deconstruction is read as the
tuple of what the contract gives, and an alternation says what its first
alternative says that is not a mismatch.  `Interprets` lists the clauses.  They
mention neither a trail nor an order of evaluation, and they say nothing about a
deconstruction whose fields are not as many as the components of its contract.

Everywhere else the clauses leave no choice, and matching is what they say.  At a
site the first arm decides that is not a mismatch.
-/

namespace MatchOutcome

/-- Match things one after the other, up to the first that does not match or
fails. -/
def joined : List MatchOutcome -> MatchOutcome
  | [] => .ok (some [])
  | first :: rest => first.followedBy (joined rest)

/-- The first outcome that is not a mismatch. -/
def firstOf : List MatchOutcome -> MatchOutcome
  | [] => .ok none
  | first :: rest => first.orElse (firstOf rest)

end MatchOutcome

namespace Matcher

/-- The value that a literal stands for. -/
def literalValue (matcher : Matcher) : Literal -> Value
  | .int number => .int number
  | .bool truth => .bool truth
  | .str text => .str (matcher.interner.lookup text)
  | .char character => .char character

/-- A reading of patterns that is put together from the readings of their parts. -/
structure Interprets (matcher : Matcher)
    (means : LoweredPattern -> Value -> MatchOutcome) : Prop where
  wildcard : forall value, means .wildcard value = .ok (some [])
  binding : forall name value, means (.binding name) value = .ok (some [(name, value)])
  literal : forall literal,
    means (.literal literal) (matcher.literalValue literal) = .ok (some [])
  otherValue : forall literal value, value ≠ matcher.literalValue literal ->
    means (.literal literal) value = .ok none
  tuple : forall elements parts, elements.length = parts.length ->
    means (.tuple elements) (.tuple parts) = .joined (List.zipWith means elements parts)
  /-- A tuple pattern matches tuples of its own length only. -/
  notThatTuple : forall elements value,
    (forall parts, value = .tuple parts -> elements.length ≠ parts.length) ->
      means (.tuple elements) value = .ok none
  otherRecord : forall id fields contract, matcher.contracts.contract? id = some contract ->
    forall ident parts, ident ≠ contract.ident ->
      means (.deconstruct id fields) (.record ident parts) = .ok none
  /-- The contract refuses to take the value apart. -/
  refused : forall id fields contract, matcher.contracts.contract? id = some contract ->
    forall value failure, isForeignRecord contract.ident value = false ->
      contract.parts matcher.runtime value = .error failure ->
        means (.deconstruct id fields) value = .error failure
  /-- The contract takes the value apart into too many or too few values. -/
  miscounted : forall id fields contract, matcher.contracts.contract? id = some contract ->
    forall value parts, isForeignRecord contract.ident value = false ->
      contract.parts matcher.runtime value = .ok parts -> parts.length ≠ contract.arity ->
        means (.deconstruct id fields) value =
          .error (.wrongPartCount contract.path parts.length contract.arity)
  deconstruct : forall id fields contract, matcher.contracts.contract? id = some contract ->
    fields.length = contract.arity ->
      forall value parts, isForeignRecord contract.ident value = false ->
        contract.parts matcher.runtime value = .ok parts -> parts.length = contract.arity ->
          means (.deconstruct id fields) value = means (.tuple fields) (.tuple parts)
  anyOf : forall alternatives value,
    means (.anyOf alternatives) value = .firstOf (alternatives.map (means · value))
  asPattern : forall name inner value,
    means (.asPattern name inner) value =
      (means inner value).map (Option.map ((name, value) :: ·))

variable {matcher : Matcher}

/-! ## The clauses have one reading -/

theorem meaningEach_eq_joined (patterns : List LoweredPattern) (values : List Value) :
    matcher.meaningEach patterns values =
      .joined (List.zipWith matcher.meaning patterns values) := by
  induction patterns generalizing values with
  | nil => simp only [meaningEach, List.zipWith_nil_left, MatchOutcome.joined]
  | cons pattern rest inductionHypothesis =>
      cases values with
      | nil => simp only [meaningEach, List.zipWith_nil_right, MatchOutcome.joined]
      | cons value others =>
          simp only [meaningEach, List.zipWith_cons_cons, MatchOutcome.joined,
            inductionHypothesis]

theorem meaningAny_eq_firstOf (alternatives : List LoweredPattern) (value : Value) :
    matcher.meaningAny alternatives value =
      .firstOf (alternatives.map (matcher.meaning · value)) := by
  induction alternatives with
  | nil => simp only [meaningAny, List.map_nil, MatchOutcome.firstOf]
  | cons pattern rest inductionHypothesis =>
      simp only [meaningAny, List.map_cons, MatchOutcome.firstOf, inductionHypothesis]

/-- A record of the contract's type, or no record at all, is taken apart. -/
theorem meaning_deconstruct {id : ContractId} {contract : Contract}
    (found : matcher.contracts.contract? id = some contract) {value : Value}
    (own : isForeignRecord contract.ident value = false) (fields : List LoweredPattern) :
    matcher.meaning (.deconstruct id fields) value =
      (contract.bind matcher.runtime value).bind (matcher.meaningEach fields ·) := by
  simp only [meaning, found, own, Bool.false_eq_true, if_false]
  cases contract.bind matcher.runtime value with
  | error failure => rfl
  | ok parts => rfl

theorem equalsLiteral_iff (literal : Literal) (value : Value) :
    matcher.equalsLiteral literal value = true ↔ value = matcher.literalValue literal := by
  rw [@eq_comm _ value]
  cases literal <;> cases value <;> simp [equalsLiteral, literalValue]

theorem meaning_interprets (matcher : Matcher) : matcher.Interprets matcher.meaning where
  wildcard value := by simp only [meaning]
  binding name value := by simp only [meaning]
  literal literal := by
    simp only [meaning, (equalsLiteral_iff literal _).mpr rfl, if_true]
  otherValue literal value other := by
    have differs := mt (equalsLiteral_iff literal value).mp other
    simp only [meaning, if_neg differs]
  tuple elements parts count := by
    simp only [meaning, if_pos count, meaningEach_eq_joined]
  notThatTuple elements value apart := by
    cases value with
    | tuple parts => simp only [meaning, if_neg (apart parts rfl)]
    | _ => simp only [meaning]
  otherRecord id fields contract found ident parts other := by
    simp only [meaning, found, isForeignRecord, bne_iff_ne.mpr other, if_true]
  refused id fields contract found value failure own failed := by
    rw [meaning_deconstruct found own, Contract.bind, failed]
    rfl
  miscounted id fields contract found value parts own given count := by
    simp only [meaning_deconstruct found own, Contract.bind, given, if_neg count]
    rfl
  deconstruct id fields contract found count value parts own given partCount := by
    have whole : matcher.meaning (.tuple fields) (.tuple parts) =
        matcher.meaningEach fields parts := by
      simp only [meaning, if_pos (count.trans partCount.symm)]
    rw [whole, meaning_deconstruct found own, Contract.bind, given]
    simp only [if_pos partCount]
    rfl
  anyOf alternatives value := by simp only [meaning, meaningAny_eq_firstOf]
  asPattern name inner value := by
    simp only [meaning]
    rfl

theorem zipWith_congr_of_mem {first second : LoweredPattern -> Value -> MatchOutcome}
    {patterns : List LoweredPattern}
    (same : forall pattern, pattern ∈ patterns -> forall value,
      first pattern value = second pattern value) (values : List Value) :
    List.zipWith first patterns values = List.zipWith second patterns values := by
  induction patterns generalizing values with
  | nil => rfl
  | cons pattern rest inductionHypothesis =>
      cases values with
      | nil => rfl
      | cons value others =>
          rw [List.zipWith_cons_cons, List.zipWith_cons_cons, same pattern List.mem_cons_self,
            inductionHypothesis fun other member => same other (List.mem_cons_of_mem _ member)]

/-- The clauses leave no choice where deconstructions have one field for each
component. -/
theorem Interprets.eq_meaning {means : LoweredPattern -> Value -> MatchOutcome}
    (interprets : matcher.Interprets means) (pattern : LoweredPattern)
    (counted : pattern.Everywhere (LoweredPattern.Counted matcher.contracts)) (value : Value) :
    means pattern value = matcher.meaning pattern value := by
  have clauses := matcher.meaning_interprets
  induction pattern using LoweredPattern.ind generalizing value with
  | wildcard => rw [interprets.wildcard, clauses.wildcard]
  | binding name => rw [interprets.binding, clauses.binding]
  | literal literal =>
      by_cases same : value = matcher.literalValue literal
      · rw [same, interprets.literal, clauses.literal]
      · rw [interprets.otherValue literal value same, clauses.otherValue literal value same]
  | tuple elements inductionHypothesis =>
      have same := zipWith_congr_of_mem fun element member =>
        inductionHypothesis element member (counted.parts element member)
      by_cases fits : Exists fun parts => value = .tuple parts ∧ elements.length = parts.length
      · rcases fits with ⟨parts, rfl, count⟩
        rw [interprets.tuple elements parts count, clauses.tuple elements parts count, same]
      · have apart : forall parts, value = .tuple parts -> elements.length ≠ parts.length :=
          fun parts equal count => fits ⟨parts, equal, count⟩
        rw [interprets.notThatTuple elements value apart, clauses.notThatTuple elements value apart]
  | deconstruct id fields inductionHypothesis =>
      have same := zipWith_congr_of_mem fun field member =>
        inductionHypothesis field member (counted.parts field member)
      rcases counted.here id fields rfl with ⟨contract, found, count⟩
      cases foreign : isForeignRecord contract.ident value with
      | true =>
          cases value with
          | record ident parts =>
              have other : ident ≠ contract.ident := bne_iff_ne.mp foreign
              rw [interprets.otherRecord id fields contract found ident parts other,
                clauses.otherRecord id fields contract found ident parts other]
          | _ => cases foreign
      | false =>
          cases given : contract.parts matcher.runtime value with
          | error failure =>
              rw [interprets.refused id fields contract found value failure foreign given,
                clauses.refused id fields contract found value failure foreign given]
          | ok parts =>
              by_cases partCount : parts.length = contract.arity
              · have both := count.trans partCount.symm
                rw [interprets.deconstruct id fields contract found count value parts foreign given
                    partCount,
                  clauses.deconstruct id fields contract found count value parts foreign given
                    partCount,
                  interprets.tuple fields parts both, clauses.tuple fields parts both, same]
              · rw [interprets.miscounted id fields contract found value parts foreign given
                    partCount,
                  clauses.miscounted id fields contract found value parts foreign given partCount]
  | anyOf alternatives inductionHypothesis =>
      have same : alternatives.map (means · value) =
          alternatives.map (matcher.meaning · value) :=
        List.map_congr_left fun alternative member =>
          inductionHypothesis alternative member (counted.parts alternative member) value
      rw [interprets.anyOf, clauses.anyOf, same]
  | asPattern name inner inductionHypothesis =>
      rw [interprets.asPattern, clauses.asPattern,
        inductionHypothesis (counted.parts inner List.mem_cons_self) value]

/-! ## The arm that decides -/

/-- An arm is the first that is not a mismatch, and it gives the outcome. -/
structure Decides (means : LoweredPattern -> Value -> MatchOutcome) (arms : List CompiledArm)
    (value : Value) (index : Nat) (outcome : MatchOutcome) : Prop where
  arm : Exists fun arm => arms[index]? = some arm ∧ means arm.pattern value = outcome
  decisive : outcome ≠ .ok none
  earlier : forall position arm, position < index -> arms[position]? = some arm ->
    means arm.pattern value = .ok none

theorem Decides.unique {means : LoweredPattern -> Value -> MatchOutcome}
    {arms : List CompiledArm} {value : Value} {first second : Nat}
    {firstOutcome secondOutcome : MatchOutcome}
    (one : Decides means arms value first firstOutcome)
    (other : Decides means arms value second secondOutcome) :
    first = second ∧ firstOutcome = secondOutcome := by
  rcases one.arm with ⟨firstArm, firstPresent, firstMeans⟩
  rcases other.arm with ⟨secondArm, secondPresent, secondMeans⟩
  rcases Nat.lt_trichotomy first second with before | rfl | behind
  · exact absurd (firstMeans.symm.trans (other.earlier first firstArm before firstPresent))
      one.decisive
  · rw [firstPresent] at secondPresent
    cases secondPresent
    exact ⟨rfl, firstMeans.symm.trans secondMeans⟩
  · exact absurd (secondMeans.symm.trans (one.earlier second secondArm behind secondPresent))
      other.decisive

theorem Decides.not_all {means : LoweredPattern -> Value -> MatchOutcome}
    {arms : List CompiledArm} {value : Value} {index : Nat} {outcome : MatchOutcome}
    (decides : Decides means arms value index outcome) :
    ¬ forall arm, arm ∈ arms -> means arm.pattern value = .ok none := by
  intro mismatches
  rcases decides.arm with ⟨arm, present, equal⟩
  exact decides.decisive (equal.symm.trans (mismatches arm (List.mem_of_getElem? present)))

/-- Selecting an arm finds the one that decides, and nothing only if all arms are
mismatches. -/
theorem selectArm_cases {means : LoweredPattern -> Value -> MatchOutcome}
    {arms : List CompiledArm} {value : Value}
    (same : forall arm, arm ∈ arms ->
      (matcher.matchPattern arm.pattern value).1 = means arm.pattern value) (start : Nat) :
    ((forall arm, arm ∈ arms -> means arm.pattern value = .ok none) ∧
      (matcher.selectArm start arms value).1 = .ok none) ∨
    Exists fun index => Exists fun outcome => Decides means arms value index outcome ∧
      (matcher.selectArm start arms value).1 = outcome.map (Option.map (start + index, ·)) := by
  induction arms generalizing start with
  | nil => exact .inl ⟨nofun, rfl⟩
  | cons arm rest inductionHypothesis =>
      have first := same arm List.mem_cons_self
      have here : means arm.pattern value ≠ .ok none ->
          Decides means (arm :: rest) value 0 (means arm.pattern value) := fun decisive =>
        ⟨⟨arm, rfl, rfl⟩, decisive, nofun⟩
      unfold selectArm
      rcases matched : matcher.matchPattern arm.pattern value with ⟨outcome, calls⟩
      rw [matched] at first
      rcases outcome with failure | _ | bindings
      · exact .inr ⟨0, _, here (first ▸ nofun), first ▸ rfl⟩
      · -- The arm is a mismatch, and the arm that decides stands among the others.
        have later := inductionHypothesis
          (fun other member => same other (List.mem_cons_of_mem _ member)) (start + 1)
        rcases later with ⟨mismatches, nothing⟩ | ⟨index, outcome, decides, selected⟩
        · refine .inl ⟨?_, nothing⟩
          intro other member
          rcases List.mem_cons.mp member with rfl | behind
          · exact first.symm
          · exact mismatches other behind
        · refine .inr ⟨index + 1, outcome, ⟨decides.arm, decides.decisive, ?_⟩, ?_⟩
          · intro position other before present
            cases position with
            | zero =>
                cases present
                exact first.symm
            | succ position =>
                exact decides.earlier position other (Nat.lt_of_succ_lt_succ before) present
          · rw [selected, Nat.add_assoc, Nat.add_comm 1]
      · exact .inr ⟨0, _, here (first ▸ nofun), first ▸ rfl⟩

/-- Matching is what the clauses say.  A site selects the first arm that is not a
mismatch, with its bindings or its failure. -/
theorem matching_eq_interpretation {means : LoweredPattern -> Value -> MatchOutcome}
    (interprets : matcher.Interprets means) :
    (forall pattern : LoweredPattern,
      pattern.Everywhere (LoweredPattern.Counted matcher.contracts) -> forall value,
        (matcher.matchPattern pattern value).1 = means pattern value) ∧
    forall site : CompiledSite,
      (forall arm, arm ∈ site.arms ->
        arm.pattern.Everywhere (LoweredPattern.Counted matcher.contracts)) -> forall value,
      (forall index bindings,
        (matcher.matchSite site value).1 = .ok (some (index, bindings)) ↔
          Decides means site.arms value index (.ok (some bindings))) ∧
      (forall failure, (matcher.matchSite site value).1 = .error failure ↔
        Exists fun index => Decides means site.arms value index (.error failure)) ∧
      ((matcher.matchSite site value).1 = .ok none ↔
        forall arm, arm ∈ site.arms -> means arm.pattern value = .ok none) := by
  have agree : forall pattern : LoweredPattern,
      pattern.Everywhere (LoweredPattern.Counted matcher.contracts) -> forall value,
        (matcher.matchPattern pattern value).1 = means pattern value := by
    intro pattern counted value
    rw [matchPattern_eq_meaning, interprets.eq_meaning pattern counted]
  refine ⟨agree, ?_⟩
  intro site counted value
  have selection := matcher.selectArm_cases
    (fun arm member => agree arm.pattern (counted arm member) value) 0
  unfold matchSite
  rcases selection with ⟨mismatches, nothing⟩ | ⟨index, outcome, decides, selected⟩
  · rw [nothing]
    refine ⟨?_, ?_, iff_of_true rfl mismatches⟩
    · intro index bindings
      exact iff_of_false nofun fun decides => decides.not_all mismatches
    · intro failure
      exact iff_of_false nofun fun ⟨index, decides⟩ => decides.not_all mismatches
  · rw [selected, Nat.zero_add]
    rcases outcome with failure | _ | found
    · refine ⟨?_, ?_, iff_of_false nofun decides.not_all⟩
      · intro other bindings
        exact iff_of_false nofun fun also => nomatch (decides.unique also).2
      · intro other
        constructor
        · rintro ⟨rfl⟩
          exact ⟨index, decides⟩
        · rintro ⟨position, also⟩
          cases (decides.unique also).2
          rfl
    · exact absurd rfl decides.decisive
    · refine ⟨?_, ?_, iff_of_false nofun decides.not_all⟩
      · intro other bindings
        constructor
        · rintro ⟨rfl⟩
          exact decides
        · intro also
          rcases decides.unique also with ⟨rfl, same⟩
          cases same
          rfl
      · intro failure
        exact iff_of_false nofun fun ⟨position, also⟩ => nomatch (decides.unique also).2

end Matcher

namespace Sample

/-- An author's contract that takes points apart into their fields. -/
def pointContract : UserContract where
  ident := point
  path := "geo.Point"
  types := [.int, .int]
  parts
    | .record _ fields => .ok fields
    | other => .error (.notAnInstance "geo.Point" other.kindName)

def pointMatcher : Matcher :=
  ⟨runtime, interner, ⟨[⟨.userSupplied pointContract, none⟩]⟩⟩

/-- A point with a given second component.  The first is bound before the second
is looked at. -/
def endingIn (second : Int64) : LoweredPattern :=
  .deconstruct ⟨0⟩ [.binding xLabel, .literal (.int second)]

def twoOrFour : LoweredPattern := .anyOf [endingIn 2, endingIn 4]

theorem leaf_counted {pattern : LoweredPattern} (leaf : pattern.children = [])
    (other : forall id fields, pattern ≠ .deconstruct id fields) :
    pattern.Everywhere (LoweredPattern.Counted pointMatcher.contracts) := by
  constructor
  · intro id fields equal
    exact absurd equal (other id fields)
  · intro child member
    rw [leaf] at member
    cases member

theorem endingIn_counted (second : Int64) :
    (endingIn second).Everywhere (LoweredPattern.Counted pointMatcher.contracts) := by
  refine .node ?_ ?_
  · rintro id fields equal
    cases equal
    exact ⟨.userSupplied pointContract, rfl, rfl⟩
  · intro child member
    simp only [endingIn, LoweredPattern.children, List.mem_cons, List.not_mem_nil, or_false]
      at member
    rcases member with rfl | rfl
    · exact leaf_counted rfl fun _ _ => LoweredPattern.noConfusion
    · exact leaf_counted rfl fun _ _ => LoweredPattern.noConfusion

theorem twoOrFour_counted :
    twoOrFour.Everywhere (LoweredPattern.Counted pointMatcher.contracts) := by
  refine .node ?_ ?_
  · intro id fields equal
    cases equal
  · intro child member
    simp only [twoOrFour, LoweredPattern.children, List.mem_cons, List.not_mem_nil, or_false]
      at member
    rcases member with rfl | rfl
    · exact endingIn_counted 2
    · exact endingIn_counted 4

/-- A site whose first arm is a mismatch for the point with components three and
four. -/
def endings : CompiledSite :=
  ⟨.matchArms, .synthetic, [.ofPattern (endingIn 3), .ofPattern twoOrFour]⟩

end Sample

/-- The first alternative binds the first component and then does not match.  Its
binding is not among those of the match. -/
theorem Matcher.matching_twoOrFour :
    (Sample.pointMatcher.matchPattern Sample.twoOrFour
      (.record Sample.point [.int 3, .int 4])).1 = .ok (some [(Sample.xLabel, .int 3)]) ∧
    (Sample.pointMatcher.matchSite Sample.endings (.record Sample.point [.int 3, .int 4])).1 =
      .ok (some (1, [(Sample.xLabel, .int 3)])) := by
  have matching := matching_eq_interpretation Sample.pointMatcher.meaning_interprets
  have counted : forall arm, arm ∈ Sample.endings.arms -> arm.pattern.Everywhere
      (LoweredPattern.Counted Sample.pointMatcher.contracts) := by
    intro arm member
    simp only [Sample.endings, List.mem_cons, List.not_mem_nil, or_false] at member
    rcases member with rfl | rfl
    · exact Sample.endingIn_counted 3
    · exact Sample.twoOrFour_counted
  refine ⟨(matching.1 Sample.twoOrFour Sample.twoOrFour_counted _).trans rfl, ?_⟩
  apply ((matching.2 Sample.endings counted _).1 1 _).mpr
  refine ⟨⟨.ofPattern Sample.twoOrFour, rfl, rfl⟩, nofun, ?_⟩
  intro position arm before present
  cases Nat.lt_one_iff.mp before
  cases present
  rfl

end StructuralProducts
