import StructuralProducts.Proofs.Pattern.BoundNames

namespace StructuralProducts

/-!
# Paths through the chosen alternatives

What a match leaves of its pattern is said here by the walk itself.  At an
alternation the walk chooses the first alternative that matches; everything
before it was tried and did not match, and nothing after it is looked at.
`Chooses` puts the chosen alternative in the place of the alternation, at every
node that the walk reaches, also inside the alternatives it chose.

A match leaves exactly one pattern, without any alternation.  The paths collected
from that pattern are the places where the walk found what it bound: following
them reads the bound values again, in the order in which they were bound.
-/

namespace Matcher

/-! ## What a walk chooses -/

mutual

/-- A match of the value leaves this of the pattern: the chosen alternatives stand
in place of the alternations. -/
inductive Chooses (matcher : Matcher) : LoweredPattern -> Value -> LoweredPattern -> Prop where
  | wildcard {value : Value} : Chooses matcher .wildcard value .wildcard
  | binding {name : Name} {value : Value} :
      Chooses matcher (.binding name) value (.binding name)
  | literal {literal : Literal} {value : Value} :
      Chooses matcher (.literal literal) value (.literal literal)
  | tuple {elements chosen : List LoweredPattern} {parts : List Value}
      (each : ChoosesEach matcher elements parts chosen) :
      Chooses matcher (.tuple elements) (.tuple parts) (.tuple chosen)
  | deconstruct {id : ContractId} {contract : Contract} {fields chosen : List LoweredPattern}
      {value : Value} {parts : List Value}
      (found : matcher.contracts.contract? id = some contract)
      (bound : contract.bind matcher.runtime value = .ok parts)
      (each : ChoosesEach matcher fields parts chosen) :
      Chooses matcher (.deconstruct id fields) value (.deconstruct id chosen)
  /-- The first alternative that matches is chosen, and what it leaves is left. -/
  | anyOf {refused later : List LoweredPattern} {alternative chosen : LoweredPattern}
      {value : Value}
      (mismatches : forall other, other ∈ refused ->
        (matcher.matchPattern other value).1 = .ok none)
      (matching : Exists fun bound =>
        (matcher.matchPattern alternative value).1 = .ok (some bound))
      (inside : Chooses matcher alternative value chosen) :
      Chooses matcher (.anyOf (refused ++ alternative :: later)) value chosen
  | asPattern {name : Name} {inner chosen : LoweredPattern} {value : Value}
      (inside : Chooses matcher inner value chosen) :
      Chooses matcher (.asPattern name inner) value (.asPattern name chosen)

/-- Equally many patterns and values, and what is left of each pattern. -/
inductive ChoosesEach (matcher : Matcher) :
    List LoweredPattern -> List Value -> List LoweredPattern -> Prop where
  | nil : ChoosesEach matcher [] [] []
  | cons {pattern chosen : LoweredPattern} {value : Value} {rest others : List LoweredPattern}
      {values : List Value} (head : Chooses matcher pattern value chosen)
      (tail : ChoosesEach matcher rest values others) :
      ChoosesEach matcher (pattern :: rest) (value :: values) (chosen :: others)

end

variable {matcher : Matcher}

/-! ## A match leaves one pattern -/

mutual

/-- What is chosen is determined: it is what the function gives that takes the
first alternative that is not a mismatch. -/
theorem Chooses.eq_taken {pattern chosen : LoweredPattern} {value : Value} :
    matcher.Chooses pattern value chosen -> chosen = matcher.taken pattern value
  | .wildcard => by simp only [taken]
  | .binding => by simp only [taken]
  | .literal => by simp only [taken]
  | .tuple each => by simp only [taken, each.eq_takenEach]
  | .deconstruct found bound each => by simp only [taken, found, bound, each.eq_takenEach]
  | .anyOf mismatches matching inside => by
      simp only [matchPattern_eq_meaning] at mismatches matching
      rcases matching with ⟨bound, matching⟩
      simp only [taken, takenAny?_append mismatches matching, Option.getD_some]
      exact inside.eq_taken
  | .asPattern inside => by simp only [taken, inside.eq_taken]

theorem ChoosesEach.eq_takenEach {patterns chosen : List LoweredPattern} {values : List Value} :
    matcher.ChoosesEach patterns values chosen -> chosen = matcher.takenEach patterns values
  | .nil => by simp only [takenEach]
  | .cons head tail => by simp only [takenEach, head.eq_taken, tail.eq_takenEach]

end

theorem choosesEach_of_meaningEach {patterns : List LoweredPattern} {values : List Value}
    (each : forall pattern, pattern ∈ patterns -> forall value bound,
      matcher.meaning pattern value = .ok (some bound) ->
        matcher.Chooses pattern value (matcher.taken pattern value))
    (count : patterns.length = values.length) {bound : List (Name × Value)}
    (matched : matcher.meaningEach patterns values = .ok (some bound)) :
    matcher.ChoosesEach patterns values (matcher.takenEach patterns values) := by
  induction patterns generalizing values bound with
  | nil =>
      rw [List.length_nil, eq_comm, List.length_eq_zero_iff] at count
      rw [count]
      simp only [takenEach]
      exact .nil
  | cons pattern rest inductionHypothesis =>
      cases values with
      | nil => cases count
      | cons value others =>
          simp only [meaningEach] at matched
          rcases (MatchOutcome.followedBy_eq_some_iff _ _ _).mp matched with
            ⟨front, back, first, later, rfl⟩
          simp only [takenEach]
          exact .cons (each pattern List.mem_cons_self value front first)
            (inductionHypothesis (fun other member => each other (List.mem_cons_of_mem _ member))
              (Nat.succ.inj count) later)

/-- A match goes through to the end of the pattern, so what it takes is chosen at
every node. -/
theorem chooses_taken (pattern : LoweredPattern)
    (counted : pattern.Everywhere (LoweredPattern.Counted matcher.contracts)) (value : Value)
    (bound : List (Name × Value)) (matched : matcher.meaning pattern value = .ok (some bound)) :
    matcher.Chooses pattern value (matcher.taken pattern value) := by
  induction pattern using LoweredPattern.ind generalizing value bound with
  | wildcard =>
      simp only [taken]
      exact .wildcard
  | binding name =>
      simp only [taken]
      exact .binding
  | literal literal =>
      simp only [taken]
      exact .literal
  | tuple elements inductionHypothesis =>
      simp only [meaning] at matched
      split at matched
      · next parts =>
          split at matched
          · next count =>
              simp only [taken]
              apply Chooses.tuple
              exact choosesEach_of_meaningEach
                (fun element member => inductionHypothesis element member
                  (counted.parts element member)) count matched
          · cases matched
      · cases matched
  | deconstruct id fields inductionHypothesis =>
      rcases counted.here id fields rfl with ⟨contract, found, count⟩
      simp only [meaning, found] at matched
      split at matched
      · cases matched
      · split at matched
        · cases matched
        · next parts bindParts =>
            simp only [taken, found, bindParts]
            apply Chooses.deconstruct found bindParts
            exact choosesEach_of_meaningEach
              (fun field member => inductionHypothesis field member (counted.parts field member))
              (count.trans (Contract.length_of_bind bindParts).symm) matched
  | anyOf alternatives inductionHypothesis =>
      simp only [meaning] at matched
      rcases exists_split_of_meaningAny matched with
        ⟨refused, alternative, later, rfl, mismatches, matching⟩
      have member : alternative ∈ refused ++ alternative :: later :=
        List.mem_append_right _ List.mem_cons_self
      simp only [taken, takenAny?_append mismatches matching, Option.getD_some]
      simp only [← matchPattern_eq_meaning] at mismatches
      apply Chooses.anyOf mismatches ⟨bound, matchPattern_eq_meaning alternative value ▸ matching⟩
      exact inductionHypothesis alternative member (counted.parts alternative member) value bound
        matching
  | asPattern name inner inductionHypothesis =>
      simp only [meaning] at matched
      rcases (MatchOutcome.followedBy_eq_some_iff _ _ _).mp matched with ⟨_, back, _, later, _⟩
      simp only [taken]
      exact .asPattern
        (inductionHypothesis (counted.parts inner List.mem_cons_self) value back later)

end Matcher

namespace LoweredPattern

/-- The pattern is no alternation. -/
def Single (pattern : LoweredPattern) : Prop :=
  forall alternatives, pattern ≠ .anyOf alternatives

end LoweredPattern

namespace Matcher

variable {matcher : Matcher}

mutual

/-- No alternation is left of a pattern. -/
theorem Chooses.single {pattern chosen : LoweredPattern} {value : Value} :
    matcher.Chooses pattern value chosen -> chosen.Everywhere LoweredPattern.Single
  | .wildcard => .node nofun nofun
  | .binding => .node nofun nofun
  | .literal => .node nofun nofun
  | .tuple each => .node nofun each.single
  | .deconstruct _ _ each => .node nofun each.single
  | .anyOf _ _ inside => inside.single
  | .asPattern inside => .node nofun fun child member => by
      rw [List.mem_singleton.mp member]
      exact inside.single

theorem ChoosesEach.single {patterns chosen : List LoweredPattern} {values : List Value} :
    matcher.ChoosesEach patterns values chosen ->
      forall child, child ∈ chosen -> child.Everywhere LoweredPattern.Single
  | .nil => nofun
  | .cons head tail => List.forall_mem_cons.mpr ⟨head.single, tail.single⟩

end

end Matcher

/-! ## Arms of compiled units -/

/-- A match of an arm of a compiled unit leaves one pattern.  It has no alternation,
it lists the names that were bound in the order in which they were bound, and the
path of each name leads to the value that was bound to it. -/
theorem CompiledUnit.chosen_paths_reach {registry : Registry} (built : registry.Built)
    {written : PatternUnit} {session : SessionId} {limits : LoweringLimits}
    {compiled : CompiledUnit}
    (compiles : written.compile session registry limits = .ok compiled) (runtime : Runtime)
    {site : CompiledSite} (siteMember : site ∈ compiled.sites) {arm : CompiledArm}
    (member : arm ∈ site.arms) {value : Value} {bound : List (Name × Value)}
    (matched : ((compiled.matcher runtime).matchPattern arm.pattern value).1 = .ok (some bound)) :
    Exists fun chosen =>
      (forall other, (compiled.matcher runtime).Chooses arm.pattern value other ↔
        other = chosen) ∧
      chosen.Everywhere LoweredPattern.Single ∧
      chosen.bindings.map (·.1) = bound.map (·.1) ∧
      forall (position : Nat) (entry : Name × AccessPath) (item : Name × Value),
        chosen.bindings[position]? = some entry -> bound[position]? = some item ->
          (compiled.matcher runtime).project value entry.2 = .ok item.2 := by
  have keys := built.keysAgree
  have coherent := PatternUnit.coherent_of_compile keys compiles siteMember member
  rw [Matcher.matchPattern_eq_meaning] at matched
  have chooses := (compiled.matcher runtime).chooses_taken arm.pattern coherent.counted value bound
    matched
  have reached := (compiled.matcher runtime).reaches_taken
    (PatternUnit.sourced_of_compile keys compiles) arm.pattern coherent.counted value bound matched
  refine ⟨_, ?_, chooses.single, (Matcher.map_fst_of_reaches reached).symm, ?_⟩
  · intro other
    constructor
    · exact Matcher.Chooses.eq_taken
    · rintro rfl
      exact chooses
  · intro position entry item listed atPosition
    rcases List.forall₂_iff_get.mp reached with ⟨_, each⟩
    rcases List.getElem?_eq_some_iff.mp listed with ⟨listedInside, rfl⟩
    rcases List.getElem?_eq_some_iff.mp atPosition with ⟨inside, rfl⟩
    exact (each position inside listedInside).2

/-- Two alternations are gone through, one inside the other, each by its second
alternative. -/
theorem CompiledUnit.eitherWay_chosen_paths_reach :
    ((Sample.eitherWayCompiled.matcher Sample.runtime).matchPattern Sample.eitherWayArm.pattern
        (.tuple [.int 5, .int 7])).1 =
          .ok (some [(Sample.yLabel, .int 5), (Sample.xLabel, .int 7)]) ∧
      (Sample.eitherWayCompiled.matcher Sample.runtime).Chooses Sample.eitherWayArm.pattern
        (.tuple [.int 5, .int 7]) (.tuple [.binding Sample.yLabel, .binding Sample.xLabel]) ∧
      (Sample.eitherWayCompiled.matcher Sample.runtime).project (.tuple [.int 5, .int 7])
        [.element 1] = .ok (.int 7) := by
  have matched : ((Sample.eitherWayCompiled.matcher Sample.runtime).matchPattern
      Sample.eitherWayArm.pattern (.tuple [.int 5, .int 7])).1 =
        .ok (some [(Sample.yLabel, .int 5), (Sample.xLabel, .int 7)]) := rfl
  have inner : (Sample.eitherWayCompiled.matcher Sample.runtime).Chooses
      (.anyOf [.asPattern Sample.xLabel (.literal (.int 2)), .binding Sample.xLabel]) (.int 7)
      (.binding Sample.xLabel) :=
    @Matcher.Chooses.anyOf _ [_] [] _ _ _ (List.forall_mem_singleton.mpr rfl) ⟨_, rfl⟩ .binding
  have chooses : (Sample.eitherWayCompiled.matcher Sample.runtime).Chooses
      Sample.eitherWayArm.pattern (.tuple [.int 5, .int 7])
      (.tuple [.binding Sample.yLabel, .binding Sample.xLabel]) :=
    @Matcher.Chooses.anyOf _ [_] [] _ _ _ (List.forall_mem_singleton.mpr rfl) ⟨_, rfl⟩
      (.tuple (.cons .binding (.cons inner .nil)))
  rcases CompiledUnit.chosen_paths_reach Sample.registry_built Sample.compile_eitherWay
    Sample.runtime List.mem_cons_self List.mem_cons_self matched with ⟨chosen, only, _, _, reach⟩
  have same := (only _).mp chooses
  subst same
  exact ⟨matched, chooses, reach 1 (Sample.xLabel, [.element 1]) (Sample.xLabel, .int 7) rfl rfl⟩

end StructuralProducts
