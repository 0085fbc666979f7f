import StructuralProducts.Proofs.Pattern.BoundNames

namespace StructuralProducts

/-!
# Static paths and what a match binds

An arm carries one path for each name, collected when the unit is compiled.  At
an alternation the path is that of the first alternative, whereas a match binds
through whichever alternative it takes.  Alternatives have to bind the same
names, but nothing compares the places where they bind them.

So a static path is right exactly where it leads to the same value as the path
through the alternatives taken.  It is always right if the alternatives of each
alternation bind their names at the same places.
-/

namespace Matcher

variable {matcher : Matcher}

/-- The paths of an arm lead to the values that a match of the arm bound to its
names. -/
def PathsReach (matcher : Matcher) (arm : CompiledArm) (value : Value)
    (bound : List (Name × Value)) : Prop :=
  forall entry, entry ∈ arm.bindings -> Exists fun reached =>
    matcher.project value entry.2 = .ok reached ∧ bound.lookup entry.1 = some reached

theorem lookup_of_mem {bound : List (Name × Value)} (distinct : (bound.map (·.1)).Nodup)
    {name : Name} {value : Value} (member : (name, value) ∈ bound) :
    bound.lookup name = some value := by
  induction bound with
  | nil => cases member
  | cons first rest inductionHypothesis =>
      rw [List.map_cons, List.nodup_cons] at distinct
      rw [List.lookup_cons]
      rcases List.mem_cons.mp member with rfl | later
      · rw [beq_self_eq_true]
      · have other : name ≠ first.1 := by
          rintro rfl
          exact distinct.1 (List.mem_map.mpr ⟨_, later, rfl⟩)
        rw [beq_false_of_ne other]
        exact inductionHypothesis distinct.2 later

theorem exists_lookup_of_reaches {value : Value} {bound : List (Name × Value)}
    {entries : List (Name × AccessPath)}
    (reached : List.Forall₂ (matcher.Reaches value) bound entries)
    (distinct : (entries.map (·.1)).Nodup) {entry : Name × AccessPath}
    (member : entry ∈ entries) : Exists fun item =>
      matcher.project value entry.2 = .ok item ∧ bound.lookup entry.1 = some item := by
  have names := map_fst_of_reaches reached
  rcases List.forall₂_iff_get.mp reached with ⟨count, each⟩
  rcases List.getElem_of_mem member with ⟨position, inside, rfl⟩
  have boundInside : position < bound.length := count ▸ inside
  rcases each position boundInside inside with ⟨name, projected⟩
  refine ⟨bound[position].2, projected, ?_⟩
  rw [← names] at distinct
  apply lookup_of_mem distinct
  have pair : (entries[position].1, bound[position].2) = bound[position] :=
    Prod.ext name.symm rfl
  exact pair ▸ List.getElem_mem boundInside

/-- The paths of an arm are right exactly where they agree with the paths through
the alternatives taken. -/
theorem pathsReach_iff (sourced : matcher.contracts.Sourced) {arm : CompiledArm}
    (coherent : arm.Coherent matcher.contracts) {value : Value} {bound : List (Name × Value)}
    (matched : matcher.meaning arm.pattern value = .ok (some bound)) :
    matcher.PathsReach arm value bound ↔
      forall entry, entry ∈ arm.bindings ->
        forall other, other ∈ (matcher.taken arm.pattern value).bindings -> other.1 = entry.1 ->
          matcher.project value entry.2 = matcher.project value other.2 := by
  have reached := matcher.reaches_taken sourced arm.pattern coherent.counted value bound matched
  have names := coherent.taken_names_perm value
  have distinct := names.nodup_iff.mpr coherent.names_nodup
  constructor
  · intro paths entry member other otherMember sameName
    rcases paths entry member with ⟨item, projected, found⟩
    rcases exists_lookup_of_reaches reached distinct otherMember with
      ⟨otherItem, otherProjected, otherFound⟩
    rw [sameName, found] at otherFound
    cases otherFound
    rw [projected, otherProjected]
  · intro agree entry member
    have listed := names.mem_iff.mpr (List.mem_map_of_mem member)
    rcases List.mem_map.mp listed with ⟨other, otherMember, sameName⟩
    rcases exists_lookup_of_reaches reached distinct otherMember with ⟨item, projected, found⟩
    rw [sameName] at found
    exact ⟨item, (agree entry member other otherMember sameName).trans projected, found⟩

/-- The paths of an arm are right for every value if alternatives bind their names
at the same places. -/
theorem pathsReach_of_sameBindings (sourced : matcher.contracts.Sourced) {arm : CompiledArm}
    (coherent : arm.Coherent matcher.contracts)
    (aligned : arm.pattern.Everywhere (LoweredPattern.Alike LoweredPattern.SameBindings))
    {value : Value} {bound : List (Name × Value)}
    (matched : matcher.meaning arm.pattern value = .ok (some bound)) :
    matcher.PathsReach arm value bound := by
  have reached := matcher.reaches_taken sourced arm.pattern coherent.counted value bound matched
  have same := LoweredPattern.sameBindings_congruence.taken matcher arm.pattern aligned value
  have distinct : ((matcher.taken arm.pattern value).bindings.map (·.1)).Nodup := by
    rw [(List.Perm.map _ same).nodup_iff, LoweredPattern.map_fst_bindings]
    exact coherent.distinct
  intro entry member
  rw [coherent.bindings] at member
  exact exists_lookup_of_reaches reached distinct (same.mem_iff.mpr member)

end Matcher

/-- For a match of an arm of a compiled unit, the static paths are right exactly
where they lead to the same values as the paths through the alternatives taken,
and always if all alternatives bind their names at the same places. -/
theorem CompiledUnit.pathsReach_iff_taken {registry : Registry} (built : registry.Built)
    {written : PatternUnit} {session : SessionId} {limits : LoweringLimits}
    {compiled : CompiledUnit}
    (compiles : written.compile session registry limits = .ok compiled) (runtime : Runtime)
    {site : CompiledSite} (siteMember : site ∈ compiled.sites) {arm : CompiledArm}
    (member : arm ∈ site.arms) {value : Value} {bound : List (Name × Value)}
    (matched : ((compiled.matcher runtime).matchPattern arm.pattern value).1 = .ok (some bound)) :
    ((compiled.matcher runtime).PathsReach arm value bound ↔
      forall entry, entry ∈ arm.bindings ->
        forall other, other ∈ ((compiled.matcher runtime).taken arm.pattern value).bindings ->
          other.1 = entry.1 ->
            (compiled.matcher runtime).project value entry.2 =
              (compiled.matcher runtime).project value other.2) ∧
    (arm.pattern.Everywhere (LoweredPattern.Alike LoweredPattern.SameBindings) ->
      (compiled.matcher runtime).PathsReach arm value bound) := by
  have keys := built.keysAgree
  have sourced := PatternUnit.sourced_of_compile keys compiles
  have coherent := PatternUnit.coherent_of_compile keys compiles siteMember member
  rw [Matcher.matchPattern_eq_meaning] at matched
  exact ⟨Matcher.pathsReach_iff sourced coherent matched,
    fun aligned => Matcher.pathsReach_of_sameBindings sourced coherent aligned matched⟩

/-- A pair one of whose elements is one, with a name for the other. -/
def Sample.besideOne : PatternUnit where
  name := "pairs"
  exports := []
  sites :=
    [{ kind := .matchArms
       scrutinee? := some (.tuple [.int, .int])
       patterns :=
         [.anyOf
            [.tuple [.literal (.int 1), .binding xLabel],
             .tuple [.binding xLabel, .literal (.int 1)]]]
       span := Span.synthetic }]

/-- The arm of `besideOne`, with the path through the first alternative. -/
def Sample.besideOneArm : CompiledArm where
  pattern :=
    .anyOf
      [.tuple [.literal (.int 1), .binding xLabel],
       .tuple [.binding xLabel, .literal (.int 1)]]
  bindings := [(xLabel, [.element 1])]

def Sample.besideOneCompiled : CompiledUnit where
  session := ⟨0⟩
  name := "pairs"
  exports := []
  sites := [⟨.matchArms, Span.synthetic, [besideOneArm]⟩]
  contracts := .empty

theorem Sample.compile_besideOne :
    besideOne.compile ⟨0⟩ registry .standard = .ok besideOneCompiled := rfl

/-- The name is bound to five through the second alternative, and its path leads
to one. -/
theorem CompiledUnit.besideOne_not_pathsReach :
    Sample.registry.Built ∧
      Sample.besideOne.compile ⟨0⟩ Sample.registry .standard = .ok Sample.besideOneCompiled ∧
      ((Sample.besideOneCompiled.matcher Sample.runtime).matchPattern Sample.besideOneArm.pattern
        (.tuple [.int 5, .int 1])).1 = .ok (some [(Sample.xLabel, .int 5)]) ∧
      ¬ (Sample.besideOneCompiled.matcher Sample.runtime).PathsReach Sample.besideOneArm
        (.tuple [.int 5, .int 1]) [(Sample.xLabel, .int 5)] := by
  refine ⟨Sample.registry_built, Sample.compile_besideOne, rfl, ?_⟩
  intro reach
  rcases reach (Sample.xLabel, [.element 1]) List.mem_cons_self with ⟨reached, projected, found⟩
  have one : Value.int 1 = reached := Except.ok.inj projected
  have five : Value.int 5 = reached := Option.some.inj found
  rw [← one] at five
  exact absurd (Value.int.inj five) (by decide)

/-- Through the first alternative the path is right. -/
theorem CompiledUnit.besideOne_pathsReach :
    ((Sample.besideOneCompiled.matcher Sample.runtime).matchPattern Sample.besideOneArm.pattern
        (.tuple [.int 1, .int 7])).1 = .ok (some [(Sample.xLabel, .int 7)]) ∧
      (Sample.besideOneCompiled.matcher Sample.runtime).PathsReach Sample.besideOneArm
        (.tuple [.int 1, .int 7]) [(Sample.xLabel, .int 7)] := by
  have matched : ((Sample.besideOneCompiled.matcher Sample.runtime).matchPattern
      Sample.besideOneArm.pattern (.tuple [.int 1, .int 7])).1 =
        .ok (some [(Sample.xLabel, .int 7)]) := rfl
  have taken := CompiledUnit.pathsReach_iff_taken Sample.registry_built Sample.compile_besideOne
    Sample.runtime List.mem_cons_self List.mem_cons_self matched
  refine ⟨matched, taken.1.mpr ?_⟩
  intro entry member other otherMember _
  have entry_eq : entry = (Sample.xLabel, [.element 1]) := List.mem_singleton.mp member
  have other_eq : other = (Sample.xLabel, [.element 1]) := List.mem_singleton.mp otherMember
  rw [entry_eq, other_eq]

end StructuralProducts
