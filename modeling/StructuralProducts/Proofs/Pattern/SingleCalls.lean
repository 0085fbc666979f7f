import Mathlib.Algebra.GroupWithZero.Nat
import StructuralProducts.Proofs.Pattern.Arrivals

namespace StructuralProducts

/-!
# Contracts are called once

During a match every deconstruction of the pattern calls its contract at most once, and
never for a record of another type.  It calls it exactly once if the match arrives there
with any other value, whether or not the contract then takes the value apart, and not at
all if the match does not arrive there.  So a match makes at most as many calls as its
pattern has deconstructions.

A site tries its arms up to the first that matches or fails.  Its calls are those of the
arms it tries.
-/

/-- How often a contract was called at the node to which positions lead. -/
def BindCall.timesAt (calls : List BindCall) (position : List Nat) : Nat :=
  (calls.map (·.position)).count position

namespace Matcher

variable {matcher : Matcher} {pattern : LoweredPattern} {value : Value}

/-- The calls of a match are those of single deconstructions at which it arrives. -/
structure CallsOnce (matcher : Matcher) (pattern : LoweredPattern) (value : Value)
    (calls : List BindCall) : Prop where
  /-- A call is made for a deconstruction of the pattern, with a value that is not a
  record of another type. -/
  written : forall call, call ∈ calls -> Exists fun fields => Exists fun given =>
    pattern.at? call.position = some (.deconstruct call.contract fields) ∧
    matcher.Arrives pattern value call.position (.deconstruct call.contract fields) given ∧
    ¬ matcher.OfOtherType call.contract given
  atMostOnce : forall position, BindCall.timesAt calls position ≤ 1
  /-- Where the match arrives with a value that is not a record of another type there is
  a call. -/
  once : forall position id fields given,
    matcher.Arrives pattern value position (.deconstruct id fields) given ->
      ¬ matcher.OfOtherType id given -> BindCall.timesAt calls position = 1
  /-- Where it arrives with a record of another type there is none. -/
  otherType : forall position id fields given,
    matcher.Arrives pattern value position (.deconstruct id fields) given ->
      matcher.OfOtherType id given -> BindCall.timesAt calls position = 0
  /-- Where it does not arrive there is none. -/
  elsewhere : forall position,
    (forall node given, ¬ matcher.Arrives pattern value position node given) ->
      BindCall.timesAt calls position = 0
  few : calls.length ≤ pattern.deconstructions.length

theorem map_position_matchPattern (matcher : Matcher) (pattern : LoweredPattern) (value : Value) :
    (matcher.matchPattern pattern value).2.map (·.position) =
      (matcher.called pattern value).map (·.position) := by
  rw [calls_matchPattern, List.map_map]
  exact List.map_congr_left fun part _ => BindCall.position_callAt part

/-- There is a call at a place exactly if the match arrives at a deconstruction there
whose contract is in the table, with a value that is not a record of another type. -/
theorem mem_map_position_iff {position : List Nat} :
    position ∈ (matcher.called pattern value).map (·.position) ↔
      Exists fun id => Exists fun fields => Exists fun given =>
        matcher.Arrives pattern value position (.deconstruct id fields) given ∧
        (Exists fun contract => matcher.contracts.contract? id = some contract) ∧
        ¬ matcher.OfOtherType id given := by
  rw [List.mem_map]
  constructor
  · rintro ⟨⟨position, id⟩, member, rfl⟩
    exact ⟨id, mem_called_iff.mp member⟩
  · rintro ⟨id, arrives⟩
    exact ⟨⟨position, id⟩, mem_called_iff.mpr arrives, rfl⟩

theorem callsOnce_matchPattern
    (counted : pattern.Everywhere (LoweredPattern.Counted matcher.contracts)) (value : Value) :
    matcher.CallsOnce pattern value (matcher.matchPattern pattern value).2 := by
  have sublist := matcher.called_sublist pattern value
  have distinct : ((matcher.called pattern value).map (·.position)).Nodup :=
    pattern.nodup_deconstructions.sublist (sublist.map _)
  have times (position : List Nat) :
      BindCall.timesAt (matcher.matchPattern pattern value).2 position =
        ((matcher.called pattern value).map (·.position)).count position := by
    rw [BindCall.timesAt, map_position_matchPattern]
  refine ⟨?_, ?_, ?_, ?_, ?_, ?_⟩
  · intro call member
    rw [calls_matchPattern] at member
    rcases List.mem_map.mp member with ⟨⟨position, id⟩, called, rfl⟩
    rcases mem_called_iff.mp called with ⟨fields, given, arrives, _, own⟩
    rw [BindCall.position_callAt]
    exact ⟨fields, given, arrives.at?, arrives, own⟩
  · intro position
    rw [times]
    exact List.nodup_iff_count_le_one.mp distinct position
  · intro position id fields given arrives own
    rcases counted.at? arrives.at? id fields rfl with ⟨contract, found, _⟩
    rw [times]
    exact List.count_eq_one_of_mem distinct
      (mem_map_position_iff.mpr ⟨id, fields, given, arrives, ⟨contract, found⟩, own⟩)
  · intro position id fields given arrives other
    rw [times, List.count_eq_zero, mem_map_position_iff]
    rintro ⟨_, _, _, arrivesToo, _, own⟩
    rcases arrives.unique arrivesToo with ⟨same, rfl⟩
    cases same
    exact own other
  · intro position nowhere
    rw [times, List.count_eq_zero, mem_map_position_iff]
    rintro ⟨_, _, _, arrives, _⟩
    exact nowhere _ _ arrives
  · rw [calls_matchPattern, List.length_map]
    exact sublist.length_le

/-! ## Sites -/

/-- The calls of arms that are all mismatches are the calls of all arms. -/
theorem calls_selectArm_of_mismatches {arms : List CompiledArm}
    (mismatches : forall arm, arm ∈ arms ->
      (matcher.matchPattern arm.pattern value).1 = .ok none) (start : Nat) :
    (matcher.selectArm start arms value).2 =
      arms.flatMap fun arm => (matcher.matchPattern arm.pattern value).2 := by
  induction arms generalizing start with
  | nil => rfl
  | cons arm rest inductionHypothesis =>
      have parts := List.forall_mem_cons.mp mismatches
      rw [List.flatMap_cons, ← inductionHypothesis parts.2 (start + 1), selectArm]
      rcases matched : matcher.matchPattern arm.pattern value with ⟨outcome, calls⟩
      have mismatch := parts.1
      rw [matched] at mismatch
      cases mismatch
      rfl

/-- The calls of a selection are those of the arms up to the one that decides. -/
theorem calls_selectArm_of_decides {arms : List CompiledArm} {index : Nat}
    {outcome : MatchOutcome}
    (decides : Decides (fun pattern value => (matcher.matchPattern pattern value).1) arms value
      index outcome) (start : Nat) :
    (matcher.selectArm start arms value).2 =
      (arms.take (index + 1)).flatMap fun arm => (matcher.matchPattern arm.pattern value).2 := by
  induction arms generalizing index start with
  | nil =>
      rcases decides.arm with ⟨arm, present, _⟩
      cases present
  | cons arm rest inductionHypothesis =>
      rw [List.take_succ_cons, List.flatMap_cons, selectArm]
      rcases matched : matcher.matchPattern arm.pattern value with ⟨found, calls⟩
      cases index with
      | zero =>
          rcases decides.arm with ⟨_, present, gives⟩
          cases present
          have decisive := decides.decisive
          rw [← gives, matched] at decisive
          rw [List.take_zero, List.flatMap_nil, List.append_nil]
          rcases found with failure | _ | bound
          · rfl
          · exact absurd rfl decisive
          · rfl
      | succ index =>
          have mismatch := decides.earlier 0 arm (Nat.succ_pos index) rfl
          rw [matched] at mismatch
          cases mismatch
          have later := inductionHypothesis
            ⟨decides.arm, decides.decisive, fun position other inside =>
              decides.earlier (position + 1) other (Nat.succ_lt_succ inside)⟩ (start + 1)
          exact congrArg (calls ++ ·) later

/-- During a match every deconstruction calls its contract at most once: exactly once if
the match arrives there with a value that is not a record of another type, and otherwise
not at all.  A site makes as many calls as its arms do up to the first that matches or
fails, that one included. -/
theorem contracts_called_once (matcher : Matcher) :
    (forall pattern : LoweredPattern,
      pattern.Everywhere (LoweredPattern.Counted matcher.contracts) -> forall value,
        matcher.CallsOnce pattern value (matcher.matchPattern pattern value).2) ∧
    forall (site : CompiledSite) (value : Value),
      (forall index outcome,
        Decides (fun pattern value => (matcher.matchPattern pattern value).1) site.arms value index
            outcome ->
          (matcher.matchSite site value).2.length =
            ((site.arms.take (index + 1)).map fun arm =>
              (matcher.matchPattern arm.pattern value).2.length).sum) ∧
      ((forall arm, arm ∈ site.arms -> (matcher.matchPattern arm.pattern value).1 = .ok none) ->
        (matcher.matchSite site value).2.length =
          (site.arms.map fun arm => (matcher.matchPattern arm.pattern value).2.length).sum) := by
  refine ⟨fun pattern counted value => callsOnce_matchPattern counted value, ?_⟩
  intro site value
  refine ⟨?_, ?_⟩
  · intro index outcome decides
    rw [matchSite, calls_selectArm_of_decides decides, List.length_flatMap]
  · intro mismatches
    rw [matchSite, calls_selectArm_of_mismatches mismatches, List.length_flatMap]

/-- Both alternatives are tried for the point with components three and four, and each
calls the contract once.  At the site the arm before them calls it too. -/
theorem twoOrFour_called_once :
    Sample.pointMatcher.CallsOnce Sample.twoOrFour (.record Sample.point [.int 3, .int 4])
      (Sample.pointMatcher.matchPattern Sample.twoOrFour
        (.record Sample.point [.int 3, .int 4])).2 ∧
    (Sample.pointMatcher.matchPattern Sample.twoOrFour
      (.record Sample.point [.int 3, .int 4])).2.map (·.position) = [[0], [1]] ∧
    (Sample.pointMatcher.matchSite Sample.endings
      (.record Sample.point [.int 3, .int 4])).2.length = 3 := by
  have called := contracts_called_once Sample.pointMatcher
  have decides : Decides
      (fun pattern value => (Sample.pointMatcher.matchPattern pattern value).1)
      Sample.endings.arms (.record Sample.point [.int 3, .int 4]) 1
      (.ok (some [(Sample.xLabel, .int 3)])) := by
    refine ⟨⟨.ofPattern Sample.twoOrFour, rfl, rfl⟩, nofun, ?_⟩
    intro position arm before present
    cases Nat.lt_one_iff.mp before
    cases present
    rfl
  exact ⟨called.1 Sample.twoOrFour Sample.twoOrFour_counted _, rfl,
    (called.2 Sample.endings _).1 1 _ decides⟩

end Matcher
end StructuralProducts
