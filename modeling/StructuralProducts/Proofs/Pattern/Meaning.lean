import StructuralProducts.Pattern.Matching

namespace StructuralProducts

/-!
# What a pattern means

A walk carries a trail through the pattern and takes bindings back when an
alternative does not match.  The meaning of a pattern at a value is given here
without a trail, from the meanings of its parts: parts that are matched one after
the other join their bindings, and an alternation is the first alternative that
is not a mismatch.

A walk computes the meaning.  Where a walk begins and what its trail holds make
no difference, so later proofs speak of meanings only.
-/

/-- Induction over lowered patterns, with the hypothesis for each pattern of a
list. -/
theorem LoweredPattern.ind {motive : LoweredPattern -> Prop}
    (wildcard : motive .wildcard)
    (binding : forall name, motive (.binding name))
    (literal : forall literal, motive (.literal literal))
    (tuple : forall elements, (forall element, element ∈ elements -> motive element) ->
      motive (.tuple elements))
    (deconstruct : forall id fields, (forall field, field ∈ fields -> motive field) ->
      motive (.deconstruct id fields))
    (anyOf : forall alternatives,
      (forall alternative, alternative ∈ alternatives -> motive alternative) ->
      motive (.anyOf alternatives))
    (asPattern : forall name inner, motive inner -> motive (.asPattern name inner))
    (pattern : LoweredPattern) : motive pattern :=
  @LoweredPattern.rec motive
    (fun patterns => forall pattern, pattern ∈ patterns -> motive pattern)
    wildcard binding literal tuple deconstruct anyOf asPattern
    (fun _ member => absurd member List.not_mem_nil)
    (fun _ _ head tail pattern member => by
      rcases List.mem_cons.mp member with rfl | later
      · exact head
      · exact tail pattern later)
    pattern

/-- What matching gives: bindings in binding order, nothing if the value does not
match, or the failure of a contract. -/
abbrev MatchOutcome := Except DescriptorError (Option (List (Name × Value)))

namespace MatchOutcome

/-- Match one thing and then another.  The second is not looked at unless the
first matches. -/
def followedBy (first second : MatchOutcome) : MatchOutcome :=
  match first with
  | .ok (some bound) => second.map (Option.map (bound ++ ·))
  | other => other

/-- Match one thing, or another if the first does not match. -/
def orElse (first second : MatchOutcome) : MatchOutcome :=
  match first with
  | .ok none => second
  | other => other

theorem followedBy_eq_some_iff (first second : MatchOutcome) (bound : List (Name × Value)) :
    first.followedBy second = .ok (some bound) ↔
      Exists fun front => Exists fun back => first = .ok (some front) ∧
        second = .ok (some back) ∧ bound = front ++ back := by
  rcases first with failure | _ | front
  · simp [followedBy]
  · simp [followedBy]
  · rcases second with failure | _ | back
    · simp [followedBy, Except.map]
    · simp [followedBy, Except.map]
    · simp [followedBy, Except.map, eq_comm]

end MatchOutcome

namespace Matcher

mutual

/-- The meaning of a pattern at a value. -/
def meaning (matcher : Matcher) (pattern : LoweredPattern) (value : Value) : MatchOutcome :=
  match pattern with
  | .wildcard => .ok (some [])
  | .binding name => .ok (some [(name, value)])
  | .literal literal => .ok (if matcher.equalsLiteral literal value then some [] else none)
  | .tuple elements =>
      match value with
      | .tuple parts =>
          if elements.length = parts.length then matcher.meaningEach elements parts else .ok none
      | _ => .ok none
  | .deconstruct id fields =>
      match matcher.contracts.contract? id with
      | none => .error id.missing
      | some contract =>
          if isForeignRecord contract.ident value then .ok none
          else
            match contract.bind matcher.runtime value with
            | .error failure => .error failure
            | .ok parts => matcher.meaningEach fields parts
  | .anyOf alternatives => matcher.meaningAny alternatives value
  | .asPattern name inner =>
      MatchOutcome.followedBy (.ok (some [(name, value)])) (matcher.meaning inner value)

/-- The meaning of patterns at values, in pairs. -/
def meaningEach (matcher : Matcher) (patterns : List LoweredPattern) (values : List Value) :
    MatchOutcome :=
  match patterns, values with
  | pattern :: patterns, value :: values =>
      (matcher.meaning pattern value).followedBy (matcher.meaningEach patterns values)
  | _, _ => .ok (some [])

/-- The meaning of alternatives at a value. -/
def meaningAny (matcher : Matcher) (alternatives : List LoweredPattern) (value : Value) :
    MatchOutcome :=
  match alternatives with
  | [] => .ok none
  | pattern :: rest => (matcher.meaning pattern value).orElse (matcher.meaningAny rest value)

end

variable {matcher : Matcher}

/-! ## Walks compute meanings -/

/-- A walk that began with a trail ended as an outcome says.  Its bindings were
appended to those of the trail.  Where the value did not match, these are still there
in front of whatever was bound in vain. -/
def Computes (before : Trail) (walked : Verdict × Trail) (outcome : MatchOutcome) : Prop :=
  match outcome with
  | .ok (some bound) => walked.1 = .matched ∧ walked.2.bindings = before.bindings ++ bound
  | .ok none => walked.1 = .noMatch ∧ before.bindings <+: walked.2.bindings
  | .error failure => walked.1 = .failed failure

/-- A walk that continues from a trail to which bindings were appended computes
what follows those bindings. -/
theorem Computes.after_matched {before after : Trail} {front : List (Name × Value)}
    {walked : Verdict × Trail} {outcome : MatchOutcome}
    (appended : after.bindings = before.bindings ++ front)
    (computes : Computes after walked outcome) :
    Computes before walked (MatchOutcome.followedBy (.ok (some front)) outcome) := by
  rcases outcome with failure | _ | back
  · exact computes
  · have front := computes.2
    rw [appended] at front
    exact ⟨computes.1, (List.prefix_append _ _).trans front⟩
  · refine ⟨computes.1, ?_⟩
    rw [computes.2, appended, List.append_assoc]

theorem walkEach_computes {patterns : List LoweredPattern}
    (each : forall pattern, pattern ∈ patterns -> forall node value trail,
      Computes trail (matcher.walk pattern node value trail) (matcher.meaning pattern value))
    (position : Nat) (node : List Nat) (values : List Value) (trail : Trail) :
    Computes trail (matcher.walkEach patterns position node values trail)
      (matcher.meaningEach patterns values) := by
  induction patterns generalizing position values trail with
  | nil =>
      simp only [walkEach, meaningEach]
      exact ⟨rfl, (List.append_nil _).symm⟩
  | cons pattern rest inductionHypothesis =>
      cases values with
      | nil =>
          simp only [walkEach, meaningEach]
          exact ⟨rfl, (List.append_nil _).symm⟩
      | cons value others =>
          have first := each pattern List.mem_cons_self (position :: node) value trail
          have later := inductionHypothesis fun other member =>
            each other (List.mem_cons_of_mem _ member)
          simp only [walkEach, meaningEach]
          rcases walked : matcher.walk pattern (position :: node) value trail with
            ⟨verdict, after⟩
          rw [walked] at first
          rcases meant : matcher.meaning pattern value with failure | _ | front
          · rw [meant] at first
            cases first
            rfl
          · rw [meant] at first
            rcases first with ⟨rfl, kept⟩
            exact ⟨rfl, kept⟩
          · rw [meant] at first
            rcases first with ⟨rfl, appended⟩
            exact (later (position + 1) others after).after_matched appended

theorem walkAny_computes {alternatives : List LoweredPattern}
    (each : forall pattern, pattern ∈ alternatives -> forall node value trail,
      Computes trail (matcher.walk pattern node value trail) (matcher.meaning pattern value))
    (position : Nat) (node : List Nat) (value : Value) (trail : Trail) :
    Computes trail (matcher.walkAny alternatives position node value trail)
      (matcher.meaningAny alternatives value) := by
  induction alternatives generalizing position trail with
  | nil =>
      simp only [walkAny, meaningAny]
      exact ⟨rfl, List.prefix_rfl⟩
  | cons pattern rest inductionHypothesis =>
      have first := each pattern List.mem_cons_self (position :: node) value trail
      have later := inductionHypothesis fun other member =>
        each other (List.mem_cons_of_mem _ member)
      simp only [walkAny, meaningAny]
      rcases walked : matcher.walk pattern (position :: node) value trail with ⟨verdict, after⟩
      rw [walked] at first
      rcases meant : matcher.meaning pattern value with failure | _ | bound
      · rw [meant] at first
        cases first
        rfl
      · rw [meant] at first
        rcases first with ⟨rfl, kept⟩
        -- The next alternative starts with the bindings from before this one.
        have restored : (after.truncate trail.bindings.length).bindings = trail.bindings :=
          (List.prefix_iff_eq_take.mp kept).symm
        have next := later (position + 1) (after.truncate trail.bindings.length)
        unfold Computes at next ⊢
        rw [restored] at next
        exact next
      · rw [meant] at first
        rcases first with ⟨rfl, appended⟩
        exact ⟨rfl, appended⟩

/-- A walk computes the meaning of its pattern, wherever it begins. -/
theorem walk_computes (matcher : Matcher) (pattern : LoweredPattern) (node : List Nat) (value : Value)
    (trail : Trail) :
    Computes trail (matcher.walk pattern node value trail) (matcher.meaning pattern value) := by
  induction pattern using LoweredPattern.ind generalizing node value trail with
  | wildcard =>
      simp only [walk, meaning]
      exact ⟨rfl, (List.append_nil _).symm⟩
  | binding name =>
      simp only [walk, meaning]
      exact ⟨rfl, rfl⟩
  | literal literal =>
      simp only [walk, meaning]
      cases matcher.equalsLiteral literal value with
      | true => exact ⟨rfl, (List.append_nil _).symm⟩
      | false => exact ⟨rfl, List.prefix_rfl⟩
  | tuple elements inductionHypothesis =>
      cases value with
      | tuple parts =>
          simp only [walk, meaning]
          split
          · exact walkEach_computes inductionHypothesis 0 node parts trail
          · exact ⟨rfl, List.prefix_rfl⟩
      | _ =>
          simp only [walk, meaning]
          exact ⟨rfl, List.prefix_rfl⟩
  | deconstruct id fields inductionHypothesis =>
      cases found : matcher.contracts.contract? id with
      | none =>
          simp only [walk, meaning, found]
          rfl
      | some contract =>
          by_cases foreign : isForeignRecord contract.ident value = true
          · simp only [walk, meaning, found, foreign, if_true]
            exact ⟨rfl, List.prefix_rfl⟩
          · simp only [walk, meaning, found, foreign, takeApart]
            cases contract.bind matcher.runtime value with
            | error failure => rfl
            | ok parts =>
                exact walkEach_computes inductionHypothesis 0 node parts (trail.record node id)
  | anyOf alternatives inductionHypothesis =>
      simp only [walk, meaning]
      exact walkAny_computes inductionHypothesis 0 node value trail
  | asPattern name inner inductionHypothesis =>
      have below := inductionHypothesis (0 :: node) value (trail.bind name value)
      simp only [walk, meaning]
      exact below.after_matched rfl

/-- Matching a pattern gives its meaning. -/
theorem matchPattern_eq_meaning (pattern : LoweredPattern) (value : Value) :
    (matcher.matchPattern pattern value).1 = matcher.meaning pattern value := by
  have computed := matcher.walk_computes pattern [] value .empty
  unfold matchPattern
  rcases walked : matcher.walk pattern [] value .empty with ⟨verdict, after⟩
  rw [walked] at computed
  rcases meant : matcher.meaning pattern value with failure | _ | bound
  · rw [meant] at computed
    cases computed
    rfl
  · rw [meant] at computed
    rcases computed with ⟨rfl, _⟩
    rfl
  · rw [meant] at computed
    rcases computed with ⟨rfl, appended⟩
    exact congrArg (fun bindings => Except.ok (some bindings)) appended

end Matcher
end StructuralProducts
