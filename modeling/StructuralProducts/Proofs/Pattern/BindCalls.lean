import Mathlib.Data.List.Nodup
import StructuralProducts.Proofs.Pattern.ContractReferences

namespace StructuralProducts

/-!
# Calls of contracts

A walk notes on its trail each call by which a contract takes a value apart.  What is
noted is given here without a trail, from what the parts of a pattern note: parts that
are matched one after the other note their calls up to the first that does not match,
and alternatives up to the first that is not a mismatch.  A call that was noted stays,
also if the alternative in which it happened is given up.

So the calls of a match are some of the deconstructions of its pattern, in the order in
which they are written.  None of them is called twice.
-/

/-- A deconstruction in a pattern: the positions that lead to it from the root, and the
contract that it refers to. -/
structure Deconstruction where
  position : List Nat
  contract : ContractId
  deriving DecidableEq

namespace Deconstruction

/-- A deconstruction in the child at an index, seen from the whole. -/
def below (index : Nat) (part : Deconstruction) : Deconstruction :=
  ⟨index :: part.position, part.contract⟩

/-- The call of a deconstruction in a pattern that stands at a node. -/
def callAt (node : List Nat) (part : Deconstruction) : BindCall :=
  ⟨part.position.reverse ++ node, part.contract⟩

theorem callAt_below (node : List Nat) (index : Nat) :
    callAt node ∘ below index = callAt (index :: node) := by
  funext part
  simp only [Function.comp_apply, callAt, below, List.reverse_cons, List.append_assoc,
    List.singleton_append]

end Deconstruction

/-- The positions that lead from the root to the node of a call. -/
def BindCall.position (call : BindCall) : List Nat :=
  call.node.reverse

theorem BindCall.position_callAt (part : Deconstruction) :
    (part.callAt []).position = part.position := by
  simp only [BindCall.position, Deconstruction.callAt, List.append_nil, List.reverse_reverse]

/-! ## The deconstructions of a pattern -/

namespace LoweredPattern

mutual

/-- The deconstructions of a pattern, as they are written. -/
def deconstructions : LoweredPattern -> List Deconstruction
  | .wildcard => []
  | .binding _ => []
  | .literal _ => []
  | .tuple elements => deconstructionsFrom elements 0
  | .deconstruct id fields => ⟨[], id⟩ :: deconstructionsFrom fields 0
  | .anyOf alternatives => deconstructionsFrom alternatives 0
  | .asPattern _ inner => inner.deconstructions.map (.below 0)

/-- The deconstructions of consecutive children. -/
def deconstructionsFrom : List LoweredPattern -> Nat -> List Deconstruction
  | [], _ => []
  | pattern :: rest, index =>
      pattern.deconstructions.map (.below index) ++ deconstructionsFrom rest (index + 1)

end

/-- The deconstruction that the pattern itself is. -/
def ownDeconstruction : LoweredPattern -> List Deconstruction
  | .deconstruct id _ => [⟨[], id⟩]
  | _ => []

theorem deconstructions_eq (pattern : LoweredPattern) :
    pattern.deconstructions =
      pattern.ownDeconstruction ++ deconstructionsFrom pattern.children 0 := by
  cases pattern with
  | asPattern name inner =>
      simp only [deconstructions, ownDeconstruction, children, deconstructionsFrom,
        List.append_nil, List.nil_append]
  | _ => rfl

theorem mem_deconstructionsFrom_iff {patterns : List LoweredPattern} {start : Nat}
    {entry : Deconstruction} :
    entry ∈ deconstructionsFrom patterns start ↔
      Exists fun index => Exists fun child : LoweredPattern => Exists fun part =>
        patterns[index]? = some child ∧ part ∈ child.deconstructions ∧
        entry = part.below (start + index) := by
  induction patterns generalizing start with
  | nil => simp [deconstructionsFrom]
  | cons pattern rest inductionHypothesis =>
      rw [deconstructionsFrom, List.mem_append, List.mem_map, inductionHypothesis]
      constructor
      · rintro (⟨part, member, rfl⟩ | ⟨index, child, part, found, member, rfl⟩)
        · exact ⟨0, pattern, part, rfl, member, rfl⟩
        · refine ⟨index + 1, child, part, found, member, ?_⟩
          rw [Nat.add_assoc, Nat.add_comm 1]
      · rintro ⟨index, child, part, found, member, rfl⟩
        cases index with
        | zero =>
            cases found
            exact .inl ⟨part, member, rfl⟩
        | succ index =>
            refine .inr ⟨index, child, part, found, member, ?_⟩
            rw [Nat.add_assoc, Nat.add_comm 1]

/-- The list has the deconstructions of the pattern and nothing else. -/
theorem mem_deconstructions_iff {pattern : LoweredPattern} {position : List Nat}
    {id : ContractId} :
    ⟨position, id⟩ ∈ pattern.deconstructions ↔
      Exists fun fields => pattern.at? position = some (.deconstruct id fields) := by
  induction position generalizing pattern with
  | nil =>
      have inside : ¬ ⟨[], id⟩ ∈ deconstructionsFrom pattern.children 0 := by
        rw [mem_deconstructionsFrom_iff]
        rintro ⟨index, child, part, _, _, equal⟩
        exact List.cons_ne_nil _ _ (congrArg Deconstruction.position equal).symm
      rw [deconstructions_eq, List.mem_append, or_iff_left inside, at?]
      cases pattern <;> simp [ownDeconstruction, eq_comm]
  | cons index rest inductionHypothesis =>
      have outside : ¬ ⟨index :: rest, id⟩ ∈ pattern.ownDeconstruction := by
        cases pattern <;> simp [ownDeconstruction]
      rw [deconstructions_eq, List.mem_append, or_iff_right outside, mem_deconstructionsFrom_iff,
        at?]
      simp only [Option.bind_eq_some_iff, Nat.zero_add]
      constructor
      · rintro ⟨_, child, part, found, member, equal⟩
        cases equal
        rcases inductionHypothesis.mp member with ⟨fields, atRest⟩
        exact ⟨fields, child, found, atRest⟩
      · rintro ⟨fields, child, found, atRest⟩
        exact ⟨index, child, ⟨rest, id⟩, found, inductionHypothesis.mpr ⟨fields, atRest⟩, rfl⟩

/-- No two deconstructions of consecutive children stand at the same place, if none of
one child do. -/
theorem nodup_deconstructionsFrom {patterns : List LoweredPattern} (start : Nat)
    (each : forall pattern, pattern ∈ patterns ->
      (pattern.deconstructions.map (·.position)).Nodup) :
    ((deconstructionsFrom patterns start).map (·.position)).Nodup := by
  induction patterns generalizing start with
  | nil => exact List.nodup_nil
  | cons pattern rest inductionHypothesis =>
      have parts := List.forall_mem_cons.mp each
      rw [deconstructionsFrom, List.map_append, List.map_map]
      refine List.nodup_append.mpr ⟨?_, inductionHypothesis (start + 1) parts.2, ?_⟩
      · have shifted := List.Nodup.map (@List.cons_injective Nat start) parts.1
        rw [List.map_map] at shifted
        exact shifted
      · -- The index of the child stands at the front of every position in it.
        rintro position here other later rfl
        rcases List.mem_map.mp here with ⟨first, _, rfl⟩
        rcases List.mem_map.mp later with ⟨second, member, same⟩
        rcases mem_deconstructionsFrom_iff.mp member with ⟨index, _, part, _, _, rfl⟩
        have heads : start + 1 + index = start := (List.cons.inj same).1
        omega

/-- No two deconstructions of a pattern stand at the same place. -/
theorem nodup_deconstructions (pattern : LoweredPattern) :
    (pattern.deconstructions.map (·.position)).Nodup := by
  have below (whole : LoweredPattern) (each : forall child, child ∈ whole.children ->
      (child.deconstructions.map (·.position)).Nodup) :
      (whole.deconstructions.map (·.position)).Nodup := by
    have inside := nodup_deconstructionsFrom 0 each
    rw [deconstructions_eq]
    cases whole with
    | deconstruct id fields =>
        refine List.nodup_cons.mpr ⟨?_, inside⟩
        intro member
        rcases List.mem_map.mp member with ⟨entry, found, root⟩
        rcases mem_deconstructionsFrom_iff.mp found with ⟨index, _, part, _, _, rfl⟩
        exact List.cons_ne_nil _ _ root
    | _ => exact inside
  induction pattern using LoweredPattern.ind with
  | wildcard => exact below _ (List.forall_mem_nil _)
  | binding name => exact below _ (List.forall_mem_nil _)
  | literal literal => exact below _ (List.forall_mem_nil _)
  | tuple elements inductionHypothesis => exact below _ inductionHypothesis
  | deconstruct id fields inductionHypothesis => exact below _ inductionHypothesis
  | anyOf alternatives inductionHypothesis => exact below _ inductionHypothesis
  | asPattern name inner inductionHypothesis =>
      exact below _ (List.forall_mem_singleton.mpr inductionHypothesis)

end LoweredPattern

/-! ## The calls of a match -/

namespace Matcher

mutual

/-- The deconstructions whose contracts are called when a value is matched, in the order
of the calls. -/
def called (matcher : Matcher) (pattern : LoweredPattern) (value : Value) :
    List Deconstruction :=
  match pattern with
  | .wildcard => []
  | .binding _ => []
  | .literal _ => []
  | .tuple elements =>
      match value with
      | .tuple parts =>
          if elements.length = parts.length then matcher.calledEach elements 0 parts else []
      | _ => []
  | .deconstruct id fields =>
      match matcher.contracts.contract? id with
      | none => []
      | some contract =>
          if isForeignRecord contract.ident value then []
          else
            ⟨[], id⟩ ::
              match contract.bind matcher.runtime value with
              | .error _ => []
              | .ok parts => matcher.calledEach fields 0 parts
  | .anyOf alternatives => matcher.calledAny alternatives 0 value
  | .asPattern _ inner => (matcher.called inner value).map (.below 0)

/-- The same for patterns and values in pairs, up to the first that does not match. -/
def calledEach (matcher : Matcher) (patterns : List LoweredPattern) (index : Nat)
    (values : List Value) : List Deconstruction :=
  match patterns, values with
  | pattern :: patterns, value :: values =>
      (matcher.called pattern value).map (.below index) ++
        match matcher.meaning pattern value with
        | .ok (some _) => matcher.calledEach patterns (index + 1) values
        | _ => []
  | _, _ => []

/-- The same for alternatives, up to the first that is not a mismatch. -/
def calledAny (matcher : Matcher) (alternatives : List LoweredPattern) (index : Nat)
    (value : Value) : List Deconstruction :=
  match alternatives with
  | [] => []
  | pattern :: rest =>
      (matcher.called pattern value).map (.below index) ++
        match matcher.meaning pattern value with
        | .ok none => matcher.calledAny rest (index + 1) value
        | _ => []

end

variable {matcher : Matcher}

/-! ### Walks note the calls -/

/-- A walk of the pattern, wherever it begins, adds the calls of the pattern to its
trail. -/
def NotesCalls (matcher : Matcher) (pattern : LoweredPattern) : Prop :=
  forall node value trail, (matcher.walk pattern node value trail).2.calls =
    trail.calls ++ (matcher.called pattern value).map (Deconstruction.callAt node)

theorem walkEach_calls {patterns : List LoweredPattern}
    (each : forall pattern, pattern ∈ patterns -> matcher.NotesCalls pattern)
    (index : Nat) (node : List Nat) (values : List Value) (trail : Trail) :
    (matcher.walkEach patterns index node values trail).2.calls =
      trail.calls ++ (matcher.calledEach patterns index values).map (Deconstruction.callAt node) := by
  induction patterns generalizing index values trail with
  | nil => simp only [walkEach, calledEach, List.map_nil, List.append_nil]
  | cons pattern rest inductionHypothesis =>
      cases values with
      | nil => simp only [walkEach, calledEach, List.map_nil, List.append_nil]
      | cons value others =>
          have parts := List.forall_mem_cons.mp each
          have here := parts.1 (index :: node) value trail
          have computed := matcher.walk_computes pattern (index :: node) value trail
          simp only [walkEach, calledEach]
          rcases walked : matcher.walk pattern (index :: node) value trail with ⟨verdict, after⟩
          rw [walked] at here computed
          rw [List.map_append, List.map_map, Deconstruction.callAt_below, ← List.append_assoc,
            ← here]
          rcases meant : matcher.meaning pattern value with failure | _ | bound
          · rw [meant] at computed
            cases computed
            exact (List.append_nil _).symm
          · rw [meant] at computed
            rcases computed with ⟨rfl, _⟩
            exact (List.append_nil _).symm
          · rw [meant] at computed
            rcases computed with ⟨rfl, _⟩
            exact inductionHypothesis parts.2 (index + 1) others after

theorem walkAny_calls {alternatives : List LoweredPattern}
    (each : forall pattern, pattern ∈ alternatives -> matcher.NotesCalls pattern)
    (index : Nat) (node : List Nat) (value : Value) (trail : Trail) :
    (matcher.walkAny alternatives index node value trail).2.calls =
      trail.calls ++ (matcher.calledAny alternatives index value).map (Deconstruction.callAt node) := by
  induction alternatives generalizing index trail with
  | nil => simp only [walkAny, calledAny, List.map_nil, List.append_nil]
  | cons pattern rest inductionHypothesis =>
      have parts := List.forall_mem_cons.mp each
      have here := parts.1 (index :: node) value trail
      have computed := matcher.walk_computes pattern (index :: node) value trail
      simp only [walkAny, calledAny]
      rcases walked : matcher.walk pattern (index :: node) value trail with ⟨verdict, after⟩
      rw [walked] at here computed
      rw [List.map_append, List.map_map, Deconstruction.callAt_below, ← List.append_assoc,
        ← here]
      rcases meant : matcher.meaning pattern value with failure | _ | bound
      · rw [meant] at computed
        cases computed
        exact (List.append_nil _).symm
      · rw [meant] at computed
        rcases computed with ⟨rfl, _⟩
        -- The bindings of this alternative are taken back, its calls are not.
        exact inductionHypothesis parts.2 (index + 1) (after.truncate trail.bindings.length)
      · rw [meant] at computed
        rcases computed with ⟨rfl, _⟩
        exact (List.append_nil _).symm

theorem walk_calls (matcher : Matcher) (pattern : LoweredPattern) :
    matcher.NotesCalls pattern := by
  induction pattern using LoweredPattern.ind with
  | wildcard =>
      intro node value trail
      simp only [walk, called, List.map_nil, List.append_nil]
  | binding name =>
      intro node value trail
      simp only [walk, called, List.map_nil, List.append_nil]
      rfl
  | literal literal =>
      intro node value trail
      simp only [walk, called, List.map_nil, List.append_nil]
  | tuple elements inductionHypothesis =>
      intro node value trail
      cases value with
      | tuple parts =>
          simp only [walk, called]
          split
          · exact walkEach_calls inductionHypothesis 0 node parts trail
          · exact (List.append_nil _).symm
      | _ => simp only [walk, called, List.map_nil, List.append_nil]
  | deconstruct id fields inductionHypothesis =>
      intro node value trail
      cases found : matcher.contracts.contract? id with
      | none => simp only [walk, called, found, List.map_nil, List.append_nil]
      | some contract =>
          by_cases foreign : isForeignRecord contract.ident value = true
          · simp only [walk, called, found, foreign, if_true, List.map_nil, List.append_nil]
          · simp only [walk, takeApart, called, found, if_neg foreign, List.map_cons]
            cases contract.bind matcher.runtime value with
            | error failure => rfl
            | ok parts =>
                have noted := walkEach_calls inductionHypothesis 0 node parts
                  (trail.record node id)
                rw [Trail.record, List.append_assoc] at noted
                exact noted
  | anyOf alternatives inductionHypothesis =>
      intro node value trail
      simp only [walk, called]
      exact walkAny_calls inductionHypothesis 0 node value trail
  | asPattern name inner inductionHypothesis =>
      intro node value trail
      have below := inductionHypothesis (0 :: node) value (trail.bind name value)
      simp only [walk, called, List.map_map, Deconstruction.callAt_below]
      exact below

/-- The calls that matching a pattern gives. -/
theorem calls_matchPattern (matcher : Matcher) (pattern : LoweredPattern) (value : Value) :
    (matcher.matchPattern pattern value).2 =
      (matcher.called pattern value).map (Deconstruction.callAt []) := by
  have noted := matcher.walk_calls pattern [] value .empty
  unfold matchPattern
  rcases walked : matcher.walk pattern [] value .empty with ⟨verdict, after⟩
  rw [walked] at noted
  cases verdict with
  | matched => exact noted
  | noMatch => exact noted
  | failed failure => exact noted

/-! ### Every call is one of the deconstructions -/

theorem calledEach_sublist {patterns : List LoweredPattern}
    (each : forall pattern, pattern ∈ patterns -> forall value,
      (matcher.called pattern value).Sublist pattern.deconstructions)
    (index : Nat) (values : List Value) :
    (matcher.calledEach patterns index values).Sublist
      (LoweredPattern.deconstructionsFrom patterns index) := by
  induction patterns generalizing index values with
  | nil => simp only [calledEach, List.nil_sublist]
  | cons pattern rest inductionHypothesis =>
      cases values with
      | nil => simp only [calledEach, List.nil_sublist]
      | cons value others =>
          have parts := List.forall_mem_cons.mp each
          simp only [calledEach, LoweredPattern.deconstructionsFrom]
          refine ((parts.1 value).map _).append ?_
          split
          · exact inductionHypothesis parts.2 (index + 1) others
          · exact List.nil_sublist _

theorem calledAny_sublist {alternatives : List LoweredPattern} {value : Value}
    (each : forall pattern, pattern ∈ alternatives ->
      (matcher.called pattern value).Sublist pattern.deconstructions) (index : Nat) :
    (matcher.calledAny alternatives index value).Sublist
      (LoweredPattern.deconstructionsFrom alternatives index) := by
  induction alternatives generalizing index with
  | nil => simp only [calledAny, List.nil_sublist]
  | cons pattern rest inductionHypothesis =>
      have parts := List.forall_mem_cons.mp each
      simp only [calledAny, LoweredPattern.deconstructionsFrom]
      refine (parts.1.map _).append ?_
      split
      · exact inductionHypothesis parts.2 (index + 1)
      · exact List.nil_sublist _

/-- Whatever is matched, the calls are deconstructions of the pattern in the order in
which they are written. -/
theorem called_sublist (matcher : Matcher) (pattern : LoweredPattern) (value : Value) :
    (matcher.called pattern value).Sublist pattern.deconstructions := by
  induction pattern using LoweredPattern.ind generalizing value with
  | wildcard => simp only [called, List.nil_sublist]
  | binding name => simp only [called, List.nil_sublist]
  | literal literal => simp only [called, List.nil_sublist]
  | tuple elements inductionHypothesis =>
      cases value with
      | tuple parts =>
          simp only [called, LoweredPattern.deconstructions]
          split
          · exact calledEach_sublist inductionHypothesis 0 parts
          · exact List.nil_sublist _
      | _ => simp only [called, List.nil_sublist]
  | deconstruct id fields inductionHypothesis =>
      simp only [called, LoweredPattern.deconstructions]
      split
      · exact List.nil_sublist _
      · split
        · exact List.nil_sublist _
        · refine List.Sublist.cons_cons _ ?_
          split
          · exact List.nil_sublist _
          · exact calledEach_sublist inductionHypothesis 0 _
  | anyOf alternatives inductionHypothesis =>
      simp only [called, LoweredPattern.deconstructions]
      exact calledAny_sublist (fun pattern member => inductionHypothesis pattern member value) 0
  | asPattern name inner inductionHypothesis =>
      simp only [called, LoweredPattern.deconstructions]
      exact (inductionHypothesis value).map _

end Matcher
end StructuralProducts
