import StructuralProducts.Proofs.Pattern.Raised
import StructuralProducts.Proofs.Pattern.Recovery

namespace StructuralProducts

/-!
# Where diagnostics are raised

Everything that lowering a pattern raises is raised at one of the nodes at which
lowering arrives, and each of these nodes is lowered on the way.  A node that is
refused raises a diagnostic that has nothing to do with names.  An alternation raises
that names differ when its alternatives bind different names after recovery, because
they are compared as they were lowered.
-/

open PatternNode (Within)

namespace LoweringScope

open LoweringProgress (Raises)

variable {scope : LoweringScope}

/-- An alternation within the nesting limit two of whose alternatives bind different
names after recovery. -/
def Conflicts (scope : LoweringScope) (node : PatternNode) : Prop :=
  Within scope.maxDepth? node.depth ∧
    Exists fun alternatives => node.pattern = .anyOf alternatives ∧
      Exists fun first => Exists fun second => first ∈ alternatives ∧ second ∈ alternatives ∧
        ¬ (scope.recovered first node.expected? (node.depth + 1)).boundNames.Perm
          (scope.recovered second node.expected? (node.depth + 1)).boundNames

/-! ## Single nodes -/

theorem checkAlternatives_raises (lowered : List LoweredPattern) (progress : LoweringProgress) :
    Raises (· = differentNames scope.siteSpan) progress
      (scope.checkAlternatives lowered progress) := by
  unfold checkAlternatives
  split
  · exact .refl
  · split
    · exact .refl
    · exact Raises.refl.raise rfl

/-- The lowered alternatives pass exactly when the alternation does not conflict. -/
theorem silent_checkAlternatives_iff (keys : scope.registry.KeysAgree)
    (alternatives : List Pattern) (expected? : Option Ty) {depth : Nat}
    (within : Within scope.maxDepth? depth) {before : LoweringProgress}
    (agrees : before.Agrees scope.registry) :
    let lowered := scope.lowerEach alternatives (List.replicate alternatives.length expected?)
      (depth + 1) before
    (scope.checkAlternatives lowered.1 lowered.2).raised = lowered.2.raised ↔
      ¬ scope.Conflicts ⟨.anyOf alternatives, expected?, depth⟩ := by
  intro lowered
  have step := lowerEach_step keys alternatives (List.replicate alternatives.length expected?)
    (depth + 1) agrees
  have images := @lowerEach_recovered scope keys alternatives
    (fun pattern _ => lower_recovered keys pattern)
    (List.replicate alternatives.length expected?) (depth + 1) _ agrees
  rw [recoveredEach_replicate] at images
  rw [(step_checkAlternatives step.agrees lowered.1).silent_iff, images.perm_iff]
  simp only [List.forall_mem_map]
  constructor
  · rintro agree ⟨_, _, ⟨rfl⟩, first, second, firstMember, secondMember, differ⟩
    exact differ (agree first firstMember second secondMember)
  · intro agree first firstMember second secondMember
    by_contra differ
    exact agree ⟨within, alternatives, rfl, first, second, firstMember, secondMember, differ⟩

/-- What lowering raises at a node itself. -/
inductive RaisedAt (scope : LoweringScope) (node : PatternNode) : Diagnostic -> Prop where
  | tooDeep (span : Span) (limit : Nat) : RaisedAt scope node (tooDeep span limit)
  | refusal {diagnostic : Diagnostic} (refusal : Refusal scope.registry diagnostic) :
      RaisedAt scope node diagnostic
  | differentNames (conflicts : scope.Conflicts node) :
      RaisedAt scope node (differentNames scope.siteSpan)

/-- What lowering raises at one of the nodes at which it arrives from a node. -/
def RaisedFrom (scope : LoweringScope) (node : PatternNode) (diagnostic : Diagnostic) : Prop :=
  Exists fun below => scope.Visits node below ∧ scope.RaisedAt below diagnostic

/-! ## Everything that is raised is raised at a node -/

theorem lowerEach_raises (keys : scope.registry.KeysAgree) {kind : Diagnostic -> Prop}
    {patterns : List Pattern} {expected : List (Option Ty)} {depth : Nat}
    (each : forall (position : Nat) (pattern : Pattern), patterns[position]? = some pattern ->
      forall before : LoweringProgress, before.Agrees scope.registry ->
        Raises kind before (scope.lower pattern expected[position]?.join depth before).2)
    {before : LoweringProgress} (agrees : before.Agrees scope.registry) :
    Raises kind before (scope.lowerEach patterns expected depth before).2 := by
  induction patterns generalizing expected before with
  | nil =>
      simp only [lowerEach]
      exact .refl
  | cons pattern rest inductionHypothesis =>
      have first := each 0 pattern rfl before agrees
      rw [← List.head?_eq_getElem?] at first
      have step := (lower_faithful keys pattern expected.head?.join depth before agrees).step
      simp only [lowerEach]
      apply first.trans
      apply inductionHypothesis _ step.agrees
      intro position other found middle middleAgrees
      rw [List.getElem?_tail]
      exact each (position + 1) other found middle middleAgrees

/-- Wherever the pattern stands, everything that lowering it raises is raised at a node
at which lowering arrives. -/
def RaisesAtNodes (scope : LoweringScope) (pattern : Pattern) : Prop :=
  forall (expected? : Option Ty) (depth : Nat) (before : LoweringProgress),
    before.Agrees scope.registry ->
      Raises (scope.RaisedFrom ⟨pattern, expected?, depth⟩) before
        (scope.lower pattern expected? depth before).2

theorem RaisesAtNodes.of_enters {pattern : Pattern} (raises : scope.RaisesAtNodes pattern)
    {node : PatternNode} {expected? : Option Ty} {depth : Nat}
    (enters : scope.Enters node ⟨pattern, expected?, depth⟩) {before : LoweringProgress}
    (agrees : before.Agrees scope.registry) :
    Raises (scope.RaisedFrom node) before (scope.lower pattern expected? depth before).2 := by
  apply (raises expected? depth before agrees).imp
  rintro diagnostic ⟨below, visits, raisedAt⟩
  exact ⟨below, .head enters visits, raisedAt⟩

theorem raises_of_refusals (node : PatternNode) {before after : LoweringProgress}
    (raises : Raises (Refusal scope.registry) before after) :
    Raises (scope.RaisedFrom node) before after :=
  raises.imp fun _ refusal => ⟨node, .refl, .refusal refusal⟩

theorem raisesAtNodes_of_within {pattern : Pattern} {expected? : Option Ty} {depth : Nat}
    {before : LoweringProgress}
    (raises : scope.exceeded? depth = none ->
      Raises (scope.RaisedFrom ⟨pattern, expected?, depth⟩) before
        (scope.lower pattern expected? depth before).2) :
    Raises (scope.RaisedFrom ⟨pattern, expected?, depth⟩) before
      (scope.lower pattern expected? depth before).2 := by
  cases exceeded : scope.exceeded? depth with
  | none => exact raises exceeded
  | some limit =>
      unfold lower
      rw [exceeded]
      exact Raises.refl.raise ⟨_, .refl, .tooDeep _ _⟩

theorem lower_tuple_raises (keys : scope.registry.KeysAgree) {elements : List Pattern}
    (each : forall element, element ∈ elements -> scope.RaisesAtNodes element) :
    scope.RaisesAtNodes (.tuple elements) := by
  intro expected? depth before agrees
  apply raisesAtNodes_of_within
  intro unexceeded
  have checked := (step_checkTuple agrees elements.length expected?).1.agrees
  simp only [lower, unexceeded, checkTuple_fst]
  apply (raises_of_refusals _ (checkTuple_raises elements.length expected?)).trans
  apply lowerEach_raises keys _ checked
  intro position element found middle middleAgrees
  exact (each element (List.mem_of_getElem? found)).of_enters (.element unexceeded found)
    middleAgrees

theorem lower_deconstruct_raises (keys : scope.registry.KeysAgree) (typeName : Name)
    {arguments : List Pattern} (span : Span)
    (each : forall argument, argument ∈ arguments -> scope.RaisesAtNodes argument) :
    scope.RaisesAtNodes (.deconstruct typeName arguments span) := by
  intro expected? depth before agrees
  apply raisesAtNodes_of_within
  intro unexceeded
  have opening := open?_cases keys agrees typeName arguments.length span expected?
  have refusals := raises_of_refusals ⟨.deconstruct typeName arguments span, expected?, depth⟩
    (@open?_raises scope before typeName arguments.length span expected?)
  rcases opened : scope.open? typeName arguments.length span expected? before with
    ⟨outcome, after⟩
  simp only [opened] at opening refusals
  rcases opening with ⟨id, ident, entry, rfl, opens, openable, step⟩ | ⟨rfl, _, _⟩
  · simp only [lower, unexceeded, opened]
    apply refusals.trans
    apply lowerEach_raises keys _ step.agrees
    intro position argument found middle middleAgrees
    exact (each argument (List.mem_of_getElem? found)).of_enters
      (.argument unexceeded (openTypes?_of_opens opens openable) found) middleAgrees
  · simp only [lower, unexceeded, opened]
    exact refusals

theorem lower_anyOf_raises (keys : scope.registry.KeysAgree) {alternatives : List Pattern}
    (each : forall alternative, alternative ∈ alternatives -> scope.RaisesAtNodes alternative) :
    scope.RaisesAtNodes (.anyOf alternatives) := by
  intro expected? depth before agrees
  apply raisesAtNodes_of_within
  intro unexceeded
  have within := (exceeded?_eq_none_iff depth).mp unexceeded
  have silent_iff := silent_checkAlternatives_iff keys alternatives expected? within agrees
  have lowered : Raises (scope.RaisedFrom ⟨.anyOf alternatives, expected?, depth⟩) before
      (scope.lowerEach alternatives (List.replicate alternatives.length expected?) (depth + 1)
        before).2 := by
    apply lowerEach_raises keys _ agrees
    intro position alternative found middle middleAgrees
    have inside := (List.getElem?_eq_some_iff.mp found).1
    rw [List.getElem?_replicate, if_pos inside]
    have member := List.mem_of_getElem? found
    exact (each alternative member).of_enters (.alternative unexceeded member) middleAgrees
  simp only [lower, unexceeded]
  apply lowered.trans
  by_cases conflicts : scope.Conflicts ⟨.anyOf alternatives, expected?, depth⟩
  · apply (checkAlternatives_raises _ _).imp
    rintro _ rfl
    exact ⟨_, .refl, .differentNames conflicts⟩
  · exact .of_raised_eq (silent_iff.mpr conflicts)

theorem lower_raises (keys : scope.registry.KeysAgree) (pattern : Pattern) :
    scope.RaisesAtNodes pattern := by
  induction pattern using Pattern.ind with
  | wildcard =>
      intro expected? depth before agrees
      apply raisesAtNodes_of_within
      intro unexceeded
      simp only [lower, unexceeded]
      exact .refl
  | binding name =>
      intro expected? depth before agrees
      apply raisesAtNodes_of_within
      intro unexceeded
      simp only [lower, unexceeded]
      exact .refl
  | literal literal =>
      intro expected? depth before agrees
      apply raisesAtNodes_of_within
      intro unexceeded
      simp only [lower, unexceeded]
      exact raises_of_refusals _ (checkLiteral_raises literal expected?)
  | tuple elements inductionHypothesis => exact lower_tuple_raises keys inductionHypothesis
  | deconstruct typeName arguments span inductionHypothesis =>
      exact lower_deconstruct_raises keys typeName span inductionHypothesis
  | anyOf alternatives inductionHypothesis => exact lower_anyOf_raises keys inductionHypothesis
  | asPattern name inner inductionHypothesis =>
      intro expected? depth before agrees
      apply raisesAtNodes_of_within
      intro unexceeded
      simp only [lower, unexceeded]
      exact inductionHypothesis.of_enters (.inner unexceeded) agrees

/-! ## Every node at which lowering arrives is lowered -/

/-- Lower the pattern of a node where it stands. -/
def lowerNode (scope : LoweringScope) (node : PatternNode) (progress : LoweringProgress) :
    LoweredPattern × LoweringProgress :=
  scope.lower node.pattern node.expected? node.depth progress

/-- The node was lowered at some point, and nothing that it led to was lost since. -/
def LowersWithin (scope : LoweringScope) (node : PatternNode) (after : LoweringProgress) : Prop :=
  Exists fun middle : LoweringProgress => middle.Agrees scope.registry ∧
    (scope.lowerNode node middle).2.Extends after

theorem LowersWithin.extend {node : PatternNode} {middle after : LoweringProgress}
    (lowers : scope.LowersWithin node middle) (grows : middle.Extends after) :
    scope.LowersWithin node after := by
  rcases lowers with ⟨start, agrees, earlier⟩
  exact ⟨start, agrees, earlier.trans grows⟩

theorem lowersWithin_lowerEach (keys : scope.registry.KeysAgree) (expected : List (Option Ty))
    (depth : Nat) {patterns : List Pattern} {position : Nat} {pattern : Pattern}
    (found : patterns[position]? = some pattern) {before : LoweringProgress}
    (agrees : before.Agrees scope.registry) :
    scope.LowersWithin ⟨pattern, expected[position]?.join, depth⟩
      (scope.lowerEach patterns expected depth before).2 := by
  induction patterns generalizing expected before position with
  | nil => cases found
  | cons first rest inductionHypothesis =>
      have step := (lower_faithful keys first expected.head?.join depth before agrees).step
      simp only [lowerEach]
      cases position with
      | zero =>
          cases found
          rw [← List.head?_eq_getElem?]
          have later := lowerEach_step keys rest expected.tail depth step.agrees
          exact ⟨before, agrees, later.grows⟩
      | succ position =>
          rw [← List.getElem?_tail]
          exact inductionHypothesis _ found step.agrees

theorem lowersWithin_of_enters (keys : scope.registry.KeysAgree) {node child : PatternNode}
    (enters : scope.Enters node child) {before : LoweringProgress}
    (agrees : before.Agrees scope.registry) :
    scope.LowersWithin child (scope.lowerNode node before).2 := by
  cases enters with
  | @element elements expected? depth position pattern unexceeded found =>
      have checked := (step_checkTuple agrees elements.length expected?).1.agrees
      simp only [lowerNode, lower, unexceeded, checkTuple_fst]
      exact lowersWithin_lowerEach keys _ _ found checked
  | @argument typeName arguments span expected? depth position types pattern unexceeded opened
      found =>
      have opening := open?_cases keys agrees typeName arguments.length span expected?
      have openable := Registry.openable_iff.mpr ⟨types, opened⟩
      rcases outcome : scope.open? typeName arguments.length span expected? before with
        ⟨result, after⟩
      simp only [outcome] at opening
      rcases opening with ⟨id, ident, entry, rfl, opens, _, step⟩ | ⟨_, unmet, _⟩
      · rw [openTypes?_of_opens opens openable] at opened
        cases opened
        simp only [lowerNode, lower, unexceeded, outcome]
        exact lowersWithin_lowerEach keys _ _ found step.agrees
      · exact absurd openable unmet
  | @alternative alternatives expected? depth pattern unexceeded member =>
      rcases List.getElem?_of_mem member with ⟨position, found⟩
      have inside := (List.getElem?_eq_some_iff.mp found).1
      have lowers := lowersWithin_lowerEach keys (List.replicate alternatives.length expected?)
        (depth + 1) found agrees
      rw [List.getElem?_replicate, if_pos inside] at lowers
      have step := lowerEach_step keys alternatives (List.replicate alternatives.length expected?)
        (depth + 1) agrees
      simp only [lowerNode, lower, unexceeded]
      exact lowers.extend (step_checkAlternatives step.agrees _).grows
  | inner unexceeded =>
      simp only [lowerNode, lower, unexceeded]
      exact ⟨before, agrees, .refl _⟩

theorem lowersWithin_of_visits (keys : scope.registry.KeysAgree) {node below : PatternNode}
    (visits : scope.Visits node below) {before : LoweringProgress}
    (agrees : before.Agrees scope.registry) :
    scope.LowersWithin below (scope.lowerNode node before).2 := by
  induction visits using Relation.ReflTransGen.head_induction_on generalizing before with
  | refl => exact ⟨before, agrees, .refl _⟩
  | head enters _ inductionHypothesis =>
      rcases lowersWithin_of_enters keys enters agrees with ⟨middle, middleAgrees, grows⟩
      exact (inductionHypothesis middleAgrees).extend grows

theorem LowersWithin.below (keys : scope.registry.KeysAgree) {node below : PatternNode}
    {after : LoweringProgress} (lowers : scope.LowersWithin node after)
    (visits : scope.Visits node below) : scope.LowersWithin below after := by
  rcases lowers with ⟨middle, agrees, grows⟩
  exact (lowersWithin_of_visits keys visits agrees).extend grows

/-! ## What a node raises for certain -/

theorem Conflicts.mem_raised (keys : scope.registry.KeysAgree) {node : PatternNode}
    (conflicts : scope.Conflicts node) {after : LoweringProgress}
    (lowers : scope.LowersWithin node after) :
    differentNames scope.siteSpan ∈ after.raised := by
  rcases node with ⟨pattern, expected?, depth⟩
  rcases lowers with ⟨before, agrees, grows⟩
  apply grows.raised.subset
  rcases conflicts.2 with ⟨alternatives, same, _⟩
  have within : Within scope.maxDepth? depth := conflicts.1
  dsimp only at same
  subst same
  have audible := (silent_checkAlternatives_iff keys alternatives expected? within
    agrees).not_left.mpr conflicts
  rcases (checkAlternatives_raises _ _).exists_of_not_silent audible with ⟨_, member, rfl⟩
  simp only [lowerNode, lower, (exceeded?_eq_none_iff depth).mpr within]
  exact member

theorem Refuses.exists_raised (keys : scope.registry.KeysAgree) {node : PatternNode}
    (refuses : scope.Refuses node) {after : LoweringProgress}
    (lowers : scope.LowersWithin node after) :
    Exists fun diagnostic => diagnostic ∈ after.raised ∧
      diagnostic.code ≠ .conflictingNames := by
  rcases lowers with ⟨before, agrees, grows⟩
  suffices here : Exists fun diagnostic =>
      diagnostic ∈ (scope.lowerNode node before).2.raised ∧
        diagnostic.code ≠ .conflictingNames by
    rcases here with ⟨diagnostic, member, code⟩
    exact ⟨diagnostic, grows.raised.subset member, code⟩
  cases refuses with
  | @tooDeep pattern expected? depth beyond =>
      cases exceeded : scope.exceeded? depth with
      | none => exact absurd ((exceeded?_eq_none_iff depth).mp exceeded) beyond
      | some limit =>
          unfold lowerNode lower
          simp only [exceeded]
          refine ⟨_, List.mem_append_right _ List.mem_cons_self, ?_⟩
          intro same
          cases same
  | @unopened typeName arguments span expected? depth within unmet =>
      have opening := open?_cases keys agrees typeName arguments.length span expected?
      have refusals := @open?_raises scope before typeName arguments.length span expected?
      rcases outcome : scope.open? typeName arguments.length span expected? before with
        ⟨result, after⟩
      simp only [outcome] at opening refusals
      rcases opening with ⟨_, _, _, _, _, openable, _⟩ | ⟨rfl, _, step⟩
      · exact absurd openable unmet
      · rcases refusals.exists_of_not_silent step.silent_iff.mp with ⟨diagnostic, member, refusal⟩
        refine ⟨diagnostic, ?_, refusal.code_ne.1⟩
        simp only [lowerNode, lower, (exceeded?_eq_none_iff depth).mpr within, outcome]
        exact member

end LoweringScope
end StructuralProducts
