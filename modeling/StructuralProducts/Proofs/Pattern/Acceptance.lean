import Mathlib.Data.List.Forall2
import StructuralProducts.Proofs.Pattern.LoweringSteps

namespace StructuralProducts

/-!
# Which units compile

A unit compiles exactly when it is well formed, and what it compiles to is its
image.  Lowering goes on after an error and puts a wildcard in place of what is
at fault, so the two halves are proved together: a node raises nothing exactly
when it fits, and only then is its outcome its image.  That outcomes are images
is needed on the way, because alternatives are compared after they are lowered.

The queue takes no part in the decision.  Whatever its limit, the first
diagnostic that is added to an empty queue is counted.
-/

/-! ## Evidence of errors -/

namespace DiagnosticQueue

theorem count_le_addAll (queue : DiagnosticQueue) (diagnostics : List Diagnostic) :
    queue.count ≤ (queue.addAll diagnostics).count := by
  induction diagnostics generalizing queue with
  | nil => exact Nat.le_refl _
  | cons diagnostic rest inductionHypothesis =>
      exact Nat.le_trans (queue.count_le_of_add diagnostic) (inductionHypothesis _)

theorem count_add_empty (config : QueueConfig) (diagnostic : Diagnostic) :
    ((empty config).add diagnostic).2.count = 1 := by
  have room : ¬ (empty config).isFull = true := by
    rw [isFull, Bool.and_eq_true, decide_eq_true_eq, decide_eq_true_eq]
    change ¬ (0 < config.limit ∧ config.limit ≤ 0)
    omega
  rw [add, if_neg room]
  simp only [empty, List.contains_nil, Bool.and_false, Bool.false_eq_true, if_false]

/-- An empty queue has no evidence of an error exactly when nothing is added. -/
theorem reported?_addAll_empty (config : QueueConfig) (diagnostics : List Diagnostic) :
    ((empty config).addAll diagnostics).reported? = none ↔ diagnostics = [] := by
  cases diagnostics with
  | nil => exact iff_of_true rfl rfl
  | cons diagnostic rest =>
      have counted : 0 < ((empty config).addAll (diagnostic :: rest)).count := by
        have first := count_add_empty config diagnostic
        have later := count_le_addAll ((empty config).add diagnostic).2 rest
        exact Nat.lt_of_lt_of_le (first ▸ Nat.one_pos) later
      refine iff_of_false ?_ (List.cons_ne_nil _ _)
      rw [reported?, if_pos counted]
      exact Option.some_ne_none _

end DiagnosticQueue

theorem LoweringProgress.reported?_queue (progress : LoweringProgress) :
    progress.queue.reported? = none ↔ progress.raised = [] := by
  rw [progress.collected]
  exact DiagnosticQueue.reported?_addAll_empty _ _

namespace LoweringScope

open PatternNode

variable {scope : LoweringScope}

/-! ## Nodes -/

/-- The outcome of lowering a node: something is raised unless the node fits, and
if nothing is raised the outcome is the image. -/
structure Faithful (scope : LoweringScope) (node : PatternNode) (before : LoweringProgress)
    (outcome : LoweredPattern × LoweringProgress) : Prop where
  step : LoweringProgress.Step scope.registry before outcome.2
    (node.Fits scope.registry scope.maxDepth?)
  image : outcome.2.raised = before.raised ->
    node.pattern.Image scope.registry outcome.2.contracts outcome.1

/-- Wherever the pattern stands, lowering it is faithful. -/
def LowersFaithfully (scope : LoweringScope) (pattern : Pattern) : Prop :=
  forall (expected? : Option Ty) (depth : Nat) (before : LoweringProgress),
    before.Agrees scope.registry ->
      scope.Faithful ⟨pattern, expected?, depth⟩ before
        (scope.lower pattern expected? depth before)

private theorem forall_getElem?_cons {Item : Type} (first : Item) (rest : List Item)
    (holds : Nat -> Item -> Prop) :
    (forall (position : Nat) (item : Item), (first :: rest)[position]? = some item ->
      holds position item) ↔
      holds 0 first ∧ forall (position : Nat) (item : Item),
        rest[position]? = some item -> holds (position + 1) item := by
  constructor
  · intro all
    exact ⟨all 0 first rfl, fun position item found => all (position + 1) item found⟩
  · rintro ⟨head, tail⟩ position item found
    cases position with
    | zero => cases found; exact head
    | succ position => exact tail position item found

/-- Alternatives are all expected to have the type of the whole. -/
private theorem forall_getElem?_replicate_iff {Item : Type} (items : List Item)
    (expected? : Option Ty) (holds : Option Ty -> Item -> Prop) :
    (forall (position : Nat) (item : Item), items[position]? = some item ->
      holds (List.replicate items.length expected?)[position]?.join item) ↔
      forall item, item ∈ items -> holds expected? item := by
  have same {position : Nat} {item : Item} (found : items[position]? = some item) :
      (List.replicate items.length expected?)[position]?.join = expected? := by
    rw [List.getElem?_replicate, if_pos (List.getElem?_eq_some_iff.mp found).1]
    rfl
  constructor
  · intro each item member
    rcases List.getElem?_of_mem member with ⟨position, found⟩
    exact same found ▸ each position item found
  · intro each position item found
    rw [same found]
    exact each item (List.mem_of_getElem? found)

private theorem join_getElem?_map_some {Item : Type} (items : List Item) (position : Nat) :
    (items.map some)[position]?.join = items[position]? := by
  rw [List.getElem?_map]
  cases items[position]? with
  | none => rfl
  | some item => rfl

theorem lowerEach_faithful {patterns : List Pattern} (depth : Nat)
    (each : forall pattern, pattern ∈ patterns -> scope.LowersFaithfully pattern)
    (expected : List (Option Ty)) {before : LoweringProgress}
    (agrees : before.Agrees scope.registry) :
    LoweringProgress.Step scope.registry before
        (scope.lowerEach patterns expected depth before).2
        (forall (position : Nat) (pattern : Pattern), patterns[position]? = some pattern ->
          Fits scope.registry scope.maxDepth? ⟨pattern, expected[position]?.join, depth⟩) ∧
      ((scope.lowerEach patterns expected depth before).2.raised = before.raised ->
        Pattern.Images scope.registry (scope.lowerEach patterns expected depth before).2.contracts
          patterns (scope.lowerEach patterns expected depth before).1) := by
  induction patterns generalizing expected before with
  | nil =>
      simp only [lowerEach]
      exact ⟨(LoweringProgress.Step.refl agrees).congr (iff_of_true trivial nofun), fun _ => .nil⟩
  | cons pattern rest inductionHypothesis =>
      have first := each pattern List.mem_cons_self expected.head?.join depth before agrees
      have others := inductionHypothesis
        (fun other member => each other (List.mem_cons_of_mem _ member)) expected.tail
        first.step.agrees
      simp only [lowerEach]
      refine ⟨(first.step.trans others.1).congr ?_, ?_⟩
      · rw [forall_getElem?_cons]
        simp only [List.head?_eq_getElem?, List.getElem?_tail]
      · intro silent
        have firstSilent := first.step.silent_left others.1 silent
        have othersSilent := first.step.silent_right others.1 silent
        exact .cons ((first.image firstSilent).mono others.1.grows.contracts)
          (others.2 othersSilent)

/-- A node beyond the nesting limit is refused before anything else is looked at,
so the form of the pattern matters only within the limit. -/
theorem faithful_of_within {pattern : Pattern} {expected? : Option Ty} {depth : Nat}
    {before : LoweringProgress} (agrees : before.Agrees scope.registry)
    (faithful : scope.exceeded? depth = none -> Within scope.maxDepth? depth ->
      scope.Faithful ⟨pattern, expected?, depth⟩ before
        (scope.lower pattern expected? depth before)) :
    scope.Faithful ⟨pattern, expected?, depth⟩ before
      (scope.lower pattern expected? depth before) := by
  cases exceeded : scope.exceeded? depth with
  | none => exact faithful exceeded ((exceeded?_eq_none_iff depth).mp exceeded)
  | some limit =>
      have refused : scope.lower pattern expected? depth before =
          (.wildcard, before.raise (tooDeep (pattern.span?.getD scope.siteSpan) limit)) := by
        unfold lower
        rw [exceeded]
      have raised := LoweringProgress.step_raise agrees
        (tooDeep (pattern.span?.getD scope.siteSpan) limit)
      rw [refused]
      refine ⟨raised.congr (iff_of_false not_false ?_), fun silent =>
        absurd (raised.condition_of_silent silent) not_false⟩
      intro fits
      have within : Within scope.maxDepth? depth := (fits _ .refl).nesting
      rw [(exceeded?_eq_none_iff depth).mpr within] at exceeded
      cases exceeded

theorem lower_tuple_faithful {elements : List Pattern}
    (each : forall element, element ∈ elements -> scope.LowersFaithfully element) :
    scope.LowersFaithfully (.tuple elements) := by
  intro expected? depth before agrees
  apply faithful_of_within agrees
  intro unexceeded within
  have checked := step_checkTuple agrees elements.length expected?
  have lowered := lowerEach_faithful (depth + 1) each
    (scope.checkTuple elements.length expected? before).1 checked.1.agrees
  simp only [lower, unexceeded]
  refine ⟨(checked.1.trans lowered.1).congr ?_, ?_⟩
  · rw [fits_tuple_iff, and_iff_right within]
    apply and_congr_right
    intro accepts
    simp only [checked.2 accepts]
  · intro silent
    exact .tuple (lowered.2 (checked.1.silent_right lowered.1 silent))

theorem lower_deconstruct_faithful (keys : scope.registry.KeysAgree) (typeName : Name)
    {arguments : List Pattern} (span : Span)
    (each : forall argument, argument ∈ arguments -> scope.LowersFaithfully argument) :
    scope.LowersFaithfully (.deconstruct typeName arguments span) := by
  intro expected? depth before agrees
  apply faithful_of_within agrees
  intro unexceeded within
  have opening := open?_cases keys agrees typeName arguments.length span expected?
  rcases opened : scope.open? typeName arguments.length span expected? before with
    ⟨outcome, after⟩
  simp only [opened] at opening
  rcases opening with ⟨id, ident, entry, rfl, opens, openable, step⟩ | ⟨rfl, unmet, step⟩
  · have lowered := lowerEach_faithful (depth + 1) each (entry.types.map some) step.agrees
    simp only [lower, unexceeded, opened]
    refine ⟨(step.trans lowered.1).congr ?_, ?_⟩
    · rw [fits_deconstruct_iff, and_iff_right within, and_iff_right openable, true_and]
      simp only [opens.argumentType?_eq, join_getElem?_map_some]
    · intro silent
      exact .deconstruct (opens.mono lowered.1.grows.contracts)
        (lowered.2 (step.silent_right lowered.1 silent))
  · simp only [lower, unexceeded, opened]
    refine ⟨step.congr (iff_of_false not_false ?_), fun silent =>
      absurd (step.condition_of_silent silent) not_false⟩
    rw [fits_deconstruct_iff]
    exact fun fits => unmet fits.2.1

theorem lower_anyOf_faithful {alternatives : List Pattern}
    (each : forall alternative, alternative ∈ alternatives -> scope.LowersFaithfully alternative) :
    scope.LowersFaithfully (.anyOf alternatives) := by
  intro expected? depth before agrees
  apply faithful_of_within agrees
  intro unexceeded within
  have lowered := lowerEach_faithful (depth + 1) each
    (List.replicate alternatives.length expected?) agrees
  have checked := step_checkAlternatives lowered.1.agrees
    (scope.lowerEach alternatives (List.replicate alternatives.length expected?) (depth + 1)
      before).1
  simp only [lower, unexceeded]
  refine ⟨(lowered.1.trans checked).congr ?_, ?_⟩
  · rw [fits_anyOf_iff, and_iff_right within, ← forall_getElem?_replicate_iff alternatives expected?
      fun expected? alternative =>
        Fits scope.registry scope.maxDepth? ⟨alternative, expected?, depth + 1⟩, and_comm]
    apply and_congr_left
    -- The alternatives are compared after lowering, which is sound because they
    -- are compared only with what was lowered without an error.
    intro fits
    exact (lowered.2 (lowered.1.silent_iff.mpr fits)).perm_iff
  · intro silent
    have images := lowered.2 (lowered.1.silent_left checked silent)
    exact .anyOf (images.mono checked.grows.contracts)

theorem lower_faithful (keys : scope.registry.KeysAgree) (pattern : Pattern) :
    scope.LowersFaithfully pattern := by
  induction pattern using Pattern.ind with
  | wildcard =>
      intro expected? depth before agrees
      apply faithful_of_within agrees
      intro unexceeded within
      simp only [lower, unexceeded]
      refine ⟨(LoweringProgress.Step.refl agrees).congr ?_, fun _ => .wildcard⟩
      rw [fits_wildcard_iff]
      exact iff_of_true trivial within
  | binding name =>
      intro expected? depth before agrees
      apply faithful_of_within agrees
      intro unexceeded within
      simp only [lower, unexceeded]
      refine ⟨(LoweringProgress.Step.refl agrees).congr ?_, fun _ => .binding⟩
      rw [fits_binding_iff]
      exact iff_of_true trivial within
  | literal literal =>
      intro expected? depth before agrees
      apply faithful_of_within agrees
      intro unexceeded within
      simp only [lower, unexceeded]
      refine ⟨(step_checkLiteral agrees literal expected?).congr ?_, fun _ => .literal⟩
      rw [fits_literal_iff]
      exact (and_iff_right within).symm
  | tuple elements inductionHypothesis => exact lower_tuple_faithful inductionHypothesis
  | deconstruct typeName arguments span inductionHypothesis =>
      exact lower_deconstruct_faithful keys typeName span inductionHypothesis
  | anyOf alternatives inductionHypothesis => exact lower_anyOf_faithful inductionHypothesis
  | asPattern name inner inductionHypothesis =>
      intro expected? depth before agrees
      apply faithful_of_within agrees
      intro unexceeded within
      have lowered := inductionHypothesis expected? (depth + 1) before agrees
      simp only [lower, unexceeded]
      refine ⟨lowered.step.congr ?_, fun silent => .asPattern (lowered.image silent)⟩
      rw [fits_asPattern_iff, and_iff_right within]

theorem lowerEach_step (keys : scope.registry.KeysAgree) (patterns : List Pattern)
    (expected : List (Option Ty)) (depth : Nat) {before : LoweringProgress}
    (agrees : before.Agrees scope.registry) :
    LoweringProgress.Step scope.registry before
      (scope.lowerEach patterns expected depth before).2
      (forall (position : Nat) (pattern : Pattern), patterns[position]? = some pattern ->
        PatternNode.Fits scope.registry scope.maxDepth?
          ⟨pattern, expected[position]?.join, depth⟩) :=
  (lowerEach_faithful depth (fun pattern _ => lower_faithful keys pattern) expected agrees).1

/-! ## Whole patterns and arms -/

/-- No name is reported exactly when none occurs twice, among the names or before
them. -/
theorem repeatedNames_eq_nil_iff (names seen : List Name) :
    repeatedNames seen [] names = [] ↔
      names.Nodup ∧ forall name, name ∈ names -> name ∉ seen := by
  induction names generalizing seen with
  | nil =>
      exact iff_of_true rfl ⟨List.nodup_nil, fun _ member => absurd member List.not_mem_nil⟩
  | cons name rest inductionHypothesis =>
      unfold repeatedNames
      by_cases known : name ∈ seen
      · rw [if_pos known, if_neg List.not_mem_nil]
        exact iff_of_false (List.cons_ne_nil _ _)
          fun distinct => distinct.2 name List.mem_cons_self known
      · rw [if_neg known, inductionHypothesis, List.nodup_cons]
        constructor
        · rintro ⟨distinct, fresh⟩
          refine ⟨⟨fun member => fresh name member List.mem_cons_self, distinct⟩, ?_⟩
          intro other member
          rcases List.mem_cons.mp member with rfl | later
          · exact known
          · exact fun seenBefore => fresh other later (List.mem_cons_of_mem _ seenBefore)
        · rintro ⟨⟨single, distinct⟩, fresh⟩
          refine ⟨distinct, ?_⟩
          intro other member seenBefore
          rcases List.mem_cons.mp seenBefore with rfl | earlier
          · exact single member
          · exact fresh other (List.mem_cons_of_mem _ member) earlier

/-- Lowering a whole pattern raises nothing exactly when the pattern is well
formed, and the outcome is then its image. -/
theorem lowerWhole_faithful (keys : scope.registry.KeysAgree) (pattern : Pattern)
    (expected? : Option Ty) {before : LoweringProgress} (agrees : before.Agrees scope.registry) :
    LoweringProgress.Step scope.registry before (scope.lowerWhole pattern expected? before).2
        (pattern.WellFormed scope.registry scope.maxDepth? expected?) ∧
      ((scope.lowerWhole pattern expected? before).2.raised = before.raised ->
        pattern.Image scope.registry (scope.lowerWhole pattern expected? before).2.contracts
          (scope.lowerWhole pattern expected? before).1) := by
  have lowered := lower_faithful keys pattern expected? 0 before agrees
  simp only [lowerWhole]
  have reported := LoweringProgress.step_raiseAll lowered.step.agrees
    ((repeatedNames [] [] (scope.lower pattern expected? 0 before).1.boundNames).map fun name =>
      boundTwice (pattern.span?.getD scope.siteSpan) (scope.interner.lookup name))
  refine ⟨(lowered.step.trans reported).congr ?_, ?_⟩
  · rw [List.map_eq_nil_iff, repeatedNames_eq_nil_iff]
    constructor
    · rintro ⟨fits, distinct, _⟩
      have image := lowered.image (lowered.step.silent_iff.mpr fits)
      exact ⟨fits, image.boundNames_eq ▸ distinct⟩
    · rintro ⟨fits, distinct⟩
      have image := lowered.image (lowered.step.silent_iff.mpr fits)
      exact ⟨fits, image.boundNames_eq.symm ▸ distinct, fun _ _ => List.not_mem_nil⟩
  · intro silent
    exact (lowered.image (lowered.step.silent_left reported silent)).mono reported.grows.contracts

end LoweringScope

/-- An arm is the image of a pattern: its pattern is, and its paths are those of
its pattern. -/
def Pattern.ArmImage (registry : Registry) (table : ContractTable) (pattern : Pattern)
    (arm : CompiledArm) : Prop :=
  pattern.Image registry table arm.pattern ∧ arm.bindings = arm.pattern.bindings

/-- A compiled site is the image of a site as it was written. -/
structure PatternSite.Image (registry : Registry) (table : ContractTable) (written : PatternSite)
    (compiled : CompiledSite) : Prop where
  kind : compiled.kind = written.kind
  span : compiled.span = written.span
  arms : List.Forall₂ (Pattern.ArmImage registry table) written.patterns compiled.arms

/-- A compiled unit is the image of a unit as it was written, in its own table. -/
structure PatternUnit.Image (registry : Registry) (session : SessionId) (written : PatternUnit)
    (compiled : CompiledUnit) : Prop where
  session : compiled.session = session
  name : compiled.name = written.name
  exports : compiled.exports = written.exports
  sites : List.Forall₂ (PatternSite.Image registry compiled.contracts) written.sites compiled.sites

theorem Pattern.ArmImage.mono {registry : Registry} {table later : ContractTable}
    (grows : table.entries <+: later.entries) {pattern : Pattern} {arm : CompiledArm}
    (image : pattern.ArmImage registry table arm) : pattern.ArmImage registry later arm :=
  ⟨image.1.mono grows, image.2⟩

theorem PatternSite.Image.mono {registry : Registry} {table later : ContractTable}
    (grows : table.entries <+: later.entries) {written : PatternSite} {compiled : CompiledSite}
    (image : written.Image registry table compiled) : written.Image registry later compiled :=
  ⟨image.kind, image.span, image.arms.imp fun _ _ arm => arm.mono grows⟩

theorem LoweringScope.lowerArms_faithful {scope : LoweringScope}
    (keys : scope.registry.KeysAgree) (expected? : Option Ty) (patterns : List Pattern)
    {before : LoweringProgress} (agrees : before.Agrees scope.registry) :
    LoweringProgress.Step scope.registry before (scope.lowerArms expected? patterns before).2
        (forall pattern, pattern ∈ patterns ->
          pattern.WellFormed scope.registry scope.maxDepth? expected?) ∧
      ((scope.lowerArms expected? patterns before).2.raised = before.raised ->
        List.Forall₂ (Pattern.ArmImage scope.registry
            (scope.lowerArms expected? patterns before).2.contracts)
          patterns (scope.lowerArms expected? patterns before).1) := by
  induction patterns generalizing before with
  | nil =>
      simp only [lowerArms]
      exact ⟨(LoweringProgress.Step.refl agrees).congr
        (iff_of_true trivial fun _ member => absurd member List.not_mem_nil), fun _ => .nil⟩
  | cons pattern rest inductionHypothesis =>
      have first := scope.lowerWhole_faithful keys pattern expected? agrees
      have others := inductionHypothesis first.1.agrees
      simp only [lowerArms]
      refine ⟨(first.1.trans others.1).congr List.forall_mem_cons.symm, ?_⟩
      intro silent
      have image := first.2 (first.1.silent_left others.1 silent)
      exact .cons ⟨image.mono others.1.grows.contracts, rfl⟩
        (others.2 (first.1.silent_right others.1 silent))

/-! ## Sites and units -/

namespace LoweringRun

/-- A site raises nothing exactly when all its patterns are well formed, and is
then compiled to its image. -/
theorem site_faithful (run : LoweringRun) (keys : run.registry.KeysAgree)
    (agrees : run.progress.Agrees run.registry) (written : PatternSite) :
    LoweringProgress.Step run.registry run.progress (run.site written).2.progress
        (forall pattern, pattern ∈ written.patterns ->
          pattern.WellFormed run.registry run.limits.maxDepth? written.scrutinee?) ∧
      ((run.site written).2.progress.raised = run.progress.raised ->
        written.Image run.registry (run.site written).2.progress.contracts
          (run.site written).1) := by
  have arms := LoweringScope.lowerArms_faithful
    (show (LoweringScope.mk run.registry run.limits.maxDepth? written.span).registry.KeysAgree
      from keys) written.scrutinee? written.patterns agrees
  exact ⟨arms.1, fun silent => ⟨rfl, rfl, arms.2 silent⟩⟩

theorem sites_faithful (run : LoweringRun) (keys : run.registry.KeysAgree)
    (agrees : run.progress.Agrees run.registry) (written : List PatternSite) :
    LoweringProgress.Step run.registry run.progress (run.sites written).2.progress
        (forall site, site ∈ written -> forall pattern, pattern ∈ site.patterns ->
          pattern.WellFormed run.registry run.limits.maxDepth? site.scrutinee?) ∧
      ((run.sites written).2.progress.raised = run.progress.raised ->
        List.Forall₂ (PatternSite.Image run.registry (run.sites written).2.progress.contracts)
          written (run.sites written).1) := by
  induction written generalizing run with
  | nil =>
      simp only [sites]
      exact ⟨(LoweringProgress.Step.refl agrees).congr
        (iff_of_true trivial fun _ member => absurd member List.not_mem_nil), fun _ => .nil⟩
  | cons first rest inductionHypothesis =>
      have head := run.site_faithful keys agrees first
      -- The run after a site has the registry and the limits it had before it.
      have tail := inductionHypothesis (run.site first).2 keys head.1.agrees
      simp only [sites]
      refine ⟨(head.1.trans tail.1).congr ?_, ?_⟩
      · rw [List.forall_mem_cons]
        exact Iff.rfl
      · intro silent
        have image := head.2 (head.1.silent_left tail.1 silent)
        exact .cons (image.mono tail.1.grows.contracts)
          (tail.2 (head.1.silent_right tail.1 silent))

end LoweringRun

namespace PatternUnit

variable {registry : Registry}

/-- What lowering the sites of a unit leaves behind. -/
def lowered (written : PatternUnit) (registry : Registry) (limits : LoweringLimits) :
    List CompiledSite × LoweringRun :=
  (LoweringRun.start registry limits).sites written.sites

/-- The run over a unit raises nothing exactly when the unit is well formed. -/
theorem lowered_raised_eq_nil_iff (keys : registry.KeysAgree) (written : PatternUnit)
    (limits : LoweringLimits) :
    (written.lowered registry limits).2.progress.raised = [] ↔
      written.WellFormed registry limits.maxDepth? :=
  ((LoweringRun.start registry limits).sites_faithful keys
    (LoweringProgress.empty_agrees registry _) written.sites).1.silent_iff

/-- A unit compiles exactly when its run raises nothing, and then to what the run
leaves behind. -/
theorem compile_eq_ok_iff_raised (written : PatternUnit) (session : SessionId)
    (limits : LoweringLimits) (compiled : CompiledUnit) :
    written.compile session registry limits = .ok compiled ↔
      (written.lowered registry limits).2.progress.raised = [] ∧
      compiled = ⟨session, written.name, written.exports, (written.lowered registry limits).1,
        (written.lowered registry limits).2.progress.contracts⟩ := by
  change (written.lowered registry limits).2.finish session written.name written.exports
    (written.lowered registry limits).1 = .ok compiled ↔ _
  rw [← LoweringProgress.reported?_queue]
  simp only [LoweringRun.finish]
  split
  next evidence found => simp [found]
  next found => simp [found, eq_comm]

theorem exists_compile_iff (keys : registry.KeysAgree) (written : PatternUnit)
    (session : SessionId) (limits : LoweringLimits) :
    (Exists fun compiled => written.compile session registry limits = .ok compiled) ↔
      written.WellFormed registry limits.maxDepth? := by
  rw [← lowered_raised_eq_nil_iff keys]
  constructor
  · rintro ⟨compiled, compiles⟩
    exact ((written.compile_eq_ok_iff_raised session limits compiled).mp compiles).1
  · intro silent
    exact ⟨_, (written.compile_eq_ok_iff_raised session limits _).mpr ⟨silent, rfl⟩⟩

theorem image_of_compile (keys : registry.KeysAgree) {written : PatternUnit}
    {session : SessionId} {limits : LoweringLimits} {compiled : CompiledUnit}
    (compiles : written.compile session registry limits = .ok compiled) :
    written.Image registry session compiled := by
  obtain ⟨silent, rfl⟩ := (written.compile_eq_ok_iff_raised session limits compiled).mp compiles
  have sites := (LoweringRun.start registry limits).sites_faithful keys
    (LoweringProgress.empty_agrees registry _) written.sites
  exact ⟨rfl, rfl, rfl, sites.2 silent⟩

/-- Every arm of a compiled unit is the image of a well-formed pattern of the site
at the same position. -/
theorem exists_image_of_arm (keys : registry.KeysAgree) {written : PatternUnit}
    {session : SessionId} {limits : LoweringLimits} {compiled : CompiledUnit}
    (compiles : written.compile session registry limits = .ok compiled) {index : Nat}
    {lowered : CompiledSite} (compiledSite : compiled.sites[index]? = some lowered)
    {arm : CompiledArm} (member : arm ∈ lowered.arms) :
    Exists fun site => Exists fun pattern : Pattern => written.sites[index]? = some site ∧
      pattern.WellFormed registry limits.maxDepth? site.scrutinee? ∧
      pattern.ArmImage registry compiled.contracts arm := by
  have image := image_of_compile keys compiles
  have wellFormed := (exists_compile_iff keys written session limits).mp ⟨compiled, compiles⟩
  rcases List.forall₂_iff_get.mp image.sites with ⟨siteCount, sites⟩
  rcases List.getElem?_eq_some_iff.mp compiledSite with ⟨compiledInside, rfl⟩
  have inside : index < written.sites.length := siteCount ▸ compiledInside
  rcases List.forall₂_iff_get.mp (sites index inside compiledInside).arms with ⟨armCount, arms⟩
  rcases List.getElem_of_mem member with ⟨position, armCompiled, rfl⟩
  have armInside : position < written.sites[index].patterns.length := armCount ▸ armCompiled
  exact ⟨written.sites[index], written.sites[index].patterns[position],
    List.getElem?_eq_getElem inside,
    wellFormed _ (List.getElem_mem inside) _ (List.getElem_mem armInside),
    arms position armInside armCompiled⟩

/-- A unit compiles exactly when it is well formed, whatever the error limit, and
it compiles to its image: the same sites and the same patterns, with the
registry's contracts in place of type names. -/
theorem compiles_iff_wellFormed (built : registry.Built) (written : PatternUnit)
    (session : SessionId) (limits : LoweringLimits) :
    ((Exists fun compiled => written.compile session registry limits = .ok compiled) ↔
      written.WellFormed registry limits.maxDepth?) ∧
    forall compiled, written.compile session registry limits = .ok compiled ->
      written.Image registry session compiled :=
  ⟨exists_compile_iff built.keysAgree written session limits,
    fun _ compiles => image_of_compile built.keysAgree compiles⟩

end PatternUnit

/-- A `match` on a point, with an alternation inside a deconstruction by the last
segment of the path. -/
def Sample.pointMatch : PatternUnit where
  name := "points"
  exports := []
  sites :=
    [{ kind := .matchArms
       scrutinee? := some (.named point)
       patterns :=
         [.deconstruct pointName
            [.binding xLabel, .anyOf [.literal (.int 3), .wildcard]] Span.synthetic,
          .wildcard]
       span := Span.synthetic }]

theorem Sample.exists_compile_pointMatch : Exists fun compiled =>
    pointMatch.compile ⟨0⟩ registry .standard = .ok compiled ∧
      compiled.sites.map (fun site => site.arms.map (·.pattern.isIrrefutable)) =
        [[true, true]] := by
  have accepted : ((pointMatch.compile ⟨0⟩ registry .standard).toOption.map fun compiled =>
      compiled.sites.map fun site => site.arms.map (·.pattern.isIrrefutable)) =
        some [[true, true]] := by
    decide +kernel
  cases outcome : pointMatch.compile ⟨0⟩ registry .standard with
  | error failure =>
      rw [outcome] at accepted
      cases accepted
  | ok compiled =>
      rw [outcome] at accepted
      exact ⟨compiled, rfl, Option.some.inj accepted⟩

theorem PatternUnit.pointMatch_wellFormed :
    Sample.registry.Built ∧ Sample.pointMatch.WellFormed Sample.registry (some 64) := by
  rcases Sample.exists_compile_pointMatch with ⟨compiled, compiles, _⟩
  have accepted := PatternUnit.compiles_iff_wellFormed Sample.registry_built Sample.pointMatch
    ⟨0⟩ .standard
  exact ⟨Sample.registry_built, accepted.1.mp ⟨compiled, compiles⟩⟩

end StructuralProducts
