import StructuralProducts.Proofs.Pattern.Acceptance

namespace StructuralProducts

/-!
# What lowering raises

Lowering raises few kinds of diagnostics, whatever the registry and the patterns
are.  Some say that a single node is refused or does not fit, with what was missing
there; the others compare names or depths.  The traversal is followed once, for the
kinds; what all diagnostics of a run have in common is then read off the kinds.
Each has a primary span, and none is the marker that the queue adds by itself.
-/

namespace LoweringScope

/-- The diagnostics for a single node that does not fit the type at its place, or
that cannot be deconstructed.  Where a type has no declaration, a written name
resolves to it all the same; where synthesis fails, it fails on a declaration. -/
inductive Refusal (registry : Registry) : Diagnostic -> Prop where
  | mismatch (scope : LoweringScope) (against : scope.registry = registry) (span : Span)
      (expected : Ty) (found : String) : Refusal registry (scope.mismatch span expected found)
  | unknownType (span : Span) (name : String) : Refusal registry (.unknownType span name)
  | ambiguousType (span : Span) (written : String) (paths : List String) :
      Refusal registry (ambiguousType span written paths)
  | notAProduct (span : Span) (path : String) :
      Refusal registry (noContract span path notAProduct)
  | notDeclared (span : Span) (path : String) {typeName : Name} {ident : TypeId}
      (resolved : registry.resolve typeName = .unique ident)
      (unsupplied : registry.registered? ident = none)
      (undeclared : registry.decl? ident = none) :
      Refusal registry (noContract span path notDeclared)
  | shapeProblem (problem : ShapeProblem) (ident : TypeId) (declaredAt : Span) :
      Refusal registry (problem.diagnostic ident declaredAt registry.interner)
  | synthesisFailed (span : Span) {decl : TypeDecl} {failure : DescriptorError}
      (failed : Contract.synthesize decl registry.interner = .error (.malformed failure)) :
      Refusal registry (synthesisFailed span failure)
  | wrongArity (scope : LoweringScope) (against : scope.registry = registry) (ident : TypeId)
      (written : String) (span : Span) (expected found : Nat) :
      Refusal registry (scope.wrongArity ident written span expected found)

/-- The diagnostics that lowering against a registry raises. -/
inductive Complaint (registry : Registry) : Diagnostic -> Prop where
  | tooDeep (span : Span) (limit : Nat) : Complaint registry (tooDeep span limit)
  | refusal {diagnostic : Diagnostic} (refusal : Refusal registry diagnostic) :
      Complaint registry diagnostic
  | differentNames (span : Span) : Complaint registry (differentNames span)
  | boundTwice (span : Span) (name : String) : Complaint registry (boundTwice span name)

variable {registry : Registry} {diagnostic : Diagnostic}

/-- The declaration that is shown with a wrong number of arguments changes neither
the code nor the primary span nor the notes. -/
theorem wrongArity_cases (scope : LoweringScope) (ident : TypeId) (written : String) (span : Span)
    (expected found : Nat) :
    (scope.wrongArity ident written span expected found).code = .arityMismatch ∧
      (scope.wrongArity ident written span expected found).primarySpan? = some span ∧
      (scope.wrongArity ident written span expected found).notes = [] := by
  unfold wrongArity
  split
  · split
    · exact ⟨rfl, rfl, rfl⟩
    · exact ⟨rfl, rfl, rfl⟩
  · exact ⟨rfl, rfl, rfl⟩

namespace Refusal

theorem exists_primarySpan? (refusal : Refusal registry diagnostic) :
    Exists fun span => diagnostic.primarySpan? = some span := by
  cases refusal with
  | wrongArity scope _ ident written span expected found =>
      exact ⟨span, (scope.wrongArity_cases ident written span expected found).2.1⟩
  | shapeProblem problem ident declaredAt =>
      cases problem with
      | _ => exact ⟨_, rfl⟩
  | _ => exact ⟨_, rfl⟩

/-- A refusal is about neither names nor depths nor the limit of the queue. -/
theorem code_ne (refusal : Refusal registry diagnostic) :
    diagnostic.code ≠ .conflictingNames ∧ diagnostic.code ≠ .nestingLimit ∧
      diagnostic.code ≠ .tooManyErrors := by
  cases refusal with
  | wrongArity scope _ ident written span expected found =>
      rw [(scope.wrongArity_cases ident written span expected found).1]
      decide
  | shapeProblem problem ident declaredAt =>
      cases problem with
      | _ => exact ⟨nofun, nofun, nofun⟩
  | _ => exact ⟨nofun, nofun, nofun⟩

end Refusal

namespace Complaint

theorem exists_primarySpan? (complaint : Complaint registry diagnostic) :
    Exists fun span => diagnostic.primarySpan? = some span := by
  cases complaint with
  | refusal refusal => exact refusal.exists_primarySpan?
  | _ => exact ⟨_, rfl⟩

theorem code_ne_tooManyErrors (complaint : Complaint registry diagnostic) :
    diagnostic.code ≠ .tooManyErrors := by
  cases complaint with
  | refusal refusal => exact refusal.code_ne.2.2
  | _ => exact nofun

end Complaint
end LoweringScope

/-! ## Following the traversal -/

namespace LoweringProgress

/-- What is raised on the way from one progress to another is of a kind. -/
def Raises (kind : Diagnostic -> Prop) (before after : LoweringProgress) : Prop :=
  Exists fun added => after.raised = before.raised ++ added ∧
    forall diagnostic, diagnostic ∈ added -> kind diagnostic

/-- Everything raised so far is a complaint. -/
def Explained (progress : LoweringProgress) (registry : Registry) : Prop :=
  forall diagnostic, diagnostic ∈ progress.raised -> LoweringScope.Complaint registry diagnostic

variable {registry : Registry} {kind : Diagnostic -> Prop} {progress before after : LoweringProgress}

theorem Raises.of_raised_eq (same : after.raised = before.raised) : Raises kind before after :=
  ⟨[], same.trans (List.append_nil _).symm, fun _ member => absurd member List.not_mem_nil⟩

theorem Raises.refl : Raises kind progress progress :=
  .of_raised_eq rfl

theorem Raises.trans {middle : LoweringProgress} (earlier : Raises kind before middle)
    (later : Raises kind middle after) : Raises kind before after := by
  rcases earlier with ⟨first, firstRaised, firstKinds⟩
  rcases later with ⟨second, secondRaised, secondKinds⟩
  refine ⟨first ++ second, by rw [secondRaised, firstRaised, List.append_assoc], ?_⟩
  intro diagnostic member
  rcases List.mem_append.mp member with here | there
  · exact firstKinds diagnostic here
  · exact secondKinds diagnostic there

theorem Raises.imp {other : Diagnostic -> Prop} (raises : Raises kind before after)
    (implies : forall diagnostic, kind diagnostic -> other diagnostic) :
    Raises other before after := by
  rcases raises with ⟨added, raised, kinds⟩
  exact ⟨added, raised, fun diagnostic member => implies diagnostic (kinds diagnostic member)⟩

theorem Raises.raiseAll (raises : Raises kind before after) {diagnostics : List Diagnostic}
    (kinds : forall diagnostic, diagnostic ∈ diagnostics -> kind diagnostic) :
    Raises kind before (after.raiseAll diagnostics) :=
  raises.trans ⟨diagnostics, rfl, kinds⟩

theorem Raises.raise (raises : Raises kind before after) {diagnostic : Diagnostic}
    (ofKind : kind diagnostic) : Raises kind before (after.raise diagnostic) := by
  apply raises.raiseAll
  intro other member
  rw [List.mem_singleton.mp member]
  exact ofKind

/-- What was raised before stays raised, and everything else is of the kind. -/
theorem Raises.cases (raises : Raises kind before after) {diagnostic : Diagnostic}
    (member : diagnostic ∈ after.raised) : diagnostic ∈ before.raised ∨ kind diagnostic := by
  rcases raises with ⟨added, raised, kinds⟩
  rw [raised] at member
  exact (List.mem_append.mp member).imp_right (kinds diagnostic)

/-- Where anything is raised, something of the kind is. -/
theorem Raises.exists_of_not_silent (raises : Raises kind before after)
    (audible : after.raised ≠ before.raised) :
    Exists fun diagnostic => diagnostic ∈ after.raised ∧ kind diagnostic := by
  rcases raises with ⟨added, raised, kinds⟩
  have nonempty : added ≠ [] := by
    rintro rfl
    exact audible (raised.trans (List.append_nil _))
  rcases List.exists_mem_of_ne_nil added nonempty with ⟨diagnostic, member⟩
  exact ⟨diagnostic, raised ▸ List.mem_append_right _ member, kinds diagnostic member⟩

theorem explained_empty (registry : Registry) (config : QueueConfig) :
    (empty config).Explained registry :=
  fun _ member => absurd member List.not_mem_nil

theorem Explained.of_raises (explained : before.Explained registry)
    (raises : Raises (LoweringScope.Complaint registry) before after) :
    after.Explained registry := by
  intro diagnostic member
  rcases raises.cases member with earlier | complaint
  · exact explained diagnostic earlier
  · exact complaint

theorem Explained.refused (explained : before.Explained registry)
    (raises : Raises (LoweringScope.Refusal registry) before after) :
    after.Explained registry :=
  explained.of_raises (raises.imp fun _ => .refusal)

theorem Explained.raise (explained : progress.Explained registry) {diagnostic : Diagnostic}
    (complaint : LoweringScope.Complaint registry diagnostic) :
    (progress.raise diagnostic).Explained registry :=
  explained.of_raises (Raises.refl.raise complaint)

end LoweringProgress

namespace LoweringScope

open LoweringProgress (Raises)

variable {scope : LoweringScope} {progress : LoweringProgress}

theorem contractFor_raises {typeName : Name} {ident : TypeId}
    (resolved : scope.registry.resolve typeName = .unique ident) (span : Span) :
    Raises (Refusal scope.registry) progress (scope.contractFor ident span progress).2 := by
  have rejected : Raises (Refusal scope.registry) progress (progress.reject ident) :=
    .of_raised_eq rfl
  unfold contractFor
  split
  · exact .refl
  · split
    · exact .refl
    · next unsupplied =>
        split
        · exact Raises.refl.raise (.notAProduct _ _)
        · split
          · next undeclared =>
              exact Raises.refl.raise (.notDeclared _ _ resolved unsupplied undeclared)
          · next decl _ =>
              split
              · exact .refl
              · next problems _ =>
                  apply Raises.raise _ (.notAProduct _ _)
                  apply rejected.raiseAll
                  intro diagnostic member
                  rcases List.mem_map.mp member with ⟨problem, _, rfl⟩
                  exact .shapeProblem problem ident decl.span
              · next failed => exact rejected.raise (.synthesisFailed _ failed)

theorem open?_raises (written : Name) (argumentCount : Nat) (span : Span)
    (expected? : Option Ty) :
    Raises (Refusal scope.registry) progress
      (scope.open? written argumentCount span expected? progress).2 := by
  unfold open?
  split
  · exact Raises.refl.raise (.unknownType _ _)
  · exact Raises.refl.raise (.ambiguousType _ _ _)
  · next ident resolved =>
      split
      · exact Raises.refl.raise (.mismatch scope rfl _ _ _)
      · have looked := @contractFor_raises _ progress _ _ resolved span
        split
        · next found =>
            rw [found] at looked
            exact looked
        · next found =>
            rw [found] at looked
            dsimp only
            split
            · exact looked
            · exact looked.raise (.wrongArity scope rfl _ _ _ _ _)

theorem checkLiteral_raises (literal : Literal) (expected? : Option Ty) :
    Raises (Refusal scope.registry) progress
      (scope.checkLiteral literal expected? progress) := by
  unfold checkLiteral
  split
  · exact .refl
  · split
    · exact .refl
    · exact Raises.refl.raise (.mismatch scope rfl _ _ _)

theorem checkTuple_raises (elementCount : Nat) (expected? : Option Ty) :
    Raises (Refusal scope.registry) progress
      (scope.checkTuple elementCount expected? progress).2 := by
  unfold checkTuple
  split
  · exact .refl
  · split
    · exact .refl
    · exact Raises.refl.raise (.mismatch scope rfl _ _ _)
  · exact Raises.refl.raise (.mismatch scope rfl _ _ _)

theorem checkAlternatives_explained (explained : progress.Explained scope.registry)
    (alternatives : List LoweredPattern) :
    (scope.checkAlternatives alternatives progress).Explained scope.registry := by
  unfold checkAlternatives
  split
  · exact explained
  · split
    · exact explained
    · exact explained.raise (.differentNames _)

/-- Wherever the pattern stands, lowering it raises complaints only. -/
def LowersExplained (scope : LoweringScope) (pattern : Pattern) : Prop :=
  forall (expected? : Option Ty) (depth : Nat) (progress : LoweringProgress),
    progress.Explained scope.registry ->
      (scope.lower pattern expected? depth progress).2.Explained scope.registry

theorem lowerEach_explained {patterns : List Pattern}
    (each : forall pattern, pattern ∈ patterns -> scope.LowersExplained pattern)
    (expected : List (Option Ty)) (depth : Nat) (explained : progress.Explained scope.registry) :
    (scope.lowerEach patterns expected depth progress).2.Explained scope.registry := by
  induction patterns generalizing expected progress with
  | nil =>
      simp only [lowerEach]
      exact explained
  | cons pattern rest inductionHypothesis =>
      have first := each pattern List.mem_cons_self expected.head?.join depth progress explained
      simp only [lowerEach]
      exact inductionHypothesis (fun other member => each other (List.mem_cons_of_mem _ member)) _
        first

theorem lower_explained (scope : LoweringScope) (pattern : Pattern) :
    scope.LowersExplained pattern := by
  induction pattern using Pattern.ind with
  | wildcard =>
      intro expected? depth progress explained
      unfold lower
      split
      · exact explained.raise (.tooDeep _ _)
      · exact explained
  | binding name =>
      intro expected? depth progress explained
      unfold lower
      split
      · exact explained.raise (.tooDeep _ _)
      · exact explained
  | literal literal =>
      intro expected? depth progress explained
      unfold lower
      split
      · exact explained.raise (.tooDeep _ _)
      · exact explained.refused (checkLiteral_raises literal expected?)
  | tuple elements inductionHypothesis =>
      intro expected? depth progress explained
      unfold lower
      split
      · exact explained.raise (.tooDeep _ _)
      · exact lowerEach_explained inductionHypothesis _ (depth + 1)
          (explained.refused (checkTuple_raises elements.length expected?))
  | deconstruct typeName arguments span inductionHypothesis =>
      intro expected? depth progress explained
      have opened := explained.refused
        (scope.open?_raises typeName arguments.length span expected?)
      unfold lower
      split
      · exact explained.raise (.tooDeep _ _)
      · dsimp only
        split
        · next outcome =>
            rw [outcome] at opened
            exact opened
        · next outcome =>
            rw [outcome] at opened
            exact lowerEach_explained inductionHypothesis _ (depth + 1) opened
  | anyOf alternatives inductionHypothesis =>
      intro expected? depth progress explained
      unfold lower
      split
      · exact explained.raise (.tooDeep _ _)
      · exact checkAlternatives_explained
          (lowerEach_explained inductionHypothesis _ (depth + 1) explained) _
  | asPattern name inner inductionHypothesis =>
      intro expected? depth progress explained
      unfold lower
      split
      · exact explained.raise (.tooDeep _ _)
      · exact inductionHypothesis expected? (depth + 1) progress explained

theorem lowerWhole_explained (explained : progress.Explained scope.registry)
    (pattern : Pattern) (expected? : Option Ty) :
    (scope.lowerWhole pattern expected? progress).2.Explained scope.registry := by
  have lowered := lower_explained scope pattern expected? 0 progress explained
  apply lowered.of_raises
  apply Raises.refl.raiseAll
  intro diagnostic member
  rcases List.mem_map.mp member with ⟨name, _, rfl⟩
  exact .boundTwice _ _

theorem lowerArms_explained (explained : progress.Explained scope.registry)
    (expected? : Option Ty) (patterns : List Pattern) :
    (scope.lowerArms expected? patterns progress).2.Explained scope.registry := by
  induction patterns generalizing progress with
  | nil => exact explained
  | cons pattern rest inductionHypothesis =>
      exact inductionHypothesis (lowerWhole_explained explained pattern expected?)

end LoweringScope

theorem LoweringRun.sites_explained (run : LoweringRun)
    (explained : run.progress.Explained run.registry) (written : List PatternSite) :
    (run.sites written).2.progress.Explained run.registry := by
  induction written generalizing run with
  | nil => exact explained
  | cons first rest inductionHypothesis =>
      -- A site changes neither the registry nor the limits of the run.
      exact inductionHypothesis (run.site first).2
        (@LoweringScope.lowerArms_explained ⟨run.registry, run.limits.maxDepth?, first.span⟩ _
          explained first.scrutinee? first.patterns)

/-- Whatever a unit raises is a complaint. -/
theorem PatternUnit.lowered_explained (written : PatternUnit) (registry : Registry)
    (limits : LoweringLimits) :
    (written.lowered registry limits).2.progress.Explained registry :=
  (LoweringRun.start registry limits).sites_explained
    (LoweringProgress.explained_empty registry _) written.sites

end StructuralProducts
