import StructuralProducts.Pattern.Lowering
import StructuralProducts.Proofs.Pattern.WellFormed

namespace StructuralProducts

/-!
# Lowering does not read its queue

Everything that lowering raises goes to the diagnostic queue at once, and nothing is
read from the queue until the unit is finished.  So lowering under another
configuration of the queue gives the same patterns and leaves the same progress, with
the queue that the other configuration would have made of what was raised.

This is said of each operation by its commutation with `withConfig`, and of patterns by
induction.
-/

namespace LoweringProgress

/-- The progress under another configuration of the queue. -/
def withConfig (progress : LoweringProgress) (config : QueueConfig) : LoweringProgress :=
  { progress with
    queue := (DiagnosticQueue.empty config).addAll progress.raised
    collected := by
      rw [DiagnosticQueue.config_addAll]
      rfl }

variable {progress : LoweringProgress} {config : QueueConfig}

@[simp] theorem contracts_withConfig : (progress.withConfig config).contracts =
    progress.contracts := rfl

@[simp] theorem rejected_withConfig : (progress.withConfig config).rejected =
    progress.rejected := rfl

theorem reject_withConfig (ident : TypeId) : (progress.withConfig config).reject ident =
    (progress.reject ident).withConfig config := rfl

theorem raiseAll_withConfig (diagnostics : List Diagnostic) :
    (progress.withConfig config).raiseAll diagnostics =
      (progress.raiseAll diagnostics).withConfig config := by
  simp only [raiseAll, withConfig, DiagnosticQueue.addAll_append]

theorem raise_withConfig (diagnostic : Diagnostic) :
    (progress.withConfig config).raise diagnostic =
      (progress.raise diagnostic).withConfig config :=
  raiseAll_withConfig [diagnostic]

end LoweringProgress

namespace LoweringScope

open LoweringProgress

variable {scope : LoweringScope} {config : QueueConfig}

/-! ## The tests of a node -/

theorem contractFor_withConfig (ident : TypeId) (span : Span) (progress : LoweringProgress) :
    scope.contractFor ident span (progress.withConfig config) =
      ((scope.contractFor ident span progress).1,
        (scope.contractFor ident span progress).2.withConfig config) := by
  simp only [contractFor, contracts_withConfig, rejected_withConfig, raise_withConfig,
    reject_withConfig, raiseAll_withConfig]
  split
  · rfl
  · split
    · rfl
    · split
      · rfl
      · split
        · rfl
        · split <;> rfl

theorem open?_withConfig (written : Name) (argumentCount : Nat) (span : Span)
    (expected? : Option Ty) (progress : LoweringProgress) :
    scope.open? written argumentCount span expected? (progress.withConfig config) =
      ((scope.open? written argumentCount span expected? progress).1,
        (scope.open? written argumentCount span expected? progress).2.withConfig config) := by
  simp only [open?, raise_withConfig, contractFor_withConfig]
  split
  · rfl
  · rfl
  · next ident _ =>
      split
      · rfl
      · rcases scope.contractFor ident span progress with ⟨_ | id, after⟩
        · rfl
        · simp only [contracts_withConfig, raise_withConfig]
          split <;> rfl

theorem checkLiteral_withConfig (literal : Literal) (expected? : Option Ty)
    (progress : LoweringProgress) :
    scope.checkLiteral literal expected? (progress.withConfig config) =
      (scope.checkLiteral literal expected? progress).withConfig config := by
  simp only [checkLiteral, raise_withConfig]
  split
  · rfl
  · split <;> rfl

theorem checkTuple_withConfig (elementCount : Nat) (expected? : Option Ty)
    (progress : LoweringProgress) :
    scope.checkTuple elementCount expected? (progress.withConfig config) =
      ((scope.checkTuple elementCount expected? progress).1,
        (scope.checkTuple elementCount expected? progress).2.withConfig config) := by
  simp only [checkTuple, raise_withConfig]
  split
  · rfl
  · split <;> rfl
  · rfl

theorem checkAlternatives_withConfig (alternatives : List LoweredPattern)
    (progress : LoweringProgress) :
    scope.checkAlternatives alternatives (progress.withConfig config) =
      (scope.checkAlternatives alternatives progress).withConfig config := by
  simp only [checkAlternatives, raise_withConfig]
  split
  · rfl
  · split <;> rfl

/-! ## Patterns -/

/-- Lowering the pattern leaves the queue unread, wherever the pattern stands. -/
def Unread (scope : LoweringScope) (config : QueueConfig) (pattern : Pattern) : Prop :=
  forall (expected? : Option Ty) (depth : Nat) (progress : LoweringProgress),
    scope.lower pattern expected? depth (progress.withConfig config) =
      ((scope.lower pattern expected? depth progress).1,
        (scope.lower pattern expected? depth progress).2.withConfig config)

theorem lowerEach_withConfig {patterns : List Pattern}
    (each : forall pattern, pattern ∈ patterns -> scope.Unread config pattern)
    (expected : List (Option Ty)) (depth : Nat) (progress : LoweringProgress) :
    scope.lowerEach patterns expected depth (progress.withConfig config) =
      ((scope.lowerEach patterns expected depth progress).1,
        (scope.lowerEach patterns expected depth progress).2.withConfig config) := by
  induction patterns generalizing expected progress with
  | nil => simp only [lowerEach]
  | cons pattern rest inductionHypothesis =>
      have here := each pattern List.mem_cons_self expected.head?.join depth
      have later := inductionHypothesis fun other member =>
        each other (List.mem_cons_of_mem _ member)
      simp only [lowerEach, here, later]

theorem lower_withConfig (pattern : Pattern) : scope.Unread config pattern := by
  induction pattern using Pattern.ind with
  | wildcard =>
      intro expected? depth progress
      simp only [lower, raise_withConfig]
      split <;> rfl
  | binding name =>
      intro expected? depth progress
      simp only [lower, raise_withConfig]
      split <;> rfl
  | literal literal =>
      intro expected? depth progress
      simp only [lower, raise_withConfig, checkLiteral_withConfig]
      split <;> rfl
  | tuple elements inductionHypothesis =>
      intro expected? depth progress
      have each := lowerEach_withConfig inductionHypothesis
      simp only [lower, raise_withConfig, checkTuple_withConfig, each]
      split <;> rfl
  | deconstruct typeName arguments span inductionHypothesis =>
      intro expected? depth progress
      have each := lowerEach_withConfig inductionHypothesis
      simp only [lower, raise_withConfig, open?_withConfig]
      split
      · rfl
      · rcases scope.open? typeName arguments.length span expected? progress with
          ⟨_ | ⟨id, types⟩, after⟩
        · rfl
        · simp only [each]
  | anyOf alternatives inductionHypothesis =>
      intro expected? depth progress
      have each := lowerEach_withConfig inductionHypothesis
      simp only [lower, raise_withConfig, each, checkAlternatives_withConfig]
      split <;> rfl
  | asPattern name inner inductionHypothesis =>
      intro expected? depth progress
      simp only [lower, raise_withConfig, inductionHypothesis expected? (depth + 1)]
      split <;> rfl

theorem lowerWhole_withConfig (pattern : Pattern) (expected? : Option Ty)
    (progress : LoweringProgress) :
    scope.lowerWhole pattern expected? (progress.withConfig config) =
      ((scope.lowerWhole pattern expected? progress).1,
        (scope.lowerWhole pattern expected? progress).2.withConfig config) := by
  simp only [lowerWhole, lower_withConfig pattern expected? 0 progress, raiseAll_withConfig]

theorem lowerArms_withConfig (patterns : List Pattern) (expected? : Option Ty)
    (progress : LoweringProgress) :
    scope.lowerArms expected? patterns (progress.withConfig config) =
      ((scope.lowerArms expected? patterns progress).1,
        (scope.lowerArms expected? patterns progress).2.withConfig config) := by
  induction patterns generalizing progress with
  | nil => rfl
  | cons pattern rest inductionHypothesis =>
      simp only [lowerArms, lowerWhole_withConfig, inductionHypothesis]

end LoweringScope
end StructuralProducts
