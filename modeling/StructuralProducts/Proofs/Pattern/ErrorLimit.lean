import StructuralProducts.Proofs.Diagnostic.Collecting
import StructuralProducts.Proofs.Pattern.Raised
import StructuralProducts.Proofs.Pattern.UnreadQueue

namespace StructuralProducts

/-!
# The error limit

The error limit acts in the queue, and lowering does not read the queue.  So a run
with a limit lowers the same patterns to the same arms, with the same table, and raises
the same diagnostics as the run without it; only what is reported differs.  Whether
there is a failure does not depend on the limit, because the first diagnostic is always
counted.
-/

namespace LoweringRun

/-- The run under another error limit. -/
def withErrorLimit (run : LoweringRun) (limit : Nat) : LoweringRun :=
  { run with
    limits := { run.limits with errorLimit := limit }
    progress := run.progress.withConfig ⟨limit, true⟩ }

theorem site_withErrorLimit (run : LoweringRun) (limit : Nat) (written : PatternSite) :
    (run.withErrorLimit limit).site written =
      ((run.site written).1, (run.site written).2.withErrorLimit limit) := by
  simp only [site, withErrorLimit, LoweringScope.lowerArms_withConfig]
  rfl

theorem sites_withErrorLimit (run : LoweringRun) (limit : Nat) (written : List PatternSite) :
    (run.withErrorLimit limit).sites written =
      ((run.sites written).1, (run.sites written).2.withErrorLimit limit) := by
  induction written generalizing run with
  | nil => rfl
  | cons first rest inductionHypothesis =>
      simp only [sites, site_withErrorLimit, inductionHypothesis]

end LoweringRun

namespace PatternUnit

variable {registry : Registry} {written : PatternUnit} {maxDepth? : Option Nat}

/-- Everything that lowering a unit raises when there is no error limit, in order and
with repetitions. -/
def allRaised (written : PatternUnit) (registry : Registry) (maxDepth? : Option Nat) :
    List Diagnostic :=
  (written.lowered registry ⟨maxDepth?, 0⟩).2.progress.raised

/-- The distinct diagnostics of a unit, in the order in which lowering raises them
first when there is no error limit. -/
def distinctRaised (written : PatternUnit) (registry : Registry) (maxDepth? : Option Nat) :
    List Diagnostic :=
  (written.lowered registry ⟨maxDepth?, 0⟩).2.progress.raised.eraseDups

theorem lowered_errorLimit (written : PatternUnit) (registry : Registry)
    (maxDepth? : Option Nat) (limit : Nat) :
    written.lowered registry ⟨maxDepth?, limit⟩ =
      ((written.lowered registry ⟨maxDepth?, 0⟩).1,
        (written.lowered registry ⟨maxDepth?, 0⟩).2.withErrorLimit limit) :=
  (LoweringRun.start registry ⟨maxDepth?, 0⟩).sites_withErrorLimit limit written.sites

/-- Whatever the limit, the same is raised. -/
theorem raised_lowered (written : PatternUnit) (registry : Registry) (maxDepth? : Option Nat)
    (limit : Nat) : (written.lowered registry ⟨maxDepth?, limit⟩).2.progress.raised =
      written.allRaised registry maxDepth? := by
  rw [lowered_errorLimit]
  rfl

/-- The queue at the end is what the limit leaves of it. -/
theorem queue_lowered (written : PatternUnit) (registry : Registry) (maxDepth? : Option Nat)
    (limit : Nat) : (written.lowered registry ⟨maxDepth?, limit⟩).2.progress.queue =
      (DiagnosticQueue.empty ⟨limit, true⟩).addAll (written.allRaised registry maxDepth?) := by
  rw [lowered_errorLimit]
  rfl

theorem complaint_of_mem_distinctRaised {diagnostic : Diagnostic}
    (member : diagnostic ∈ written.distinctRaised registry maxDepth?) :
    LoweringScope.Complaint registry diagnostic :=
  written.lowered_explained registry ⟨maxDepth?, 0⟩ diagnostic (List.mem_eraseDups.mp member)

/-- A failure reports what the queue of the limit hands out of what is raised
without a limit, and something was raised. -/
theorem diagnostics_of_compile {session : SessionId} {limit : Nat} {failure : LoweringFailure}
    (fails : written.compile session registry ⟨maxDepth?, limit⟩ = .error failure) :
    written.allRaised registry maxDepth? ≠ [] ∧
      failure.diagnostics = ((DiagnosticQueue.empty ⟨limit, true⟩).addAll
        (written.allRaised registry maxDepth?)).flush.1 := by
  constructor
  · intro silent
    rw [← written.raised_lowered registry maxDepth? limit] at silent
    have compiles := (written.compile_eq_ok_iff_raised session ⟨maxDepth?, limit⟩ _).mpr
      ⟨silent, rfl⟩
    rw [fails] at compiles
    cases compiles
  · change (written.lowered registry ⟨maxDepth?, limit⟩).2.finish session written.name
      written.exports (written.lowered registry ⟨maxDepth?, limit⟩).1 = _ at fails
    rw [← written.queue_lowered registry maxDepth? limit]
    simp only [LoweringRun.finish] at fails
    split at fails
    · cases fails
      rfl
    · cases fails

/-- A unit for which something is raised fails, whatever the limit. -/
theorem exists_failure_of_mem {diagnostic : Diagnostic}
    (raised : diagnostic ∈ written.allRaised registry maxDepth?) (session : SessionId)
    (limit : Nat) : Exists fun failure =>
      written.compile session registry ⟨maxDepth?, limit⟩ = .error failure := by
  cases outcome : written.compile session registry ⟨maxDepth?, limit⟩ with
  | error failure => exact ⟨failure, rfl⟩
  | ok compiled =>
      rw [compile_eq_ok_iff_raised, raised_lowered] at outcome
      rw [outcome.1] at raised
      cases raised

/-- A failure reports as many distinct diagnostics as the limit allows, and the marker
if the queue of the limit took it. -/
theorem mem_reported_iff {session : SessionId} {limit : Nat} {failure : LoweringFailure}
    (fails : written.compile session registry ⟨maxDepth?, limit⟩ = .error failure)
    (diagnostic : Diagnostic) : diagnostic ∈ failure.diagnostics ↔
      diagnostic ∈ DiagnosticQueue.allowed limit (written.distinctRaised registry maxDepth?) ∨
      ((DiagnosticQueue.empty ⟨limit, true⟩).addAll
          (written.allRaised registry maxDepth?)).marked = true ∧
        diagnostic = .tooManyErrors limit := by
  have collected := DiagnosticQueue.collected_addAll limit
    (written.allRaised registry maxDepth?)
  rw [(diagnostics_of_compile fails).2, DiagnosticQueue.flush,
    (DiagnosticQueue.inOrder_perm _).mem_iff, collected.entries, List.mem_append]
  apply or_congr Iff.rfl
  split
  · next marked => rw [List.mem_singleton, and_iff_right marked]
  · next unmarked => exact iff_of_false List.not_mem_nil fun both => unmarked both.1

/-- A failure reports what was raised, and the marker at most besides. -/
theorem mem_raised_of_compile {session : SessionId} {limit : Nat} {failure : LoweringFailure}
    (fails : written.compile session registry ⟨maxDepth?, limit⟩ = .error failure)
    {diagnostic : Diagnostic} (member : diagnostic ∈ failure.diagnostics) :
    diagnostic ∈ written.allRaised registry maxDepth? ∨
      diagnostic = .tooManyErrors limit := by
  rcases (mem_reported_iff fails diagnostic).mp member with ordinary | ⟨_, same⟩
  · exact .inl (List.mem_eraseDups.mp (DiagnosticQueue.mem_of_mem_allowed ordinary))
  · exact .inr same

/-- Without a limit, a failure reports everything that was raised. -/
theorem mem_diagnostics_iff {session : SessionId} {failure : LoweringFailure}
    (fails : written.compile session registry ⟨maxDepth?, 0⟩ = .error failure)
    (diagnostic : Diagnostic) : diagnostic ∈ failure.diagnostics ↔
      diagnostic ∈ written.allRaised registry maxDepth? := by
  rw [(diagnostics_of_compile fails).2,
    (DiagnosticQueue.stablySorted_flush_unlimited _).mem_iff, List.mem_eraseDups]

/-- The limit makes no difference to what compiles, nor to the outcome. -/
theorem compile_errorLimit_eq_ok_iff (written : PatternUnit) (session : SessionId)
    (registry : Registry) (maxDepth? : Option Nat) (limit : Nat) (compiled : CompiledUnit) :
    written.compile session registry ⟨maxDepth?, limit⟩ = .ok compiled ↔
      written.compile session registry ⟨maxDepth?, 0⟩ = .ok compiled := by
  rw [compile_eq_ok_iff_raised, compile_eq_ok_iff_raised, lowered_errorLimit]
  exact Iff.rfl

/-- What failures without and with an error limit report: the distinct diagnostics
are sorted by position in both, and the limit cuts off those that were raised late.
Every one of them has a place in the source, and neither report is empty. -/
structure Reports (limit : Nat) (distinct full cut : List Diagnostic) : Prop where
  sorted : StablySorted DiagnosticQueue.positionKey distinct full
  truncated : CutReport limit distinct cut
  placed : forall diagnostic, diagnostic ∈ distinct ->
    (Exists fun span => diagnostic.primarySpan? = some span) ∧ diagnostic.isMarker = false
  fullNonempty : Exists fun diagnostic => diagnostic ∈ full ∧ diagnostic.isMarker = false
  cutNonempty : Exists fun diagnostic => diagnostic ∈ cut ∧ diagnostic.isMarker = false

theorem reports_of_compile {session : SessionId} {limit : Nat} (positive : 0 < limit)
    {full cut : LoweringFailure}
    (fullFails : written.compile session registry ⟨maxDepth?, 0⟩ = .error full)
    (cutFails : written.compile session registry ⟨maxDepth?, limit⟩ = .error cut) :
    Reports limit (written.distinctRaised registry maxDepth?) full.diagnostics
      cut.diagnostics := by
  have ordinary : forall diagnostic,
      diagnostic ∈ written.distinctRaised registry maxDepth? -> diagnostic.isMarker = false := by
    intro diagnostic member
    exact beq_eq_false_iff_ne.mpr (complaint_of_mem_distinctRaised member).code_ne_tooManyErrors
  rcases diagnostics_of_compile fullFails with ⟨raised, fullDiagnostics⟩
  have sorted := DiagnosticQueue.stablySorted_flush_unlimited
    (written.allRaised registry maxDepth?)
  have cutReport : CutReport limit (written.distinctRaised registry maxDepth?)
      ((DiagnosticQueue.empty ⟨limit, true⟩).addAll
        (written.allRaised registry maxDepth?)).flush.1 :=
    DiagnosticQueue.cutReport_flush positive fun diagnostic member =>
      ordinary diagnostic (List.mem_eraseDups.mpr member)
  rw [← fullDiagnostics] at sorted
  rw [← (diagnostics_of_compile cutFails).2] at cutReport
  rcases List.exists_mem_of_ne_nil _ raised with ⟨witness, witnessRaised⟩
  have distinct : 0 < (written.distinctRaised registry maxDepth?).length :=
    List.length_pos_of_mem (List.mem_eraseDups.mpr witnessRaised)
  refine ⟨sorted, cutReport, ?_, ?_, ?_⟩
  · intro diagnostic member
    exact ⟨(complaint_of_mem_distinctRaised member).exists_primarySpan?,
      ordinary diagnostic member⟩
  · have member := List.mem_eraseDups.mpr witnessRaised
    exact ⟨witness, sorted.mem_iff.mpr member, ordinary witness member⟩
  · -- The limit is positive, so at least the first diagnostic is kept.
    have first : (written.distinctRaised registry maxDepth?)[0] ∈
        (written.distinctRaised registry maxDepth?).take limit :=
      List.mem_take_iff_getElem.mpr ⟨0, Nat.lt_min.mpr ⟨positive, distinct⟩, rfl⟩
    have kept := List.mem_filter.mp (cutReport.others.mem_iff.mpr first)
    exact ⟨_, kept.1, ordinary _ (List.getElem_mem distinct)⟩

/-- A positive error limit only truncates the report.  A unit compiles under it
exactly when it compiles without one, and then to the same outcome; otherwise the
report under the limit is the report without it, cut after as many distinct
diagnostics as the limit allows. -/
theorem errorLimit_truncates (written : PatternUnit) (session : SessionId)
    (registry : Registry) (maxDepth? : Option Nat) {limit : Nat} (positive : 0 < limit) :
    (Exists fun compiled =>
      written.compile session registry ⟨maxDepth?, 0⟩ = .ok compiled ∧
      written.compile session registry ⟨maxDepth?, limit⟩ = .ok compiled) ∨
    (Exists fun full => Exists fun cut =>
      written.compile session registry ⟨maxDepth?, 0⟩ = .error full ∧
      written.compile session registry ⟨maxDepth?, limit⟩ = .error cut ∧
      Reports limit (written.distinctRaised registry maxDepth?) full.diagnostics
        cut.diagnostics) := by
  cases unlimited : written.compile session registry ⟨maxDepth?, 0⟩ with
  | ok compiled =>
      exact .inl ⟨compiled, rfl, (written.compile_errorLimit_eq_ok_iff session registry maxDepth?
        limit compiled).mpr unlimited⟩
  | error full =>
      cases limited : written.compile session registry ⟨maxDepth?, limit⟩ with
      | ok compiled =>
          rw [compile_errorLimit_eq_ok_iff, unlimited] at limited
          cases limited
      | error cut => exact .inr ⟨full, cut, rfl, rfl, reports_of_compile positive unlimited limited⟩

end PatternUnit

namespace Sample

/-- A pattern that takes a label for a type, at a position. -/
def misnamed (label : Name) (start : UInt32) : Pattern :=
  .deconstruct label [] ⟨start, start + 1⟩

/-- Four such patterns, three of them different. -/
def misnamedUnit : PatternUnit where
  name := "misnamed"
  exports := []
  sites :=
    [{ kind := .matchArms
       scrutinee? := none
       patterns := [misnamed xLabel 9, misnamed yLabel 4, misnamed xLabel 9, misnamed xLabel 6]
       span := Span.synthetic }]

theorem map_positionKey_misnamedUnit : (misnamedUnit.distinctRaised registry none).map
    DiagnosticQueue.positionKey = [9, 4, 6] := by
  decide +kernel

end Sample

/-- Three errors at positions 9, 4 and 6 under a limit of two: the report without the
limit is in order of position, the one under the limit has those at 4 and 9 and then
the marker. -/
theorem PatternUnit.errorLimit_truncates_misnamed : Exists fun full => Exists fun cut =>
    Sample.misnamedUnit.compile ⟨0⟩ Sample.registry ⟨none, 0⟩ = .error full ∧
    Sample.misnamedUnit.compile ⟨0⟩ Sample.registry ⟨none, 2⟩ = .error cut ∧
    Reports 2 (Sample.misnamedUnit.distinctRaised Sample.registry none) full.diagnostics
      cut.diagnostics ∧
    Exists fun marker => cut.diagnostics.getLast? = some marker ∧ marker.isMarker = true := by
  have positive : 0 < 2 := by decide
  rcases errorLimit_truncates Sample.misnamedUnit ⟨0⟩ Sample.registry none positive with
    ⟨compiled, compiles, _⟩ | ⟨full, cut, fullFails, cutFails, reports⟩
  · have silent := ((compile_eq_ok_iff_raised _ _ _ _).mp compiles).1
    have distinct := Sample.map_positionKey_misnamedUnit
    rw [distinctRaised, silent] at distinct
    cases distinct
  · have count := congrArg List.length Sample.map_positionKey_misnamedUnit
    rw [List.length_map] at count
    have above : 2 < (Sample.misnamedUnit.distinctRaised Sample.registry none).length := by
      rw [count]
      decide
    rcases reports.truncated.exceeded above with ⟨marker, member, isMarker⟩
    exact ⟨full, cut, fullFails, cutFails, reports, marker,
      reports.truncated.last marker member isMarker, isMarker⟩

end StructuralProducts
