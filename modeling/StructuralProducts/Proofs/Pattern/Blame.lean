import StructuralProducts.Proofs.Pattern.ErrorLimit
import StructuralProducts.Proofs.Pattern.RaisedNodes

namespace StructuralProducts

/-!
# Which alternations are blamed

An alternative with a part that was refused has lost the names of that part.  The
alternation is then blamed for names that differ, although its alternatives may bind
the same names as they are written.

This says exactly which alternations are blamed: those whose alternatives bind
different names after recovery.  Where nothing was refused these are the alternations
at fault.  A blame that is wrong never stands alone, since the refusal that it follows
from raises another diagnostic.
-/

open PatternNode (Within)

/-- An alternation two of whose alternatives, as they are written, bind different
names. -/
def Pattern.AtFault (pattern : Pattern) : Prop :=
  Exists fun alternatives => pattern = .anyOf alternatives ∧
    Exists fun first => Exists fun second => first ∈ alternatives ∧ second ∈ alternatives ∧
      ¬ first.boundNames.Perm second.boundNames

namespace LoweringScope

variable {scope : LoweringScope}

/-- Where nothing is refused, the alternatives are compared as they are written. -/
theorem AdmitsAll.conflicts_iff {node : PatternNode} (admits : scope.AdmitsAll node) :
    scope.Conflicts node ↔ node.pattern.AtFault := by
  rcases node with ⟨pattern, expected?, depth⟩
  have unexceeded := admits.unexceeded
  have within : Within scope.maxDepth? depth := (exceeded?_eq_none_iff depth).mp unexceeded
  have kept {alternatives : List Pattern} (same : pattern = .anyOf alternatives)
      {alternative : Pattern} (member : alternative ∈ alternatives) :
      scope.recovered alternative expected? (depth + 1) = alternative := by
    subst same
    exact recovered_eq_self alternative expected? (depth + 1)
      (admits.child (.alternative unexceeded member))
  constructor
  · rintro ⟨_, alternatives, same, first, second, firstMember, secondMember, differ⟩
    rw [kept same firstMember, kept same secondMember] at differ
    exact ⟨alternatives, same, first, second, firstMember, secondMember, differ⟩
  · rintro ⟨alternatives, same, first, second, firstMember, secondMember, differ⟩
    refine ⟨within, alternatives, same, first, second, firstMember, secondMember, ?_⟩
    rw [kept same firstMember, kept same secondMember]
    exact differ

/-- A conflict is a fault of the alternation as it is written, or a part of the
alternation was refused. -/
theorem Conflicts.atFault_or_refuses {node : PatternNode} (conflicts : scope.Conflicts node) :
    node.pattern.AtFault ∨
      Exists fun part => scope.Visits node part ∧ scope.Refuses part := by
  by_cases admits : scope.AdmitsAll node
  · exact .inl (admits.conflicts_iff.mp conflicts)
  · simp only [AdmitsAll, not_forall, not_not] at admits
    rcases admits with ⟨part, visits, refuses⟩
    exact .inr ⟨part, visits, refuses⟩

/-! ## Whole patterns and arms -/

open LoweringProgress (Raises)

theorem lowerWhole_raises (keys : scope.registry.KeysAgree) (pattern : Pattern)
    (expected? : Option Ty) {before : LoweringProgress} (agrees : before.Agrees scope.registry) :
    Raises (fun diagnostic => scope.RaisedFrom ⟨pattern, expected?, 0⟩ diagnostic ∨
        Exists fun span => Exists fun name => diagnostic = boundTwice span name) before
      (scope.lowerWhole pattern expected? before).2 := by
  have lowered := lower_raises keys pattern expected? 0 before agrees
  apply (lowered.imp fun _ => .inl).raiseAll
  intro diagnostic member
  rcases List.mem_map.mp member with ⟨name, _, rfl⟩
  exact .inr ⟨_, _, rfl⟩

theorem lowerArms_raises (keys : scope.registry.KeysAgree) (expected? : Option Ty)
    (patterns : List Pattern) {before : LoweringProgress}
    (agrees : before.Agrees scope.registry) :
    Raises (fun diagnostic =>
        (Exists fun pattern => pattern ∈ patterns ∧
          scope.RaisedFrom ⟨pattern, expected?, 0⟩ diagnostic) ∨
        Exists fun span => Exists fun name => diagnostic = boundTwice span name) before
      (scope.lowerArms expected? patterns before).2 := by
  induction patterns generalizing before with
  | nil => exact .refl
  | cons pattern rest inductionHypothesis =>
      have first := lowerWhole_raises keys pattern expected? agrees
      have others := inductionHypothesis (lowerWhole_faithful keys pattern expected? agrees).1.agrees
      refine (first.imp ?_).trans (others.imp ?_)
      · intro diagnostic raised
        exact raised.imp_left fun here => ⟨pattern, List.mem_cons_self, here⟩
      · intro diagnostic raised
        apply raised.imp_left
        rintro ⟨other, member, there⟩
        exact ⟨other, List.mem_cons_of_mem _ member, there⟩

theorem lowersWithin_lowerArms (keys : scope.registry.KeysAgree) (expected? : Option Ty)
    {patterns : List Pattern} {pattern : Pattern} (member : pattern ∈ patterns)
    {before : LoweringProgress} (agrees : before.Agrees scope.registry) :
    scope.LowersWithin ⟨pattern, expected?, 0⟩ (scope.lowerArms expected? patterns before).2 := by
  induction patterns generalizing before with
  | nil => cases member
  | cons first rest inductionHypothesis =>
      have whole := (lowerWhole_faithful keys first expected? agrees).1
      have others := (lowerArms_faithful keys expected? rest whole.agrees).1
      rcases List.mem_cons.mp member with rfl | later
      · have step := (lower_faithful keys pattern expected? 0 before agrees).step
        have repeated := LoweringProgress.step_raiseAll step.agrees
        exact ⟨before, agrees, (repeated _).grows.trans others.grows⟩
      · exact inductionHypothesis later whole.agrees

end LoweringScope

/-! ## Sites and units -/

namespace PatternSite

/-- What stays fixed while the patterns of the site are lowered. -/
def scope (site : PatternSite) (registry : Registry) (maxDepth? : Option Nat) : LoweringScope :=
  ⟨registry, maxDepth?, site.span⟩

/-- Lowering the patterns of the site arrives at a node. -/
def Visits (site : PatternSite) (registry : Registry) (maxDepth? : Option Nat)
    (node : PatternNode) : Prop :=
  Exists fun pattern => pattern ∈ site.patterns ∧
    (site.scope registry maxDepth?).Visits ⟨pattern, site.scrutinee?, 0⟩ node

/-- What lowering the patterns of the site raises at a node. -/
def RaisesAt (site : PatternSite) (registry : Registry) (maxDepth? : Option Nat)
    (diagnostic : Diagnostic) : Prop :=
  Exists fun node => site.Visits registry maxDepth? node ∧
    (site.scope registry maxDepth?).RaisedAt node diagnostic

end PatternSite

namespace LoweringRun

open LoweringProgress (Raises)

theorem sites_raises (run : LoweringRun) (keys : run.registry.KeysAgree)
    (agrees : run.progress.Agrees run.registry) (written : List PatternSite) :
    Raises (fun diagnostic =>
        (Exists fun site => site ∈ written ∧
          site.RaisesAt run.registry run.limits.maxDepth? diagnostic) ∨
        Exists fun span => Exists fun name => diagnostic = LoweringScope.boundTwice span name)
      run.progress (run.sites written).2.progress := by
  induction written generalizing run with
  | nil => exact .refl
  | cons first rest inductionHypothesis =>
      have arms := @LoweringScope.lowerArms_raises
        (first.scope run.registry run.limits.maxDepth?) keys first.scrutinee? first.patterns
        run.progress agrees
      have others := inductionHypothesis (run.site first).2 keys
        (run.site_faithful keys agrees first).1.agrees
      refine (arms.imp ?_).trans (others.imp ?_)
      · intro diagnostic raised
        apply raised.imp_left
        rintro ⟨pattern, member, node, visits, raisedAt⟩
        exact ⟨first, List.mem_cons_self, node, ⟨pattern, member, visits⟩, raisedAt⟩
      · intro diagnostic raised
        apply raised.imp_left
        rintro ⟨site, member, there⟩
        exact ⟨site, List.mem_cons_of_mem _ member, there⟩

theorem lowersWithin_sites (run : LoweringRun) (keys : run.registry.KeysAgree)
    (agrees : run.progress.Agrees run.registry) {written : List PatternSite} {site : PatternSite}
    (member : site ∈ written) {node : PatternNode}
    (visits : site.Visits run.registry run.limits.maxDepth? node) :
    (site.scope run.registry run.limits.maxDepth?).LowersWithin node
      (run.sites written).2.progress := by
  induction written generalizing run with
  | nil => cases member
  | cons first rest inductionHypothesis =>
      have here := (run.site_faithful keys agrees first).1
      have others := ((run.site first).2.sites_faithful keys here.agrees rest).1
      rcases List.mem_cons.mp member with rfl | later
      · rcases visits with ⟨pattern, patternMember, below⟩
        have arms := @LoweringScope.lowersWithin_lowerArms
          (site.scope run.registry run.limits.maxDepth?) keys site.scrutinee? _ _ patternMember
          _ agrees
        exact (arms.below keys below).extend others.grows
      · exact inductionHypothesis (run.site first).2 keys here.agrees later visits

end LoweringRun

/-- The diagnostic says that alternatives bind different names. -/
def Diagnostic.BlamesAlternation (diagnostic : Diagnostic) : Prop :=
  diagnostic.code = .conflictingNames ∧
    diagnostic.message = "alternatives of an or-pattern bind different names"

namespace LoweringScope

variable {scope : LoweringScope}

theorem boundTwice_not_blamesAlternation (span : Span) (name : String) :
    ¬ (boundTwice span name).BlamesAlternation := by
  rintro ⟨_, message⟩
  have characters := congrArg String.toList message
  simp [boundTwice, Diagnostic.withLabel, Diagnostic.error, toString] at characters

theorem RaisedAt.conflicts_of_blames {node : PatternNode} {diagnostic : Diagnostic}
    (raisedAt : scope.RaisedAt node diagnostic) (blames : diagnostic.BlamesAlternation) :
    scope.Conflicts node ∧ diagnostic = LoweringScope.differentNames scope.siteSpan := by
  cases raisedAt with
  | tooDeep span limit => cases blames.1
  | refusal refusal => exact absurd blames.1 refusal.code_ne.1
  | differentNames conflicts => exact ⟨conflicts, rfl⟩

end LoweringScope

namespace PatternUnit

variable {registry : Registry} {written : PatternUnit} {maxDepth? : Option Nat}

theorem lowersWithin_allRaised (keys : registry.KeysAgree) (written : PatternUnit)
    (maxDepth? : Option Nat) {site : PatternSite}
    (member : site ∈ written.sites) {node : PatternNode}
    (visits : site.Visits registry maxDepth? node) :
    (site.scope registry maxDepth?).LowersWithin node
      (written.lowered registry ⟨maxDepth?, 0⟩).2.progress :=
  (LoweringRun.start registry ⟨maxDepth?, 0⟩).lowersWithin_sites keys
    (LoweringProgress.empty_agrees registry _) member visits

theorem conflicts_of_blames (keys : registry.KeysAgree) {diagnostic : Diagnostic}
    (raised : diagnostic ∈ written.allRaised registry maxDepth?)
    (blames : diagnostic.BlamesAlternation) :
    Exists fun site => Exists fun node => site ∈ written.sites ∧
      site.Visits registry maxDepth? node ∧ (site.scope registry maxDepth?).Conflicts node ∧
      diagnostic = LoweringScope.differentNames site.span := by
  have raises := (LoweringRun.start registry ⟨maxDepth?, 0⟩).sites_raises keys
    (LoweringProgress.empty_agrees registry _) written.sites
  rcases raises.cases raised with
    before | ⟨site, member, node, visits, raisedAt⟩ | ⟨span, name, rfl⟩
  · cases before
  · have conflicts := raisedAt.conflicts_of_blames blames
    exact ⟨site, node, member, visits, conflicts.1, conflicts.2⟩
  · exact absurd blames (LoweringScope.boundTwice_not_blamesAlternation span name)

/-- Which alternations a unit is told to bind different names, whatever its error
limit.  Each such diagnostic comes from an alternation at which lowering arrives and
whose alternatives bind different names after recovery; as they are written they do so
too, or else a part of the alternation was refused.  All these alternations are blamed,
and without a limit the report has another error where the blame is wrong.  Where
nothing is refused, exactly the alternations at fault are blamed. -/
theorem blames_recovered (built : registry.Built) (written : PatternUnit)
    (session : SessionId) (maxDepth? : Option Nat) :
    (forall limit failure diagnostic,
      written.compile session registry ⟨maxDepth?, limit⟩ = .error failure ->
      diagnostic ∈ failure.diagnostics -> diagnostic.BlamesAlternation ->
        Exists fun site => Exists fun node => site ∈ written.sites ∧
          site.Visits registry maxDepth? node ∧
          (site.scope registry maxDepth?).Conflicts node ∧
          diagnostic = LoweringScope.differentNames site.span ∧
          (node.pattern.AtFault ∨ Exists fun part =>
            (site.scope registry maxDepth?).Visits node part ∧
            (site.scope registry maxDepth?).Refuses part)) ∧
    (forall site node, site ∈ written.sites -> site.Visits registry maxDepth? node ->
      (site.scope registry maxDepth?).Conflicts node ->
        Exists fun failure =>
          written.compile session registry ⟨maxDepth?, 0⟩ = .error failure ∧
          LoweringScope.differentNames site.span ∈ failure.diagnostics ∧
          (node.pattern.AtFault ∨ Exists fun other => other ∈ failure.diagnostics ∧
            other.code ≠ .conflictingNames)) ∧
    forall (site : PatternSite) node, (site.scope registry maxDepth?).AdmitsAll node ->
      ((site.scope registry maxDepth?).Conflicts node ↔ node.pattern.AtFault) := by
  have keys := built.keysAgree
  refine ⟨?_, ?_, fun _ _ admits => admits.conflicts_iff⟩
  · intro limit failure diagnostic fails member blames
    rcases mem_raised_of_compile fails member with raised | rfl
    · rcases conflicts_of_blames keys raised blames with
        ⟨site, node, siteMember, visits, conflicts, same⟩
      exact ⟨site, node, siteMember, visits, conflicts, same, conflicts.atFault_or_refuses⟩
    · cases blames.1
  · intro site node member visits conflicts
    have lowers := lowersWithin_allRaised keys written maxDepth? member visits
    have raised := conflicts.mem_raised keys lowers
    rcases exists_failure_of_mem raised session 0 with ⟨failure, fails⟩
    refine ⟨failure, fails, (mem_diagnostics_iff fails _).mpr raised, ?_⟩
    rcases conflicts.atFault_or_refuses with atFault | ⟨part, below, refuses⟩
    · exact .inl atFault
    · rcases refuses.exists_raised keys (lowers.below keys below) with ⟨other, otherRaised, code⟩
      exact .inr ⟨other, (mem_diagnostics_iff fails other).mpr otherRaised, code⟩

end PatternUnit

namespace PatternNode

variable {registry : Registry} {expected? : Option Ty} {depth : Nat} {node : PatternNode}

/-- No alternation stands below a name. -/
theorem not_atFault_of_below_binding {name : Name}
    (below : Below registry ⟨.binding name, expected?, depth⟩ node) : ¬ node.pattern.AtFault := by
  rcases Relation.ReflTransGen.cases_head below with rfl | ⟨_, direct, _⟩
  · rintro ⟨_, same, _⟩
    cases same
  · cases direct

/-- No alternation stands below a deconstruction with a name in it. -/
theorem not_atFault_of_below_deconstruct {typeName name : Name} {span : Span}
    (below : Below registry ⟨.deconstruct typeName [.binding name] span, expected?, depth⟩ node) :
    ¬ node.pattern.AtFault := by
  rcases Relation.ReflTransGen.cases_head below with rfl | ⟨_, direct, later⟩
  · rintro ⟨_, same, _⟩
    cases same
  · cases direct with
    | argument found =>
        rw [List.mem_singleton.mp (List.mem_of_getElem? found)] at later
        exact not_atFault_of_below_binding later

end PatternNode

namespace Sample

/-- Two alternatives that bind the same name.  The first takes a label for a type. -/
def misspelled : Pattern :=
  .anyOf [.deconstruct xLabel [.binding yLabel] ⟨1, 5⟩, .binding yLabel]

def misspelledUnit : PatternUnit where
  name := "misspelled"
  exports := []
  sites :=
    [{ kind := .matchArms
       scrutinee? := none
       patterns := [misspelled]
       span := ⟨0, 9⟩ }]

/-- Recovery leaves a wildcard of the first alternative. -/
theorem conflicts_misspelled :
    (LoweringScope.mk registry none ⟨0, 9⟩).Conflicts ⟨misspelled, none, 0⟩ := by
  refine ⟨nofun, _, rfl, .deconstruct xLabel [.binding yLabel] ⟨1, 5⟩, .binding yLabel,
    List.mem_cons_self, List.mem_cons_of_mem _ List.mem_cons_self, ?_⟩
  decide +kernel

theorem misspelled_not_atFault : ¬ misspelled.AtFault := by
  have named : forall alternative,
      alternative ∈ [Pattern.deconstruct xLabel [.binding yLabel] ⟨1, 5⟩, .binding yLabel] ->
        alternative.boundNames = [yLabel] := by
    intro alternative member
    rcases List.mem_pair.mp member with rfl | rfl
    · rfl
    · rfl
  rintro ⟨_, ⟨rfl⟩, first, second, firstMember, secondMember, differ⟩
  rw [named first firstMember, named second secondMember] at differ
  exact differ (List.Perm.refl _)

/-- Neither the alternation nor anything below it is at fault. -/
theorem not_atFault_of_below_misspelled {node : PatternNode}
    (below : PatternNode.Below registry ⟨misspelled, none, 0⟩ node) : ¬ node.pattern.AtFault := by
  rcases Relation.ReflTransGen.cases_head below with rfl | ⟨_, direct, later⟩
  · exact misspelled_not_atFault
  · cases direct with
    | alternative member =>
        rcases List.mem_pair.mp member with rfl | rfl
        · exact PatternNode.not_atFault_of_below_deconstruct later
        · exact PatternNode.not_atFault_of_below_binding later

end Sample

/-- The unit reports that alternatives bind different names, which comes from a conflict
after recovery, and another error. -/
theorem PatternUnit.misspelledUnit_blames_recovered :
    Sample.registry.Built ∧ Exists fun failure =>
      Sample.misspelledUnit.compile ⟨0⟩ Sample.registry ⟨none, 0⟩ = .error failure ∧
      LoweringScope.differentNames ⟨0, 9⟩ ∈ failure.diagnostics ∧
      (Exists fun other => other ∈ failure.diagnostics ∧ other.code ≠ .conflictingNames) ∧
      Exists fun site => Exists fun node => site ∈ Sample.misspelledUnit.sites ∧
        site.Visits Sample.registry none node ∧
        (site.scope Sample.registry none).Conflicts node := by
  have blames := blames_recovered Sample.registry_built Sample.misspelledUnit ⟨0⟩ none
  rcases blames.2.1 _ _ List.mem_cons_self ⟨_, List.mem_cons_self, .refl⟩
    Sample.conflicts_misspelled with ⟨failure, fails, member, atFault | other⟩
  · exact absurd atFault Sample.misspelled_not_atFault
  · rcases blames.1 0 failure _ fails member ⟨rfl, rfl⟩ with
      ⟨site, node, siteMember, visits, conflicts, _⟩
    exact ⟨Sample.registry_built, failure, fails, member, other, site, node, siteMember, visits,
      conflicts⟩

/-- The unit is told that alternatives bind different names, and no alternation in it
has two alternatives that do. -/
theorem PatternUnit.misspelledUnit_blamed_unjustly : Exists fun failure =>
    Sample.misspelledUnit.compile ⟨0⟩ Sample.registry ⟨none, 0⟩ = .error failure ∧
    (Exists fun diagnostic => diagnostic ∈ failure.diagnostics ∧
      diagnostic.BlamesAlternation) ∧
    forall site, site ∈ Sample.misspelledUnit.sites ->
      forall pattern, pattern ∈ site.patterns ->
        forall node, PatternNode.Below Sample.registry ⟨pattern, site.scrutinee?, 0⟩ node ->
          ¬ node.pattern.AtFault := by
  have lowers := lowersWithin_allRaised Sample.registry_built.keysAgree Sample.misspelledUnit none
    List.mem_cons_self ⟨_, List.mem_cons_self, .refl⟩
  have raised := Sample.conflicts_misspelled.mem_raised Sample.registry_built.keysAgree lowers
  rcases exists_failure_of_mem raised ⟨0⟩ 0 with ⟨failure, fails⟩
  refine ⟨failure, fails, ⟨_, (mem_diagnostics_iff fails _).mpr raised, rfl, rfl⟩, ?_⟩
  intro site siteMember pattern member node below
  rw [List.mem_singleton.mp siteMember] at member below
  rw [List.mem_singleton.mp member] at below
  exact Sample.not_atFault_of_below_misspelled below

end StructuralProducts
