import StructuralProducts.Proofs.Pattern.ContractOrder
import StructuralProducts.Proofs.Pattern.Meaning

namespace StructuralProducts

/-!
# Sites do not influence each other

The sites of a unit are lowered one after the other into one table, so the position
of a contract depends on the sites before.  What a position stands for does not:
two images of one written pattern refer, at every deconstruction, to the contract
that the registry provides for the type of the written name.  So they mean the same
at every value, each in its own table.

Whether a unit compiles is decided site by site, and the order of the sites takes
no part in it.
-/

namespace Pattern

variable {registry : Registry} {runtime : Runtime} {interner : Interner}
  {table other : ContractTable}

/-! ## Two images of one pattern -/

/-- A written name stands for the same entry in every table. -/
theorem entry_eq_of_opens {typeName : Name} {id otherId : ContractId} {ident otherIdent : TypeId}
    {entry otherEntry : ContractEntry} (opens : table.Opens registry typeName id ident entry)
    (otherOpens : other.Opens registry typeName otherId otherIdent otherEntry) :
    entry = otherEntry := by
  have resolved := opens.resolved.symm.trans otherOpens.resolved
  cases resolved
  exact Option.some.inj (opens.provided.symm.trans otherOpens.provided)

/-- Wherever a pattern was lowered to, its image means the same. -/
def MeansTheSame (registry : Registry) (runtime : Runtime) (interner : Interner)
    (table other : ContractTable) (pattern : Pattern) : Prop :=
  forall lowered otherLowered : LoweredPattern, Image registry table pattern lowered ->
    Image registry other pattern otherLowered -> forall value,
      (Matcher.mk runtime interner table).meaning lowered value =
        (Matcher.mk runtime interner other).meaning otherLowered value

theorem meaningEach_eq_of_images {patterns : List Pattern}
    (each : forall pattern, pattern ∈ patterns ->
      MeansTheSame registry runtime interner table other pattern)
    {lowered otherLowered : List LoweredPattern} (images : Images registry table patterns lowered)
    (otherImages : Images registry other patterns otherLowered) (values : List Value) :
    (Matcher.mk runtime interner table).meaningEach lowered values =
      (Matcher.mk runtime interner other).meaningEach otherLowered values := by
  induction patterns generalizing lowered otherLowered values with
  | nil =>
      cases images
      cases otherImages
      simp only [Matcher.meaningEach]
  | cons pattern rest inductionHypothesis =>
      cases images with
      | cons head tail =>
          cases otherImages with
          | cons otherHead otherTail =>
              cases values with
              | nil => simp only [Matcher.meaningEach]
              | cons value others =>
                  simp only [Matcher.meaningEach]
                  rw [each pattern List.mem_cons_self _ _ head otherHead value,
                    inductionHypothesis
                      (fun next member => each next (List.mem_cons_of_mem _ member)) tail otherTail
                      others]

theorem meaningAny_eq_of_images {patterns : List Pattern}
    (each : forall pattern, pattern ∈ patterns ->
      MeansTheSame registry runtime interner table other pattern)
    {lowered otherLowered : List LoweredPattern} (images : Images registry table patterns lowered)
    (otherImages : Images registry other patterns otherLowered) (value : Value) :
    (Matcher.mk runtime interner table).meaningAny lowered value =
      (Matcher.mk runtime interner other).meaningAny otherLowered value := by
  induction patterns generalizing lowered otherLowered with
  | nil =>
      cases images
      cases otherImages
      simp only [Matcher.meaningAny]
  | cons pattern rest inductionHypothesis =>
      cases images with
      | cons head tail =>
          cases otherImages with
          | cons otherHead otherTail =>
              simp only [Matcher.meaningAny]
              rw [each pattern List.mem_cons_self _ _ head otherHead value,
                inductionHypothesis
                  (fun next member => each next (List.mem_cons_of_mem _ member)) tail otherTail]

/-- The images of a pattern in two tables mean the same at every value. -/
theorem meansTheSame (registry : Registry) (runtime : Runtime) (interner : Interner)
    (table other : ContractTable) (pattern : Pattern) :
    MeansTheSame registry runtime interner table other pattern := by
  induction pattern using Pattern.ind with
  | wildcard =>
      intro lowered otherLowered image otherImage value
      cases image
      cases otherImage
      simp only [Matcher.meaning]
  | binding name =>
      intro lowered otherLowered image otherImage value
      cases image
      cases otherImage
      simp only [Matcher.meaning]
  | literal literal =>
      intro lowered otherLowered image otherImage value
      cases image
      cases otherImage
      simp only [Matcher.meaning]
      rfl
  | tuple elements inductionHypothesis =>
      intro lowered otherLowered image otherImage value
      cases image with
      | tuple images =>
          cases otherImage with
          | tuple otherImages =>
              cases value with
              | tuple parts =>
                  simp only [Matcher.meaning, images.length_eq, otherImages.length_eq,
                    meaningEach_eq_of_images inductionHypothesis images otherImages]
              | _ => simp only [Matcher.meaning]
  | deconstruct typeName arguments span inductionHypothesis =>
      intro lowered otherLowered image otherImage value
      cases image with
      | deconstruct opens images =>
          cases otherImage with
          | deconstruct otherOpens otherImages =>
              -- The positions may differ; the contracts at them do not.
              have same := entry_eq_of_opens opens otherOpens
              subst same
              simp only [Matcher.meaning, ContractTable.contract?, opens.present,
                otherOpens.present, Option.map_some,
                meaningEach_eq_of_images inductionHypothesis images otherImages]
  | anyOf alternatives inductionHypothesis =>
      intro lowered otherLowered image otherImage value
      cases image with
      | anyOf images =>
          cases otherImage with
          | anyOf otherImages =>
              simp only [Matcher.meaning]
              exact meaningAny_eq_of_images inductionHypothesis images otherImages value
  | asPattern name inner inductionHypothesis =>
      intro lowered otherLowered image otherImage value
      cases image with
      | asPattern innerImage =>
          cases otherImage with
          | asPattern otherInnerImage =>
              simp only [Matcher.meaning,
                inductionHypothesis _ _ innerImage otherInnerImage value]

end Pattern

/-! ## Two images of one site -/

namespace Matcher

variable {registry : Registry} {runtime : Runtime} {interner : Interner}
  {table other : ContractTable}

theorem selectArm_eq_of_images {patterns : List Pattern} {arms otherArms : List CompiledArm}
    (images : List.Forall₂ (Pattern.ArmImage registry table) patterns arms)
    (otherImages : List.Forall₂ (Pattern.ArmImage registry other) patterns otherArms)
    (index : Nat) (value : Value) :
    ((Matcher.mk runtime interner table).selectArm index arms value).1 =
      ((Matcher.mk runtime interner other).selectArm index otherArms value).1 := by
  induction patterns generalizing arms otherArms index with
  | nil =>
      cases images
      cases otherImages
      rfl
  | cons pattern rest inductionHypothesis =>
      cases images with
      | @cons _ arm _ others head tail =>
          cases otherImages with
          | @cons _ otherArm _ otherOthers otherHead otherTail =>
              have same : ((Matcher.mk runtime interner table).matchPattern arm.pattern value).1 =
                  ((Matcher.mk runtime interner other).matchPattern otherArm.pattern value).1 := by
                rw [matchPattern_eq_meaning, matchPattern_eq_meaning]
                exact Pattern.meansTheSame registry runtime interner table other pattern _ _ head.1
                  otherHead.1 value
              have later := inductionHypothesis tail otherTail (index + 1)
              unfold selectArm
              rcases matched : (Matcher.mk runtime interner table).matchPattern arm.pattern value
                with ⟨outcome, calls⟩
              rcases otherMatched :
                (Matcher.mk runtime interner other).matchPattern otherArm.pattern value
                with ⟨otherOutcome, otherCalls⟩
              rw [matched, otherMatched] at same
              dsimp only at same
              subst same
              rcases outcome with failure | _ | bindings
              · rfl
              · exact later
              · rfl

end Matcher

/-- At a position of each, two units have a site, and matching any value gives the
same at both sites: the arm, its bindings, or the failure. -/
def CompiledUnit.AgreeAt (first second : CompiledUnit) (index position : Nat) : Prop :=
  Exists fun site => Exists fun other =>
    first.sites[index]? = some site ∧ second.sites[position]? = some other ∧
    forall (runtime : Runtime) (value : Value),
      ((first.matcher runtime).matchSite site value).1 =
        ((second.matcher runtime).matchSite other value).1

namespace PatternUnit

variable {registry : Registry} {session : SessionId}

/-- The unit with other sites. -/
def withSites (written : PatternUnit) (sites : List PatternSite) : PatternUnit :=
  { written with sites }

theorem Image.exists_site {written : PatternUnit} {compiled : CompiledUnit}
    (image : written.Image registry session compiled) {index : Nat} {site : PatternSite}
    (found : written.sites[index]? = some site) :
    Exists fun lowered => compiled.sites[index]? = some lowered ∧
      site.Image registry compiled.contracts lowered := by
  rcases List.forall₂_iff_get.mp image.sites with ⟨count, each⟩
  rcases List.getElem?_eq_some_iff.mp found with ⟨inside, rfl⟩
  exact ⟨_, List.getElem?_eq_getElem (count ▸ inside), each index inside (count ▸ inside)⟩

/-- Where two units have the same written site, their images agree. -/
theorem Image.agreeAt {first second : PatternUnit} {compiled other : CompiledUnit}
    (image : first.Image registry session compiled)
    (otherImage : second.Image registry session other) {index position : Nat} {site : PatternSite}
    (found : first.sites[index]? = some site) (otherFound : second.sites[position]? = some site) :
    compiled.AgreeAt other index position := by
  rcases image.exists_site found with ⟨lowered, present, siteImage⟩
  rcases otherImage.exists_site otherFound with ⟨otherLowered, otherPresent, otherSiteImage⟩
  refine ⟨lowered, otherLowered, present, otherPresent, ?_⟩
  intro runtime value
  have sessions : compiled.session = other.session := image.session.trans otherImage.session.symm
  unfold Matcher.matchSite CompiledUnit.matcher
  rw [sessions]
  exact Matcher.selectArm_eq_of_images siteImage.arms otherSiteImage.arms 0 value

/-- A unit compiles exactly when each of its sites does in a unit of its own.  A
site then gives the same for every value as it does in that unit, and as it does in
any unit with the sites in another order. -/
theorem sites_independent (built : registry.Built) (written : PatternUnit)
    (session : SessionId) (limits : LoweringLimits) :
    ((Exists fun compiled => written.compile session registry limits = .ok compiled) ↔
      forall site, site ∈ written.sites -> Exists fun alone =>
        (written.withSites [site]).compile session registry limits = .ok alone) ∧
    forall compiled, written.compile session registry limits = .ok compiled ->
      forall (index : Nat) (site : PatternSite), written.sites[index]? = some site ->
        (Exists fun alone =>
          (written.withSites [site]).compile session registry limits = .ok alone ∧
          compiled.AgreeAt alone index 0) ∧
        forall sites : List PatternSite, sites.Perm written.sites -> Exists fun permuted =>
          (written.withSites sites).compile session registry limits = .ok permuted ∧
          forall position : Nat, sites[position]? = some site ->
            compiled.AgreeAt permuted index position := by
  have keys := built.keysAgree
  have accepted : (Exists fun compiled =>
      written.compile session registry limits = .ok compiled) ↔
      forall site, site ∈ written.sites -> Exists fun alone =>
        (written.withSites [site]).compile session registry limits = .ok alone := by
    simp only [exists_compile_iff keys, WellFormed, withSites, List.forall_mem_singleton]
  refine ⟨accepted, ?_⟩
  intro compiled compiles index site found
  have image := image_of_compile keys compiles
  refine ⟨?_, ?_⟩
  · rcases accepted.mp ⟨compiled, compiles⟩ site (List.mem_of_getElem? found) with
      ⟨alone, aloneCompiles⟩
    exact ⟨alone, aloneCompiles, image.agreeAt (image_of_compile keys aloneCompiles) found rfl⟩
  · intro sites permutes
    have wellFormed := (exists_compile_iff keys written session limits).mp ⟨compiled, compiles⟩
    have permutedFormed : (written.withSites sites).WellFormed registry limits.maxDepth? :=
      fun other member => wellFormed other (permutes.mem_iff.mp member)
    rcases (exists_compile_iff keys _ session limits).mpr permutedFormed with
      ⟨permuted, permutedCompiles⟩
    refine ⟨permuted, permutedCompiles, ?_⟩
    intro position otherFound
    exact image.agreeAt (image_of_compile keys permutedCompiles) found otherFound

/-- The second site agrees with itself alone, although the paths of the two refer to
the contract by different positions. -/
theorem polarUnit_sites_independent : Exists fun compiled => Exists fun alone =>
    Sample.polarUnit.compile ⟨0⟩ Sample.polarRegistry .standard = .ok compiled ∧
      (Sample.polarUnit.withSites [Sample.pointSite]).compile ⟨0⟩ Sample.polarRegistry .standard =
        .ok alone ∧
      compiled.AgreeAt alone 1 0 ∧
      compiled.sites[1]?.map (fun site => site.arms.map (·.bindings)) =
        some [[(Sample.xLabel, [.component ⟨1⟩ 0])]] ∧
      alone.sites[0]?.map (fun site => site.arms.map (·.bindings)) =
        some [[(Sample.xLabel, [.component ⟨0⟩ 0])]] := by
  have together : ((Sample.polarUnit.compile ⟨0⟩ Sample.polarRegistry .standard).toOption.bind
      (·.sites[1]?)).map (fun site => site.arms.map (·.bindings)) =
        some [[(Sample.xLabel, [.component ⟨1⟩ 0])]] := by
    decide +kernel
  have separate : (((Sample.polarUnit.withSites [Sample.pointSite]).compile ⟨0⟩
      Sample.polarRegistry .standard).toOption.bind (·.sites[0]?)).map
        (fun site => site.arms.map (·.bindings)) =
        some [[(Sample.xLabel, [.component ⟨0⟩ 0])]] := by
    decide +kernel
  rcases Sample.exists_compile_polarUnit with ⟨compiled, compiles⟩
  have independent := PatternUnit.sites_independent Sample.polarRegistry_built Sample.polarUnit
    ⟨0⟩ .standard
  rcases (independent.2 compiled compiles 1 Sample.pointSite rfl).1 with
    ⟨alone, aloneCompiles, agree⟩
  rw [compiles] at together
  rw [aloneCompiles] at separate
  exact ⟨compiled, alone, compiles, aloneCompiles, agree, together, separate⟩

end PatternUnit
end StructuralProducts
