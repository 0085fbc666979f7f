import Mathlib.Data.List.Forall2
import StructuralProducts.ProductShape

namespace StructuralProducts

/-!
# Recognition, exactly

The rules of structural products and the report on a declaration that breaks them
are said here without the passes that find the violations.  A component is compared
with the components before it, the constructors are counted, and the accessors of a
component are all those that have its name, wherever they stand.

Recognition accepts exactly the declarations that follow the rules.  It refuses
every other one with its report, and there is only one report on a declaration.
-/

namespace TypeDecl

/-- The declaration follows the rules of structural products. -/
structure IsProduct (decl : TypeDecl) : Prop where
  immutable : forall component, component ∈ decl.components -> component.isMutable = false
  distinct : decl.labels.Nodup
  canonical : decl.constructors.countP (·.isCanonical) = 1
  ordered : forall constructor, constructor ∈ decl.constructors ->
    constructor.isCanonical = true -> constructor.parameters = decl.labels
  readable : forall component, component ∈ decl.components -> Exists fun accessor =>
    accessor ∈ decl.accessors ∧ accessor.name = component.label ∧ accessor.parameterCount = 0

/-! ## Reports -/

/-- A problem is listed exactly where its condition holds. -/
inductive Flagged (condition : Prop) (problem : ShapeProblem) : List ShapeProblem -> Prop where
  | raised (holds : condition) : Flagged condition problem [problem]
  | silent (fails : ¬ condition) : Flagged condition problem []

/-- The report on the component at a position by itself: first whether it is
mutable, then whether a component before it has its label. -/
inductive OwnReport (decl : TypeDecl) (index : Nat) (component : ComponentDecl) :
    List ShapeProblem -> Prop where
  | parts {mutability repetition : List ShapeProblem}
      (first : Flagged (component.isMutable = true)
        (.mutableComponent component.label component.span) mutability)
      (second : Flagged (component.label ∈ decl.labels.take index)
        (.duplicateComponent component.label component.span) repetition) :
      OwnReport decl index component (mutability ++ repetition)

/-- The report on the constructors.  The order of the parameters is looked at only
where one constructor is canonical. -/
inductive ConstructorReport (decl : TypeDecl) : List ShapeProblem -> Prop where
  | miscounted (several : decl.constructors.countP (·.isCanonical) ≠ 1) :
      ConstructorReport decl [.canonicalConstructor (decl.constructors.countP (·.isCanonical))]
  | disordered {constructor : ConstructorDecl}
      (single : decl.constructors.filter (·.isCanonical) = [constructor])
      (differ : constructor.parameters ≠ decl.labels) :
      ConstructorReport decl
        [.constructorOrder decl.labels constructor.parameters constructor.span]
  | fitting {constructor : ConstructorDecl}
      (single : decl.constructors.filter (·.isCanonical) = [constructor])
      (same : constructor.parameters = decl.labels) : ConstructorReport decl []

/-- The report on the accessors of a component.  Where all of them take arguments,
it shows the first. -/
inductive AccessorReport (decl : TypeDecl) (component : ComponentDecl) :
    List ShapeProblem -> Prop where
  | missing (absent : forall accessor, accessor ∈ decl.accessors ->
        accessor.name ≠ component.label) :
      AccessorReport decl component [.missingAccessor component.label component.span]
  | takesArguments {before after : List AccessorDecl} {first : AccessorDecl}
      (split : decl.accessors = before ++ first :: after)
      (named : first.name = component.label)
      (earliest : forall accessor, accessor ∈ before -> accessor.name ≠ component.label)
      (all : forall accessor, accessor ∈ decl.accessors -> accessor.name = component.label ->
        accessor.parameterCount ≠ 0) :
      AccessorReport decl component
        [.accessorTakesArguments component.label first.parameterCount first.span]
  | readable {accessor : AccessorDecl} (member : accessor ∈ decl.accessors)
      (named : accessor.name = component.label) (plain : accessor.parameterCount = 0) :
      AccessorReport decl component []

/-- The report on a declaration: on each component by itself, on the constructors,
and on the accessors of each component, in this order and nothing else. -/
inductive Reports (decl : TypeDecl) : List ShapeProblem -> Prop where
  | parts {own accessors : List (List ShapeProblem)} {constructors : List ShapeProblem}
      (first : List.Forall₂ (fun entry part => decl.OwnReport entry.2 entry.1 part)
        decl.components.zipIdx own)
      (second : decl.ConstructorReport constructors)
      (third : List.Forall₂ decl.AccessorReport decl.components accessors) :
      Reports decl (own.flatten ++ constructors ++ accessors.flatten)

variable {decl : TypeDecl}

/-! ## Each part of a report is what recognition lists -/

theorem flagged_iff {condition : Prop} [Decidable condition] {problem : ShapeProblem}
    {part : List ShapeProblem} :
    Flagged condition problem part ↔ (if condition then [problem] else []) = part := by
  constructor
  · intro flagged
    cases flagged with
    | raised holds => exact if_pos holds
    | silent fails => exact if_neg fails
  · rintro rfl
    split
    · next holds => exact .raised holds
    · next fails => exact .silent fails

/-- What recognition lists for the component at a position by itself. -/
def ownProblems (decl : TypeDecl) (index : Nat) (component : ComponentDecl) : List ShapeProblem :=
  (if component.isMutable = true then
    [ShapeProblem.mutableComponent component.label component.span] else []) ++
  if component.label ∈ decl.labels.take index then
    [ShapeProblem.duplicateComponent component.label component.span] else []

theorem ownReport_iff {index : Nat} {component : ComponentDecl} {part : List ShapeProblem} :
    decl.OwnReport index component part ↔ decl.ownProblems index component = part := by
  constructor
  · rintro ⟨first, second⟩
    rw [ownProblems, flagged_iff.mp first, flagged_iff.mp second]
  · rintro rfl
    exact .parts (flagged_iff.mpr rfl) (flagged_iff.mpr rfl)

/-- The labels seen on the way to a component are those of the components before
it. -/
theorem componentProblems_eq {earlier rest : List ComponentDecl} {seen : List Name}
    (split : decl.components = earlier ++ rest)
    (same : forall label, label ∈ seen ↔ label ∈ earlier.map (·.label)) :
    componentProblems seen rest =
      ((rest.zipIdx earlier.length).map fun entry => decl.ownProblems entry.2 entry.1).flatten := by
  induction rest generalizing earlier seen with
  | nil => rfl
  | cons component others inductionHypothesis =>
      have before : decl.labels.take earlier.length = earlier.map (·.label) := by
        rw [labels, split, List.map_append, List.take_left' (List.length_map _)]
      have later := @inductionHypothesis (earlier ++ [component]) (component.label :: seen)
        (by rw [split, List.append_assoc, List.singleton_append])
        (by
          intro label
          rw [List.mem_cons, same, List.map_append, List.mem_append, List.map_singleton,
            List.mem_singleton, or_comm])
      rw [List.length_append, List.length_singleton] at later
      simp only [componentProblems, later, List.zipIdx_cons, List.map_cons, List.flatten_cons,
        ownProblems, before, same]

theorem canonicalConstructors_length (decl : TypeDecl) :
    decl.canonicalConstructors.length = decl.constructors.countP (·.isCanonical) :=
  List.countP_eq_length_filter.symm

theorem constructorReport_iff {part : List ShapeProblem} :
    decl.ConstructorReport part ↔ decl.constructorProblems = part := by
  have count := decl.canonicalConstructors_length
  unfold constructorProblems
  split
  · next constructor single =>
      rw [single] at count
      constructor
      · intro report
        cases report with
        | miscounted several => exact absurd count.symm several
        | disordered otherSingle differ =>
            cases single.symm.trans otherSingle
            exact if_neg differ
        | fitting otherSingle same =>
            cases single.symm.trans otherSingle
            exact if_pos same
      · rintro rfl
        split
        · next same => exact .fitting single same
        · next differ => exact .disordered single differ
  · next several =>
      constructor
      · intro report
        cases report with
        | miscounted _ => rw [count]
        | disordered single _ => exact absurd single (several _)
        | fitting single _ => exact absurd single (several _)
      · rintro rfl
        rw [count]
        apply ConstructorReport.miscounted
        intro one
        rcases List.length_eq_one_iff.mp (count.trans one) with ⟨constructor, single⟩
        exact several constructor single

theorem mem_accessorsNamed_iff {name : Name} {accessor : AccessorDecl} :
    accessor ∈ decl.accessorsNamed name ↔ accessor ∈ decl.accessors ∧ accessor.name = name := by
  rw [accessorsNamed, List.mem_filter, beq_iff_eq]

/-- A component has no accessor problem exactly when one of the accessors of its
name takes no arguments. -/
theorem accessorProblem?_eq_none_iff {component : ComponentDecl} :
    decl.accessorProblem? component = none ↔ Exists fun accessor =>
      accessor ∈ decl.accessors ∧ accessor.name = component.label ∧
        accessor.parameterCount = 0 := by
  have members := @mem_accessorsNamed_iff decl component.label
  unfold accessorProblem?
  split
  · next empty =>
      apply iff_of_false nofun
      rintro ⟨accessor, member, named, _⟩
      exact absurd (members.mpr ⟨member, named⟩) (empty ▸ List.not_mem_nil)
  · next first rest listed =>
      rw [listed] at members
      rw [ite_eq_left_iff, imp_iff_not_or, not_not]
      simp only [reduceCtorEq, or_false, List.any_eq_true, members, beq_iff_eq, and_assoc]

theorem accessorReport_iff {component : ComponentDecl} {part : List ShapeProblem} :
    decl.AccessorReport component part ↔ (decl.accessorProblem? component).toList = part := by
  constructor
  · intro report
    cases report with
    | missing absent =>
        have empty : decl.accessorsNamed component.label = [] := by
          rw [accessorsNamed, List.filter_eq_nil_iff]
          intro accessor member named
          exact absent accessor member (eq_of_beq named)
        simp only [accessorProblem?, empty, Option.toList_some]
    | @takesArguments before after first split named earliest all =>
        have listed : decl.accessorsNamed component.label =
            first :: after.filter (·.name == component.label) := by
          rw [accessorsNamed, List.filter_eq_cons_iff]
          refine ⟨before, after, split, ?_, beq_iff_eq.mpr named, rfl⟩
          intro accessor member same
          exact earliest accessor member (eq_of_beq same)
        have busy : (first :: after.filter (·.name == component.label)).any
            (·.parameterCount == 0) = false := by
          rw [← listed, List.any_eq_false]
          intro accessor member plain
          rcases mem_accessorsNamed_iff.mp member with ⟨present, same⟩
          exact all accessor present same (eq_of_beq plain)
        simp only [accessorProblem?, listed, busy, Bool.false_eq_true, if_false, named,
          Option.toList_some]
    | readable member named plain =>
        rw [accessorProblem?_eq_none_iff.mpr ⟨_, member, named, plain⟩, Option.toList_none]
  · rintro rfl
    cases found : decl.accessorProblem? component with
    | none =>
        rcases accessorProblem?_eq_none_iff.mp found with ⟨accessor, member, named, plain⟩
        exact .readable member named plain
    | some problem =>
        have busy : ¬ Exists fun accessor => accessor ∈ decl.accessors ∧
            accessor.name = component.label ∧ accessor.parameterCount = 0 := by
          rw [← accessorProblem?_eq_none_iff, found]
          nofun
        unfold accessorProblem? at found
        split at found
        · next empty =>
            cases found
            apply AccessorReport.missing
            intro accessor member named
            have listed := mem_accessorsNamed_iff.mpr ⟨member, named⟩
            rw [empty] at listed
            cases listed
        · next first rest listed =>
            split at found
            · cases found
            · cases found
              rcases List.filter_eq_cons_iff.mp listed with
                ⟨before, after, split, earliest, named, _⟩
              rw [eq_of_beq named]
              apply AccessorReport.takesArguments split (eq_of_beq named)
              · intro accessor member same
                exact earliest accessor member (beq_iff_eq.mpr same)
              · intro accessor member same plain
                exact busy ⟨accessor, member, same, plain⟩

/-- A list of reports, one for each item of another list. -/
theorem forall₂_iff_map_eq {Item Part : Type} {relation : Item -> Part -> Prop}
    {report : Item -> Part} (each : forall item part, relation item part ↔ report item = part)
    {items : List Item} {parts : List Part} :
    List.Forall₂ relation items parts ↔ items.map report = parts := by
  have same : relation = fun item part => report item = part := by
    funext item part
    exact propext (each item part)
  rw [same, ← List.forall₂_map_left_iff, List.forall₂_eq_eq_eq]

/-- There is one report on a declaration, and recognition lists it. -/
theorem reports_iff {problems : List ShapeProblem} :
    decl.Reports problems ↔ problems = decl.shapeProblems := by
  have components : componentProblems [] decl.components =
      (decl.components.zipIdx.map fun entry => decl.ownProblems entry.2 entry.1).flatten :=
    @componentProblems_eq decl [] decl.components [] (List.nil_append _).symm (fun _ => Iff.rfl)
  have accessors : decl.components.filterMap decl.accessorProblem? =
      (decl.components.map fun component => (decl.accessorProblem? component).toList).flatten := by
    rw [List.filterMap_eq_flatMap_toList, List.flatMap_def]
  rw [shapeProblems, components, accessors]
  constructor
  · rintro ⟨first, second, third⟩
    rw [← (forall₂_iff_map_eq fun entry part => @ownReport_iff decl entry.2 entry.1 part).mp first,
      ← constructorReport_iff.mp second,
      ← (forall₂_iff_map_eq fun component part => @accessorReport_iff decl component part).mp third]
  · rintro rfl
    refine .parts ?_ (constructorReport_iff.mpr rfl) ?_
    · exact (forall₂_iff_map_eq fun entry part => @ownReport_iff decl entry.2 entry.1 part).mpr rfl
    · exact (forall₂_iff_map_eq fun component part =>
        @accessorReport_iff decl component part).mpr rfl

/-! ## The rules and the problems -/

theorem componentProblems_eq_nil_iff {components : List ComponentDecl} {seen : List Name} :
    componentProblems seen components = [] ↔
      (forall component, component ∈ components -> component.isMutable = false) ∧
        (components.map (·.label)).Nodup ∧
        forall component, component ∈ components -> component.label ∉ seen := by
  induction components generalizing seen with
  | nil => simp [componentProblems]
  | cons component rest inductionHypothesis =>
      rw [componentProblems, List.append_eq_nil_iff, List.append_eq_nil_iff, inductionHypothesis,
        List.map_cons, List.nodup_cons, List.forall_mem_cons, List.forall_mem_cons]
      simp only [ite_eq_right_iff, List.cons_ne_nil, imp_false, Bool.not_eq_true, List.mem_map,
        List.mem_cons, not_exists, not_and, not_or]
      constructor
      · rintro ⟨⟨constant, fresh⟩, others, distinct, apart⟩
        exact ⟨⟨constant, others⟩,
          ⟨fun other member => (apart other member).1, distinct⟩,
          fresh, fun other member => (apart other member).2⟩
      · rintro ⟨⟨constant, others⟩, ⟨apart, distinct⟩, fresh, later⟩
        exact ⟨⟨constant, fresh⟩, others, distinct,
          fun other member => ⟨apart other member, later other member⟩⟩

theorem constructorProblems_eq_nil_iff : decl.constructorProblems = [] ↔
    decl.constructors.countP (·.isCanonical) = 1 ∧
      forall constructor, constructor ∈ decl.constructors -> constructor.isCanonical = true ->
        constructor.parameters = decl.labels := by
  have members (constructor : ConstructorDecl) :
      constructor ∈ decl.canonicalConstructors ↔
        constructor ∈ decl.constructors ∧ constructor.isCanonical = true := List.mem_filter
  simp only [← canonicalConstructors_length, ← and_imp, ← members]
  unfold constructorProblems
  split
  · next constructor single =>
      simp only [single, List.length_singleton, true_and, List.mem_singleton, forall_eq,
        ite_eq_left_iff, List.cons_ne_nil, imp_false, not_not]
  · next several =>
      apply iff_of_false nofun
      rintro ⟨one, _⟩
      rcases List.length_eq_one_iff.mp one with ⟨constructor, single⟩
      exact several constructor single

/-- A declaration follows the rules exactly when recognition lists nothing. -/
theorem isProduct_iff : decl.IsProduct ↔ decl.shapeProblems = [] := by
  rw [shapeProblems, List.append_eq_nil_iff, List.append_eq_nil_iff, componentProblems_eq_nil_iff,
    constructorProblems_eq_nil_iff, List.filterMap_eq_nil_iff]
  simp only [accessorProblem?_eq_none_iff]
  constructor
  · intro product
    exact ⟨⟨⟨product.immutable, product.distinct, fun _ _ => List.not_mem_nil⟩,
      product.canonical, product.ordered⟩, product.readable⟩
  · rintro ⟨⟨⟨immutable, distinct, _⟩, canonical, ordered⟩, readable⟩
    exact ⟨immutable, distinct, canonical, ordered, readable⟩

end TypeDecl

/-- Recognition accepts exactly the declarations that follow the rules, and then it
gives the components in their order.  It refuses every other declaration with the
report on it. -/
theorem ProductShape.recognize_exact (decl : TypeDecl) :
    (forall shape, recognize decl = .ok shape ↔ decl.IsProduct ∧ shape.ident = decl.ident ∧
      shape.span = decl.span ∧ shape.origin = decl.origin ∧
      shape.components = decl.components.map fun component =>
        ⟨component.label, component.ty, component.span⟩) ∧
    forall problems, recognize decl = .error problems ↔
      ¬ decl.IsProduct ∧ decl.Reports problems := by
  constructor
  · intro shape
    rw [recognize_eq_ok_iff, decl.isProduct_iff]
    apply and_congr_right'
    constructor
    · rintro rfl
      exact ⟨rfl, rfl, rfl, rfl⟩
    · rcases shape with ⟨ident, span, origin, components⟩
      rintro ⟨rfl, rfl, rfl, rfl⟩
      rfl
  · intro problems
    rw [recognize_eq_error_iff, decl.isProduct_iff, decl.reports_iff]

/-- Of three components, the first is mutable and the third has its label, no
constructor is canonical, and the only accessors of the second take arguments. -/
example :
    let place : Span := Span.synthetic
    ProductShape.recognize
      { ident := ⟨⟨1⟩⟩, span := place, origin := .native
        components := [⟨⟨2⟩, .int, true, place⟩, ⟨⟨3⟩, .int, false, place⟩, ⟨⟨2⟩, .str, false, place⟩]
        constructors := [⟨[⟨2⟩, ⟨3⟩], false, place⟩]
        accessors := [⟨⟨3⟩, 2, place⟩, ⟨⟨2⟩, 1, place⟩, ⟨⟨3⟩, 1, place⟩, ⟨⟨2⟩, 0, place⟩] } =
      .error [.mutableComponent ⟨2⟩ place, .duplicateComponent ⟨2⟩ place,
        .canonicalConstructor 0, .accessorTakesArguments ⟨3⟩ 2 place] := by
  decide

end StructuralProducts
