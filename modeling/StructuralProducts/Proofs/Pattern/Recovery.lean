import StructuralProducts.Proofs.Pattern.Acceptance

namespace StructuralProducts

/-!
# Error recovery

Lowering goes on after an error.  A node that is nested too deeply and a
deconstruction that cannot be opened are refused: they become wildcards, and what
stands below them is not looked at.  A literal or a tuple that does not fit stays,
but nothing is expected of the elements of such a tuple.

So the outcome of lowering is always the image of a pattern, though not always of
the one that was written.  What recovery leaves of a pattern is said here on the
pattern as it is written, without contract tables and diagnostics, and so are the
nodes at which lowering arrives.  Where it refuses none of them, recovery leaves the
pattern as it is.
-/

open PatternNode (Within Openable)

/-! ## What is expected below a node -/

/-- The types expected of the elements of a tuple, if the tuple fits. -/
def Ty.elementTypes (elementCount : Nat) (expected? : Option Ty) : List (Option Ty) :=
  match expected? with
  | some (.tuple types) => if types.length = elementCount then types.map some else []
  | _ => []

/-- The types expected of the arguments of a deconstruction, unless something that
the deconstruction needs is missing. -/
def Registry.openTypes? (registry : Registry) (typeName : Name) (argumentCount : Nat)
    (expected? : Option Ty) : Option (List Ty) :=
  match registry.resolve typeName with
  | .unique ident =>
      match LoweringScope.contradicted? expected? ident with
      | some _ => none
      | none => (registry.componentTypes? ident).filter (·.length = argumentCount)
  | _ => none

theorem Registry.openTypes?_eq_some_iff {registry : Registry} {typeName : Name}
    {argumentCount : Nat} {expected? : Option Ty} {types : List Ty} :
    registry.openTypes? typeName argumentCount expected? = some types ↔
      Exists fun ident => registry.resolve typeName = .unique ident ∧
        PatternNode.Accepts (.named ident) expected? ∧ registry.componentTypes? ident = some types ∧
        types.length = argumentCount := by
  unfold openTypes?
  cases registry.resolve typeName with
  | unknown => simp
  | ambiguous candidates => simp
  | unique ident =>
      simp only [Resolution.unique.injEq, exists_eq_left',
        ← LoweringScope.contradicted?_eq_none_iff]
      cases LoweringScope.contradicted? expected? ident with
      | some expected => simp
      | none => simp [Option.filter_eq_some_iff]

theorem Registry.openable_iff {registry : Registry} {typeName : Name} {argumentCount : Nat}
    {expected? : Option Ty} :
    Openable registry typeName argumentCount expected? ↔
      Exists fun types => registry.openTypes? typeName argumentCount expected? = some types := by
  simp only [openTypes?_eq_some_iff]
  exact exists_comm

namespace LoweringScope

variable {scope : LoweringScope}

theorem checkTuple_fst (elementCount : Nat) (expected? : Option Ty)
    (progress : LoweringProgress) :
    (scope.checkTuple elementCount expected? progress).1 =
      Ty.elementTypes elementCount expected? := by
  unfold checkTuple
  split
  · rfl
  · next types =>
      dsimp only [Ty.elementTypes]
      split
      · rfl
      · rfl
  · next other notTuple =>
      cases other with
      | tuple types => exact absurd rfl (notTuple types)
      | _ => rfl

/-! ## What recovery leaves -/

mutual

/-- What recovery leaves of a pattern that stands at a given depth, where a type may
be expected: each node that is refused is a wildcard. -/
def recovered (scope : LoweringScope) (pattern : Pattern) (expected? : Option Ty)
    (depth : Nat) : Pattern :=
  match scope.exceeded? depth with
  | some _ => .wildcard
  | none =>
      match pattern with
      | .wildcard => .wildcard
      | .binding name => .binding name
      | .literal literal => .literal literal
      | .tuple elements =>
          .tuple (scope.recoveredEach elements
            (Ty.elementTypes elements.length expected?) (depth + 1))
      | .deconstruct typeName arguments span =>
          match scope.registry.openTypes? typeName arguments.length expected? with
          | none => .wildcard
          | some types =>
              .deconstruct typeName
                (scope.recoveredEach arguments (types.map some) (depth + 1)) span
      | .anyOf alternatives =>
          .anyOf (scope.recoveredEach alternatives
            (List.replicate alternatives.length expected?) (depth + 1))
      | .asPattern name inner => .asPattern name (scope.recovered inner expected? (depth + 1))

/-- What recovery leaves of patterns of one depth, each at its position of a list of
expected types. -/
def recoveredEach (scope : LoweringScope) (patterns : List Pattern)
    (expected : List (Option Ty)) (depth : Nat) : List Pattern :=
  match patterns with
  | [] => []
  | pattern :: rest =>
      scope.recovered pattern expected.head?.join depth ::
        scope.recoveredEach rest expected.tail depth

end

/-- All alternatives are expected to have the type of the whole. -/
theorem recoveredEach_replicate (patterns : List Pattern) (expected? : Option Ty)
    (depth : Nat) :
    scope.recoveredEach patterns (List.replicate patterns.length expected?) depth =
      patterns.map (scope.recovered · expected? depth) := by
  induction patterns with
  | nil => simp only [recoveredEach, List.map_nil]
  | cons pattern rest inductionHypothesis =>
      simp only [recoveredEach, List.length_cons, List.replicate_succ, List.head?_cons,
        Option.join_some, List.tail_cons, inductionHypothesis, List.map_cons]

/-- Wherever the pattern stands, lowering gives the image of what recovery leaves. -/
def LowersRecovered (scope : LoweringScope) (pattern : Pattern) : Prop :=
  forall (expected? : Option Ty) (depth : Nat) (before : LoweringProgress),
    before.Agrees scope.registry ->
      (scope.recovered pattern expected? depth).Image scope.registry
        (scope.lower pattern expected? depth before).2.contracts
        (scope.lower pattern expected? depth before).1

theorem lowerEach_recovered (keys : scope.registry.KeysAgree) {patterns : List Pattern}
    (each : forall pattern, pattern ∈ patterns -> scope.LowersRecovered pattern)
    (expected : List (Option Ty)) (depth : Nat) {before : LoweringProgress}
    (agrees : before.Agrees scope.registry) :
    Pattern.Images scope.registry (scope.lowerEach patterns expected depth before).2.contracts
      (scope.recoveredEach patterns expected depth)
      (scope.lowerEach patterns expected depth before).1 := by
  induction patterns generalizing expected before with
  | nil =>
      simp only [lowerEach, recoveredEach]
      exact .nil
  | cons pattern rest inductionHypothesis =>
      have first := each pattern List.mem_cons_self expected.head?.join depth before agrees
      have step := (lower_faithful keys pattern expected.head?.join depth before agrees).step
      have later := lowerEach_step keys rest expected.tail depth step.agrees
      have others := inductionHypothesis
        (fun other member => each other (List.mem_cons_of_mem _ member)) expected.tail step.agrees
      simp only [lowerEach, recoveredEach]
      exact .cons (first.mono later.grows.contracts) others

/-- A node beyond the nesting limit is refused, whatever its form. -/
theorem lowersRecovered_of_within {pattern : Pattern} {expected? : Option Ty} {depth : Nat}
    {before : LoweringProgress}
    (image : scope.exceeded? depth = none ->
      (scope.recovered pattern expected? depth).Image scope.registry
        (scope.lower pattern expected? depth before).2.contracts
        (scope.lower pattern expected? depth before).1) :
    (scope.recovered pattern expected? depth).Image scope.registry
      (scope.lower pattern expected? depth before).2.contracts
      (scope.lower pattern expected? depth before).1 := by
  cases exceeded : scope.exceeded? depth with
  | none => exact image exceeded
  | some limit =>
      unfold recovered lower
      rw [exceeded]
      exact .wildcard

theorem openTypes?_of_opens {table : ContractTable} {typeName : Name} {id : ContractId}
    {ident : TypeId} {entry : ContractEntry}
    (opens : table.Opens scope.registry typeName id ident entry) {argumentCount : Nat}
    {expected? : Option Ty}
    (openable : Openable scope.registry typeName argumentCount expected?) :
    scope.registry.openTypes? typeName argumentCount expected? = some entry.types := by
  rcases openable with ⟨other, types, resolved, accepts, known, count⟩
  rw [opens.resolved] at resolved
  cases resolved
  have provided := scope.registry.componentTypes?_eq_map ident
  rw [opens.provided, known] at provided
  cases provided
  exact Registry.openTypes?_eq_some_iff.mpr ⟨ident, opens.resolved, accepts, known, count⟩

theorem lower_tuple_recovered (keys : scope.registry.KeysAgree) {elements : List Pattern}
    (each : forall element, element ∈ elements -> scope.LowersRecovered element) :
    scope.LowersRecovered (.tuple elements) := by
  intro expected? depth before agrees
  apply lowersRecovered_of_within
  intro unexceeded
  have checked := (step_checkTuple agrees elements.length expected?).1.agrees
  have images := lowerEach_recovered keys each (Ty.elementTypes elements.length expected?)
    (depth + 1) checked
  simp only [recovered, lower, unexceeded, checkTuple_fst]
  exact .tuple images

theorem lower_deconstruct_recovered (keys : scope.registry.KeysAgree) (typeName : Name)
    {arguments : List Pattern} (span : Span)
    (each : forall argument, argument ∈ arguments -> scope.LowersRecovered argument) :
    scope.LowersRecovered (.deconstruct typeName arguments span) := by
  intro expected? depth before agrees
  apply lowersRecovered_of_within
  intro unexceeded
  have opening := open?_cases keys agrees typeName arguments.length span expected?
  rcases opened : scope.open? typeName arguments.length span expected? before with
    ⟨outcome, after⟩
  simp only [opened] at opening
  rcases opening with ⟨id, ident, entry, rfl, opens, openable, step⟩ | ⟨rfl, unmet, _⟩
  · have images := lowerEach_recovered keys each (entry.types.map some) (depth + 1) step.agrees
    have later := lowerEach_step keys arguments (entry.types.map some) (depth + 1) step.agrees
    simp only [recovered, lower, unexceeded, opened, openTypes?_of_opens opens openable]
    exact .deconstruct (opens.mono later.grows.contracts) images
  · have closed : scope.registry.openTypes? typeName arguments.length expected? = none :=
      Option.eq_none_iff_forall_ne_some.mpr fun types found =>
        unmet (Registry.openable_iff.mpr ⟨types, found⟩)
    simp only [recovered, lower, unexceeded, opened, closed]
    exact .wildcard

theorem lower_anyOf_recovered (keys : scope.registry.KeysAgree) {alternatives : List Pattern}
    (each : forall alternative, alternative ∈ alternatives -> scope.LowersRecovered alternative) :
    scope.LowersRecovered (.anyOf alternatives) := by
  intro expected? depth before agrees
  apply lowersRecovered_of_within
  intro unexceeded
  have images := lowerEach_recovered keys each (List.replicate alternatives.length expected?)
    (depth + 1) agrees
  have step := lowerEach_step keys alternatives (List.replicate alternatives.length expected?)
    (depth + 1) agrees
  have checked := step_checkAlternatives step.agrees (scope.lowerEach alternatives
    (List.replicate alternatives.length expected?) (depth + 1) before).1
  simp only [recovered, lower, unexceeded]
  exact .anyOf (images.mono checked.grows.contracts)

/-- Whatever is raised, lowering gives the image of what recovery leaves. -/
theorem lower_recovered (keys : scope.registry.KeysAgree) (pattern : Pattern) :
    scope.LowersRecovered pattern := by
  induction pattern using Pattern.ind with
  | wildcard =>
      intro expected? depth before agrees
      apply lowersRecovered_of_within
      intro unexceeded
      simp only [recovered, lower, unexceeded]
      exact .wildcard
  | binding name =>
      intro expected? depth before agrees
      apply lowersRecovered_of_within
      intro unexceeded
      simp only [recovered, lower, unexceeded]
      exact .binding
  | literal literal =>
      intro expected? depth before agrees
      apply lowersRecovered_of_within
      intro unexceeded
      simp only [recovered, lower, unexceeded]
      exact .literal
  | tuple elements inductionHypothesis => exact lower_tuple_recovered keys inductionHypothesis
  | deconstruct typeName arguments span inductionHypothesis =>
      exact lower_deconstruct_recovered keys typeName span inductionHypothesis
  | anyOf alternatives inductionHypothesis =>
      exact lower_anyOf_recovered keys inductionHypothesis
  | asPattern name inner inductionHypothesis =>
      intro expected? depth before agrees
      apply lowersRecovered_of_within
      intro unexceeded
      simp only [recovered, lower, unexceeded]
      exact .asPattern (inductionHypothesis expected? (depth + 1) before agrees)

/-! ## Where lowering arrives -/

/-- Lowering goes on from a node to one directly below it, with what it expects
there. -/
inductive Enters (scope : LoweringScope) : PatternNode -> PatternNode -> Prop where
  | element {elements : List Pattern} {expected? : Option Ty} {depth position : Nat}
      {pattern : Pattern} (unexceeded : scope.exceeded? depth = none)
      (found : elements[position]? = some pattern) :
      Enters scope ⟨.tuple elements, expected?, depth⟩
        ⟨pattern, (Ty.elementTypes elements.length expected?)[position]?.join, depth + 1⟩
  | argument {typeName : Name} {arguments : List Pattern} {span : Span} {expected? : Option Ty}
      {depth position : Nat} {types : List Ty} {pattern : Pattern}
      (unexceeded : scope.exceeded? depth = none)
      (opened : scope.registry.openTypes? typeName arguments.length expected? = some types)
      (found : arguments[position]? = some pattern) :
      Enters scope ⟨.deconstruct typeName arguments span, expected?, depth⟩
        ⟨pattern, (types.map some)[position]?.join, depth + 1⟩
  | alternative {alternatives : List Pattern} {expected? : Option Ty} {depth : Nat}
      {pattern : Pattern} (unexceeded : scope.exceeded? depth = none)
      (member : pattern ∈ alternatives) :
      Enters scope ⟨.anyOf alternatives, expected?, depth⟩ ⟨pattern, expected?, depth + 1⟩
  | inner {name : Name} {pattern : Pattern} {expected? : Option Ty} {depth : Nat}
      (unexceeded : scope.exceeded? depth = none) :
      Enters scope ⟨.asPattern name pattern, expected?, depth⟩ ⟨pattern, expected?, depth + 1⟩

/-- Lowering a node arrives at one that is the same or stands below it. -/
abbrev Visits (scope : LoweringScope) : PatternNode -> PatternNode -> Prop :=
  Relation.ReflTransGen scope.Enters

/-- The node is nested too deeply, or it is a deconstruction that cannot be opened. -/
inductive Refuses (scope : LoweringScope) : PatternNode -> Prop where
  | tooDeep {pattern : Pattern} {expected? : Option Ty} {depth : Nat}
      (beyond : ¬ Within scope.maxDepth? depth) : Refuses scope ⟨pattern, expected?, depth⟩
  | unopened {typeName : Name} {arguments : List Pattern} {span : Span} {expected? : Option Ty}
      {depth : Nat} (within : Within scope.maxDepth? depth)
      (unmet : ¬ Openable scope.registry typeName arguments.length expected?) :
      Refuses scope ⟨.deconstruct typeName arguments span, expected?, depth⟩

/-- Lowering refuses no node at which it arrives. -/
def AdmitsAll (scope : LoweringScope) (node : PatternNode) : Prop :=
  forall below, scope.Visits node below -> ¬ scope.Refuses below

theorem AdmitsAll.child {node child : PatternNode} (admits : scope.AdmitsAll node)
    (enters : scope.Enters node child) : scope.AdmitsAll child :=
  fun below visits => admits below (.head enters visits)

theorem AdmitsAll.unexceeded {node : PatternNode} (admits : scope.AdmitsAll node) :
    scope.exceeded? node.depth = none := by
  rw [exceeded?_eq_none_iff]
  by_contra beyond
  exact admits node .refl (.tooDeep beyond)

theorem recoveredEach_eq_self {patterns : List Pattern} {expected : List (Option Ty)}
    {depth : Nat}
    (each : forall (position : Nat) (pattern : Pattern), patterns[position]? = some pattern ->
      scope.recovered pattern expected[position]?.join depth = pattern) :
    scope.recoveredEach patterns expected depth = patterns := by
  induction patterns generalizing expected with
  | nil => simp only [recoveredEach]
  | cons pattern rest inductionHypothesis =>
      have first := each 0 pattern rfl
      have others := @inductionHypothesis expected.tail fun position other found => by
        rw [List.getElem?_tail]
        exact each (position + 1) other found
      rw [← List.head?_eq_getElem?] at first
      simp only [recoveredEach, first, others]

/-- Where no node is refused, recovery leaves the pattern as it is. -/
theorem recovered_eq_self (pattern : Pattern) (expected? : Option Ty) (depth : Nat)
    (admits : scope.AdmitsAll ⟨pattern, expected?, depth⟩) :
    scope.recovered pattern expected? depth = pattern := by
  have unexceeded := admits.unexceeded
  induction pattern using Pattern.ind generalizing expected? depth with
  | wildcard => simp only [recovered, unexceeded]
  | binding name => simp only [recovered, unexceeded]
  | literal literal => simp only [recovered, unexceeded]
  | tuple elements inductionHypothesis =>
      simp only [recovered, unexceeded]
      congr 1
      apply recoveredEach_eq_self
      intro position element found
      have below := admits.child (.element unexceeded found)
      exact inductionHypothesis element (List.mem_of_getElem? found) _ _ below below.unexceeded
  | deconstruct typeName arguments span inductionHypothesis =>
      have openable : Openable scope.registry typeName arguments.length expected? := by
        by_contra unmet
        exact admits _ .refl (.unopened ((exceeded?_eq_none_iff depth).mp unexceeded) unmet)
      rcases Registry.openable_iff.mp openable with ⟨types, opened⟩
      simp only [recovered, unexceeded, opened]
      congr 1
      apply recoveredEach_eq_self
      intro position argument found
      have below := admits.child (.argument unexceeded opened found)
      exact inductionHypothesis argument (List.mem_of_getElem? found) _ _ below below.unexceeded
  | anyOf alternatives inductionHypothesis =>
      have each : forall alternative, alternative ∈ alternatives ->
          scope.recovered alternative expected? (depth + 1) = id alternative := by
        intro alternative member
        have below := admits.child (.alternative unexceeded member)
        exact inductionHypothesis alternative member _ _ below below.unexceeded
      simp only [recovered, unexceeded, recoveredEach_replicate]
      rw [List.map_congr_left each, List.map_id]
  | asPattern name inner inductionHypothesis =>
      have below := admits.child (.inner unexceeded)
      simp only [recovered, unexceeded]
      rw [inductionHypothesis expected? (depth + 1) below below.unexceeded]

end LoweringScope
end StructuralProducts
