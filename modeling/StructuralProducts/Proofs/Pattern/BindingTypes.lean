import StructuralProducts.Proofs.Pattern.BindingPaths
import StructuralProducts.Proofs.Pattern.PathTypes

namespace StructuralProducts

/-!
# Types of bound values

The static type of a name is found by following its path, and the path of a name
is that of the first alternative wherever there are alternatives.  A match binds
the name through the alternative it takes.  Every alternative has the type of the
whole, so what is bound always has the static type of the path through the
alternatives taken.

That is the static type of the name only if the alternatives give it the same
type.  Lowering compares the names of alternatives and nothing else, so two
alternatives may bind a name at different types.  Where all alternatives give
their names the same types, every match binds values of the static types.
-/

namespace LoweredPattern

variable {matcher : Matcher} {table : ContractTable}

/-! ## The pattern that is left has the type of the whole -/

mutual

theorem HasType.taken (matcher : Matcher) (value : Value) {pattern : LoweredPattern} {ty : Ty} :
    HasType table pattern ty -> HasType table (matcher.taken pattern value) ty
  | .wildcard => by
      simp only [Matcher.taken]
      exact .wildcard
  | .binding => by
      simp only [Matcher.taken]
      exact .binding
  | .literal => by
      simp only [Matcher.taken]
      exact .literal
  | .tuple each => by
      simp only [Matcher.taken]
      split
      · exact .tuple (each.takenEach matcher _)
      · exact .tuple each
  | .deconstruct present each => by
      simp only [Matcher.taken]
      split
      · exact .deconstruct present each
      · split
        · exact .deconstruct present each
        · exact .deconstruct present (each.takenEach matcher _)
  | @HasType.anyOf _ alternatives _ each => by
      simp only [Matcher.taken]
      cases found : matcher.takenAny? alternatives value with
      | none => exact .anyOf each
      | some chosen =>
          rcases Matcher.exists_of_takenAny? found with ⟨alternative, member, rfl⟩
          exact (each alternative member).taken matcher value
  | .asPattern typed => by
      simp only [Matcher.taken]
      exact .asPattern (typed.taken matcher value)

theorem HaveTypes.takenEach (matcher : Matcher) (values : List Value) {patterns : List LoweredPattern}
    {types : List Ty} :
    HaveTypes table patterns types -> HaveTypes table (matcher.takenEach patterns values) types
  | .nil => by
      simp only [Matcher.takenEach]
      exact .nil
  | .cons head tail => by
      cases values with
      | nil =>
          simp only [Matcher.takenEach]
          exact .cons head tail
      | cons value others =>
          simp only [Matcher.takenEach]
          exact .cons (head.taken matcher value) (tail.takenEach matcher others)

end

/-! ## Alternatives that agree on types -/

/-- The names that a pattern binds when it is matched against values of a type,
with their static types. -/
def typedNames (table : ContractTable) (ty : Ty) (pattern : LoweredPattern) :
    List (Name × Option Ty) :=
  pattern.bindings.map fun entry => (entry.1, table.pathType? ty entry.2)

/-- The names that patterns bind when each is matched against values of the type
at its position. -/
def typedNamesEach (table : ContractTable) (types : List Ty) (patterns : List LoweredPattern) :
    List (Name × Option Ty) :=
  (List.zipWith (typedNames table) types patterns).flatten

mutual

/-- At every alternation at or below a pattern, the alternatives bind the same
names at the same types. -/
inductive TypesAgree (table : ContractTable) : LoweredPattern -> Ty -> Prop where
  | wildcard {ty : Ty} : TypesAgree table .wildcard ty
  | binding {name : Name} {ty : Ty} : TypesAgree table (.binding name) ty
  | literal {literal : Literal} {ty : Ty} : TypesAgree table (.literal literal) ty
  | tuple {elements : List LoweredPattern} {types : List Ty}
      (each : TypesAgreeEach table elements types) :
      TypesAgree table (.tuple elements) (.tuple types)
  | deconstruct {id : ContractId} {entry : ContractEntry} {fields : List LoweredPattern} {ty : Ty}
      (present : table.entryAt? id = some entry) (each : TypesAgreeEach table fields entry.types) :
      TypesAgree table (.deconstruct id fields) ty
  | anyOf {alternatives : List LoweredPattern} {ty : Ty}
      (same : forall first, first ∈ alternatives -> forall second, second ∈ alternatives ->
        (first.typedNames table ty).Perm (second.typedNames table ty))
      (each : forall alternative, alternative ∈ alternatives -> TypesAgree table alternative ty) :
      TypesAgree table (.anyOf alternatives) ty
  | asPattern {name : Name} {inner : LoweredPattern} {ty : Ty} (agrees : TypesAgree table inner ty) :
      TypesAgree table (.asPattern name inner) ty

/-- Equally many patterns as types, each with alternatives that agree. -/
inductive TypesAgreeEach (table : ContractTable) : List LoweredPattern -> List Ty -> Prop where
  | nil : TypesAgreeEach table [] []
  | cons {pattern : LoweredPattern} {ty : Ty} {rest : List LoweredPattern} {types : List Ty}
      (head : TypesAgree table pattern ty) (tail : TypesAgreeEach table rest types) :
      TypesAgreeEach table (pattern :: rest) (ty :: types)

end

/-- Behind a step, names have the types that they have in the part. -/
theorem map_typed_behind {whole ty : Ty} {step : AccessStep}
    (stepped : table.stepType? whole step = some ty) (pattern : LoweredPattern) :
    (pattern.bindings.map (behind step)).map
        (fun entry => (entry.1, table.pathType? whole entry.2)) =
      pattern.typedNames table ty := by
  rw [List.map_map, typedNames]
  apply List.map_congr_left
  intro entry _
  simp only [Function.comp_apply, behind, ContractTable.pathType?, stepped, Option.bind_some]

theorem map_typed_partBindings {whole : Ty} {step : Nat -> AccessStep}
    {patterns : List LoweredPattern} {types : List Ty} (count : patterns.length = types.length)
    (index : Nat)
    (stepped : forall (position : Nat) (ty : Ty), types[position]? = some ty ->
      table.stepType? whole (step (index + position)) = some ty) :
    (partBindings step patterns index).map
        (fun entry => (entry.1, table.pathType? whole entry.2)) =
      typedNamesEach table types patterns := by
  induction patterns generalizing types index with
  | nil => rw [partBindings, List.map_nil, typedNamesEach, List.zipWith_nil_right, List.flatten_nil]
  | cons pattern rest inductionHypothesis =>
      cases types with
      | nil => cases count
      | cons ty others =>
          have here := map_typed_behind (stepped 0 ty rfl) pattern
          have later := inductionHypothesis (Nat.succ.inj count) (index + 1)
            (fun position part typed => by
              rw [Nat.add_assoc, Nat.add_comm 1]
              exact stepped (position + 1) part typed)
          rw [Nat.add_zero] at here
          rw [partBindings, List.map_append, here, later, typedNamesEach, typedNamesEach,
            List.zipWith_cons_cons, List.flatten_cons]

theorem typedNames_tuple {elements : List LoweredPattern} {types : List Ty}
    (count : elements.length = types.length) :
    (tuple elements).typedNames table (.tuple types) = typedNamesEach table types elements := by
  rw [typedNames, bindings_tuple]
  apply map_typed_partBindings count
  intro position ty typed
  rw [Nat.zero_add]
  exact typed

theorem typedNames_deconstruct {id : ContractId} {entry : ContractEntry}
    {fields : List LoweredPattern} (present : table.entryAt? id = some entry)
    (count : fields.length = entry.types.length) (ty : Ty) :
    (deconstruct id fields).typedNames table ty = typedNamesEach table entry.types fields := by
  rw [typedNames, bindings_deconstruct]
  apply map_typed_partBindings count
  intro position part typed
  rw [Nat.zero_add, ContractTable.stepType?, ContractTable.componentTypes?, present,
    Option.map_some, Option.bind_some, typed]

theorem TypesAgreeEach.length_eq {patterns : List LoweredPattern} {types : List Ty}
    (agree : TypesAgreeEach table patterns types) : patterns.length = types.length := by
  induction patterns generalizing types with
  | nil => cases agree; rfl
  | cons pattern rest inductionHypothesis =>
      cases agree with
      | cons head tail => exact congrArg Nat.succ (inductionHypothesis tail)

theorem length_takenEach (patterns : List LoweredPattern) (values : List Value) :
    (matcher.takenEach patterns values).length = patterns.length := by
  induction patterns generalizing values with
  | nil => simp only [Matcher.takenEach]
  | cons pattern rest inductionHypothesis =>
      cases values with
      | nil => simp only [Matcher.takenEach]
      | cons value others =>
          simp only [Matcher.takenEach, List.length_cons, inductionHypothesis]

mutual

/-- If alternatives agree on types, taking another one reorders the typed names at
most. -/
theorem TypesAgree.taken_perm (matcher : Matcher) (value : Value) {pattern : LoweredPattern}
    {ty : Ty} :
    TypesAgree table pattern ty ->
      ((matcher.taken pattern value).typedNames table ty).Perm (pattern.typedNames table ty)
  | .wildcard => by
      simp only [Matcher.taken]
      exact .refl _
  | .binding => by
      simp only [Matcher.taken]
      exact .refl _
  | .literal => by
      simp only [Matcher.taken]
      exact .refl _
  | .tuple each => by
      have count := each.length_eq
      simp only [Matcher.taken]
      split
      · rw [typedNames_tuple count, typedNames_tuple ((length_takenEach _ _).trans count)]
        exact each.takenEach_perm matcher _
      · exact .refl _
  | .deconstruct present each => by
      have count := each.length_eq
      simp only [Matcher.taken]
      split
      · exact .refl _
      · split
        · exact .refl _
        · rw [typedNames_deconstruct present count,
            typedNames_deconstruct present ((length_takenEach _ _).trans count)]
          exact each.takenEach_perm matcher _
  | @TypesAgree.anyOf _ alternatives _ same each => by
      simp only [Matcher.taken]
      cases found : matcher.takenAny? alternatives value with
      | none => exact .refl _
      | some chosen =>
          rcases Matcher.exists_of_takenAny? found with ⟨alternative, member, rfl⟩
          have kept := (each alternative member).taken_perm matcher value
          cases alternatives with
          | nil => cases member
          | cons first rest =>
              -- The typed names of an alternation are those of its first alternative.
              exact kept.trans (same alternative member first List.mem_cons_self)
  | .asPattern agrees => by
      simp only [Matcher.taken]
      exact (agrees.taken_perm matcher value).cons _

theorem TypesAgreeEach.takenEach_perm (matcher : Matcher) (values : List Value)
    {patterns : List LoweredPattern} {types : List Ty} :
    TypesAgreeEach table patterns types ->
      (typedNamesEach table types (matcher.takenEach patterns values)).Perm
        (typedNamesEach table types patterns)
  | .nil => by
      simp only [Matcher.takenEach]
      exact .refl _
  | .cons head tail => by
      cases values with
      | nil =>
          simp only [Matcher.takenEach]
          exact .refl _
      | cons value others =>
          simp only [Matcher.takenEach, typedNamesEach, List.zipWith_cons_cons, List.flatten_cons]
          exact (head.taken_perm matcher value).append (tail.takenEach_perm matcher others)

end

end LoweredPattern

/-! ## What a match binds -/

namespace Matcher

variable {matcher : Matcher} {registry : Registry}

/-- The static types of the names of an arm are types of the values bound to
them. -/
def BindsStatically (matcher : Matcher) (arm : CompiledArm) (ty : Ty)
    (bound : List (Name × Value)) : Prop :=
  forall entry, entry ∈ arm.bindings -> Exists fun result => Exists fun item =>
    matcher.contracts.pathType? ty entry.2 = some result ∧ bound.lookup entry.1 = some item ∧
      item.conforms result = true

/-- What is bound has the static type of its path through the alternatives
taken. -/
theorem bound_conforms (synthesized : LoweredPattern.Synthesized registry matcher.contracts)
    {pattern : LoweredPattern} {ty : Ty} (typed : pattern.HasType matcher.contracts ty)
    (counted : pattern.Everywhere (LoweredPattern.Counted matcher.contracts)) {value : Value}
    (constructed : value.Constructed registry) (conforms : value.conforms ty = true)
    {bound : List (Name × Value)} (matched : matcher.meaning pattern value = .ok (some bound)) :
    List.Forall₂ (fun item entry => item.1 = entry.1 ∧ Exists fun result =>
        matcher.contracts.pathType? ty entry.2 = some result ∧ item.2.conforms result = true)
      bound (matcher.taken pattern value).bindings := by
  have sourced := ContractTable.sourced_of_provided fun _ _ => synthesized.provided
  have reached := matcher.reaches_taken sourced pattern counted value bound matched
  have carries := (typed.taken matcher value).carries synthesized
  rcases List.forall₂_iff_get.mp reached with ⟨count, each⟩
  apply List.forall₂_iff_get.mpr
  refine ⟨count, ?_⟩
  intro position boundInside inside
  rcases each position boundInside inside with ⟨name, projected⟩
  rcases carries _ (List.getElem_mem inside) with ⟨result, carried⟩
  rcases carried.part value constructed conforms with ⟨part, followed, _, partConforms⟩
  have same := projected.symm.trans followed
  refine ⟨name, result, carried.type, ?_⟩
  rw [Except.ok.inj same]
  exact partConforms

/-- Where alternatives agree on types, every name is bound to a value of its static
type. -/
theorem bindsStatically_of_typesAgree
    (synthesized : LoweredPattern.Synthesized registry matcher.contracts) {arm : CompiledArm}
    (coherent : arm.Coherent matcher.contracts) {ty : Ty}
    (typed : arm.pattern.HasType matcher.contracts ty)
    (agrees : arm.pattern.TypesAgree matcher.contracts ty) {value : Value}
    (constructed : value.Constructed registry) (conforms : value.conforms ty = true)
    {bound : List (Name × Value)}
    (matched : matcher.meaning arm.pattern value = .ok (some bound)) :
    matcher.BindsStatically arm ty bound := by
  have conform := bound_conforms synthesized typed coherent.counted constructed conforms matched
  have sourced := ContractTable.sourced_of_provided fun _ _ => synthesized.provided
  have distinct : (bound.map (·.1)).Nodup :=
    (coherent.bound_names_perm sourced matched).nodup_iff.mpr coherent.names_nodup
  intro entry member
  rw [coherent.bindings] at member
  -- The typed name of the entry is one of those along the alternatives taken.
  have listed := (agrees.taken_perm matcher value).mem_iff.mpr (List.mem_map_of_mem member)
  rcases List.mem_map.mp listed with ⟨other, otherMember, same⟩
  rcases Prod.mk.inj same with ⟨sameName, sameType⟩
  rcases List.forall₂_iff_get.mp conform with ⟨count, each⟩
  rcases List.getElem_of_mem otherMember with ⟨position, inside, rfl⟩
  have boundInside : position < bound.length := count ▸ inside
  rcases each position boundInside inside with ⟨name, result, found, itemConforms⟩
  refine ⟨result, bound[position].2, sameType.symm.trans found, ?_, itemConforms⟩
  apply lookup_of_mem distinct
  have pair : (entry.1, bound[position].2) = bound[position] :=
    Prod.ext (sameName.symm.trans name.symm) rfl
  exact pair ▸ List.getElem_mem boundInside

end Matcher

/-- In a match of an arm against a constructed value of the type of its site, every
name of the arm has a static type, and each bound value has the static type of its
path through the alternatives taken.  If alternatives agree on types, these are the
static types of the names, whichever alternatives were taken. -/
theorem CompiledUnit.match_binds_types {registry : Registry} (built : registry.Built)
    (unsupplied : forall ident, registry.registered? ident = none) {written : PatternUnit}
    {session : SessionId} {limits : LoweringLimits} {compiled : CompiledUnit}
    (compiles : written.compile session registry limits = .ok compiled) (runtime : Runtime)
    {index : Nat} {site : PatternSite} {lowered : CompiledSite} {ty : Ty}
    (writtenSite : written.sites[index]? = some site)
    (compiledSite : compiled.sites[index]? = some lowered)
    (scrutinee : site.scrutinee? = some ty) {arm : CompiledArm} (member : arm ∈ lowered.arms)
    {value : Value} (constructed : value.Constructed registry)
    (conforms : value.conforms ty = true) {bound : List (Name × Value)}
    (matched : ((compiled.matcher runtime).matchPattern arm.pattern value).1 = .ok (some bound)) :
    (forall entry, entry ∈ arm.bindings -> Exists fun result =>
      compiled.contracts.pathType? ty entry.2 = some result) ∧
    List.Forall₂ (fun item entry => item.1 = entry.1 ∧ Exists fun result =>
        compiled.contracts.pathType? ty entry.2 = some result ∧ item.2.conforms result = true)
      bound ((compiled.matcher runtime).taken arm.pattern value).bindings ∧
    (arm.pattern.TypesAgree compiled.contracts ty ->
      (compiled.matcher runtime).BindsStatically arm ty bound) := by
  have keys := built.keysAgree
  have synthesized : LoweredPattern.Synthesized registry (compiled.matcher runtime).contracts :=
    ⟨keys, unsupplied, PatternUnit.provision?_of_compile keys compiles⟩
  have typed : arm.pattern.HasType (compiled.matcher runtime).contracts ty :=
    PatternUnit.hasType_of_compile keys compiles writtenSite compiledSite scrutinee member
  have coherent := PatternUnit.coherent_of_compile keys compiles
    (List.mem_of_getElem? compiledSite) member
  rw [Matcher.matchPattern_eq_meaning] at matched
  refine ⟨?_, ?_, fun agrees => ?_⟩
  · intro entry entryMember
    rw [coherent.bindings] at entryMember
    rcases typed.carries synthesized entry entryMember with ⟨result, carries⟩
    exact ⟨result, carries.type⟩
  · exact Matcher.bound_conforms synthesized typed coherent.counted constructed conforms matched
  · exact Matcher.bindsStatically_of_typesAgree synthesized coherent typed agrees constructed
      conforms matched

/-- A pair of a number and a truth value, with a name for the one that is not
tested. -/
def Sample.untested : PatternUnit where
  name := "pairs"
  exports := []
  sites :=
    [{ kind := .matchArms
       scrutinee? := some (.tuple [.int, .bool])
       patterns :=
         [.anyOf
            [.tuple [.literal (.int 1), .binding xLabel],
             .tuple [.binding xLabel, .literal (.bool true)]]]
       span := Span.synthetic }]

/-- The arm of `untested`.  By its path the name is a truth value. -/
def Sample.untestedArm : CompiledArm where
  pattern :=
    .anyOf
      [.tuple [.literal (.int 1), .binding xLabel],
       .tuple [.binding xLabel, .literal (.bool true)]]
  bindings := [(xLabel, [.element 1])]

def Sample.untestedCompiled : CompiledUnit where
  session := ⟨0⟩
  name := "pairs"
  exports := []
  sites := [⟨.matchArms, Span.synthetic, [untestedArm]⟩]
  contracts := .empty

theorem Sample.compile_untested :
    untested.compile ⟨0⟩ registry .standard = .ok untestedCompiled := rfl

/-- Through the second alternative the name of a truth value is bound to a
number. -/
theorem CompiledUnit.untested_not_bindsStatically :
    Sample.registry.Built ∧ (forall ident, Sample.registry.registered? ident = none) ∧
      Sample.untested.compile ⟨0⟩ Sample.registry .standard = .ok Sample.untestedCompiled ∧
      Value.Constructed Sample.registry (.tuple [.int 5, .bool true]) ∧
      (Value.tuple [.int 5, .bool true]).conforms (.tuple [.int, .bool]) = true ∧
      ((Sample.untestedCompiled.matcher Sample.runtime).matchPattern Sample.untestedArm.pattern
        (.tuple [.int 5, .bool true])).1 = .ok (some [(Sample.xLabel, .int 5)]) ∧
      ¬ (Sample.untestedCompiled.matcher Sample.runtime).BindsStatically Sample.untestedArm
        (.tuple [.int, .bool]) [(Sample.xLabel, .int 5)] := by
  refine ⟨Sample.registry_built, Sample.registry_unsupplied, Sample.compile_untested, ?_, rfl, rfl,
    ?_⟩
  · apply Value.Constructed.tuple
    rw [List.forall_mem_cons, List.forall_mem_singleton]
    exact ⟨.int 5, .bool true⟩
  · intro statically
    rcases statically (Sample.xLabel, [.element 1]) List.mem_cons_self with
      ⟨result, item, type, found, conforms⟩
    have bool : Ty.bool = result := Option.some.inj type
    have five : Value.int 5 = item := Option.some.inj found
    rw [← bool, ← five] at conforms
    cases conforms

/-- The alternatives of `eitherWay` bind both names as numbers, in opposite orders
and through an alternation inside the second. -/
theorem CompiledUnit.eitherWay_binds_types :
    ((Sample.eitherWayCompiled.matcher Sample.runtime).matchPattern Sample.eitherWayArm.pattern
        (.tuple [.int 5, .int 7])).1 =
          .ok (some [(Sample.yLabel, .int 5), (Sample.xLabel, .int 7)]) ∧
      (Sample.eitherWayCompiled.matcher Sample.runtime).BindsStatically Sample.eitherWayArm
        (.tuple [.int, .int]) [(Sample.yLabel, .int 5), (Sample.xLabel, .int 7)] := by
  have matched : ((Sample.eitherWayCompiled.matcher Sample.runtime).matchPattern
      Sample.eitherWayArm.pattern (.tuple [.int 5, .int 7])).1 =
        .ok (some [(Sample.yLabel, .int 5), (Sample.xLabel, .int 7)]) := rfl
  have constructed : Value.Constructed Sample.registry (.tuple [.int 5, .int 7]) := by
    apply Value.Constructed.tuple
    rw [List.forall_mem_cons, List.forall_mem_singleton]
    exact ⟨.int 5, .int 7⟩
  have site : Sample.eitherWayCompiled.sites[0]? = some _ := rfl
  have types := CompiledUnit.match_binds_types Sample.registry_built Sample.registry_unsupplied
    Sample.compile_eitherWay Sample.runtime rfl site rfl List.mem_cons_self constructed rfl matched
  refine ⟨matched, types.2.2 ?_⟩
  have inner : LoweredPattern.TypesAgree .empty
      (.anyOf [.asPattern Sample.xLabel (.literal (.int 2)), .binding Sample.xLabel]) .int := by
    apply LoweredPattern.TypesAgree.anyOf
    · decide
    · rw [List.forall_mem_cons, List.forall_mem_singleton]
      exact ⟨.asPattern .literal, .binding⟩
  apply LoweredPattern.TypesAgree.anyOf
  · decide
  · rw [List.forall_mem_cons, List.forall_mem_singleton]
    exact ⟨.tuple (.cons (.asPattern .literal) (.cons .binding .nil)),
      .tuple (.cons .binding (.cons inner .nil))⟩

end StructuralProducts
