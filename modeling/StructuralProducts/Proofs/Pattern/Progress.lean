import StructuralProducts.Proofs.Pattern.Meaning
import StructuralProducts.Proofs.Pattern.Typing

namespace StructuralProducts

/-!
# Matching well-typed values

The run-time test whether a value inhabits a type looks only at the identity of a
record.  A record with too few fields passes it, and taking that record apart
fails.  Values that were built by the constructors of their types are different:
all their components inhabit the component types, at every depth.

For such values the meaning of a pattern of their type is never a failure.  If
the pattern is irrefutable, the meaning is a match.  Both are proved together,
since a tuple or a record is matched component by component and an alternation
is tried until an alternative matches.
-/

/-! ## Values built by constructors -/

/-- The value is built from primitive values, lists, tuples, options and records
that native descriptors of declared products constructed. -/
inductive Value.Constructed (registry : Registry) : Value -> Prop where
  | unit : Constructed registry .unit
  | int (number : Int64) : Constructed registry (.int number)
  | float (number : Binary64) : Constructed registry (.float number)
  | bool (truth : Bool) : Constructed registry (.bool truth)
  | str (text : String) : Constructed registry (.str text)
  | char (character : Char) : Constructed registry (.char character)
  | none : Constructed registry .none
  | some {content : Value} (built : Constructed registry content) :
      Constructed registry (.some content)
  | list {elements : List Value}
      (each : forall element, element ∈ elements -> Constructed registry element) :
      Constructed registry (.list elements)
  | tuple {elements : List Value}
      (each : forall element, element ∈ elements -> Constructed registry element) :
      Constructed registry (.tuple elements)
  | construct {ident : TypeId} {decl : TypeDecl} {shape : ProductShape} {interner : Interner}
      {descriptor : Descriptor} {runtime : Runtime} {arguments : List Value} {value : Value}
      (declared : registry.decl? ident = Option.some decl)
      (recognized : ProductShape.recognize decl = .ok shape)
      (made : shape.descriptor interner = .ok descriptor)
      (each : forall argument, argument ∈ arguments -> Constructed registry argument)
      (constructed : descriptor.construct runtime arguments = .ok value) :
      Constructed registry value

namespace Value.Constructed

variable {registry : Registry}

theorem elements {parts : List Value} (constructed : Constructed registry (.tuple parts)) :
    forall part, part ∈ parts -> Constructed registry part := by
  generalize same : Value.tuple parts = value at constructed
  cases constructed with
  | tuple each =>
      cases same
      exact each
  | construct declared recognized made each built =>
      rw [((Descriptor.construct_native_iff made _ _ _).mp built).2] at same
      cases same
  | _ => cases same

/-- A constructed record is an instance of a declared product whose components
inhabit the component types and are constructed. -/
theorem fields (keys : registry.KeysAgree) {ident : TypeId} {parts : List Value}
    (constructed : Constructed registry (.record ident parts)) :
    Exists fun decl => Exists fun shape => registry.decl? ident = Option.some decl ∧
      ProductShape.recognize decl = .ok shape ∧ eachConforms parts shape.types = true ∧
      forall part, part ∈ parts -> Constructed registry part := by
  generalize same : Value.record ident parts = value at constructed
  cases constructed with
  | @construct declaredIdent decl shape _ _ _ _ _ declared recognized made each built =>
      rcases (Descriptor.construct_native_iff made _ _ _).mp built with ⟨conform, rfl⟩
      cases same
      have ident_eq : shape.ident = declaredIdent := by
        rw [((ProductShape.recognize_eq_ok_iff decl shape).mp recognized).2]
        exact keys.decl declared
      rw [ident_eq]
      exact ⟨decl, shape, declared, recognized, conform, each⟩
  | _ => cases same

end Value.Constructed

theorem Value.exists_of_conforms_tuple {value : Value} {types : List Ty}
    (conforms : value.conforms (.tuple types) = true) :
    Exists fun elements => value = .tuple elements ∧ eachConforms elements types = true := by
  cases value with
  | tuple elements => exact ⟨elements, rfl, conforms⟩
  | _ => cases conforms

theorem Value.exists_of_conforms_named {value : Value} {ident : TypeId}
    (conforms : value.conforms (.named ident) = true) :
    Exists fun fields => value = .record ident fields := by
  cases value with
  | record other fields => exact ⟨fields, by rw [eq_of_beq conforms]⟩
  | _ => cases conforms

/-! ## Outcomes that proceed -/

/-- Matching did not fail, and it gave bindings if the pattern is irrefutable. -/
structure MatchOutcome.Proceeds (outcome : MatchOutcome) (irrefutable : Bool) : Prop where
  sound : forall failure, outcome ≠ .error failure
  total : irrefutable = true -> Exists fun bound => outcome = .ok (some bound)

namespace MatchOutcome

theorem proceeds_matched (bound : List (Name × Value)) (irrefutable : Bool) :
    Proceeds (.ok (some bound)) irrefutable :=
  ⟨nofun, fun _ => ⟨bound, rfl⟩⟩

theorem proceeds_noMatch : Proceeds (.ok none) false :=
  ⟨nofun, nofun⟩

theorem Proceeds.followedBy {first second : MatchOutcome} {front back : Bool}
    (earlier : first.Proceeds front) (later : second.Proceeds back) :
    (first.followedBy second).Proceeds (front && back) := by
  rcases first with failure | _ | bound
  · exact absurd rfl (earlier.sound failure)
  · refine ⟨nofun, ?_⟩
    intro both
    rcases earlier.total (Bool.and_eq_true_iff.mp both).1 with ⟨bound, equal⟩
    cases equal
  · rcases second with failure | _ | others
    · exact absurd rfl (later.sound failure)
    · refine ⟨nofun, ?_⟩
      intro both
      rcases later.total (Bool.and_eq_true_iff.mp both).2 with ⟨others, equal⟩
      cases equal
    · exact proceeds_matched (bound ++ others) _

theorem Proceeds.orElse {first second : MatchOutcome} {front back : Bool}
    (earlier : first.Proceeds front) (later : second.Proceeds back) :
    (first.orElse second).Proceeds (front || back) := by
  rcases first with failure | _ | bound
  · exact absurd rfl (earlier.sound failure)
  · refine ⟨later.sound, ?_⟩
    intro either
    rcases Bool.or_eq_true_iff.mp either with irrefutable | irrefutable
    · rcases earlier.total irrefutable with ⟨bound, equal⟩
      cases equal
    · exact later.total irrefutable
  · exact proceeds_matched bound _

end MatchOutcome

namespace Matcher

variable {matcher : Matcher}

/-- Matching the pattern against the value proceeds. -/
def Proceeds (matcher : Matcher) (pattern : LoweredPattern) (value : Value) : Prop :=
  (matcher.meaning pattern value).Proceeds pattern.isIrrefutable

theorem meaningEach_proceeds {patterns : List LoweredPattern} {values : List Value}
    (each : List.Forall₂ matcher.Proceeds patterns values) :
    (matcher.meaningEach patterns values).Proceeds (LoweredPattern.areIrrefutable patterns) := by
  induction each with
  | nil =>
      simp only [meaningEach]
      exact MatchOutcome.proceeds_matched [] _
  | cons head tail inductionHypothesis =>
      simp only [meaningEach]
      exact head.followedBy inductionHypothesis

theorem meaningAny_proceeds {alternatives : List LoweredPattern} {value : Value}
    (each : forall alternative, alternative ∈ alternatives ->
      matcher.Proceeds alternative value) :
    (matcher.meaningAny alternatives value).Proceeds
      (LoweredPattern.someIrrefutable alternatives) := by
  induction alternatives with
  | nil =>
      simp only [meaningAny]
      exact MatchOutcome.proceeds_noMatch
  | cons alternative rest inductionHypothesis =>
      have later := inductionHypothesis fun other member =>
        each other (List.mem_cons_of_mem _ member)
      have first := each alternative List.mem_cons_self
      simp only [meaningAny]
      exact first.orElse later

end Matcher

/-! ## Progress -/

namespace LoweredPattern

variable {registry : Registry} {matcher : Matcher}

/-- Every contract of a table is the one that a registry provides, and none was
registered. -/
structure Synthesized (registry : Registry) (table : ContractTable) : Prop where
  keys : registry.KeysAgree
  unsupplied : forall ident, registry.registered? ident = none
  provided : forall {id entry}, table.entryAt? id = some entry ->
    registry.provision? entry.contract.ident = some entry

/-- The contract of a table takes a constructed record of its type apart into all
fields, which inhabit the component types and are constructed. -/
theorem Synthesized.bind_record {table : ContractTable} (synthesized : Synthesized registry table)
    {id : ContractId} {entry : ContractEntry} (present : table.entryAt? id = some entry)
    (runtime : Runtime) {fields : List Value}
    (constructed : Value.Constructed registry (.record entry.contract.ident fields)) :
    entry.contract.bind runtime (.record entry.contract.ident fields) = .ok fields ∧
      Value.eachConforms fields entry.types = true ∧
      forall field, field ∈ fields -> Value.Constructed registry field := by
  have provided := synthesized.provided present
  generalize known : entry.contract.ident = ident at provided constructed
  rcases Registry.provision?_cases provided with
    ⟨contract, found, _⟩ | ⟨decl, descriptor, _, declared, made, rfl⟩
  · rw [synthesized.unsupplied ident] at found
    cases found
  · rcases Contract.of_synthesize made with ⟨shape, recognized, described⟩
    rcases constructed.fields synthesized.keys with
      ⟨other, otherShape, otherDeclared, otherRecognized, conform, each⟩
    rw [declared] at otherDeclared
    cases otherDeclared
    rw [recognized] at otherRecognized
    cases otherRecognized
    have parts := Descriptor.make_of_descriptor described
    have types_eq : descriptor.types = shape.types := parts.types
    have ident_eq : shape.ident = ident := parts.ident.symm.trans known
    have count := Value.length_of_eachConforms conform
    refine ⟨?_, ?_, each⟩
    · have all := Descriptor.components_native described runtime fields (Nat.le_of_eq count.symm)
      rw [Contract.bind_synthesized, ← ident_eq, all, ← count, List.take_length]
    · rw [← types_eq] at conform
      exact conform

mutual

/-- Matching a pattern of the type of a constructed value proceeds. -/
theorem HasType.proceeds (synthesized : Synthesized registry matcher.contracts) {ty : Ty}
    {pattern : LoweredPattern} {value : Value} :
    HasType matcher.contracts pattern ty -> value.Constructed registry ->
      value.conforms ty = true -> matcher.Proceeds pattern value
  | .wildcard, _, _ => by
      simp only [Matcher.Proceeds, Matcher.meaning]
      exact MatchOutcome.proceeds_matched [] _
  | .binding, _, _ => by
      simp only [Matcher.Proceeds, Matcher.meaning]
      exact MatchOutcome.proceeds_matched _ _
  | .literal, _, _ => by
      simp only [Matcher.Proceeds, Matcher.meaning]
      split
      · exact MatchOutcome.proceeds_matched [] _
      · exact MatchOutcome.proceeds_noMatch
  | .tuple each, constructed, conforms => by
      rcases Value.exists_of_conforms_tuple conforms with ⟨elements, rfl, conform⟩
      have pairs := each.proceed synthesized constructed.elements conform
      simp only [Matcher.Proceeds, Matcher.meaning, pairs.length_eq, if_true]
      exact Matcher.meaningEach_proceeds pairs
  | .deconstruct present each, constructed, conforms => by
      rcases Value.exists_of_conforms_named conforms with ⟨fields, rfl⟩
      rcases synthesized.bind_record present matcher.runtime constructed with
        ⟨bound, conform, parts⟩
      have pairs := each.proceed synthesized parts conform
      simp only [Matcher.Proceeds, Matcher.meaning, ContractTable.contract?, present,
        Option.map_some, Matcher.isForeignRecord, bne_self_eq_false, bound]
      exact Matcher.meaningEach_proceeds pairs
  | .anyOf each, constructed, conforms => by
      simp only [Matcher.Proceeds, Matcher.meaning]
      exact Matcher.meaningAny_proceeds fun alternative member =>
        (each alternative member).proceeds synthesized constructed conforms
  | .asPattern typed, constructed, conforms => by
      have inner := typed.proceeds synthesized constructed conforms
      simp only [Matcher.Proceeds, Matcher.meaning]
      exact (MatchOutcome.proceeds_matched _ true).followedBy inner

theorem HaveTypes.proceed (synthesized : Synthesized registry matcher.contracts)
    {types : List Ty} {patterns : List LoweredPattern} {values : List Value} :
    HaveTypes matcher.contracts patterns types ->
      (forall value, value ∈ values -> value.Constructed registry) ->
      Value.eachConforms values types = true -> List.Forall₂ matcher.Proceeds patterns values
  | .nil, _, conform => by
      cases values with
      | nil => exact .nil
      | cons value others => cases conform
  | .cons head tail, constructed, conform => by
      cases values with
      | nil => cases conform
      | cons value others =>
          rcases Bool.and_eq_true_iff.mp conform with ⟨first, rest⟩
          exact .cons (head.proceeds synthesized (constructed value List.mem_cons_self) first)
            (tail.proceed synthesized
              (fun other member => constructed other (List.mem_cons_of_mem _ member)) rest)

end

end LoweredPattern

namespace Matcher

variable {matcher : Matcher}

/-- Selecting among arms that proceed gives no error, and an arm if one of them is
irrefutable. -/
theorem selectArm_of_proceeds {arms : List CompiledArm} {value : Value}
    (each : forall arm, arm ∈ arms -> matcher.Proceeds arm.pattern value) (index : Nat) :
    (forall failure, (matcher.selectArm index arms value).1 ≠ .error failure) ∧
      ((Exists fun arm => arm ∈ arms ∧ arm.pattern.isIrrefutable = true) ->
        Exists fun selected => (matcher.selectArm index arms value).1 = .ok (some selected)) := by
  induction arms generalizing index with
  | nil =>
      refine ⟨nofun, ?_⟩
      rintro ⟨arm, member, _⟩
      cases member
  | cons arm rest inductionHypothesis =>
      have first := each arm List.mem_cons_self
      rw [Proceeds, ← matchPattern_eq_meaning] at first
      have later := inductionHypothesis
        (fun other member => each other (List.mem_cons_of_mem _ member)) (index + 1)
      unfold selectArm
      rcases matched : matcher.matchPattern arm.pattern value with ⟨outcome, calls⟩
      rw [matched] at first
      rcases outcome with failure | _ | bindings
      · exact absurd rfl (first.sound failure)
      · refine ⟨later.1, ?_⟩
        rintro ⟨other, member, irrefutable⟩
        rcases List.mem_cons.mp member with rfl | behind
        · rcases first.total irrefutable with ⟨bindings, equal⟩
          cases equal
        · exact later.2 ⟨other, behind, irrefutable⟩
      · exact ⟨nofun, fun _ => ⟨(index, bindings), rfl⟩⟩

end Matcher

/-- Matching at a site with a scrutinee type makes progress on the constructed
values of that type: no arm gives an error, irrefutable arms match, and a site
with an irrefutable arm selects one. -/
theorem CompiledUnit.matching_progresses {registry : Registry} (built : registry.Built)
    (unsupplied : forall ident, registry.registered? ident = none) {written : PatternUnit}
    {session : SessionId} {limits : LoweringLimits} {compiled : CompiledUnit}
    (compiles : written.compile session registry limits = .ok compiled) (runtime : Runtime)
    {index : Nat} {site : PatternSite} {lowered : CompiledSite} {ty : Ty}
    (writtenSite : written.sites[index]? = some site)
    (compiledSite : compiled.sites[index]? = some lowered)
    (scrutinee : site.scrutinee? = some ty) {value : Value}
    (constructed : value.Constructed registry) (conforms : value.conforms ty = true) :
    (forall arm, arm ∈ lowered.arms ->
      (forall failure,
        ((compiled.matcher runtime).matchPattern arm.pattern value).1 ≠ .error failure) ∧
      (arm.pattern.isIrrefutable = true -> Exists fun bindings =>
        ((compiled.matcher runtime).matchPattern arm.pattern value).1 = .ok (some bindings))) ∧
    (forall failure, ((compiled.matcher runtime).matchSite lowered value).1 ≠ .error failure) ∧
    ((Exists fun arm => arm ∈ lowered.arms ∧ arm.pattern.isIrrefutable = true) ->
      Exists fun selected =>
        ((compiled.matcher runtime).matchSite lowered value).1 = .ok (some selected)) := by
  have keys := built.keysAgree
  have synthesized : LoweredPattern.Synthesized registry compiled.contracts :=
    ⟨keys, unsupplied, PatternUnit.provision?_of_compile keys compiles⟩
  have proceeds : forall arm, arm ∈ lowered.arms ->
      (compiled.matcher runtime).Proceeds arm.pattern value := by
    intro arm member
    have typed := PatternUnit.hasType_of_compile keys compiles writtenSite compiledSite scrutinee
      member
    exact typed.proceeds synthesized constructed conforms
  refine ⟨?_, Matcher.selectArm_of_proceeds proceeds 0⟩
  intro arm member
  rw [Matcher.matchPattern_eq_meaning]
  exact ⟨(proceeds arm member).sound, (proceeds arm member).total⟩

/-- The point with the components three and four. -/
def Sample.threeFour : Value := .record point [.int 3, .int 4]

theorem Sample.threeFour_constructed : Value.Constructed registry threeFour := by
  have recognized : ProductShape.recognize pointDecl = .ok (.ofDecl pointDecl) := rfl
  rcases ProductShape.exists_descriptor recognized interner with ⟨descriptor, made⟩
  have constructed : descriptor.construct runtime [.int 3, .int 4] = .ok threeFour :=
    (Descriptor.construct_native_iff made runtime _ _).mpr ⟨rfl, rfl⟩
  have declared : registry.decl? point = some pointDecl := rfl
  refine .construct declared recognized made ?_ constructed
  intro argument member
  simp only [List.mem_cons, List.not_mem_nil, or_false] at member
  rcases member with rfl | rfl
  · exact .int 3
  · exact .int 4

theorem CompiledUnit.pointMatch_progresses : Exists fun compiled => Exists fun site =>
    Exists fun selected =>
      Sample.pointMatch.compile ⟨0⟩ Sample.registry .standard = .ok compiled ∧
      compiled.sites[0]? = some site ∧
      ((compiled.matcher Sample.runtime).matchSite site Sample.threeFour).1 = .ok (some selected) := by
  rcases Sample.exists_compile_pointMatch with ⟨compiled, compiles, irrefutable⟩
  rcases List.map_eq_singleton_iff.mp irrefutable with ⟨site, sites, arms⟩
  have compiledSite : compiled.sites[0]? = some site := by rw [sites]; rfl
  have conforms : Sample.threeFour.conforms (.named Sample.point) = true := by decide
  have progresses := CompiledUnit.matching_progresses Sample.registry_built
    Sample.registry_unsupplied compiles Sample.runtime rfl compiledSite rfl
    Sample.threeFour_constructed conforms
  have someArm : Exists fun arm => arm ∈ site.arms ∧ arm.pattern.isIrrefutable = true := by
    have member : true ∈ site.arms.map (·.pattern.isIrrefutable) := by
      rw [arms]
      exact List.mem_cons_self
    exact List.mem_map.mp member
  rcases progresses.2.2 someArm with ⟨selected, found⟩
  exact ⟨compiled, site, selected, compiles, compiledSite, found⟩

end StructuralProducts
