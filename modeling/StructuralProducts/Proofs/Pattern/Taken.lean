import StructuralProducts.Pattern.Projection
import StructuralProducts.Proofs.Pattern.Bindings

namespace StructuralProducts

/-!
# The alternatives that a match takes

An alternation is matched through its first alternative that is not a mismatch.
`taken` puts that alternative in the place of the alternation, at every node that
a match goes through.  What is left has no alternation on the way of the match,
so its access paths are the places where the bound values were found.

The taken pattern is related to the whole by any relation that respects the
forms of patterns, if the alternatives are related among themselves.  For equal
names this holds of every compiled pattern; equal paths are more than a compiled
pattern promises.
-/

/-! ## Taking alternatives -/

namespace Matcher

mutual

/-- The pattern with each alternation that a match goes through replaced by the
alternative it takes. -/
def taken (matcher : Matcher) (pattern : LoweredPattern) (value : Value) : LoweredPattern :=
  match pattern with
  | .wildcard => .wildcard
  | .binding name => .binding name
  | .literal literal => .literal literal
  | .tuple elements =>
      match value with
      | .tuple parts => .tuple (matcher.takenEach elements parts)
      | _ => .tuple elements
  | .deconstruct id fields =>
      match matcher.contracts.contract? id with
      | none => .deconstruct id fields
      | some contract =>
          match contract.bind matcher.runtime value with
          | .error _ => .deconstruct id fields
          | .ok parts => .deconstruct id (matcher.takenEach fields parts)
  | .anyOf alternatives => (matcher.takenAny? alternatives value).getD (.anyOf alternatives)
  | .asPattern name inner => .asPattern name (matcher.taken inner value)

/-- The same for patterns and values in pairs.  What has no partner stays. -/
def takenEach (matcher : Matcher) (patterns : List LoweredPattern) (values : List Value) :
    List LoweredPattern :=
  match patterns with
  | [] => []
  | pattern :: rest =>
      match values with
      | [] => pattern :: rest
      | value :: others => matcher.taken pattern value :: matcher.takenEach rest others

/-- The first alternative that is not a mismatch. -/
def takenAny? (matcher : Matcher) (alternatives : List LoweredPattern) (value : Value) :
    Option LoweredPattern :=
  match alternatives with
  | [] => none
  | pattern :: rest =>
      match matcher.meaning pattern value with
      | .ok none => matcher.takenAny? rest value
      | _ => some (matcher.taken pattern value)

end

variable {matcher : Matcher}

theorem exists_of_takenAny? {alternatives : List LoweredPattern} {value : Value}
    {chosen : LoweredPattern} (found : matcher.takenAny? alternatives value = some chosen) :
    Exists fun alternative => alternative ∈ alternatives ∧
      matcher.taken alternative value = chosen := by
  induction alternatives with
  | nil => simp [takenAny?] at found
  | cons pattern rest inductionHypothesis =>
      unfold takenAny? at found
      split at found
      · rcases inductionHypothesis found with ⟨alternative, member, equal⟩
        exact ⟨alternative, List.mem_cons_of_mem _ member, equal⟩
      · exact ⟨pattern, List.mem_cons_self, Option.some.inj found⟩

/-- An alternation that matches does so by its first alternative that matches. -/
theorem exists_split_of_meaningAny {alternatives : List LoweredPattern} {value : Value}
    {bound : List (Name × Value)}
    (matched : matcher.meaningAny alternatives value = .ok (some bound)) :
    Exists fun refused => Exists fun alternative => Exists fun later =>
      alternatives = refused ++ alternative :: later ∧
      (forall other, other ∈ refused -> matcher.meaning other value = .ok none) ∧
      matcher.meaning alternative value = .ok (some bound) := by
  induction alternatives with
  | nil => simp [meaningAny] at matched
  | cons pattern rest inductionHypothesis =>
      simp only [meaningAny] at matched
      rcases meant : matcher.meaning pattern value with failure | _ | front
      · rw [meant] at matched
        cases matched
      · rw [meant] at matched
        rcases inductionHypothesis matched with ⟨refused, alternative, later, rfl, before, agreed⟩
        exact ⟨pattern :: refused, alternative, later, rfl,
          List.forall_mem_cons.mpr ⟨meant, before⟩, agreed⟩
      · rw [meant] at matched
        cases matched
        exact ⟨[], pattern, rest, rfl, fun _ member => absurd member List.not_mem_nil, meant⟩

/-- The alternative that is taken is the first one that matches. -/
theorem takenAny?_append {refused later : List LoweredPattern} {alternative : LoweredPattern}
    {value : Value} {bound : List (Name × Value)}
    (mismatches : forall other, other ∈ refused -> matcher.meaning other value = .ok none)
    (matching : matcher.meaning alternative value = .ok (some bound)) :
    matcher.takenAny? (refused ++ alternative :: later) value =
      some (matcher.taken alternative value) := by
  induction refused with
  | nil => simp only [List.nil_append, takenAny?, matching]
  | cons other rest inductionHypothesis =>
      have here := mismatches other List.mem_cons_self
      simp only [List.cons_append, takenAny?, here]
      exact inductionHypothesis fun later member => mismatches later (List.mem_cons_of_mem _ member)

/-- An alternation that matches does so by an alternative, which is the one that
is taken. -/
theorem exists_of_meaningAny {alternatives : List LoweredPattern} {value : Value}
    {bound : List (Name × Value)}
    (matched : matcher.meaningAny alternatives value = .ok (some bound)) :
    Exists fun alternative => alternative ∈ alternatives ∧
      matcher.meaning alternative value = .ok (some bound) ∧
      matcher.takenAny? alternatives value = some (matcher.taken alternative value) := by
  rcases exists_split_of_meaningAny matched with
    ⟨refused, alternative, later, rfl, mismatches, matching⟩
  exact ⟨alternative, List.mem_append_right _ List.mem_cons_self, matching,
    takenAny?_append mismatches matching⟩

end Matcher

/-! ## Relations that the taken pattern keeps -/

namespace LoweredPattern

/-- A relation that respects the forms of patterns.  An alternation counts as its
first alternative. -/
structure Congruence (related : LoweredPattern -> LoweredPattern -> Prop) : Prop where
  refl : forall pattern, related pattern pattern
  trans : forall {first second third}, related first second -> related second third ->
    related first third
  tuple : forall {first second}, List.Forall₂ related first second ->
    related (.tuple first) (.tuple second)
  deconstruct : forall {id first second}, List.Forall₂ related first second ->
    related (.deconstruct id first) (.deconstruct id second)
  anyOf : forall {first rest}, related first (.anyOf (first :: rest))
  asPattern : forall {name first second}, related first second ->
    related (.asPattern name first) (.asPattern name second)

variable {related : LoweredPattern -> LoweredPattern -> Prop} {matcher : Matcher}

theorem Congruence.takenEach (congruence : Congruence related) {patterns : List LoweredPattern}
    (each : forall pattern, pattern ∈ patterns -> forall value,
      related (matcher.taken pattern value) pattern) (values : List Value) :
    List.Forall₂ related (matcher.takenEach patterns values) patterns := by
  induction patterns generalizing values with
  | nil =>
      simp only [Matcher.takenEach]
      exact .nil
  | cons pattern rest inductionHypothesis =>
      cases values with
      | nil =>
          simp only [Matcher.takenEach]
          exact List.forall₂_same.mpr fun other _ => congruence.refl other
      | cons value others =>
          simp only [Matcher.takenEach]
          exact .cons (each pattern List.mem_cons_self value)
            (inductionHypothesis (fun other member => each other (List.mem_cons_of_mem _ member))
              others)

theorem Congruence.taken (congruence : Congruence related) (matcher : Matcher)
    (pattern : LoweredPattern) (alike : pattern.Everywhere (Alike related)) (value : Value) :
    related (matcher.taken pattern value) pattern := by
  induction pattern using LoweredPattern.ind generalizing value with
  | wildcard => exact congruence.refl _
  | binding name => exact congruence.refl _
  | literal literal => exact congruence.refl _
  | tuple elements inductionHypothesis =>
      cases value with
      | tuple parts =>
          simp only [Matcher.taken]
          exact congruence.tuple (congruence.takenEach
            (fun element member => inductionHypothesis element member (alike.parts element member))
            parts)
      | _ =>
          simp only [Matcher.taken]
          exact congruence.refl _
  | deconstruct id fields inductionHypothesis =>
      simp only [Matcher.taken]
      split
      · exact congruence.refl _
      · split
        · exact congruence.refl _
        · next parts _ =>
            exact congruence.deconstruct (congruence.takenEach
              (fun field member => inductionHypothesis field member (alike.parts field member))
              parts)
  | anyOf alternatives inductionHypothesis =>
      simp only [Matcher.taken]
      cases found : matcher.takenAny? alternatives value with
      | none => exact congruence.refl _
      | some chosen =>
          rcases Matcher.exists_of_takenAny? found with ⟨alternative, member, rfl⟩
          have kept := inductionHypothesis alternative member (alike.parts alternative member) value
          cases alternatives with
          | nil => cases member
          | cons first rest =>
              have same := alike.here (first :: rest) rfl alternative member first
                List.mem_cons_self
              exact congruence.trans (congruence.trans kept same) congruence.anyOf
  | asPattern name inner inductionHypothesis =>
      simp only [Matcher.taken]
      exact congruence.asPattern
        (inductionHypothesis (alike.parts inner List.mem_cons_self) value)

theorem allBoundNames_perm {first second : List LoweredPattern}
    (each : List.Forall₂ SameNames first second) :
    (allBoundNames first).Perm (allBoundNames second) := by
  induction each with
  | nil => exact .refl _
  | cons head tail inductionHypothesis => exact head.append inductionHypothesis

theorem sameNames_congruence : Congruence SameNames where
  refl := fun _ => .refl _
  trans := fun earlier later => List.Perm.trans earlier later
  tuple := allBoundNames_perm
  deconstruct := allBoundNames_perm
  anyOf := .refl _
  asPattern := fun same => List.Perm.cons _ same

theorem partBindings_perm (step : Nat -> AccessStep) {first second : List LoweredPattern}
    (each : List.Forall₂ SameBindings first second) (index : Nat) :
    (partBindings step first index).Perm (partBindings step second index) := by
  induction each generalizing index with
  | nil => exact .refl _
  | cons head tail inductionHypothesis =>
      exact (List.Perm.map _ head).append (inductionHypothesis (index + 1))

theorem sameBindings_congruence : Congruence SameBindings where
  refl := fun _ => .refl _
  trans := fun earlier later => List.Perm.trans earlier later
  tuple := fun each => by
    rw [SameBindings, bindings_tuple, bindings_tuple]
    exact partBindings_perm .element each 0
  deconstruct := fun each => by
    rw [SameBindings, bindings_deconstruct, bindings_deconstruct]
    exact partBindings_perm _ each 0
  anyOf := .refl _
  asPattern := fun same => List.Perm.cons _ same

end LoweredPattern

/-! ## Paths of the taken pattern -/

/-- Where a table has a descriptor, the contract was synthesized from it. -/
def ContractTable.Sourced (table : ContractTable) : Prop :=
  forall id entry, table.entryAt? id = some entry ->
    forall descriptor, entry.descriptor? = some descriptor ->
      entry.contract = .synthesized descriptor

/-- The contracts that a registry provides have no other descriptors. -/
theorem ContractTable.sourced_of_provided {registry : Registry} {table : ContractTable}
    (provided : forall id entry, table.entryAt? id = some entry ->
      registry.provision? entry.contract.ident = some entry) : table.Sourced := by
  intro id entry present descriptor described
  rcases Registry.provision?_cases (provided id entry present) with
    ⟨contract, _, rfl⟩ | ⟨decl, source, _, _, _, rfl⟩
  · cases described
  · cases described
    rfl

namespace Matcher

variable {matcher : Matcher}

/-- The path of an entry leads from a value to what is bound to the name of the
entry. -/
def Reaches (matcher : Matcher) (value : Value) (bound : Name × Value)
    (entry : Name × AccessPath) : Prop :=
  bound.1 = entry.1 ∧ matcher.project value entry.2 = .ok bound.2

theorem component_of_bind (sourced : matcher.contracts.Sourced) {id : ContractId}
    {contract : Contract} {value : Value} {parts : List Value}
    (found : matcher.contracts.contract? id = some contract)
    (bound : contract.bind matcher.runtime value = .ok parts) {position : Nat} {part : Value}
    (atPosition : parts[position]? = some part) :
    matcher.component id value position = .ok part := by
  rcases Option.map_eq_some_iff.mp found with ⟨entry, present, rfl⟩
  unfold component
  simp only [ContractTable.descriptor?, ContractTable.contract?, present, Option.bind_some,
    Option.map_some]
  cases described : entry.descriptor? with
  | some descriptor =>
      rw [sourced id entry present descriptor described, Contract.bind_synthesized] at bound
      exact ((Descriptor.components_eq_ok_iff parts).mp bound).2 position part atPosition
  | none => simp only [bound, atPosition]

/-- A part that a step leads to is behind that step for every path. -/
theorem reaches_behind {value part : Value} {step : AccessStep}
    (stepped : matcher.step value step = .ok part) {bound : List (Name × Value)}
    {entries : List (Name × AccessPath)}
    (reached : List.Forall₂ (matcher.Reaches part) bound entries) :
    List.Forall₂ (matcher.Reaches value) bound (entries.map (LoweredPattern.behind step)) := by
  rw [List.forall₂_map_right_iff]
  apply reached.imp
  rintro binding entry ⟨name, projected⟩
  refine ⟨name, ?_⟩
  simp only [LoweredPattern.behind, project, stepped]
  exact projected

theorem reaches_takenEach {patterns : List LoweredPattern} {values : List Value}
    (each : forall pattern, pattern ∈ patterns -> forall value bound,
      matcher.meaning pattern value = .ok (some bound) ->
        List.Forall₂ (matcher.Reaches value) bound (matcher.taken pattern value).bindings)
    (count : patterns.length = values.length) (whole : Value) (step : Nat -> AccessStep)
    (index : Nat)
    (stepped : forall (position : Nat) (value : Value), values[position]? = some value ->
      matcher.step whole (step (index + position)) = .ok value)
    {bound : List (Name × Value)}
    (matched : matcher.meaningEach patterns values = .ok (some bound)) :
    List.Forall₂ (matcher.Reaches whole) bound
      (LoweredPattern.partBindings step (matcher.takenEach patterns values) index) := by
  induction patterns generalizing values index bound with
  | nil =>
      simp only [meaningEach] at matched
      cases matched
      simp only [takenEach]
      exact .nil
  | cons pattern rest inductionHypothesis =>
      cases values with
      | nil => cases count
      | cons value others =>
          simp only [meaningEach] at matched
          rcases (MatchOutcome.followedBy_eq_some_iff _ _ _).mp matched with
            ⟨front, back, first, later, rfl⟩
          have firstReached := each pattern List.mem_cons_self value front first
          have laterReached := inductionHypothesis
            (fun other member => each other (List.mem_cons_of_mem _ member))
            (Nat.succ.inj count) (index + 1)
            (fun position value found => by
              rw [Nat.add_assoc, Nat.add_comm 1]
              exact stepped (position + 1) value found) later
          simp only [takenEach]
          exact List.rel_append (reaches_behind (stepped 0 value rfl) firstReached) laterReached

/-- What a match binds is reached by the paths of the taken pattern, name by name
and in the same order. -/
theorem reaches_taken (sourced : matcher.contracts.Sourced) (pattern : LoweredPattern)
    (counted : pattern.Everywhere (LoweredPattern.Counted matcher.contracts)) (value : Value)
    (bound : List (Name × Value)) (matched : matcher.meaning pattern value = .ok (some bound)) :
    List.Forall₂ (matcher.Reaches value) bound (matcher.taken pattern value).bindings := by
  induction pattern using LoweredPattern.ind generalizing value bound with
  | wildcard =>
      simp only [meaning] at matched
      cases matched
      exact .nil
  | binding name =>
      simp only [meaning] at matched
      cases matched
      exact .cons ⟨rfl, rfl⟩ .nil
  | literal literal =>
      simp only [meaning] at matched
      split at matched
      · cases matched
        exact .nil
      · cases matched
  | tuple elements inductionHypothesis =>
      simp only [meaning] at matched
      split at matched
      · next parts =>
          split at matched
          · next count =>
              simp only [taken]
              rw [LoweredPattern.bindings_tuple]
              refine reaches_takenEach
                (fun element member => inductionHypothesis element member
                  (counted.parts element member))
                count (.tuple parts) .element 0 ?_ matched
              intro position part found
              simp only [step, Nat.zero_add, found]
          · cases matched
      · cases matched
  | deconstruct id fields inductionHypothesis =>
      rcases counted.here id fields rfl with ⟨contract, found, count⟩
      simp only [meaning, found] at matched
      split at matched
      · cases matched
      · split at matched
        · cases matched
        · next parts bindParts =>
            simp only [taken, found, bindParts]
            rw [LoweredPattern.bindings_deconstruct]
            have partCount := Contract.length_of_bind bindParts
            refine reaches_takenEach
              (fun field member => inductionHypothesis field member (counted.parts field member))
              (count.trans partCount.symm) value (.component id) 0 ?_ matched
            intro position part atPosition
            rw [Nat.zero_add]
            exact component_of_bind sourced found bindParts atPosition
  | anyOf alternatives inductionHypothesis =>
      simp only [meaning] at matched
      rcases exists_of_meaningAny matched with ⟨alternative, member, agreed, found⟩
      simp only [taken, found, Option.getD_some]
      exact inductionHypothesis alternative member (counted.parts alternative member) value bound
        agreed
  | asPattern name inner inductionHypothesis =>
      simp only [meaning] at matched
      rcases (MatchOutcome.followedBy_eq_some_iff _ _ _).mp matched with
        ⟨front, back, first, later, rfl⟩
      cases first
      simp only [taken]
      exact .cons ⟨rfl, rfl⟩
        (inductionHypothesis (counted.parts inner List.mem_cons_self) value back later)

end Matcher

/-! ## Arms of compiled units -/

/-- What an arm of a compiled unit satisfies, whatever value it is matched
against. -/
structure CompiledArm.Coherent (table : ContractTable) (arm : CompiledArm) : Prop where
  bindings : arm.bindings = arm.pattern.bindings
  counted : arm.pattern.Everywhere (LoweredPattern.Counted table)
  alike : arm.pattern.Everywhere (LoweredPattern.Alike LoweredPattern.SameNames)
  distinct : arm.pattern.boundNames.Nodup

namespace PatternUnit

variable {registry : Registry} {written : PatternUnit} {session : SessionId}
  {limits : LoweringLimits} {compiled : CompiledUnit}

theorem sourced_of_compile (keys : registry.KeysAgree)
    (compiles : written.compile session registry limits = .ok compiled) :
    compiled.contracts.Sourced :=
  ContractTable.sourced_of_provided fun _ _ => provision?_of_compile keys compiles

theorem coherent_of_compile (keys : registry.KeysAgree)
    (compiles : written.compile session registry limits = .ok compiled) {site : CompiledSite}
    (siteMember : site ∈ compiled.sites) {arm : CompiledArm} (member : arm ∈ site.arms) :
    arm.Coherent compiled.contracts := by
  rcases List.getElem?_of_mem siteMember with ⟨index, compiledSite⟩
  rcases exists_image_of_arm keys compiles compiledSite member with
    ⟨_, pattern, _, wellFormed, image, bindings⟩
  exact
    { bindings
      counted := image.everywhere (fun _ _ => Pattern.Image.counted) pattern wellFormed.nodes
      alike := image.everywhere (fun _ _ => Pattern.Image.alike_names) pattern wellFormed.nodes
      distinct := image.boundNames_eq.symm ▸ wellFormed.names }

end PatternUnit
end StructuralProducts
