import StructuralProducts.Proofs.Pattern.Progress
import StructuralProducts.Proofs.Pattern.Taken

namespace StructuralProducts

/-!
# Types of access paths

The static type of what a path leads to is found without a value: an element step
goes from a tuple type to the type of the element, and a component step to the
component type of the contract that it names.

From a type whose values are matched by a pattern, every path of the pattern has
a static type.  Following the path from a constructed value of the first type
never fails, and it leads to a constructed value of the static type.  One step is
looked at for each kind of step; a path then carries values as its steps do.
-/

namespace ContractTable

/-- The static type of the part that one step leads to. -/
def stepType? (table : ContractTable) (ty : Ty) : AccessStep -> Option Ty
  | .element index => Ty.elementType? (some ty) index
  | .component id index => (table.componentTypes? id).bind (·[index]?)

/-- The static type of what a path leads to. -/
def pathType? (table : ContractTable) (ty : Ty) : AccessPath -> Option Ty
  | [] => some ty
  | step :: rest => (table.stepType? ty step).bind (table.pathType? · rest)

end ContractTable

namespace Matcher

variable {matcher : Matcher} {registry : Registry}

/-! ## Steps and paths that carry constructed values -/

/-- A step leads from the constructed values of a type to constructed values of
its static type. -/
structure StepCarries (matcher : Matcher) (registry : Registry) (ty : Ty) (step : AccessStep)
    (result : Ty) : Prop where
  type : matcher.contracts.stepType? ty step = some result
  part : forall value, value.Constructed registry -> value.conforms ty = true ->
    Exists fun part => matcher.step value step = .ok part ∧ part.Constructed registry ∧
      part.conforms result = true

/-- A path leads from the constructed values of a type to constructed values of its
static type. -/
structure Carries (matcher : Matcher) (registry : Registry) (ty : Ty) (path : AccessPath)
    (result : Ty) : Prop where
  type : matcher.contracts.pathType? ty path = some result
  part : forall value, value.Constructed registry -> value.conforms ty = true ->
    Exists fun part => matcher.project value path = .ok part ∧ part.Constructed registry ∧
      part.conforms result = true

theorem carries_nil (ty : Ty) : matcher.Carries registry ty [] ty :=
  ⟨rfl, fun value constructed conforms => ⟨value, rfl, constructed, conforms⟩⟩

theorem StepCarries.cons {ty middle result : Ty} {step : AccessStep} {rest : AccessPath}
    (first : matcher.StepCarries registry ty step middle)
    (later : matcher.Carries registry middle rest result) :
    matcher.Carries registry ty (step :: rest) result where
  type := by rw [ContractTable.pathType?, first.type, Option.bind_some, later.type]
  part := by
    intro value constructed conforms
    rcases first.part value constructed conforms with ⟨part, stepped, partConstructed, partConforms⟩
    rcases later.part part partConstructed partConforms with ⟨last, projected, lastIs⟩
    refine ⟨last, ?_, lastIs⟩
    simp only [project, stepped, projected]

theorem exists_conforms_at {values : List Value} {types : List Ty}
    (conform : Value.eachConforms values types = true) {index : Nat} {ty : Ty}
    (typed : types[index]? = some ty) :
    Exists fun value => values[index]? = some value ∧ value.conforms ty = true := by
  rcases (Value.eachConforms_iff_getElem? values types).mp conform with ⟨count, each⟩
  have inside : index < values.length := by
    rw [count]
    exact (List.getElem?_eq_some_iff.mp typed).1
  have present := List.getElem?_eq_getElem inside
  exact ⟨values[index], present, each index _ ty present typed⟩

theorem stepCarries_element {types : List Ty} {index : Nat} {ty : Ty}
    (typed : types[index]? = some ty) :
    matcher.StepCarries registry (.tuple types) (.element index) ty where
  type := typed
  part := by
    intro value constructed conforms
    rcases Value.exists_of_conforms_tuple conforms with ⟨elements, rfl, conform⟩
    rcases exists_conforms_at conform typed with ⟨part, found, partConforms⟩
    refine ⟨part, ?_, constructed.elements part (List.mem_of_getElem? found), partConforms⟩
    simp only [step, found]

/-- A component step takes a constructed record apart through the contract of its
type. -/
theorem stepCarries_component
    (synthesized : LoweredPattern.Synthesized registry matcher.contracts) {id : ContractId}
    {entry : ContractEntry} (present : matcher.contracts.entryAt? id = some entry) {index : Nat}
    {ty : Ty} (typed : entry.types[index]? = some ty) :
    matcher.StepCarries registry (.named entry.contract.ident) (.component id index) ty where
  type := by
    rw [ContractTable.stepType?, ContractTable.componentTypes?, present, Option.map_some,
      Option.bind_some, typed]
  part := by
    intro value constructed conforms
    rcases Value.exists_of_conforms_named conforms with ⟨fields, rfl⟩
    rcases synthesized.bind_record present matcher.runtime constructed with ⟨bound, conform, each⟩
    rcases exists_conforms_at conform typed with ⟨part, found, partConforms⟩
    have sourced := ContractTable.sourced_of_provided fun _ _ => synthesized.provided
    have contract : matcher.contracts.contract? id = some entry.contract :=
      congrArg (Option.map ContractEntry.contract) present
    exact ⟨part, component_of_bind sourced contract bound found,
      each part (List.mem_of_getElem? found), partConforms⟩

end Matcher

/-! ## Paths of a pattern -/

namespace LoweredPattern

variable {matcher : Matcher} {registry : Registry}

/-- What is bound behind a step is reached by the step and then as in the part. -/
theorem carries_behind {whole ty : Ty} {step : AccessStep}
    (first : matcher.StepCarries registry whole step ty) {entries : List (Name × AccessPath)}
    (each : forall entry, entry ∈ entries ->
      Exists fun result => matcher.Carries registry ty entry.2 result) :
    forall entry, entry ∈ entries.map (behind step) ->
      Exists fun result => matcher.Carries registry whole entry.2 result := by
  intro entry member
  rcases List.mem_map.mp member with ⟨inner, innerMember, rfl⟩
  rcases each inner innerMember with ⟨result, carries⟩
  exact ⟨result, first.cons carries⟩

mutual

/-- Every path of a pattern carries the constructed values of the type of the
pattern. -/
theorem HasType.carries (synthesized : Synthesized registry matcher.contracts) {ty : Ty}
    {pattern : LoweredPattern} :
    HasType matcher.contracts pattern ty -> forall entry, entry ∈ pattern.bindings ->
      Exists fun result => matcher.Carries registry ty entry.2 result
  | .wildcard => nofun
  | .binding => by
      intro entry member
      rw [List.mem_singleton.mp member]
      exact ⟨ty, Matcher.carries_nil ty⟩
  | .literal => nofun
  | .tuple each => by
      rw [bindings_tuple]
      apply each.carry synthesized
      intro position part typed
      rw [Nat.zero_add]
      exact Matcher.stepCarries_element typed
  | .deconstruct present each => by
      rw [bindings_deconstruct]
      apply each.carry synthesized
      intro position part typed
      rw [Nat.zero_add]
      exact Matcher.stepCarries_component synthesized present typed
  | @HasType.anyOf _ [] _ _ => nofun
  | @HasType.anyOf _ (first :: _) _ each => (each first List.mem_cons_self).carries synthesized
  | .asPattern typed => by
      intro entry member
      rcases List.mem_cons.mp member with rfl | inside
      · exact ⟨ty, Matcher.carries_nil ty⟩
      · exact typed.carries synthesized entry inside

theorem HaveTypes.carry (synthesized : Synthesized registry matcher.contracts) {types : List Ty}
    {patterns : List LoweredPattern} {whole : Ty} {step : Nat -> AccessStep} {index : Nat} :
    HaveTypes matcher.contracts patterns types ->
      (forall (position : Nat) (part : Ty), types[position]? = some part ->
        matcher.StepCarries registry whole (step (index + position)) part) ->
      forall entry, entry ∈ partBindings step patterns index ->
        Exists fun result => matcher.Carries registry whole entry.2 result
  | .nil, _ => nofun
  | .cons head tail, steps => by
      intro entry member
      rcases List.mem_append.mp member with here | later
      · exact carries_behind (steps 0 _ rfl) (head.carries synthesized) entry here
      · refine tail.carry synthesized ?_ entry later
        intro position part typed
        rw [Nat.add_assoc, Nat.add_comm 1]
        exact steps (position + 1) part typed

end

end LoweredPattern
end StructuralProducts
