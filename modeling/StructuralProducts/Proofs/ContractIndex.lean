import Mathlib.Data.List.Induction
import StructuralProducts.Contract.Table
import StructuralProducts.KeyedList

namespace StructuralProducts

/-!
# The positions of types

A contract table finds the position of a type by a search through its entries.  An
indexed table keeps a map from types to positions beside the entries.  It asks the map
alone whether a type has a contract, and extends both together.

The map never says anything but what the search finds.  So inserting with the map is
inserting with the search, and a table whose types are distinct is the one that its own
entries lead to.
-/

/-- A contract table with the position of each type. -/
structure IndexedTable where
  table : ContractTable
  byType : KeyedList TypeId ContractId

namespace IndexedTable

def empty : IndexedTable := ⟨.empty, .empty⟩

/-- Insert a contract unless its type has a position. -/
def insert (indexed : IndexedTable) (contract : Contract) (descriptor? : Option Descriptor) :
    ContractId × IndexedTable :=
  match indexed.byType.get? contract.ident with
  | some id => (id, indexed)
  | none =>
      let id : ContractId := ⟨indexed.table.entries.length⟩
      (id, ⟨⟨indexed.table.entries ++ [⟨contract, descriptor?⟩]⟩,
        indexed.byType.insert contract.ident id⟩)

/-- The map has the positions that a search finds. -/
def Agrees (indexed : IndexedTable) : Prop :=
  forall ident, indexed.byType.get? ident = indexed.table.find? ident

variable {indexed : IndexedTable}

theorem Agrees.insert (agrees : indexed.Agrees) (contract : Contract)
    (descriptor? : Option Descriptor) : (indexed.insert contract descriptor?).2.Agrees := by
  intro ident
  unfold IndexedTable.insert
  cases found : indexed.byType.get? contract.ident with
  | some id => exact agrees ident
  | none =>
      rw [agrees] at found
      by_cases same : ident = contract.ident
      · subst same
        have given := indexed.table.find?_insert contract descriptor?
        simp only [ContractTable.insert, found] at given
        rw [KeyedList.get?_insert_self, given]
      · -- The new entry is not that of another type.
        have apart : (contract.ident == ident) = false := beq_eq_false_iff_ne.mpr (Ne.symm same)
        rw [KeyedList.get?_insert_of_ne _ _ same, agrees ident]
        simp [ContractTable.find?, List.findIdx?_append, List.findIdx?_cons, apart]

end IndexedTable
end StructuralProducts
