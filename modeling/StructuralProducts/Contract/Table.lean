import StructuralProducts.Contract

namespace StructuralProducts

/-!
# Contract tables

Compiled patterns refer to contracts by their position in the table of their
unit.  A type has at most one contract in a table: inserting a second one leaves
the first in place and gives its position.
-/

/-- The position of a contract in a table. -/
structure ContractId where
  index : Nat
  deriving DecidableEq, Inhabited

/-- A contract in a table, with the descriptor it was made from if that is to be
used for reading single components. -/
structure ContractEntry where
  contract : Contract
  descriptor? : Option Descriptor

/-- The component types of an entry, from its descriptor if it has one. -/
def ContractEntry.types (entry : ContractEntry) : List Ty :=
  match entry.descriptor? with
  | some descriptor => descriptor.types
  | none => entry.contract.types

/-- The contracts of a unit, in the order of insertion. -/
structure ContractTable where
  entries : List ContractEntry

namespace ContractTable

def empty : ContractTable := ⟨[]⟩

instance : Inhabited ContractTable := ⟨empty⟩

def find? (table : ContractTable) (ident : TypeId) : Option ContractId :=
  (table.entries.findIdx? (·.contract.ident == ident)).map ContractId.mk

def entryAt? (table : ContractTable) (id : ContractId) : Option ContractEntry :=
  table.entries[id.index]?

def contract? (table : ContractTable) (id : ContractId) : Option Contract :=
  (table.entryAt? id).map (·.contract)

def descriptor? (table : ContractTable) (id : ContractId) : Option Descriptor :=
  (table.entryAt? id).bind (·.descriptor?)

/-- Insert a contract unless its type already has one. -/
def insert (table : ContractTable) (contract : Contract) (descriptor? : Option Descriptor) :
    ContractId × ContractTable :=
  match table.find? contract.ident with
  | some id => (id, table)
  | none => (⟨table.entries.length⟩, ⟨table.entries ++ [⟨contract, descriptor?⟩]⟩)

def componentTypes? (table : ContractTable) (id : ContractId) : Option (List Ty) :=
  (table.entryAt? id).map (·.types)

def size (table : ContractTable) : Nat :=
  table.entries.length

def synthesizedCount (table : ContractTable) : Nat :=
  table.entries.countP (·.contract.origin == .synthesized)

def inspect (table : ContractTable) : String :=
  "[" ++ ", ".intercalate (table.entries.map (·.contract.inspect)) ++ "]"

/-- After an insertion the type has the position that was given. -/
theorem find?_insert (table : ContractTable) (contract : Contract)
    (descriptor? : Option Descriptor) :
    (table.insert contract descriptor?).2.find? contract.ident =
      some (table.insert contract descriptor?).1 := by
  unfold insert
  cases found : table.find? contract.ident with
  | some id => exact found
  | none =>
      have absent : table.entries.findIdx? (·.contract.ident == contract.ident) = none :=
        Option.map_eq_none_iff.mp found
      simp [find?, List.findIdx?_append, absent]

end ContractTable
end StructuralProducts
