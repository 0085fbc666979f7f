import StructuralProducts.Value

namespace StructuralProducts

/-!
# Foreign classes

A class found in a foreign binary.  Its instances are records whose fields
follow the declared field order.  Constructors may set the fields in any order
and need not set all of them; a field that is not set holds unit.

A method either computes or reads one field.  Which field it reads is settled
when the method is added, by name, among the fields declared up to then.
-/

/-- A field of a class. -/
structure ForeignField where
  name : String
  ty : Ty
  deriving DecidableEq

/-- A constructor of a class.  Its parameters name the fields they set. -/
structure ForeignConstructor where
  parameters : List String
  isCanonical : Bool
  deriving DecidableEq

/-- A method of a class.  `slot` is the field it reads, if it reads one. -/
structure ForeignMethod where
  name : String
  parameterCount : Nat
  slot : Option Nat
  deriving DecidableEq

/-- A class of a foreign binary. -/
structure ForeignClass where
  ident : TypeId
  path : String
  fields : List ForeignField
  constructors : List ForeignConstructor
  methods : List ForeignMethod
  deriving DecidableEq

namespace ForeignClass

def bare (ident : TypeId) (path : String) : ForeignClass :=
  ⟨ident, path, [], [], []⟩

/-- The position and type of the first field with a given name. -/
def typedSlot? (owner : ForeignClass) (name : String) : Option (Nat × Ty) :=
  (owner.fields.findIdx? (·.name == name)).bind fun slot =>
    owner.fields[slot]?.map fun field => (slot, field.ty)

/-- The position of the first field with a given name. -/
def slot? (owner : ForeignClass) (name : String) : Option Nat :=
  (owner.typedSlot? name).map (·.1)

/-- The type of the first field with a given name. -/
def fieldType? (owner : ForeignClass) (name : String) : Option Ty :=
  (owner.typedSlot? name).map (·.2)

def withField (owner : ForeignClass) (name : String) (ty : Ty) : ForeignClass :=
  { owner with fields := owner.fields ++ [⟨name, ty⟩] }

def withConstructor (owner : ForeignClass) (parameters : List String) (isCanonical : Bool) :
    ForeignClass :=
  { owner with constructors := owner.constructors ++ [⟨parameters, isCanonical⟩] }

/-- Add a canonical constructor over all fields declared so far. -/
def withCanonicalConstructor (owner : ForeignClass) : ForeignClass :=
  owner.withConstructor (owner.fields.map (·.name)) true

/-- Add a method without parameters that reads the field of its name.  If there
is no such field yet, the method is added but reads nothing. -/
def withAccessor (owner : ForeignClass) (name : String) : ForeignClass :=
  { owner with methods := owner.methods ++ [⟨name, 0, owner.slot? name⟩] }

/-- Add an accessor for every field declared so far. -/
def withAccessors (owner : ForeignClass) : ForeignClass :=
  (owner.fields.map (·.name)).foldl withAccessor owner

/-- Add a method that is not a field read. -/
def withMethod (owner : ForeignClass) (name : String) (parameterCount : Nat) : ForeignClass :=
  { owner with methods := owner.methods ++ [⟨name, parameterCount, none⟩] }

theorem slot?_lt_length {owner : ForeignClass} {name : String} {slot : Nat}
    (found : owner.slot? name = some slot) : slot < owner.fields.length := by
  simp only [slot?, typedSlot?, Option.map_eq_some_iff, Option.bind_eq_some_iff] at found
  obtain ⟨entry, ⟨position, _, field, present, rfl⟩, rfl⟩ := found
  exact (List.getElem?_eq_some_iff.mp present).1

end ForeignClass
end StructuralProducts
