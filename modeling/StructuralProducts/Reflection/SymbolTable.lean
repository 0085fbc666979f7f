import StructuralProducts.Reflection.ForeignClass

namespace StructuralProducts

/-!
# The symbol table

The loaded classes, in the order in which their paths were first loaded.  A
handle is a position in that order.  Loading a class under a known path replaces
the class in place, so handles never change their meaning as positions, although
the class behind a handle may change.

The table counts how often a path was resolved, which is how callers observe how
often a shape was really looked up.
-/

/-- A reference to a loaded class. -/
structure ClassHandle where
  index : Nat
  deriving DecidableEq

/-- A reference to a constructor of a loaded class. -/
structure ConstructorHandle where
  owner : ClassHandle
  index : Nat
  deriving DecidableEq

/-- A reference to a method of a loaded class. -/
structure AccessorHandle where
  owner : ClassHandle
  index : Nat
  deriving DecidableEq

def ClassHandle.inspect (handle : ClassHandle) : String :=
  s!"ClassHandle({handle.index})"

def ConstructorHandle.inspect (handle : ConstructorHandle) : String :=
  "CtorHandle \x7b class: " ++ handle.owner.inspect ++ s!", index: {handle.index} \x7d"

def AccessorHandle.inspect (handle : AccessorHandle) : String :=
  "AccessorHandle \x7b class: " ++ handle.owner.inspect ++ s!", index: {handle.index} \x7d"

/-- A constructor parameter as reported.  The type is missing when the parameter
names no field. -/
structure ParameterInfo where
  name : String
  ty : Option Ty
  deriving DecidableEq

/-- A constructor as reported, with its parameters in order. -/
structure ConstructorInfo where
  handle : ConstructorHandle
  parameters : List ParameterInfo
  isCanonical : Bool
  deriving DecidableEq

/-- A method as reported.  The receiver is not counted as a parameter. -/
structure AccessorInfo where
  handle : AccessorHandle
  parameterCount : Nat
  deriving DecidableEq

/-- The loaded classes and the number of resolutions so far. -/
structure SymbolTable where
  classes : List ForeignClass
  resolutions : Nat

namespace SymbolTable

def empty : SymbolTable := ⟨[], 0⟩

instance : Inhabited SymbolTable := ⟨empty⟩

/-- The handle of a path, without counting the question. -/
def handleOf? (table : SymbolTable) (path : String) : Option ClassHandle :=
  (table.classes.findIdx? (·.path == path)).map ClassHandle.mk

def classAt? (table : SymbolTable) (handle : ClassHandle) : Option ForeignClass :=
  table.classes[handle.index]?

/-- Load a class.  A path that is already loaded keeps its handle. -/
def load (table : SymbolTable) (loaded : ForeignClass) : ClassHandle × SymbolTable :=
  match table.handleOf? loaded.path with
  | some handle => (handle, { table with classes := table.classes.set handle.index loaded })
  | none => (⟨table.classes.length⟩, { table with classes := table.classes ++ [loaded] })

def resolve (table : SymbolTable) (path : String) : Option ClassHandle × SymbolTable :=
  (table.handleOf? path, { table with resolutions := table.resolutions + 1 })

/-- The constructors of a class; none for a handle without a class. -/
def constructors (table : SymbolTable) (handle : ClassHandle) : List ConstructorInfo :=
  match table.classAt? handle with
  | none => []
  | some owner =>
      owner.constructors.mapIdx fun index constructor =>
        { handle := ⟨handle, index⟩
          parameters := constructor.parameters.map fun name => ⟨name, owner.fieldType? name⟩
          isCanonical := constructor.isCanonical }

/-- The methods of a class with a given name, overloads included. -/
def findAccessor (table : SymbolTable) (handle : ClassHandle) (name : String) :
    List AccessorInfo :=
  match table.classAt? handle with
  | none => []
  | some owner =>
      (owner.methods.mapIdx fun index method => (index, method)).filterMap fun entry =>
        if entry.2.name = name then some ⟨⟨handle, entry.1⟩, entry.2.parameterCount⟩ else none

theorem resolutions_load (table : SymbolTable) (loaded : ForeignClass) :
    (table.load loaded).2.resolutions = table.resolutions := by
  unfold load
  split <;> rfl

end SymbolTable
end StructuralProducts
