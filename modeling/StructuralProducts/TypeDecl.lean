import StructuralProducts.Span
import StructuralProducts.Ty

namespace StructuralProducts

/-!
# Type declarations

A declaration is the raw account of one nominal type: what a source file says,
or what a reader of foreign binaries found.  It may contradict itself.  Whether
it describes a structural product is decided by `ProductShape.recognize`.
-/

/-- Where a declaration came from. -/
inductive Origin where
  /-- Compiled together with the program; its shape is known at compile time. -/
  | native
  /-- Loaded from a foreign binary; only what reflection reports is trusted at
  run time. -/
  | foreign
  deriving DecidableEq, Inhabited

/-- A declared component. -/
structure ComponentDecl where
  label : Name
  ty : Ty
  isMutable : Bool
  span : Span
  deriving DecidableEq

/-- A declared constructor, with its parameter labels in order. -/
structure ConstructorDecl where
  parameters : List Name
  isCanonical : Bool
  span : Span
  deriving DecidableEq

/-- A declared accessor.  The receiver is not counted as a parameter. -/
structure AccessorDecl where
  name : Name
  parameterCount : Nat
  span : Span
  deriving DecidableEq

/-- The declaration of a nominal type. -/
structure TypeDecl where
  ident : TypeId
  span : Span
  origin : Origin
  components : List ComponentDecl
  constructors : List ConstructorDecl
  accessors : List AccessorDecl
  deriving DecidableEq

namespace TypeDecl

/-- A plain record: immutable components, one canonical constructor over all of
them, and one accessor for each. -/
def record (ident : TypeId) (components : List (Name × Ty)) : TypeDecl where
  ident := ident
  span := Span.synthetic
  origin := .native
  components := components.map fun component =>
    { label := component.1, ty := component.2, isMutable := false, span := Span.synthetic }
  constructors :=
    [{ parameters := components.map (·.1), isCanonical := true, span := Span.synthetic }]
  accessors := components.map fun component =>
    { name := component.1, parameterCount := 0, span := Span.synthetic }

/-- The shape of the type is known at compile time. -/
def isNative (decl : TypeDecl) : Bool :=
  decl.origin == .native

def labels (decl : TypeDecl) : List Name :=
  decl.components.map (·.label)

def component? (decl : TypeDecl) (label : Name) : Option ComponentDecl :=
  decl.components.find? (·.label == label)

end TypeDecl
end StructuralProducts
