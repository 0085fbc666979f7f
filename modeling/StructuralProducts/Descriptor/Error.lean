import StructuralProducts.ProductShape
import StructuralProducts.Reflection.Host

namespace StructuralProducts

/-!
# Errors of descriptors

What can go wrong while a descriptor is built or used.  Every error names the
type it is about.  Errors of discovery are kept in the descriptor cache and
handed to later callers, so they are plain data.
-/

/-- Why a descriptor could not be built or used. -/
inductive DescriptorError where
  /-- The parts of a descriptor contradict each other. -/
  | malformed (path detail : String)
  /-- A native declaration is no structural product. -/
  | notAProduct (path : String) (problems : List ShapeProblem)
  /-- No class is loaded under the path. -/
  | typeNotFound (path : String)
  /-- Not exactly one constructor is canonical. -/
  | noCanonicalConstructor (path : String) (found : Nat)
  /-- A canonical parameter has no accessor without parameters. -/
  | accessorMismatch (path parameter : String)
  /-- A construction has the wrong number of component values. -/
  | arityMismatch (path : String) (expected got : Nat)
  /-- A call through a handle, or its native counterpart, failed. -/
  | invocation (path : String) (cause : InvokeError)
  /-- A component could not be read. -/
  | componentAccess (path detail : String)
  /-- A descriptor cache belongs to another session. -/
  | sessionMismatch (path : String)
  deriving DecidableEq

namespace DescriptorError

/-- The path of the type that the error is about. -/
def path : DescriptorError -> String
  | .malformed path _ => path
  | .notAProduct path _ => path
  | .typeNotFound path => path
  | .noCanonicalConstructor path _ => path
  | .accessorMismatch path _ => path
  | .arityMismatch path _ _ => path
  | .invocation path _ => path
  | .componentAccess path _ => path
  | .sessionMismatch path => path

/-- The failed call behind the error, if there is one. -/
def cause? : DescriptorError -> Option InvokeError
  | .invocation _ cause => some cause
  | _ => none

def message : DescriptorError -> String
  | .malformed path detail => s!"malformed metadata for `{path}`: {detail}"
  | .notAProduct path problems =>
      s!"`{path}` is not a structural product type (" ++
        ", ".intercalate (problems.map (·.code.text)) ++ ")"
  | .typeNotFound path => s!"type `{path}` could not be resolved"
  | .noCanonicalConstructor path found =>
      s!"type `{path}` has {found} canonical constructors, expected exactly one"
  | .accessorMismatch path parameter =>
      s!"canonical constructor parameter `{parameter}` of `{path}` has no matching " ++
        "zero-argument accessor"
  | .arityMismatch path expected got =>
      s!"`{path}` takes {expected} component values, got {got}"
  | .invocation path cause => s!"reflective invocation on `{path}` failed: {cause.message}"
  | .componentAccess path detail => s!"cannot read component of `{path}`: {detail}"
  | .sessionMismatch path =>
      s!"`{path}` belongs to a different interning session than the descriptor cache"

def typeCount (path : String) (labels types : Nat) : DescriptorError :=
  .malformed path s!"{labels} component labels but {types} component types"

/-- The constructor does not take one value for each label. -/
def constructorArity (path : String) (arity labels : Nat) : DescriptorError :=
  .malformed path s!"constructor takes {arity} values but there are {labels} components"

def accessorCount (path : String) (accessors labels : Nat) : DescriptorError :=
  .malformed path s!"{accessors} accessors for {labels} components"

def repeatedLabel (path : String) (index : Nat) : DescriptorError :=
  .malformed path s!"component {index} repeats an earlier label"

def untypedParameter (path parameter : String) : DescriptorError :=
  .malformed path s!"canonical parameter `{parameter}` has no declared type"

/-- A contract took a value apart into the wrong number of values. -/
def wrongPartCount (path : String) (parts arity : Nat) : DescriptorError :=
  .malformed path s!"destructuring produced {parts} values for arity {arity}"

def outOfRange (path : String) (index arity : Nat) : DescriptorError :=
  .componentAccess path s!"index {index} out of range for arity {arity}"

def fieldMissing (path : String) (fields index : Nat) : DescriptorError :=
  .componentAccess path s!"instance has {fields} fields, wanted {index}"

/-- A component is read off something that is not an instance. -/
def notAnInstance (path kind : String) : DescriptorError :=
  .componentAccess path s!"receiver is a {kind}, not an instance"

end DescriptorError
end StructuralProducts
