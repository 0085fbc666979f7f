import StructuralProducts.Descriptor.Error

namespace StructuralProducts

/-!
# Descriptors

A descriptor is the uniform account of a structural product: its identity, its
labels and types in canonical order, a way to build an instance from component
values, and one reader for each component.  Readers are settled when the
descriptor is built, so reading a component never repeats a lookup.

Descriptors have two producers, declarations and reflection, and those who use
one need not know which.  A third kind of builder and reader is an arbitrary
function.  Readers and builders that call a host take it from the runtime when
they are used, so a descriptor stays valid while hosts change.

The parts of a descriptor agree with each other: one type and one reader for
each label, and no label twice.  These are fields of the structure, and
`DescriptorParts.check` is the way to obtain them.
-/

/-- A component as a record builder needs it: the label and the type as messages
show them, and the type itself. -/
structure Parameter where
  label : String
  ty : Ty
  shown : String
  deriving DecidableEq

/-- How instances are built from component values. -/
inductive Builder where
  /-- Pack the values into a record after testing each against its parameter. -/
  | record (parameters : List Parameter)
  /-- Call a constructor of a foreign class. -/
  | reflective (session : SessionId) (handle : ConstructorHandle)
  /-- Apply a function. -/
  | custom (build : List Value -> Except DescriptorError Value)

/-- How one component of an instance is read. -/
inductive Reader where
  /-- Take the field at a position. -/
  | field (index : Nat)
  /-- Call a method of a foreign class. -/
  | reflective (session : SessionId) (handle : AccessorHandle)
  /-- Apply a function. -/
  | custom (read : Value -> Except DescriptorError Value)

/-- The first argument that does not inhabit the type of its parameter.  The
index counts from the given start. -/
def Parameter.firstMismatch? : Nat -> List Parameter -> List Value -> Option InvokeError
  | index, parameter :: parameters, argument :: arguments =>
      if argument.conforms parameter.ty then
        firstMismatch? (index + 1) parameters arguments
      else some (.argumentType index parameter.label parameter.shown argument.kindName)
  | _, _, _ => none

/-- The parts from which a descriptor is made, not yet known to agree. -/
structure DescriptorParts where
  ident : TypeId
  path : String
  labels : List Name
  types : List Ty
  constructorArity : Nat
  builder : Builder
  readers : List Reader

/-- The descriptor of a structural product. -/
structure Descriptor where
  ident : TypeId
  path : String
  labels : List Name
  types : List Ty
  builder : Builder
  readers : List Reader
  types_length : types.length = labels.length
  readers_length : readers.length = labels.length
  labels_nodup : labels.Nodup

/-- The least position whose label stands at an earlier position too.  Positions
count from the given start, and the labels seen before it are given. -/
def firstRepeat? : Nat -> List Name -> List Name -> Option Nat
  | _, _, [] => none
  | index, seen, label :: rest =>
      if label ∈ seen then some index else firstRepeat? (index + 1) (label :: seen) rest

/-- Without a repetition the labels are distinct, among themselves and from
those seen before. -/
theorem nodup_of_firstRepeat? {labels : List Name} {index : Nat} {seen : List Name}
    (distinct : firstRepeat? index seen labels = none) :
    labels.Nodup ∧ forall label, label ∈ labels -> label ∉ seen := by
  induction labels generalizing index seen with
  | nil => exact ⟨List.nodup_nil, fun _ member => absurd member List.not_mem_nil⟩
  | cons label rest inductionHypothesis =>
      unfold firstRepeat? at distinct
      split at distinct
      · cases distinct
      · next fresh =>
          have later := inductionHypothesis distinct
          refine ⟨List.nodup_cons.mpr ⟨fun member => ?_, later.1⟩, ?_⟩
          · exact later.2 label member List.mem_cons_self
          · intro other member
            rcases List.mem_cons.mp member with equal | member
            · exact equal ▸ fresh
            · exact fun seenBefore => later.2 other member (List.mem_cons_of_mem _ seenBefore)

/-- Test that the parts agree, in a fixed order: types against labels, the
constructor against labels, readers against labels, and last the labels among
themselves. -/
def DescriptorParts.check (parts : DescriptorParts) : Except DescriptorError Descriptor :=
  if types_length : parts.types.length = parts.labels.length then
    if parts.constructorArity = parts.labels.length then
      if readers_length : parts.readers.length = parts.labels.length then
        match distinct : firstRepeat? 0 [] parts.labels with
        | none => .ok
            { ident := parts.ident
              path := parts.path
              labels := parts.labels
              types := parts.types
              builder := parts.builder
              readers := parts.readers
              types_length
              readers_length
              labels_nodup := (nodup_of_firstRepeat? distinct).1 }
        | some index => .error (.repeatedLabel parts.path index)
      else .error (.accessorCount parts.path parts.readers.length parts.labels.length)
    else .error (.constructorArity parts.path parts.constructorArity parts.labels.length)
  else .error (.typeCount parts.path parts.labels.length parts.types.length)

namespace Descriptor

def arity (descriptor : Descriptor) : Nat :=
  descriptor.labels.length

def label? (descriptor : Descriptor) (index : Nat) : Option Name :=
  descriptor.labels[index]?

def componentType? (descriptor : Descriptor) (index : Nat) : Option Ty :=
  descriptor.types[index]?

def position? (descriptor : Descriptor) (label : Name) : Option Nat :=
  descriptor.labels.idxOf? label

/-- Two descriptors describe the same shape: identity, labels and types agree.
How instances are built and read does not take part. -/
def sameShape (first second : Descriptor) : Bool :=
  first.ident == second.ident && first.labels == second.labels && first.types == second.types

/-- Build an instance without looking at the number of values. -/
def build (descriptor : Descriptor) (runtime : Runtime) (arguments : List Value) :
    Except DescriptorError Value :=
  match descriptor.builder with
  | .record parameters =>
      match Parameter.firstMismatch? 0 parameters arguments with
      | some mismatch => .error (.invocation descriptor.path mismatch)
      | none => .ok (.record descriptor.ident arguments)
  | .reflective session handle =>
      ((runtime session).invoke handle arguments).mapError (.invocation descriptor.path)
  | .custom apply => apply arguments

/-- Build an instance from component values in canonical order. -/
def construct (descriptor : Descriptor) (runtime : Runtime) (arguments : List Value) :
    Except DescriptorError Value :=
  if arguments.length = descriptor.arity then descriptor.build runtime arguments
  else .error (.arityMismatch descriptor.path descriptor.arity arguments.length)

def readWith (descriptor : Descriptor) (runtime : Runtime) (value : Value) :
    Reader -> Except DescriptorError Value
  | .field index =>
      match value with
      | .record ident fields =>
          if ident = descriptor.ident then
            match fields[index]? with
            | some field => .ok field
            | none => .error (.fieldMissing descriptor.path fields.length index)
          else .error (.notAnInstance descriptor.path value.kindName)
      | _ => .error (.notAnInstance descriptor.path value.kindName)
  | .reflective session handle =>
      ((runtime session).read handle value).mapError (.invocation descriptor.path)
  | .custom apply => apply value

def component (descriptor : Descriptor) (runtime : Runtime) (value : Value) (index : Nat) :
    Except DescriptorError Value :=
  match descriptor.readers[index]? with
  | some reader => descriptor.readWith runtime value reader
  | none => .error (.outOfRange descriptor.path index descriptor.arity)

/-- Read with several readers in order, up to the first failure. -/
def readAll (descriptor : Descriptor) (runtime : Runtime) (value : Value) :
    List Reader -> Except DescriptorError (List Value)
  | [] => .ok []
  | reader :: rest =>
      match descriptor.readWith runtime value reader with
      | .error failure => .error failure
      | .ok part =>
          match descriptor.readAll runtime value rest with
          | .error failure => .error failure
          | .ok parts => .ok (part :: parts)

def components (descriptor : Descriptor) (runtime : Runtime) (value : Value) :
    Except DescriptorError (List Value) :=
  descriptor.readAll runtime value descriptor.readers

/-- The one-line form for inspection.  What cannot be shown is left out. -/
def inspect (descriptor : Descriptor) : String :=
  "TypeMetadata \x7b path: " ++ Text.quotedString descriptor.path ++
    ", labels: [" ++ ", ".intercalate (descriptor.labels.map Name.inspect) ++
    "], types: [" ++ ", ".intercalate (descriptor.types.map Ty.inspect) ++ "], .. \x7d"

theorem types_length_eq_arity (descriptor : Descriptor) :
    descriptor.types.length = descriptor.arity :=
  descriptor.types_length

theorem readers_length_eq_arity (descriptor : Descriptor) :
    descriptor.readers.length = descriptor.arity :=
  descriptor.readers_length

theorem length_of_readAll {descriptor : Descriptor} {runtime : Runtime} {value : Value}
    {readers : List Reader} {parts : List Value}
    (complete : descriptor.readAll runtime value readers = .ok parts) :
    parts.length = readers.length := by
  induction readers generalizing parts with
  | nil => cases complete; rfl
  | cons reader rest inductionHypothesis =>
      unfold readAll at complete
      split at complete
      · cases complete
      · split at complete
        · cases complete
        · next others equation =>
            cases complete
            simp [inductionHypothesis equation]

/-- A complete reading has one value for each component. -/
theorem length_of_components {descriptor : Descriptor} {runtime : Runtime} {value : Value}
    {parts : List Value} (complete : descriptor.components runtime value = .ok parts) :
    parts.length = descriptor.arity :=
  (length_of_readAll complete).trans descriptor.readers_length

end Descriptor
end StructuralProducts
