import StructuralProducts.Descriptor.Native

namespace StructuralProducts

/-!
# Destructuring contracts

A contract is what patterns need in order to take a value apart: the component
types and an operation that gives the component values in canonical order.  It
is either synthesized from the descriptor of a product or supplied by the author
of the type.  An author's contract may take a value apart in any way, so the
number of values it gives is checked at every call.
-/

/-- Who provided a contract. -/
inductive ContractOrigin where
  | synthesized
  | userSupplied
  deriving DecidableEq

def ContractOrigin.inspect : ContractOrigin -> String
  | .synthesized => "Synthesized"
  | .userSupplied => "UserSupplied"

/-- A contract supplied by the author of a type, with the path that messages
show for it. -/
structure UserContract where
  ident : TypeId
  path : String
  types : List Ty
  parts : Value -> Except DescriptorError (List Value)

/-- A destructuring contract. -/
inductive Contract where
  | synthesized (descriptor : Descriptor)
  | userSupplied (supplied : UserContract)

namespace Contract

/-- The identity of the type that the contract takes apart. -/
def ident : Contract -> TypeId
  | .synthesized descriptor => descriptor.ident
  | .userSupplied supplied => supplied.ident

/-- The path of the type as messages show it. -/
def path : Contract -> String
  | .synthesized descriptor => descriptor.path
  | .userSupplied supplied => supplied.path

def types : Contract -> List Ty
  | .synthesized descriptor => descriptor.types
  | .userSupplied supplied => supplied.types

def origin : Contract -> ContractOrigin
  | .synthesized _ => .synthesized
  | .userSupplied _ => .userSupplied

/-- What the author wrote, if the contract is the author's. -/
def supplied? : Contract -> Option UserContract
  | .synthesized _ => none
  | .userSupplied supplied => some supplied

def arity (contract : Contract) : Nat :=
  contract.types.length

def parts (contract : Contract) (runtime : Runtime) (value : Value) :
    Except DescriptorError (List Value) :=
  match contract with
  | .synthesized descriptor => descriptor.components runtime value
  | .userSupplied supplied => supplied.parts value

/-- Take a value apart into exactly one value for each component. -/
def bind (contract : Contract) (runtime : Runtime) (value : Value) :
    Except DescriptorError (List Value) :=
  match contract.parts runtime value with
  | .error failure => .error failure
  | .ok values =>
      if values.length = contract.arity then .ok values
      else .error (.wrongPartCount contract.path values.length contract.arity)

/-- The one-line form for inspection.  What cannot be shown is left out. -/
def inspect (contract : Contract) : String :=
  "DestructuringContract \x7b path: " ++ Text.quotedString contract.path ++
    s!", arity: {contract.arity}, origin: {contract.origin.inspect}, .. \x7d"

/-- Whatever a contract is, its bound values are as many as its components. -/
theorem length_of_bind {contract : Contract} {runtime : Runtime} {value : Value}
    {values : List Value} (bound : contract.bind runtime value = .ok values) :
    values.length = contract.arity := by
  unfold bind at bound
  split at bound
  · cases bound
  · split at bound
    · next agree => cases bound; exact agree
    · cases bound

/-- A synthesized contract never gives the wrong number of values, so binding is
reading all components. -/
theorem bind_synthesized (descriptor : Descriptor) (runtime : Runtime) (value : Value) :
    (synthesized descriptor).bind runtime value = descriptor.components runtime value := by
  simp only [bind, parts]
  cases complete : descriptor.components runtime value with
  | error failure => simp
  | ok values =>
      have count := Descriptor.length_of_components complete
      simp [arity, types, count, descriptor.types_length_eq_arity]

/-- Why a contract could not be synthesized. -/
inductive SynthesisError where
  | notAProduct (problems : List ShapeProblem)
  | malformed (failure : DescriptorError)
  deriving DecidableEq

/-- The descriptor from which the contract of a declared type is synthesized. -/
def synthesize (decl : TypeDecl) (interner : Interner) : Except SynthesisError Descriptor :=
  match ProductShape.recognize decl with
  | .error problems => .error (.notAProduct problems)
  | .ok shape =>
      match shape.descriptor interner with
      | .error failure => .error (.malformed failure)
      | .ok descriptor => .ok descriptor

end Contract
end StructuralProducts
