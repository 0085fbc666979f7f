import StructuralProducts.Reflection.SymbolTable

namespace StructuralProducts

/-!
# The reflection host

The host answers for the loaded classes of one session.  Constructors and
methods are called through handles, which never look a path up again.  The call
does look at the class that the handle refers to at that moment.
-/

/-- Why a call through a handle failed. -/
inductive InvokeError where
  /-- An argument does not inhabit the type of its parameter. -/
  | argumentType (index : Nat) (parameter expected found : String)
  /-- A call has the wrong number of arguments. -/
  | argumentCount (expected got : Nat)
  /-- A method was called on something that is not an instance of its class. -/
  | receiver (expected found : String)
  /-- A member may not be used. -/
  | accessDenied (member : String)
  /-- Anything else, in the words of the host. -/
  | other (message : String)
  deriving DecidableEq

namespace InvokeError

def message : InvokeError -> String
  | .argumentType index parameter expected found =>
      s!"argument {index} (`{parameter}`) expected `{expected}`, found {found}"
  | .argumentCount expected got => s!"expected {expected} arguments, got {got}"
  | .receiver expected found => s!"receiver is not an instance of `{expected}` (found {found})"
  | .accessDenied member => s!"access to `{member}` denied"
  | .other message => message

/-- The class has no constructor at the position of the handle. -/
def noConstructor (path : String) (index : Nat) : InvokeError :=
  .other s!"`{path}` has no constructor #{index}"

def noField (path parameter : String) : InvokeError :=
  .other s!"`{path}` has no field `{parameter}`"

/-- The class has no method at the position of the handle. -/
def noMethod (path : String) (index : Nat) : InvokeError :=
  .other s!"`{path}` has no method #{index}"

/-- A method has no field to read, or the receiver has no such field. -/
def notAFieldRead (path method : String) : InvokeError :=
  .other s!"`{path}.{method}` does not read a field"

def unloadedConstructor : InvokeError :=
  .other "constructor of an unloaded class"

def unloadedAccessor : InvokeError :=
  .other "accessor of an unloaded class"

end InvokeError

/-- The number of a session. -/
structure SessionId where
  index : Nat
  deriving DecidableEq, Inhabited

/-- The loaded classes of a session together with its interner. -/
structure Host where
  session : SessionId
  interner : Interner
  symbols : SymbolTable

/-- The hosts of all sessions, as they are at the moment of a call. -/
abbrev Runtime := SessionId -> Host

namespace ForeignClass

/-- Put arguments into the slots of an instance, parameter by parameter.  The
first parameter without a field and the first argument of the wrong type stop the
call.  Two parameters may name the same field; the later argument stays. -/
def place (owner : ForeignClass) (interner : Interner) :
    Nat -> List String -> List Value -> List Value -> Except InvokeError (List Value)
  | index, parameter :: parameters, argument :: arguments, slots =>
      match owner.typedSlot? parameter with
      | none => .error (.noField owner.path parameter)
      | some (slot, ty) =>
          if argument.conforms ty then
            owner.place interner (index + 1) parameters arguments (slots.set slot argument)
          else
            .error (.argumentType index parameter (ty.display interner) argument.kindName)
  | _, _, _, slots => .ok slots

def invoke (owner : ForeignClass) (interner : Interner) (index : Nat) (arguments : List Value) :
    Except InvokeError Value :=
  match owner.constructors[index]? with
  | none => .error (.noConstructor owner.path index)
  | some constructor =>
      if arguments.length = constructor.parameters.length then
        (owner.place interner 0 constructor.parameters arguments
          (List.replicate owner.fields.length .unit)).map (.record owner.ident)
      else .error (.argumentCount constructor.parameters.length arguments.length)

/-- Call the method at a position on a receiver. -/
def read (owner : ForeignClass) (index : Nat) (receiver : Value) : Except InvokeError Value :=
  match owner.methods[index]? with
  | none => .error (.noMethod owner.path index)
  | some method =>
      if method.parameterCount = 0 then
        match receiver with
        | .record ident fields =>
            if ident = owner.ident then
              match method.slot.bind (fields[·]?) with
              | some value => .ok value
              | none => .error (.notAFieldRead owner.path method.name)
            else .error (.receiver owner.path receiver.kindName)
        | _ => .error (.receiver owner.path receiver.kindName)
      else .error (.argumentCount method.parameterCount 0)

end ForeignClass

namespace Host

def invoke (host : Host) (handle : ConstructorHandle) (arguments : List Value) :
    Except InvokeError Value :=
  match host.symbols.classAt? handle.owner with
  | none => .error .unloadedConstructor
  | some owner => owner.invoke host.interner handle.index arguments

def read (host : Host) (handle : AccessorHandle) (receiver : Value) : Except InvokeError Value :=
  match host.symbols.classAt? handle.owner with
  | none => .error .unloadedAccessor
  | some owner => owner.read handle.index receiver

def load (host : Host) (loaded : ForeignClass) : ClassHandle × Host :=
  let (handle, symbols) := host.symbols.load loaded
  (handle, { host with symbols })

end Host
end StructuralProducts
