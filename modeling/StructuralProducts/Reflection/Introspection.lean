import StructuralProducts.Descriptor

namespace StructuralProducts

/-!
# Introspection

A descriptor is discovered by asking a host about a path.  There are four
questions, and each has its own failure: which class the path names, which
constructor is canonical, which accessor reads each canonical parameter, and
what the parameter types are.  The answers to the first three are handles, and
the descriptor keeps them; nothing is looked up again when it is used.

The choices between the questions are pure functions of the answers, so they
say the same whether or not classes are loaded in between.
-/

namespace Introspection

def chooseConstructor (path : String) (constructors : List ConstructorInfo) :
    Except DescriptorError ConstructorInfo :=
  match constructors.filter (·.isCanonical) with
  | [constructor] => .ok constructor
  | others => .error (.noCanonicalConstructor path others.length)

/-- The first accessor without parameters among those reported for a name. -/
def chooseAccessor (path parameter : String) (accessors : List AccessorInfo) :
    Except DescriptorError AccessorHandle :=
  match accessors.find? (·.parameterCount == 0) with
  | some accessor => .ok accessor.handle
  | none => .error (.accessorMismatch path parameter)

/-- Choose an accessor for every parameter in order, up to the first failure. -/
def chooseAccessors (path : String) (report : String -> List AccessorInfo) :
    List ParameterInfo -> Except DescriptorError (List AccessorHandle)
  | [] => .ok []
  | parameter :: rest =>
      match chooseAccessor path parameter.name (report parameter.name) with
      | .error failure => .error failure
      | .ok handle =>
          match chooseAccessors path report rest with
          | .error failure => .error failure
          | .ok handles => .ok (handle :: handles)

/-- The types of the parameters in order, up to the first that has none. -/
def parameterTypes (path : String) : List ParameterInfo -> Except DescriptorError (List Ty)
  | [] => .ok []
  | parameter :: rest =>
      match parameter.ty with
      | none => .error (.untypedParameter path parameter.name)
      | some ty =>
          match parameterTypes path rest with
          | .error failure => .error failure
          | .ok types => .ok (ty :: types)

/-- Make the descriptor from the chosen constructor and accessors.  The labels
are interned even if the descriptor is refused afterwards. -/
def assemble (session : SessionId) (interner : Interner) (ident : TypeId) (path : String)
    (constructor : ConstructorInfo) (accessors : List AccessorHandle) :
    Except DescriptorError Descriptor × Interner :=
  let (labels, interner) := interner.internAll (constructor.parameters.map (·.name))
  match parameterTypes path constructor.parameters with
  | .error failure => (.error failure, interner)
  | .ok types =>
      (({ ident, path, labels, types
          constructorArity := constructor.parameters.length
          builder := .reflective session constructor.handle
          readers := accessors.map (.reflective session) } : DescriptorParts).check, interner)

/-- The two choices that need no change of state. -/
def chooseHandles (path : String) (symbols : SymbolTable) (owner : ClassHandle) :
    Except DescriptorError (ConstructorInfo × List AccessorHandle) :=
  match chooseConstructor path (symbols.constructors owner) with
  | .error failure => .error failure
  | .ok constructor =>
      match chooseAccessors path (symbols.findAccessor owner) constructor.parameters with
      | .error failure => .error failure
      | .ok accessors => .ok (constructor, accessors)

end Introspection

/-- Discover the descriptor of an identity.  The question for the path is counted
whatever the outcome is. -/
def Host.introspect (host : Host) (ident : TypeId) : Except DescriptorError Descriptor × Host :=
  let path := ident.path host.interner
  let (owner?, symbols) := host.symbols.resolve path
  let host := { host with symbols }
  match owner? with
  | none => (.error (.typeNotFound path), host)
  | some owner =>
      match Introspection.chooseHandles path symbols owner with
      | .error failure => (.error failure, host)
      | .ok (constructor, accessors) =>
          let (outcome, interner) := Introspection.assemble host.session host.interner ident path
            constructor accessors
          (outcome, { host with interner })

/-- Whatever it finds, introspection resolves one path and changes no class. -/
theorem Host.symbols_introspect (host : Host) (ident : TypeId) :
    (host.introspect ident).2.symbols =
      { host.symbols with resolutions := host.symbols.resolutions + 1 } := by
  unfold introspect
  simp only [SymbolTable.resolve]
  split
  · rfl
  · split
    · rfl
    · rfl

end StructuralProducts
