import StructuralProducts.TypeDecl
import StructuralProducts.Diagnostic

namespace StructuralProducts

/-!
# Structural products

A declaration is a structural product when no component is mutable, no label
repeats, exactly one constructor is canonical and its parameters are the labels
in order, and every label has an accessor of its name without parameters.

Recognition reports every violation at once.  The report goes over the
components twice with the constructors in between, and each of the three parts
is a function of its own, so that what is reported can be read off them.
-/

/-- A violation of the rules of structural products. -/
inductive ShapeProblem where
  | mutableComponent (label : Name) (span : Span)
  | canonicalConstructor (found : Nat)
  | constructorOrder (expected found : List Name) (span : Span)
  | missingAccessor (label : Name) (span : Span)
  /-- No accessor of the name is without parameters; the first one is shown. -/
  | accessorTakesArguments (name : Name) (count : Nat) (span : Span)
  | duplicateComponent (label : Name) (span : Span)
  deriving DecidableEq

/-- A component of a recognized product. -/
structure ShapeComponent where
  label : Name
  ty : Ty
  span : Span
  deriving DecidableEq

/-- A recognized product, with its components in canonical order. -/
structure ProductShape where
  ident : TypeId
  span : Span
  origin : Origin
  components : List ShapeComponent
  deriving DecidableEq

namespace TypeDecl

/-- What is wrong with the components themselves.  The labels seen so far decide
which component is a duplicate. -/
def componentProblems : List Name -> List ComponentDecl -> List ShapeProblem
  | _, [] => []
  | seen, component :: rest =>
      (if component.isMutable then
        [ShapeProblem.mutableComponent component.label component.span] else []) ++
      (if component.label ∈ seen then
        [ShapeProblem.duplicateComponent component.label component.span] else []) ++
      componentProblems (component.label :: seen) rest

def canonicalConstructors (decl : TypeDecl) : List ConstructorDecl :=
  decl.constructors.filter (·.isCanonical)

def constructorProblems (decl : TypeDecl) : List ShapeProblem :=
  match decl.canonicalConstructors with
  | [constructor] =>
      if constructor.parameters = decl.labels then []
      else [.constructorOrder decl.labels constructor.parameters constructor.span]
  | others => [.canonicalConstructor others.length]

def accessorsNamed (decl : TypeDecl) (name : Name) : List AccessorDecl :=
  decl.accessors.filter (·.name == name)

/-- What is wrong with the accessors of one component. -/
def accessorProblem? (decl : TypeDecl) (component : ComponentDecl) : Option ShapeProblem :=
  match decl.accessorsNamed component.label with
  | [] => some (.missingAccessor component.label component.span)
  | first :: rest =>
      if (first :: rest).any (·.parameterCount == 0) then none
      else some (.accessorTakesArguments first.name first.parameterCount first.span)

def shapeProblems (decl : TypeDecl) : List ShapeProblem :=
  componentProblems [] decl.components ++ decl.constructorProblems ++
    decl.components.filterMap decl.accessorProblem?

end TypeDecl

namespace ProductShape

/-- The shape that a declaration has if it is a product. -/
def ofDecl (decl : TypeDecl) : ProductShape where
  ident := decl.ident
  span := decl.span
  origin := decl.origin
  components := decl.components.map fun component =>
    ⟨component.label, component.ty, component.span⟩

/-- The shape of a structural product, or everything that is wrong. -/
def recognize (decl : TypeDecl) : Except (List ShapeProblem) ProductShape :=
  match decl.shapeProblems with
  | [] => .ok (ofDecl decl)
  | problems => .error problems

def arity (shape : ProductShape) : Nat :=
  shape.components.length

def labels (shape : ProductShape) : List Name :=
  shape.components.map (·.label)

def types (shape : ProductShape) : List Ty :=
  shape.components.map (·.ty)

def isNative (shape : ProductShape) : Bool :=
  shape.origin == .native

/-- A declaration is recognized exactly when nothing is wrong with it. -/
theorem recognize_eq_ok_iff (decl : TypeDecl) (shape : ProductShape) :
    recognize decl = .ok shape ↔ decl.shapeProblems = [] ∧ shape = ofDecl decl := by
  unfold recognize
  cases decl.shapeProblems with
  | nil => simp [eq_comm]
  | cons problem rest => simp

/-- A refusal lists every problem, and there is at least one. -/
theorem recognize_eq_error_iff (decl : TypeDecl) (problems : List ShapeProblem) :
    recognize decl = .error problems ↔ decl.shapeProblems ≠ [] ∧ problems = decl.shapeProblems := by
  unfold recognize
  cases decl.shapeProblems with
  | nil => simp
  | cons problem rest => simp [eq_comm]

theorem labels_ofDecl (decl : TypeDecl) : (ofDecl decl).labels = decl.labels := by
  simp [labels, ofDecl, TypeDecl.labels]

end ProductShape

namespace ShapeProblem

def code : ShapeProblem -> ErrorCode
  | .mutableComponent _ _ => .mutableComponent
  | .canonicalConstructor _ => .canonicalConstructor
  | .constructorOrder _ _ _ => .constructorOrder
  | .missingAccessor _ _ => .missingAccessor
  | .accessorTakesArguments _ _ _ => .missingAccessor
  | .duplicateComponent _ _ => .duplicateComponent

/-- The report of a problem against the declaration of a type. -/
def diagnostic (problem : ShapeProblem) (ident : TypeId) (declaredAt : Span)
    (interner : Interner) : Diagnostic :=
  let path := ident.path interner
  let nameText (name : Name) : String := interner.lookup name
  let nameTexts (names : List Name) : String := ", ".intercalate (names.map interner.lookup)
  match problem with
  | .mutableComponent label span =>
      (Diagnostic.error problem.code
        ("component `" ++ nameText label ++ s!"` of `{path}` is mutable")).withLabel span
        "declared mutable here"
  | .canonicalConstructor found =>
      (Diagnostic.error problem.code
        s!"`{path}` has {found} canonical constructors, expected exactly one").withLabel
        declaredAt "declared here"
  | .constructorOrder expected found span =>
      ((Diagnostic.error problem.code
        s!"canonical constructor of `{path}` does not follow its components").withLabel span
        ("parameters are (" ++ nameTexts found ++ ")")).withNote
        ("components are (" ++ nameTexts expected ++ ")")
  | .missingAccessor label span =>
      (Diagnostic.error problem.code
        ("component `" ++ nameText label ++ s!"` of `{path}` has no accessor")).withLabel span
        "component declared here"
  | .accessorTakesArguments name count span =>
      (Diagnostic.error problem.code
        ("accessor `" ++ nameText name ++ s!"` of `{path}` takes {count} arguments")).withLabel span
        "component accessors take no arguments"
  | .duplicateComponent label span =>
      (Diagnostic.error problem.code
        ("component `" ++ nameText label ++ s!"` of `{path}` is declared twice")).withLabel span
        "duplicate component"

end ShapeProblem
end StructuralProducts
