import StructuralProducts.Descriptor

namespace StructuralProducts

/-!
# Descriptors of recognized products

Instances of a recognized product are records with the components in canonical
order, so its constructor packs its arguments and its readers take fields by
position.  Arguments are tested against the component types, and a refusal has
the form that a foreign constructor gives it.

Labels and types are rendered for messages when the descriptor is made.
-/

namespace ProductShape

/-- What a record builder needs to know about the components. -/
def parameters (shape : ProductShape) (interner : Interner) : List Parameter :=
  shape.components.map fun component =>
    { label := interner.lookup component.label
      ty := component.ty
      shown := component.ty.display interner }

/-- The parts of the descriptor of a recognized product. -/
def descriptorParts (shape : ProductShape) (interner : Interner) : DescriptorParts where
  ident := shape.ident
  path := shape.ident.path interner
  labels := shape.labels
  types := shape.types
  constructorArity := shape.arity
  builder := .record (shape.parameters interner)
  readers := (List.range shape.arity).map .field

def descriptor (shape : ProductShape) (interner : Interner) : Except DescriptorError Descriptor :=
  (shape.descriptorParts interner).check

end ProductShape
end StructuralProducts
