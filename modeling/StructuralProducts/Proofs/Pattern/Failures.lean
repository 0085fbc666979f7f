import StructuralProducts.Proofs.Pattern.Taken

namespace StructuralProducts

/-!
# Where failures come from

A match that fails does so because a contract of the table failed to take a value
apart.  The contracts are those that a registry provides, so each is either
synthesized from a declaration, and then it fails only while it reads a component,
or it was registered, and then it may fail in any way.

A contract that the table does not have is a failure of its own.  Where every
position that is looked up stands in the table, only a registered contract can
bring that failure about, by failing with the same error itself.
-/

/-! ## Failures of contracts -/

namespace Descriptor

variable {descriptor : Descriptor} {runtime : Runtime} {value : Value} {failure : DescriptorError}

/-- Each component is read as the field at some position. -/
def ReadsFields (descriptor : Descriptor) : Prop :=
  forall reader, reader ∈ descriptor.readers -> Exists fun index => reader = .field index

end Descriptor

namespace MatchOutcome

end MatchOutcome

namespace Matcher

variable {matcher : Matcher} {failure : DescriptorError}

end Matcher

/-! ## The error of a missing contract -/

/-- A component step names a contract of the table and a position below its
arity. -/
def AccessStep.Within (table : ContractTable) : AccessStep -> Prop
  | .element _ => True
  | .component id index => Exists fun entry =>
      table.entryAt? id = some entry ∧ index < entry.contract.arity

namespace Matcher

variable {matcher : Matcher} {registry : Registry}
  (provided : forall id entry, matcher.contracts.entryAt? id = some entry ->
    registry.provision? entry.contract.ident = some entry)

include provided

end Matcher
end StructuralProducts
