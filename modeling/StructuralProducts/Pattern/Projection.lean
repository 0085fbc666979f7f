import StructuralProducts.Pattern.Matching

namespace StructuralProducts

/-!
# Following access paths

An access path leads from a value to a part of it, step by step.  A component
step reads the one component through the descriptor of its contract if the table
has one; otherwise the contract takes the whole value apart.
-/

namespace Matcher

def noElement (index : Nat) : DescriptorError :=
  .componentAccess "tuple" s!"no element {index}"

/-- An element is asked of something that is no tuple. -/
def notATuple (kind : String) : DescriptorError :=
  .componentAccess "tuple" s!"projected a {kind}"

/-- The component of a value at a position, through a contract of the table. -/
def component (matcher : Matcher) (id : ContractId) (value : Value) (index : Nat) :
    Except DescriptorError Value :=
  match matcher.contracts.descriptor? id with
  | some descriptor => descriptor.component matcher.runtime value index
  | none =>
      match matcher.contracts.contract? id with
      | none => .error id.missing
      | some contract =>
          match contract.bind matcher.runtime value with
          | .error failure => .error failure
          | .ok parts =>
              match parts[index]? with
              | some part => .ok part
              | none => .error (.outOfRange contract.path index parts.length)

def step (matcher : Matcher) (value : Value) : AccessStep -> Except DescriptorError Value
  | .element index =>
      match value with
      | .tuple elements =>
          match elements[index]? with
          | some element => .ok element
          | none => .error (noElement index)
      | _ => .error (notATuple value.kindName)
  | .component contract index => matcher.component contract value index

/-- Follow a path from a value, up to the first step that fails. -/
def project (matcher : Matcher) (value : Value) : AccessPath -> Except DescriptorError Value
  | [] => .ok value
  | step :: rest =>
      match matcher.step value step with
      | .error failure => .error failure
      | .ok part => matcher.project part rest

end Matcher
end StructuralProducts
