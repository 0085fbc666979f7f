import StructuralProducts.Pattern.Site

namespace StructuralProducts

/-!
# Matching values

A walk goes through a lowered pattern and a value together.  It carries a trail:
the bindings made so far, and the calls by which contracts took values apart.
When an alternative fails, the bindings that it made are taken back; the calls
stay, because they have happened.  A failure elsewhere leaves bindings on the
trail, which is why the trail of a failed walk says nothing about bindings.

Nodes are addressed by the positions that lead to them, innermost first.
-/

/-- A contract took a value apart at a node of a pattern. -/
structure BindCall where
  node : List Nat
  contract : ContractId
  deriving DecidableEq

/-- What a walk has done so far. -/
structure Trail where
  bindings : List (Name × Value)
  calls : List BindCall

/-- How a walk ends. -/
inductive Verdict where
  | matched
  | noMatch
  | failed (failure : DescriptorError)
  deriving DecidableEq

namespace Trail

def empty : Trail := ⟨[], []⟩

instance : Inhabited Trail := ⟨empty⟩

def bind (trail : Trail) (name : Name) (value : Value) : Trail :=
  { trail with bindings := trail.bindings ++ [(name, value)] }

def record (trail : Trail) (node : List Nat) (contract : ContractId) : Trail :=
  { trail with calls := trail.calls ++ [⟨node, contract⟩] }

/-- Take back all bindings but the first ones, as many as the mark says. -/
def truncate (trail : Trail) (mark : Nat) : Trail :=
  { trail with bindings := trail.bindings.take mark }

end Trail

/-- What matching needs besides the pattern and the value: the contracts that the
pattern refers to, the interner of its string literals, and the hosts. -/
structure Matcher where
  runtime : Runtime
  interner : Interner
  contracts : ContractTable

/-- A contract id that the table does not have. -/
def ContractId.missing (id : ContractId) : DescriptorError :=
  .malformed s!"contract #{id.index}" "not in this unit's contract table"

namespace Matcher

def equalsLiteral (matcher : Matcher) (literal : Literal) (value : Value) : Bool :=
  match literal, value with
  | .int expected, .int number => expected == number
  | .bool expected, .bool truth => expected == truth
  | .str expected, .str text => matcher.interner.lookup expected == text
  | .char expected, .char character => expected == character
  | _, _ => false

/-- The value is a record, and not one of the given type. -/
def isForeignRecord (ident : TypeId) : Value -> Bool
  | .record other _ => other != ident
  | _ => false

/-- Let the contract of a node take a value apart.  The call is on the trail
afterwards, also if it failed. -/
def takeApart (matcher : Matcher) (id : ContractId) (contract : Contract) (node : List Nat)
    (value : Value) (trail : Trail) : Except DescriptorError (List Value) × Trail :=
  (contract.bind matcher.runtime value, trail.record node id)

mutual

def walk (matcher : Matcher) (pattern : LoweredPattern) (node : List Nat) (value : Value)
    (trail : Trail) : Verdict × Trail :=
  match pattern with
  | .wildcard => (.matched, trail)
  | .binding name => (.matched, trail.bind name value)
  | .literal literal =>
      (if matcher.equalsLiteral literal value then .matched else .noMatch, trail)
  | .tuple elements =>
      match value with
      | .tuple parts =>
          if elements.length = parts.length then
            matcher.walkEach elements 0 node parts trail
          else (.noMatch, trail)
      | _ => (.noMatch, trail)
  | .deconstruct id fields =>
      match matcher.contracts.contract? id with
      | none => (.failed id.missing, trail)
      | some contract =>
          if isForeignRecord contract.ident value then (.noMatch, trail)
          else
            match matcher.takeApart id contract node value trail with
            | (.error failure, trail) => (.failed failure, trail)
            | (.ok parts, trail) => matcher.walkEach fields 0 node parts trail
  | .anyOf alternatives => matcher.walkAny alternatives 0 node value trail
  | .asPattern name inner => matcher.walk inner (0 :: node) value (trail.bind name value)

/-- Walk through patterns and values pairwise, up to the first that does not
match.  What has no partner is not looked at. -/
def walkEach (matcher : Matcher) (patterns : List LoweredPattern) (position : Nat)
    (node : List Nat) (values : List Value) (trail : Trail) : Verdict × Trail :=
  match patterns, values with
  | pattern :: patterns, value :: values =>
      match matcher.walk pattern (position :: node) value trail with
      | (.matched, trail) => matcher.walkEach patterns (position + 1) node values trail
      | other => other
  | _, _ => (.matched, trail)

/-- Try alternatives in order, up to the first that matches or fails.  The
bindings of an alternative that does not match are taken back. -/
def walkAny (matcher : Matcher) (alternatives : List LoweredPattern) (position : Nat)
    (node : List Nat) (value : Value) (trail : Trail) : Verdict × Trail :=
  match alternatives with
  | [] => (.noMatch, trail)
  | pattern :: rest =>
      let mark := trail.bindings.length
      match matcher.walk pattern (position :: node) value trail with
      | (.noMatch, trail) =>
          matcher.walkAny rest (position + 1) node value (trail.truncate mark)
      | other => other

end

/-- Match a value against a pattern: the bindings in binding order, or nothing if
the value does not match.  The calls are given in any case. -/
def matchPattern (matcher : Matcher) (pattern : LoweredPattern) (value : Value) :
    Except DescriptorError (Option (List (Name × Value))) × List BindCall :=
  match matcher.walk pattern [] value .empty with
  | (.matched, trail) => (.ok (some trail.bindings), trail.calls)
  | (.noMatch, trail) => (.ok none, trail.calls)
  | (.failed failure, trail) => (.error failure, trail.calls)

/-- Select the first matching arm.  The index of the first arm is given. -/
def selectArm (matcher : Matcher) (index : Nat) (arms : List CompiledArm) (value : Value) :
    Except DescriptorError (Option (Nat × List (Name × Value))) × List BindCall :=
  match arms with
  | [] => (.ok none, [])
  | arm :: rest =>
      match matcher.matchPattern arm.pattern value with
      | (.error failure, calls) => (.error failure, calls)
      | (.ok (some bindings), calls) => (.ok (some (index, bindings)), calls)
      | (.ok none, calls) =>
          let (outcome, later) := matcher.selectArm (index + 1) rest value
          (outcome, calls ++ later)

/-- Match a value at a site: the position of the first arm that matches, with its
bindings. -/
def matchSite (matcher : Matcher) (site : CompiledSite) (value : Value) :
    Except DescriptorError (Option (Nat × List (Name × Value))) × List BindCall :=
  matcher.selectArm 0 site.arms value

/-- The number of calls that went to contracts supplied by authors. -/
def userCalls (matcher : Matcher) (calls : List BindCall) : Nat :=
  calls.countP fun call =>
    match matcher.contracts.contract? call.contract with
    | some contract => contract.origin == .userSupplied
    | none => false

end Matcher

def CompiledUnit.matcher (compiled : CompiledUnit) (runtime : Runtime) : Matcher :=
  ⟨runtime, (runtime compiled.session).interner, compiled.contracts⟩

end StructuralProducts
