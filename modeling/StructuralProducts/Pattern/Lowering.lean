import StructuralProducts.Diagnostic.Queue
import StructuralProducts.Pattern.Site
import StructuralProducts.Registry

namespace StructuralProducts

/-!
# Lowering patterns

Lowering replaces the type names of a pattern by contracts and compares the
pattern with the type of the value it will be matched against, as far as that
type is known.  It goes on after an error, with a wildcard in place of the part
at fault, so that one run reports everything.

Whatever is raised goes to the diagnostic queue at once, which drops duplicates and
stops at the error limit.  Lowering itself does not read the queue before the unit is
finished.  What was raised is also kept in full and in order, and the progress of a
run carries the proof that the queue is what the limits leave of it.
-/

/-- The limits of a run. -/
structure LoweringLimits where
  /-- The deepest nesting that is accepted; unlimited if absent. -/
  maxDepth? : Option Nat
  /-- The number of errors that are reported; zero means all. -/
  errorLimit : Nat
  deriving DecidableEq

namespace LoweringLimits

/-- Sixty-four levels and ten errors. -/
def standard : LoweringLimits := ⟨some 64, 10⟩

/-- Any nesting, every error. -/
def unlimited : LoweringLimits := ⟨none, 0⟩

instance : Inhabited LoweringLimits := ⟨standard⟩

def queueConfig (limits : LoweringLimits) : QueueConfig :=
  ⟨limits.errorLimit, true⟩

end LoweringLimits

/-- What stays fixed while the patterns of a site are lowered. -/
structure LoweringScope where
  registry : Registry
  maxDepth? : Option Nat
  siteSpan : Span

/-- What a run has produced so far besides the patterns. -/
structure LoweringProgress where
  contracts : ContractTable
  /-- Types whose contract could not be synthesized.  Their problems are raised
  once, at the first pattern that needs the contract. -/
  rejected : List TypeId
  /-- Every diagnostic in the order in which it was raised. -/
  raised : List Diagnostic
  /-- What is going to be reported. -/
  queue : DiagnosticQueue
  collected : queue = (DiagnosticQueue.empty queue.config).addAll raised

namespace LoweringProgress

def empty (config : QueueConfig) : LoweringProgress :=
  ⟨.empty, [], [], .empty config, rfl⟩

instance : Inhabited LoweringProgress := ⟨empty .standard⟩

def raiseAll (progress : LoweringProgress) (diagnostics : List Diagnostic) : LoweringProgress :=
  { progress with
    raised := progress.raised ++ diagnostics
    queue := progress.queue.addAll diagnostics
    collected := by
      rw [DiagnosticQueue.config_addAll, DiagnosticQueue.addAll_append, ← progress.collected] }

def raise (progress : LoweringProgress) (diagnostic : Diagnostic) : LoweringProgress :=
  progress.raiseAll [diagnostic]

/-- Remember that a type has no contract. -/
def reject (progress : LoweringProgress) (ident : TypeId) : LoweringProgress :=
  { progress with rejected := ident :: progress.rejected }

end LoweringProgress

namespace LoweringScope

/-- The interner that gives the names of the patterns their meaning. -/
def interner (scope : LoweringScope) : Interner :=
  scope.registry.interner

/-- A pattern does not fit the type it is matched against. -/
def mismatch (scope : LoweringScope) (span : Span) (expected : Ty) (found : String) :
    Diagnostic :=
  let shown := expected.display scope.interner
  (Diagnostic.error .typeMismatch
    s!"pattern does not fit the scrutinee: expected `{shown}`, found {found}").withLabel span
    s!"expected `{shown}`"

def tooDeep (span : Span) (limit : Nat) : Diagnostic :=
  (Diagnostic.error .nestingLimit s!"pattern nesting exceeds the limit of {limit}").withLabel
    span "nested too deeply"

def differentNames (span : Span) : Diagnostic :=
  (Diagnostic.error .conflictingNames
    "alternatives of an or-pattern bind different names").withLabel span
    "every alternative must bind the same names"

def boundTwice (span : Span) (name : String) : Diagnostic :=
  (Diagnostic.error .conflictingNames
    s!"`{name}` is bound more than once in the same pattern").withLabel span "rebound here"

/-- A written name is the last segment of several paths. -/
def ambiguousType (span : Span) (written : String) (paths : List String) : Diagnostic :=
  let sorted := paths.mergeSort (fun first second => decide (first <= second))
  (((Diagnostic.error .unknownType s!"`{written}` is ambiguous").withLabel span
    "could refer to several types").withNote ("candidates: " ++ ", ".intercalate sorted)).withSuggestion
    "write the fully qualified path"

def noContract (span : Span) (path reason : String) : Diagnostic :=
  ((Diagnostic.error .noContract s!"`{path}` cannot be deconstructed").withLabel span
    "no destructuring contract").withNote reason

/-- The reason given for a declared type that is no product. -/
def notAProduct : String := "it is not a structural product type"

/-- The reason given for a type that is known by name only. -/
def notDeclared : String := "the type has no declaration in this session"

def synthesisFailed (span : Span) (failure : DescriptorError) : Diagnostic :=
  (Diagnostic.error .internalError
    s!"contract synthesis failed: {failure.message}").withLabel span
    "while binding this pattern"

/-- The contract of a type in the table of the unit, added on first use: the
registered one if there is one, else one synthesized from the declaration.  A
registered contract stands in the table without a descriptor, even if it was made
from one. -/
def contractFor (scope : LoweringScope) (ident : TypeId) (span : Span)
    (progress : LoweringProgress) : Option ContractId × LoweringProgress :=
  let path := ident.path scope.interner
  match progress.contracts.find? ident with
  | some id => (some id, progress)
  | none =>
      match scope.registry.registered? ident with
      | some registered =>
          let (id, contracts) := progress.contracts.insert registered none
          (some id, { progress with contracts })
      | none =>
          if ident ∈ progress.rejected then
            (none, progress.raise (noContract span path notAProduct))
          else
            match scope.registry.decl? ident with
            | none => (none, progress.raise (noContract span path notDeclared))
            | some decl =>
                match Contract.synthesize decl scope.interner with
                | .ok descriptor =>
                    let (id, contracts) :=
                      progress.contracts.insert (.synthesized descriptor) (some descriptor)
                    (some id, { progress with contracts })
                | .error (.notAProduct problems) =>
                    (none, ((progress.reject ident).raiseAll
                      (problems.map (·.diagnostic ident decl.span scope.interner))).raise
                      (noContract span path notAProduct))
                | .error (.malformed failure) =>
                    (none, (progress.reject ident).raise (synthesisFailed span failure))

/-- The number of arguments does not equal the number of components.  The
declaration is shown if it stands in a source file. -/
def wrongArity (scope : LoweringScope) (ident : TypeId) (written : String) (span : Span)
    (expected found : Nat) : Diagnostic :=
  let plain := Diagnostic.arityMismatch span written expected found
  match scope.registry.decl? ident with
  | some decl =>
      if decl.span.isEmpty then plain else plain.withContext decl.span "type declared here"
  | none => plain

/-- The expected type, if it rules a deconstruction of the identity out. -/
def contradicted? (expected? : Option Ty) (ident : TypeId) : Option Ty :=
  expected?.filter (· != .named ident)

/-- The contract of a deconstruction pattern with the component types, or
nothing if the pattern is at fault: the name is resolved, the identity compared
with the expected type, the contract looked up, and the arguments counted. -/
def open? (scope : LoweringScope) (written : Name) (argumentCount : Nat) (span : Span)
    (expected? : Option Ty) (progress : LoweringProgress) :
    Option (ContractId × List Ty) × LoweringProgress :=
  let writtenText := scope.interner.lookup written
  match scope.registry.resolve written with
  | .unknown => (none, progress.raise (.unknownType span writtenText))
  | .ambiguous candidates =>
      (none, progress.raise
        (ambiguousType span writtenText (candidates.map (·.path scope.interner))))
  | .unique ident =>
      match contradicted? expected? ident with
      | some expected =>
          let found := s!"a `{ident.path scope.interner}` pattern"
          (none, progress.raise (scope.mismatch span expected found))
      | none =>
          match scope.contractFor ident span progress with
          | (none, progress) => (none, progress)
          | (some id, progress) =>
              let types := (progress.contracts.componentTypes? id).getD []
              if types.length = argumentCount then (some (id, types), progress)
              else
                (none, progress.raise
                  (scope.wrongArity ident writtenText span types.length argumentCount))

def checkLiteral (scope : LoweringScope) (literal : Literal) (expected? : Option Ty)
    (progress : LoweringProgress) : LoweringProgress :=
  match expected? with
  | none => progress
  | some expected =>
      if expected = literal.ty then progress
      else progress.raise (scope.mismatch scope.siteSpan expected literal.description)

/-- The expected types of the elements of a tuple pattern, and what lowering
raises at it.  Nothing is expected of the elements if the tuple does not fit. -/
def checkTuple (scope : LoweringScope) (elementCount : Nat) (expected? : Option Ty)
    (progress : LoweringProgress) : List (Option Ty) × LoweringProgress :=
  match expected? with
  | none => ([], progress)
  | some (.tuple types) =>
      if types.length = elementCount then (types.map some, progress)
      else
        ([], progress.raise (scope.mismatch scope.siteSpan (.tuple types)
          s!"a tuple pattern of {elementCount} elements"))
  | some other =>
      ([], progress.raise (scope.mismatch scope.siteSpan other
        s!"a tuple pattern of {elementCount} elements"))

/-- What lowering raises at an alternation.  Names are compared with
multiplicity, and every alternative with the first. -/
def checkAlternatives (scope : LoweringScope) (alternatives : List LoweredPattern)
    (progress : LoweringProgress) : LoweringProgress :=
  match alternatives with
  | [] => progress
  | first :: rest =>
      if rest.all fun other => other.boundNames.isPerm first.boundNames then progress
      else progress.raise (differentNames scope.siteSpan)

/-- The nesting limit, if the depth is beyond it. -/
def exceeded? (scope : LoweringScope) (depth : Nat) : Option Nat :=
  scope.maxDepth?.filter (· < depth)

mutual

/-- Lower a pattern that stands at a given depth, against the expected type if
one is known. -/
def lower (scope : LoweringScope) (pattern : Pattern) (expected? : Option Ty) (depth : Nat)
    (progress : LoweringProgress) : LoweredPattern × LoweringProgress :=
  match scope.exceeded? depth with
  | some limit =>
      (.wildcard, progress.raise (tooDeep (pattern.span?.getD scope.siteSpan) limit))
  | none =>
      match pattern with
      | .wildcard => (.wildcard, progress)
      | .binding name => (.binding name, progress)
      | .literal literal => (.literal literal, scope.checkLiteral literal expected? progress)
      | .tuple elements =>
          let (types, progress) := scope.checkTuple elements.length expected? progress
          let (lowered, progress) := scope.lowerEach elements types (depth + 1) progress
          (.tuple lowered, progress)
      | .deconstruct typeName arguments span =>
          match scope.open? typeName arguments.length span expected? progress with
          | (none, progress) => (.wildcard, progress)
          | (some (id, types), progress) =>
              let (lowered, progress) :=
                scope.lowerEach arguments (types.map some) (depth + 1) progress
              (.deconstruct id lowered, progress)
      | .anyOf alternatives =>
          let (lowered, progress) := scope.lowerEach alternatives
            (List.replicate alternatives.length expected?) (depth + 1) progress
          (.anyOf lowered, scope.checkAlternatives lowered progress)
      | .asPattern name inner =>
          let (lowered, progress) := scope.lower inner expected? (depth + 1) progress
          (.asPattern name lowered, progress)

/-- Lower patterns of one depth in order, each against the expected type at its
position.  Where the list of types has ended, nothing is expected. -/
def lowerEach (scope : LoweringScope) (patterns : List Pattern) (expected : List (Option Ty))
    (depth : Nat) (progress : LoweringProgress) : List LoweredPattern × LoweringProgress :=
  match patterns with
  | [] => ([], progress)
  | pattern :: rest =>
      let (lowered, progress) := scope.lower pattern expected.head?.join depth progress
      let (others, progress) := scope.lowerEach rest expected.tail depth progress
      (lowered :: others, progress)

end

/-- The names that occur again after a first occurrence, each once, in the order
of their second occurrences.  The names seen and those already reported come
first. -/
def repeatedNames : List Name -> List Name -> List Name -> List Name
  | _, _, [] => []
  | seen, reported, name :: rest =>
      if name ∈ seen then
        if name ∈ reported then repeatedNames seen reported rest
        else name :: repeatedNames seen (name :: reported) rest
      else repeatedNames (name :: seen) reported rest

/-- Lower a whole pattern and raise every name that it binds twice. -/
def lowerWhole (scope : LoweringScope) (pattern : Pattern) (expected? : Option Ty)
    (progress : LoweringProgress) : LoweredPattern × LoweringProgress :=
  let (lowered, progress) := scope.lower pattern expected? 0 progress
  let span := pattern.span?.getD scope.siteSpan
  (lowered, progress.raiseAll ((repeatedNames [] [] lowered.boundNames).map fun name =>
    boundTwice span (scope.interner.lookup name)))

def lowerArms (scope : LoweringScope) (expected? : Option Ty) :
    List Pattern -> LoweringProgress -> List CompiledArm × LoweringProgress
  | [], progress => ([], progress)
  | pattern :: rest, progress =>
      let (lowered, progress) := scope.lowerWhole pattern expected? progress
      let (arms, progress) := scope.lowerArms expected? rest progress
      (CompiledArm.ofPattern lowered :: arms, progress)

end LoweringScope

/-- A run over the patterns of one unit. -/
structure LoweringRun where
  registry : Registry
  limits : LoweringLimits
  /-- The span of the last site, where patterns without a place are reported. -/
  siteSpan : Span
  progress : LoweringProgress

/-- A unit that could not be compiled: what is reported, and the evidence that
something is. -/
structure LoweringFailure where
  evidence : ReportedError
  diagnostics : List Diagnostic

namespace LoweringRun

def start (registry : Registry) (limits : LoweringLimits) : LoweringRun :=
  ⟨registry, limits, Span.synthetic, .empty limits.queueConfig⟩

def scope (run : LoweringRun) : LoweringScope :=
  ⟨run.registry, run.limits.maxDepth?, run.siteSpan⟩

/-- Lower one pattern, at the span of the last site. -/
def pattern (run : LoweringRun) (written : Pattern) (expected? : Option Ty) :
    LoweredPattern × LoweringRun :=
  let (lowered, progress) := run.scope.lowerWhole written expected? run.progress
  (lowered, { run with progress })

def site (run : LoweringRun) (written : PatternSite) : CompiledSite × LoweringRun :=
  let run := { run with siteSpan := written.span }
  let (arms, progress) := run.scope.lowerArms written.scrutinee? written.patterns run.progress
  (⟨written.kind, written.span, arms⟩, { run with progress })

def sites (run : LoweringRun) : List PatternSite -> List CompiledSite × LoweringRun
  | [] => ([], run)
  | written :: rest =>
      let (compiled, run) := run.site written
      let (others, run) := run.sites rest
      (compiled :: others, run)

/-- The compiled unit, or everything that is reported if anything was raised. -/
def finish (run : LoweringRun) (session : SessionId) (name : String) (exports : List String)
    (sites : List CompiledSite) : Except LoweringFailure CompiledUnit :=
  match run.progress.queue.reported? with
  | some evidence => .error ⟨evidence, run.progress.queue.flush.1⟩
  | none => .ok ⟨session, name, exports, sites, run.progress.contracts⟩

end LoweringRun

/-- Compile a unit against the registry of a session. -/
def PatternUnit.compile (written : PatternUnit) (session : SessionId) (registry : Registry)
    (limits : LoweringLimits) : Except LoweringFailure CompiledUnit :=
  let (sites, run) := (LoweringRun.start registry limits).sites written.sites
  run.finish session written.name written.exports sites

end StructuralProducts
