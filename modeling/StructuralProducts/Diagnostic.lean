import StructuralProducts.Span

namespace StructuralProducts

/-!
# Diagnostics

Every diagnostic is an error; there are no warnings.  A diagnostic carries a
code, a message, labelled spans, notes and suggestions, each list in the order
in which the parts were attached.
-/

/-- The causes that diagnostics report. -/
inductive ErrorCode where
  /-- A component is declared mutable. -/
  | mutableComponent
  /-- There is no canonical constructor, or more than one. -/
  | canonicalConstructor
  /-- The canonical constructor does not follow the components. -/
  | constructorOrder
  /-- A component has no accessor without parameters. -/
  | missingAccessor
  /-- A component label is declared twice. -/
  | duplicateComponent
  /-- A deconstruction pattern names no single type. -/
  | unknownType
  /-- A type cannot be deconstructed. -/
  | noContract
  /-- A pattern does not fit the type it is matched against. -/
  | typeMismatch
  /-- A deconstruction pattern has the wrong number of sub-patterns. -/
  | arityMismatch
  /-- The names that a pattern binds do not fit together. -/
  | conflictingNames
  /-- A pattern is nested beyond the limit. -/
  | nestingLimit
  /-- The compiler contradicted itself. -/
  | internalError
  /-- Reporting stopped at the error limit. -/
  | tooManyErrors
  deriving DecidableEq, Inhabited

namespace ErrorCode

/-- Every code, in the order of the code texts. -/
def all : List ErrorCode :=
  [.mutableComponent, .canonicalConstructor, .constructorOrder, .missingAccessor,
   .duplicateComponent, .unknownType, .noContract, .typeMismatch, .arityMismatch,
   .conflictingNames, .nestingLimit, .internalError, .tooManyErrors]

/-- The text of a code.  The first digit gives the phase: `2` for the shape of a
declaration, `3` for patterns, `9` for the compiler itself. -/
def text : ErrorCode -> String
  | .mutableComponent => "E2101"
  | .canonicalConstructor => "E2102"
  | .constructorOrder => "E2103"
  | .missingAccessor => "E2104"
  | .duplicateComponent => "E2105"
  | .unknownType => "E3001"
  | .noContract => "E3002"
  | .typeMismatch => "E3003"
  | .arityMismatch => "E3004"
  | .conflictingNames => "E3005"
  | .nestingLimit => "E3006"
  | .internalError => "E9001"
  | .tooManyErrors => "E9002"

def ofText? (text : String) : Option ErrorCode :=
  all.find? (·.text == text)

/-- The code is about the shape of a declaration. -/
def isShapeError : ErrorCode -> Bool
  | .mutableComponent | .canonicalConstructor | .constructorOrder | .missingAccessor
  | .duplicateComponent => true
  | _ => false

def isPatternError : ErrorCode -> Bool
  | .unknownType | .noContract | .typeMismatch | .arityMismatch | .conflictingNames
  | .nestingLimit => true
  | _ => false

end ErrorCode

/-- A span with a message.  Primary labels mark the error itself, the others its
context. -/
structure Label where
  span : Span
  text : String
  isPrimary : Bool
  deriving DecidableEq

/-- A reported error. -/
structure Diagnostic where
  code : ErrorCode
  message : String
  labels : List Label
  notes : List String
  suggestions : List String
  deriving DecidableEq

namespace Diagnostic

def error (code : ErrorCode) (message : String) : Diagnostic :=
  ⟨code, message, [], [], []⟩

def withLabel (diagnostic : Diagnostic) (span : Span) (text : String) : Diagnostic :=
  { diagnostic with labels := diagnostic.labels ++ [⟨span, text, true⟩] }

def withContext (diagnostic : Diagnostic) (span : Span) (text : String) : Diagnostic :=
  { diagnostic with labels := diagnostic.labels ++ [⟨span, text, false⟩] }

def withNote (diagnostic : Diagnostic) (note : String) : Diagnostic :=
  { diagnostic with notes := diagnostic.notes ++ [note] }

def withSuggestion (diagnostic : Diagnostic) (suggestion : String) : Diagnostic :=
  { diagnostic with suggestions := diagnostic.suggestions ++ [suggestion] }

def primarySpan? (diagnostic : Diagnostic) : Option Span :=
  (diagnostic.labels.find? (·.isPrimary)).map (·.span)

/-- The displayed form: one line for the message and one for every part. -/
def display (diagnostic : Diagnostic) : String :=
  let label (part : Label) : String :=
    "\n  " ++ (if part.isPrimary then "-->" else "   ") ++ " " ++ part.span.display ++
      ": " ++ part.text
  s!"error [{diagnostic.code.text}]: {diagnostic.message}" ++
    String.join (diagnostic.labels.map label) ++
    String.join (diagnostic.notes.map ("\n  = note: " ++ ·)) ++
    String.join (diagnostic.suggestions.map ("\n  = help: " ++ ·))

def pluralEnding (count : Nat) : String :=
  if count = 1 then "" else "s"

/-- A deconstruction pattern has the wrong number of sub-patterns. -/
def arityMismatch (span : Span) (typeName : String) (expected found : Nat) : Diagnostic :=
  (error .arityMismatch
    (s!"`{typeName}` has {expected} component" ++ pluralEnding expected ++
      s!", but the pattern has {found} sub-pattern" ++ pluralEnding found ++
      s!": expected arity {expected}, got {found}")).withLabel span
    (s!"expected {expected} sub-pattern" ++ pluralEnding expected)

def unknownType (span : Span) (name : String) : Diagnostic :=
  (error .unknownType s!"cannot find type `{name}` to deconstruct").withLabel span
    "not a known type"

/-- The marker that stands for every error after the limit. -/
def tooManyErrors (limit : Nat) : Diagnostic :=
  error .tooManyErrors s!"aborting after {limit} errors"

end Diagnostic
end StructuralProducts
