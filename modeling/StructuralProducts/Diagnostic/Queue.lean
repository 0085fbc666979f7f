import StructuralProducts.Diagnostic

namespace StructuralProducts

/-!
# The diagnostic queue

The queue collects the diagnostics of one compilation unit.  It drops exact
duplicates if asked to, and once a positive limit is reached it records one
marker and drops everything after it.  Flushing hands out what was collected,
ordered by position, and starts over with the same configuration.

The two filters stand in a fixed order: the limit is looked at first, so a
duplicate that arrives at a full queue still calls for the marker.
-/

/-- How a queue filters what it is given. -/
structure QueueConfig where
  /-- The number of errors after which the queue is full; zero means never. -/
  limit : Nat
  /-- Drop a diagnostic that is already in the queue. -/
  dropDuplicates : Bool
  deriving DecidableEq

namespace QueueConfig

/-- Ten errors, each reported once. -/
def standard : QueueConfig := ⟨10, true⟩

/-- Everything that is added, as often as it is added. -/
def unlimited : QueueConfig := ⟨0, false⟩

instance : Inhabited QueueConfig := ⟨standard⟩

end QueueConfig

/-- Evidence that an error was reported.  The queue alone hands it out. -/
structure ReportedError where
  private issue ::
  deriving DecidableEq

def ReportedError.inspect (_ : ReportedError) : String :=
  "ErrorGuaranteed(())"

/-- The diagnostics collected so far.  `count` does not include the marker, and
`marked` says that the marker has been recorded. -/
structure DiagnosticQueue where
  config : QueueConfig
  entries : List Diagnostic
  count : Nat
  marked : Bool
  deriving DecidableEq

namespace DiagnosticQueue

def empty (config : QueueConfig) : DiagnosticQueue :=
  ⟨config, [], 0, false⟩

/-- As many errors as the limit allows have been counted. -/
def isFull (queue : DiagnosticQueue) : Bool :=
  decide (0 < queue.config.limit) && decide (queue.config.limit <= queue.count)

/-- Add a diagnostic, and say whether it was counted. -/
def add (queue : DiagnosticQueue) (diagnostic : Diagnostic) : Bool × DiagnosticQueue :=
  if queue.isFull then
    if queue.marked then (false, queue)
    else
      (false, { queue with
        entries := queue.entries ++ [Diagnostic.tooManyErrors queue.config.limit]
        marked := true })
  else if queue.config.dropDuplicates && queue.entries.contains diagnostic then
    (false, queue)
  else
    (true, { queue with
      entries := queue.entries ++ [diagnostic]
      count := queue.count + 1 })

/-- Add a diagnostic for the evidence that an error was reported.  A diagnostic
that is filtered gives the evidence too: it was a duplicate, or came after the
limit, and either way an error is in the queue. -/
def emit (queue : DiagnosticQueue) (diagnostic : Diagnostic) :
    ReportedError × DiagnosticQueue :=
  (ReportedError.issue, (queue.add diagnostic).2)

def addAll (queue : DiagnosticQueue) (diagnostics : List Diagnostic) : DiagnosticQueue :=
  diagnostics.foldl (fun queue diagnostic => (queue.add diagnostic).2) queue

/-- Evidence of an error, if any was counted. -/
def reported? (queue : DiagnosticQueue) : Option ReportedError :=
  if 0 < queue.count then some ReportedError.issue else none

/-- The key of the order in which diagnostics are handed out: the start of the
primary span, or the largest offset if there is no such span. -/
def positionKey (diagnostic : Diagnostic) : Nat :=
  match diagnostic.primarySpan? with
  | some span => span.start.toNat
  | none => 0xffffffff

/-- Diagnostics in order of position; equal positions keep their order. -/
def inOrder (diagnostics : List Diagnostic) : List Diagnostic :=
  diagnostics.mergeSort (fun first second => positionKey first <= positionKey second)

/-- Hand out everything and start over. -/
def flush (queue : DiagnosticQueue) : List Diagnostic × DiagnosticQueue :=
  (inOrder queue.entries, empty queue.config)

theorem count_le_of_add (queue : DiagnosticQueue) (diagnostic : Diagnostic) :
    queue.count <= (queue.add diagnostic).2.count := by
  unfold add
  split
  · split <;> exact Nat.le_refl _
  · split
    · exact Nat.le_refl _
    · exact Nat.le_succ _

theorem config_add (queue : DiagnosticQueue) (diagnostic : Diagnostic) :
    (queue.add diagnostic).2.config = queue.config := by
  unfold add
  split
  · split <;> rfl
  · split <;> rfl

theorem config_addAll (queue : DiagnosticQueue) (diagnostics : List Diagnostic) :
    (queue.addAll diagnostics).config = queue.config := by
  induction diagnostics generalizing queue with
  | nil => rfl
  | cons first rest inductionHypothesis =>
      exact (inductionHypothesis (queue.add first).2).trans (queue.config_add first)

/-- Adding in two parts is adding everything. -/
theorem addAll_append (queue : DiagnosticQueue) (earlier later : List Diagnostic) :
    queue.addAll (earlier ++ later) = (queue.addAll earlier).addAll later :=
  List.foldl_append

/-- Flushing loses nothing and invents nothing. -/
theorem inOrder_perm (diagnostics : List Diagnostic) : (inOrder diagnostics).Perm diagnostics :=
  List.mergeSort_perm diagnostics _

end DiagnosticQueue
end StructuralProducts
