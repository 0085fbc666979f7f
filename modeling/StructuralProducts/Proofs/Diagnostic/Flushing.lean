import StructuralProducts.Proofs.Diagnostic.Histories

namespace StructuralProducts

/-!
# Flushing a queue

Flushing hands out what the queue holds and leaves a queue as it was made.  The
diagnostics that have a place come in the order of their starts, and the others are to
stand behind them; within either group the order is that of adding.

One key sorts both groups.  A diagnostic without a place has the largest offset for its
key, which is also the start of a span at the very end of the offsets, and diagnostics
of one key keep the order in which they were added.  So the groups mix in one case: a
diagnostic without a place that was added before one that starts at the last offset is
handed out before it too.
-/

/-- Everything with a property stands before everything without it exactly when nothing
with the property follows something without it. -/
theorem eq_filter_append_filter_iff {Item : Type} (front : Item -> Bool) (items : List Item) :
    items = items.filter front ++ items.filter (fun item => !front item) ↔
      items.Pairwise fun first second => front first = false -> front second = false := by
  constructor
  · intro split
    rw [split]
    refine List.pairwise_append.mpr ⟨?_, ?_, ?_⟩
    · refine List.pairwise_of_forall_mem_list ?_
      intro first member second _ behind
      rw [(List.mem_filter.mp member).2] at behind
      cases behind
    · refine List.pairwise_of_forall_mem_list ?_
      intro first _ second member _
      simpa using (List.mem_filter.mp member).2
    · intro first member second _ behind
      rw [(List.mem_filter.mp member).2] at behind
      cases behind
  · intro sorted
    induction items with
    | nil => rfl
    | cons item rest inductionHypothesis =>
        have parts := List.pairwise_cons.mp sorted
        cases side : front item with
        | true =>
            rw [List.filter_cons_of_pos side, List.filter_cons_of_neg (by simp [side]),
              List.cons_append, ← inductionHypothesis parts.2]
        | false =>
            have behind : forall other, other ∈ rest -> front other = false :=
              fun other member => parts.1 other member side
            have none : rest.filter front = [] := by
              rw [List.filter_eq_nil_iff]
              intro other member
              rw [behind other member]
              exact Bool.false_ne_true
            have all : rest.filter (fun other => !front other) = rest := by
              rw [List.filter_eq_self]
              intro other member
              rw [behind other member]
              rfl
            rw [List.filter_cons_of_neg (by simp [side]), List.filter_cons_of_pos (by simp [side]),
              none, all, List.nil_append]

/-- A relation that the key settles everywhere but within one level holds along a sorted
list if it holds along that level. -/
theorem StablySorted.pairwise_iff {Item : Type} {key : Item -> Nat} {given sorted : List Item}
    (stably : StablySorted key given sorted) {related : Item -> Item -> Prop} (level : Nat)
    (elsewhere : forall first second, key first ≤ key second ->
      ¬ (key first = level ∧ key second = level) -> related first second) :
    sorted.Pairwise related ↔
      given.Pairwise fun first second =>
        key first = level -> key second = level -> related first second := by
  have same : sorted.Pairwise (fun first second =>
        key first = level -> key second = level -> related first second) ↔
      given.Pairwise (fun first second =>
        key first = level -> key second = level -> related first second) := by
    have filtered := stably.stable level
    have along (items : List Item) : items.Pairwise (fun first second =>
          key first = level -> key second = level -> related first second) ↔
        (items.filter (key · == level)).Pairwise related := by
      simp only [List.pairwise_filter, beq_iff_eq]
    rw [along, along, filtered]
  rw [← same]
  constructor
  · exact fun holds => holds.imp fun relation _ _ => relation
  · intro within
    refine (stably.ordered.and within).imp ?_
    rintro first second ⟨before, inside⟩
    by_cases level : key first = level ∧ key second = level
    · exact inside level.1 level.2
    · exact elsewhere first second before level

namespace Diagnostic

/-- The diagnostic has a place: a primary label. -/
def isPlaced (diagnostic : Diagnostic) : Bool :=
  diagnostic.primarySpan?.isSome

/-- The place of the diagnostic starts at the last offset that there is. -/
def StartsLast (diagnostic : Diagnostic) : Prop :=
  Exists fun span => diagnostic.primarySpan? = some span ∧ span.start.toNat = 0xffffffff

end Diagnostic

namespace DiagnosticQueue

theorem positionKey_of_unplaced {diagnostic : Diagnostic}
    (unplaced : diagnostic.isPlaced = false) : positionKey diagnostic = 0xffffffff := by
  have none : diagnostic.primarySpan? = none := by
    simpa [Diagnostic.isPlaced] using unplaced
  rw [positionKey, none]

/-- With a place, the largest key is a place at the last offset. -/
theorem positionKey_eq_last_iff {diagnostic : Diagnostic} (placed : diagnostic.isPlaced = true) :
    positionKey diagnostic = 0xffffffff ↔ diagnostic.StartsLast := by
  rcases Option.isSome_iff_exists.mp placed with ⟨span, located⟩
  rw [positionKey, located]
  constructor
  · exact fun last => ⟨span, located, last⟩
  · rintro ⟨other, found, last⟩
    rw [located] at found
    cases found
    exact last

/-- Flushing separates what has a place from what has none exactly when nothing without
a place was added before a diagnostic that starts at the last offset. -/
theorem separated_inOrder_iff (diagnostics : List Diagnostic) :
    inOrder diagnostics = (inOrder diagnostics).filter (·.isPlaced) ++
        (inOrder diagnostics).filter (fun diagnostic => !diagnostic.isPlaced) ↔
      diagnostics.Pairwise fun first second =>
        first.isPlaced = false -> ¬ second.StartsLast := by
  rw [eq_filter_append_filter_iff]
  -- A diagnostic without a place has the largest key, so only that level can mix.
  have settled : forall first second, positionKey first ≤ positionKey second ->
      ¬ (positionKey first = 0xffffffff ∧ positionKey second = 0xffffffff) ->
      first.isPlaced = false -> second.isPlaced = false := by
    intro first second before apart unplaced
    have top := positionKey_of_unplaced unplaced
    have bound := positionKey_le second
    rw [top] at before
    exact absurd ⟨top, Nat.le_antisymm bound before⟩ apart
  rw [(stablySorted_inOrder diagnostics).pairwise_iff 0xffffffff settled]
  apply List.Pairwise.iff
  intro first second
  constructor
  · rintro level unplaced ⟨span, located, last⟩
    have placed : second.isPlaced = true := Option.isSome_iff_exists.mpr ⟨span, located⟩
    have unplacedToo := level (positionKey_of_unplaced unplaced)
      ((positionKey_eq_last_iff placed).mpr ⟨span, located, last⟩) unplaced
    rw [placed] at unplacedToo
    cases unplacedToo
  · intro apart _ last unplaced
    apply Bool.eq_false_iff.mpr
    intro placed
    exact apart unplaced ((positionKey_eq_last_iff placed).mp last)

/-- What flushing makes of the diagnostics of a queue. -/
structure HandsOut (given report : List Diagnostic) : Prop where
  /-- Nothing is lost and nothing is invented, and one key sorts everything. -/
  sorted : StablySorted positionKey given report
  /-- What has a place is in the order of the starts, and in the order of adding where
  starts are equal. -/
  placed : StablySorted positionKey (given.filter (·.isPlaced)) (report.filter (·.isPlaced))
  /-- What has no place is in the order of adding. -/
  unplaced : report.filter (fun diagnostic => !diagnostic.isPlaced) =
    given.filter fun diagnostic => !diagnostic.isPlaced
  /-- What has no place stands at the end, unless it was added before a diagnostic that
  starts at the last offset. -/
  separated_iff :
    report = report.filter (·.isPlaced) ++
        report.filter (fun diagnostic => !diagnostic.isPlaced) ↔
      given.Pairwise fun first second => first.isPlaced = false -> ¬ second.StartsLast

theorem handsOut_inOrder (diagnostics : List Diagnostic) :
    HandsOut diagnostics (inOrder diagnostics) where
  sorted := stablySorted_inOrder diagnostics
  placed := (stablySorted_inOrder diagnostics).filter _
  unplaced := by
    have level := ((stablySorted_inOrder diagnostics).filter
      fun diagnostic => !diagnostic.isPlaced).stable 0xffffffff
    have all (items : List Diagnostic) :
        (items.filter fun diagnostic => !diagnostic.isPlaced).filter
            (positionKey · == 0xffffffff) =
          items.filter fun diagnostic => !diagnostic.isPlaced := by
      rw [List.filter_eq_self]
      intro diagnostic member
      have unplaced := (List.mem_filter.mp member).2
      exact beq_iff_eq.mpr (positionKey_of_unplaced (by simpa using unplaced))
    rw [all, all] at level
    exact level
  separated_iff := separated_inOrder_iff diagnostics

end DiagnosticQueue

namespace QueueLedger

theorem run_append (config : QueueConfig) (earlier later : List QueueCall) :
    run config (earlier ++ later) =
      later.foldl (fun ledger call => call.record ledger) (run config earlier) :=
  List.foldl_append

/-- Whatever was called before, a flush leaves the ledger of a queue as it was made. -/
theorem run_flush (config : QueueConfig) (calls : List QueueCall) :
    run config (calls ++ [.flush]) = run config [] := by
  rw [run_concat]
  change QueueLedger.mk (.empty (run config calls).queue.config) [] = _
  rw [(balanced_run config calls).2]
  rfl

/-- After any calls a flush hands out what the queue holds, by place and then by adding,
with what has no place at the end unless it was added before a diagnostic that starts
at the last offset.  From then on every sequence of calls leads where it leads from a
queue as it was made. -/
theorem run_flushes (config : QueueConfig) (calls : List QueueCall) :
    DiagnosticQueue.HandsOut (run config calls).queue.entries
        (run config calls).queue.flush.1 ∧
      forall later, run config (calls ++ .flush :: later) = run config later := by
  refine ⟨DiagnosticQueue.handsOut_inOrder _, ?_⟩
  intro later
  have rejoined : calls ++ .flush :: later = calls ++ [.flush] ++ later := by
    rw [List.append_assoc, List.singleton_append]
  rw [rejoined, run_append, run_flush]
  rfl

end QueueLedger

namespace Sample

/-- An error of the compiler, which has no place. -/
def placeless : Diagnostic := .error .internalError "no place"

/-- An error at the very end of the offsets. -/
def atLastOffset : Diagnostic := .unknownType ⟨0xffffffff, 0xffffffff⟩ "Nope"

/-- A queue to which the error without a place was added first. -/
def mixedQueue : DiagnosticQueue :=
  (QueueLedger.run .standard [.add placeless, .add atLastOffset]).queue

end Sample

/-- A diagnostic without a place is handed out before one that has a place. -/
theorem DiagnosticQueue.mixedQueue_not_separated :
    QueueLedger.Reaches .standard Sample.mixedQueue ∧
      Sample.mixedQueue.flush.1 = [Sample.placeless, Sample.atLastOffset] ∧
      Sample.placeless.primarySpan? = none ∧
      Sample.atLastOffset.primarySpan? = some ⟨0xffffffff, 0xffffffff⟩ ∧
      Sample.mixedQueue.flush.1 ≠
        Sample.mixedQueue.flush.1.filter (·.isPlaced) ++
          Sample.mixedQueue.flush.1.filter fun diagnostic => !diagnostic.isPlaced := by
  have entries : Sample.mixedQueue.entries = [Sample.placeless, Sample.atLastOffset] := by decide
  have report : Sample.mixedQueue.flush.1 = [Sample.placeless, Sample.atLastOffset] := by
    rw [flush, entries]
    exact List.mergeSort_of_pairwise (by decide)
  refine ⟨⟨_, rfl⟩, report, rfl, rfl, ?_⟩
  rw [report]
  decide

end StructuralProducts
