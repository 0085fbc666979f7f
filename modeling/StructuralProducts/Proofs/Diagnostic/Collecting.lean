import StructuralProducts.Diagnostic.Queue
import StructuralProducts.Proofs.ListOrder

namespace StructuralProducts

/-!
# What a queue collects

A queue that drops duplicates tests its limit first, then whether it already has
the diagnostic.  However diagnostics repeat, it has the distinct ones in the order
in which they came first, as many of them as the limit allows, and after them at
most one marker.  The marker stands there if more distinct diagnostics came than
are allowed, and never before as many came.  A repetition that comes to a full queue
calls for the marker too, so between the two bounds it may or may not stand there.

Flushing sorts by position.  The marker has no position and goes to the end.
-/

namespace DiagnosticQueue

/-! ## Adding -/

section Adding

variable {queue : DiagnosticQueue} {diagnostic : Diagnostic}

/-- The queue with the marker added to it. -/
def withMarker (queue : DiagnosticQueue) : DiagnosticQueue :=
  { queue with
    entries := queue.entries ++ [.tooManyErrors queue.config.limit]
    marked := true }

theorem withMarker_ne (queue : DiagnosticQueue) : queue.withMarker ≠ queue := by
  intro same
  have entries := congrArg (fun queue => queue.entries.length) same
  simp [withMarker] at entries

/-- Only a full queue that has no marker yet takes the marker. -/
theorem add_of_isFull (full : queue.isFull = true) :
    queue.add diagnostic = (false, if queue.marked = true then queue else queue.withMarker) := by
  rw [add, if_pos full]
  split <;> rfl

/-- A queue with room filters repetitions, if it is asked to, and nothing else. -/
theorem add_of_not_isFull (room : ¬ queue.isFull = true) :
    queue.add diagnostic =
      if queue.config.dropDuplicates = true ∧ diagnostic ∈ queue.entries then (false, queue)
      else (true, { queue with
        entries := queue.entries ++ [diagnostic]
        count := queue.count + 1 }) := by
  rw [add, if_neg room]
  simp only [Bool.and_eq_true, List.contains_iff_mem]

theorem isFull_iff : queue.isFull = true ↔
    0 < queue.config.limit ∧ queue.config.limit ≤ queue.count := by
  rw [isFull, Bool.and_eq_true, decide_eq_true_eq, decide_eq_true_eq]

/-- Only a full queue is marked, and then by anything that is added. -/
theorem marked_add_iff (queue : DiagnosticQueue) (diagnostic : Diagnostic) :
    (queue.add diagnostic).2.marked = true ↔ queue.marked = true ∨ queue.isFull = true := by
  by_cases full : queue.isFull = true
  · rw [add_of_isFull full]
    refine iff_of_true ?_ (.inr full)
    split
    · next marked => exact marked
    · rfl
  · rw [add_of_not_isFull full, or_iff_left full]
    split
    · exact Iff.rfl
    · exact Iff.rfl

end Adding

/-! ## Collecting -/

/-- As many diagnostics as a limit allows; zero allows all. -/
def allowed (limit : Nat) (diagnostics : List Diagnostic) : List Diagnostic :=
  if limit = 0 then diagnostics else diagnostics.take limit

theorem allowed_of_pos {limit : Nat} (positive : 0 < limit) (diagnostics : List Diagnostic) :
    allowed limit diagnostics = diagnostics.take limit :=
  if_neg (Nat.ne_of_gt positive)

/-- Nothing is left out as long as there are not more than the limit. -/
theorem allowed_of_length_le {limit : Nat} {diagnostics : List Diagnostic}
    (fits : limit = 0 ∨ diagnostics.length ≤ limit) : allowed limit diagnostics = diagnostics := by
  unfold allowed
  split
  · rfl
  · next positive =>
      rcases fits with zero | few
      · exact absurd zero positive
      · exact List.take_of_length_le few

theorem mem_of_mem_allowed {limit : Nat} {diagnostics : List Diagnostic}
    {diagnostic : Diagnostic} (member : diagnostic ∈ allowed limit diagnostics) :
    diagnostic ∈ diagnostics := by
  unfold allowed at member
  split at member
  · exact member
  · exact List.mem_of_mem_take member

/-- What a queue that drops duplicates has after some diagnostics were raised. -/
structure Collected (limit : Nat) (raised : List Diagnostic) (queue : DiagnosticQueue) : Prop where
  config : queue.config = ⟨limit, true⟩
  entries : queue.entries = allowed limit raised.eraseDups ++
    if queue.marked then [.tooManyErrors limit] else []
  count : queue.count = (allowed limit raised.eraseDups).length
  /-- Only a full queue is marked. -/
  reached : queue.marked = true -> 0 < limit ∧ limit ≤ raised.eraseDups.length
  /-- A queue to which too much was added is marked. -/
  exceeded : 0 < limit -> limit < raised.eraseDups.length -> queue.marked = true

theorem collected_empty (limit : Nat) : Collected limit [] (empty ⟨limit, true⟩) where
  config := rfl
  entries := by rw [allowed_of_length_le (.inr (Nat.zero_le _))]; rfl
  count := by rw [allowed_of_length_le (.inr (Nat.zero_le _))]; rfl
  reached := nofun
  exceeded _ above := absurd above (Nat.not_lt_zero _)

namespace Collected

variable {limit : Nat} {raised : List Diagnostic} {queue : DiagnosticQueue}

theorem isFull_iff (collected : Collected limit raised queue) :
    queue.isFull = true ↔ 0 < limit ∧ limit ≤ raised.eraseDups.length := by
  rw [DiagnosticQueue.isFull_iff, collected.config, collected.count]
  apply and_congr_right
  intro positive
  rw [allowed_of_pos positive, List.length_take, Nat.le_min]
  exact and_iff_right (Nat.le_refl limit)

/-- A full queue takes nothing but the marker. -/
theorem add_of_isFull (collected : Collected limit raised queue) (full : queue.isFull = true)
    (diagnostic : Diagnostic) :
    Collected limit (raised ++ [diagnostic]) (queue.add diagnostic).2 := by
  have reached := collected.isFull_iff.mp full
  have longer : raised.eraseDups.length ≤ (raised ++ [diagnostic]).eraseDups.length := by
    rw [eraseDups_concat, List.length_append]
    exact Nat.le_add_right _ _
  have same : allowed limit (raised ++ [diagnostic]).eraseDups =
      allowed limit raised.eraseDups := by
    rw [allowed_of_pos reached.1, allowed_of_pos reached.1, eraseDups_concat,
      List.take_append_of_le_length reached.2]
  rw [DiagnosticQueue.add_of_isFull full]
  by_cases marked : queue.marked = true
  · rw [if_pos marked]
    exact ⟨collected.config, same ▸ collected.entries, same ▸ collected.count,
      fun _ => ⟨reached.1, Nat.le_trans reached.2 longer⟩, fun _ _ => marked⟩
  · rw [if_neg marked]
    refine ⟨collected.config, ?_, same ▸ collected.count,
      fun _ => ⟨reached.1, Nat.le_trans reached.2 longer⟩, fun _ _ => rfl⟩
    have entries := collected.entries
    rw [if_neg marked, List.append_nil] at entries
    simp only [same, withMarker, entries, collected.config, if_true]

/-- A queue with room takes a diagnostic that it does not have. -/
theorem add_of_room (collected : Collected limit raised queue) (room : ¬ queue.isFull = true)
    (diagnostic : Diagnostic) :
    Collected limit (raised ++ [diagnostic]) (queue.add diagnostic).2 := by
  have below : limit = 0 ∨ raised.eraseDups.length < limit := by
    rw [collected.isFull_iff] at room
    omega
  have unmarked : ¬ queue.marked = true := fun marked =>
    room (collected.isFull_iff.mpr (collected.reached marked))
  have all : allowed limit raised.eraseDups = raised.eraseDups :=
    allowed_of_length_le (below.imp_right Nat.le_of_lt)
  have entries : queue.entries = raised.eraseDups := by
    rw [collected.entries, if_neg unmarked, List.append_nil, all]
  have count : queue.count = raised.eraseDups.length := by rw [collected.count, all]
  have dropped_iff : (queue.config.dropDuplicates = true ∧ diagnostic ∈ queue.entries) ↔
      diagnostic ∈ raised := by
    rw [collected.config, entries, List.mem_eraseDups]
    exact and_iff_right rfl
  rw [DiagnosticQueue.add_of_not_isFull room]
  by_cases known : diagnostic ∈ raised
  · have same : (raised ++ [diagnostic]).eraseDups = raised.eraseDups := by
      rw [eraseDups_concat, if_pos known, List.append_nil]
    rw [if_pos (dropped_iff.mpr known)]
    refine ⟨collected.config, ?_, ?_, ?_, ?_⟩
    · rw [same]
      exact collected.entries
    · rw [same]
      exact collected.count
    · rw [same]
      exact collected.reached
    · rw [same]
      exact collected.exceeded
  · have longer : (raised ++ [diagnostic]).eraseDups = raised.eraseDups ++ [diagnostic] := by
      rw [eraseDups_concat, if_neg known]
    have fits : allowed limit (raised.eraseDups ++ [diagnostic]) =
        raised.eraseDups ++ [diagnostic] := by
      apply allowed_of_length_le
      rw [List.length_append, List.length_singleton]
      exact below
    rw [if_neg (mt dropped_iff.mp known)]
    refine ⟨collected.config, ?_, ?_, fun marked => absurd marked unmarked, ?_⟩
    · rw [longer, fits, entries]
      simp only [unmarked, Bool.false_eq_true, if_false, List.append_nil]
    · rw [longer, fits, List.length_append, count]
      rfl
    · intro positive above
      rw [longer, List.length_append, List.length_singleton] at above
      omega

theorem add (collected : Collected limit raised queue) (diagnostic : Diagnostic) :
    Collected limit (raised ++ [diagnostic]) (queue.add diagnostic).2 := by
  by_cases full : queue.isFull = true
  · exact collected.add_of_isFull full diagnostic
  · exact collected.add_of_room full diagnostic

theorem addAll (collected : Collected limit raised queue) (later : List Diagnostic) :
    Collected limit (raised ++ later) (queue.addAll later) := by
  induction later generalizing raised queue with
  | nil =>
      rw [List.append_nil]
      exact collected
  | cons diagnostic rest inductionHypothesis =>
      have rejoined : raised ++ diagnostic :: rest = raised ++ [diagnostic] ++ rest := by
        rw [List.append_assoc, List.singleton_append]
      rw [rejoined]
      exact inductionHypothesis (collected.add diagnostic)

end Collected

/-- Whatever is raised, this is what an empty queue collects of it. -/
theorem collected_addAll (limit : Nat) (raised : List Diagnostic) :
    Collected limit raised ((empty ⟨limit, true⟩).addAll raised) :=
  (collected_empty limit).addAll raised

/-- The marker is called for by whatever comes after as many distinct diagnostics as
the limit allows, a repetition included. -/
theorem marked_addAll_iff (limit : Nat) (raised : List Diagnostic) :
    ((empty ⟨limit, true⟩).addAll raised).marked = true ↔
      0 < limit ∧ Exists fun earlier => Exists fun last =>
        raised = earlier ++ [last] ∧ limit ≤ earlier.eraseDups.length := by
  cases raised using List.reverseRecOn with
  | nil =>
      apply iff_of_false Bool.false_ne_true
      rintro ⟨_, earlier, last, equal, _⟩
      exact List.append_ne_nil_of_right_ne_nil earlier (List.cons_ne_nil last []) equal.symm
  | append_singleton earlier last =>
      have collected := collected_addAll limit earlier
      have added : (empty ⟨limit, true⟩).addAll (earlier ++ [last]) =
          (((empty ⟨limit, true⟩).addAll earlier).add last).2 := by
        rw [addAll, List.foldl_append]
        rfl
      rw [added, marked_add_iff]
      constructor
      · intro marks
        have reached : 0 < limit ∧ limit ≤ earlier.eraseDups.length :=
          marks.elim collected.reached collected.isFull_iff.mp
        exact ⟨reached.1, earlier, last, rfl, reached.2⟩
      · rintro ⟨positive, front, final, equal, reached⟩
        have same := List.append_inj' equal rfl
        rw [← same.1] at reached
        exact .inr (collected.isFull_iff.mpr ⟨positive, reached⟩)

/-! ## Handing out -/

/-- Diagnostics are handed out in order of position, and where positions are equal
in the order in which they were added. -/
theorem stablySorted_inOrder (diagnostics : List Diagnostic) :
    StablySorted positionKey diagnostics (inOrder diagnostics) :=
  stablySorted_mergeSort positionKey diagnostics

theorem positionKey_le (diagnostic : Diagnostic) : positionKey diagnostic ≤ 0xffffffff := by
  unfold positionKey
  split
  · next span _ => exact Nat.le_of_lt_succ span.start.toNat_lt
  · exact Nat.le_refl _

end DiagnosticQueue

/-- The diagnostic is the marker of a full queue. -/
def Diagnostic.isMarker (diagnostic : Diagnostic) : Bool :=
  diagnostic.code == .tooManyErrors

/-- A report of diagnostics under a positive limit: as many as the limit allows, in
order of position, and at the end the marker if there are more. -/
structure CutReport (limit : Nat) (distinct report : List Diagnostic) : Prop where
  others : StablySorted DiagnosticQueue.positionKey (distinct.take limit)
    (report.filter fun diagnostic => !diagnostic.isMarker)
  single : report.countP Diagnostic.isMarker ≤ 1
  last : forall marker, marker ∈ report -> marker.isMarker = true ->
    report.getLast? = some marker
  exceeded : limit < distinct.length -> Exists fun marker =>
    marker ∈ report ∧ marker.isMarker = true
  below : distinct.length < limit -> forall diagnostic, diagnostic ∈ report ->
    diagnostic.isMarker = false

namespace CutReport

open DiagnosticQueue

variable {limit : Nat} {distinct : List Diagnostic}

theorem filter_eq_self_of_ordinary {diagnostics : List Diagnostic}
    (ordinary : forall diagnostic, diagnostic ∈ diagnostics -> diagnostic.isMarker = false) :
    diagnostics.filter (fun diagnostic => !diagnostic.isMarker) = diagnostics := by
  rw [List.filter_eq_self]
  intro diagnostic member
  rw [ordinary diagnostic member]
  rfl

theorem countP_isMarker_of_ordinary {diagnostics : List Diagnostic}
    (ordinary : forall diagnostic, diagnostic ∈ diagnostics -> diagnostic.isMarker = false) :
    diagnostics.countP Diagnostic.isMarker = 0 := by
  rw [List.countP_eq_zero]
  intro diagnostic member
  rw [ordinary diagnostic member]
  exact Bool.false_ne_true

/-- The report of a queue that was marked. -/
theorem of_marked
    (ordinary : forall diagnostic, diagnostic ∈ distinct.take limit ->
      diagnostic.isMarker = false)
    (reached : limit ≤ distinct.length) :
    CutReport limit distinct (inOrder (distinct.take limit ++ [.tooManyErrors limit])) := by
  have marker : (Diagnostic.tooManyErrors limit).isMarker = true := rfl
  have sorted := stablySorted_inOrder (distinct.take limit ++ [.tooManyErrors limit])
  -- The key of the marker is the largest, so the marker stays at the end.
  have atEnd := sorted.getLast?_of_forall_le fun diagnostic _ => positionKey_le diagnostic
  refine ⟨?_, ?_, ?_, ?_, ?_⟩
  · have parts := sorted.filter fun diagnostic => !diagnostic.isMarker
    rw [List.filter_append, filter_eq_self_of_ordinary ordinary,
      List.filter_cons_of_neg (by rw [marker]; decide), List.filter_nil, List.append_nil] at parts
    exact parts
  · rw [sorted.perm.countP_eq, List.countP_append, countP_isMarker_of_ordinary ordinary,
      Nat.zero_add]
    exact List.countP_le_length
  · intro diagnostic member isMarker
    rcases List.mem_append.mp (sorted.mem_iff.mp member) with earlier | only
    · rw [ordinary diagnostic earlier] at isMarker
      cases isMarker
    · rw [List.mem_singleton.mp only]
      exact atEnd
  · intro _
    exact ⟨_, sorted.mem_iff.mpr (List.mem_append_right _ List.mem_cons_self), marker⟩
  · intro few
    exact absurd reached (Nat.not_le_of_lt few)

/-- The report of a queue that was not marked. -/
theorem of_unmarked
    (ordinary : forall diagnostic, diagnostic ∈ distinct.take limit ->
      diagnostic.isMarker = false)
    (few : distinct.length ≤ limit) :
    CutReport limit distinct (inOrder (distinct.take limit)) := by
  have sorted := stablySorted_inOrder (distinct.take limit)
  have unmarked : forall diagnostic, diagnostic ∈ inOrder (distinct.take limit) ->
      diagnostic.isMarker = false :=
    fun diagnostic member => ordinary diagnostic (sorted.mem_iff.mp member)
  refine ⟨?_, ?_, ?_, ?_, fun _ => unmarked⟩
  · rw [filter_eq_self_of_ordinary unmarked]
    exact sorted
  · rw [countP_isMarker_of_ordinary unmarked]
    exact Nat.zero_le 1
  · intro diagnostic member isMarker
    rw [unmarked diagnostic member] at isMarker
    cases isMarker
  · intro above
    exact absurd few (Nat.not_le_of_lt above)

end CutReport

namespace DiagnosticQueue

/-- Without a limit everything is reported once. -/
theorem stablySorted_flush_unlimited (raised : List Diagnostic) :
    StablySorted positionKey raised.eraseDups ((empty ⟨0, true⟩).addAll raised).flush.1 := by
  have collected := collected_addAll 0 raised
  have unmarked : ¬ ((empty ⟨0, true⟩).addAll raised).marked = true := fun marked =>
    absurd (collected.reached marked).1 (Nat.lt_irrefl 0)
  have entries := collected.entries
  rw [if_neg unmarked, List.append_nil, allowed_of_length_le (.inl rfl)] at entries
  rw [flush, entries]
  exact stablySorted_inOrder _

/-- With a limit the report is cut. -/
theorem cutReport_flush {limit : Nat} {raised : List Diagnostic} (positive : 0 < limit)
    (ordinary : forall diagnostic, diagnostic ∈ raised -> diagnostic.isMarker = false) :
    CutReport limit raised.eraseDups ((empty ⟨limit, true⟩).addAll raised).flush.1 := by
  have collected := collected_addAll limit raised
  have entries := collected.entries
  rw [allowed_of_pos positive] at entries
  have kept : forall diagnostic, diagnostic ∈ raised.eraseDups.take limit ->
      diagnostic.isMarker = false := by
    intro diagnostic member
    exact ordinary diagnostic (List.mem_eraseDups.mp (List.mem_of_mem_take member))
  by_cases marked : ((empty ⟨limit, true⟩).addAll raised).marked = true
  · rw [if_pos marked] at entries
    rw [flush, entries]
    exact .of_marked kept (collected.reached marked).2
  · rw [if_neg marked, List.append_nil] at entries
    rw [flush, entries]
    apply CutReport.of_unmarked kept
    exact Nat.le_of_not_lt fun above => marked (collected.exceeded positive above)

end DiagnosticQueue
end StructuralProducts
