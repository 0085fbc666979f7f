import Mathlib.Data.Finset.Card
import StructuralProducts.Proofs.InternerTables

namespace StructuralProducts

/-!
# Interning is a bijection

A run is a sequence of calls on a fresh interner.  At every point of it the
interner is a table of the strings interned so far, the empty one included:
strings and names lead to each other, and nothing else has a name.  Later calls
only add to the table, so a name that was returned keeps its string for ever.

A shard with `2 ^ 28` strings has no slot left.  The statements are about runs
that fill no shard, and it is enough to ask this at the end of a run, because
shards only grow.
-/

/-- A call that interns a string. -/
inductive InternCall where
  | intern (text : String)
  | tryIntern (text : String)
  deriving DecidableEq

/-- A string that was handed in and what was returned for it. -/
structure InternEvent where
  text : String
  outcome : Except InternError Name

namespace InternCall

def text : InternCall -> String
  | .intern text => text
  | .tryIntern text => text

/-- What a call returns, and the interner after it. -/
def answer (call : InternCall) (interner : Interner) : Except InternError Name × Interner :=
  match call with
  | .intern text => (.ok (interner.intern text).1, (interner.intern text).2)
  | .tryIntern text =>
      match interner.tryIntern text with
      | .ok outcome => (.ok outcome.1, outcome.2)
      | .error failure => (.error failure, interner)

theorem answer_snd (call : InternCall) (interner : Interner) :
    (call.answer interner).2 = (interner.intern call.text).2 := by
  cases call with
  | intern text => rfl
  | tryIntern text =>
      simp only [answer, InternCall.text, Interner.intern]
      cases interner.tryIntern text with
      | error failure => rfl
      | ok outcome => rfl

/-- What a call on the tables of an interner returns, and the tables after it. -/
def answerFrom (call : InternCall) (tables : InternerTables) :
    Except InternError Name × InternerTables :=
  match call with
  | .intern text =>
      let (outcome, tables) := tables.tryIntern text
      (.ok (outcome.toOption.getD Name.empty), tables)
  | .tryIntern text => tables.tryIntern text

end InternCall

/-- The calls of a run on tables in order, with what they returned, and the tables at
the end. -/
def InternerTables.run (tables : InternerTables) :
    List InternCall -> List InternEvent × InternerTables
  | [] => ([], tables)
  | call :: rest =>
      let (outcome, tables) := call.answerFrom tables
      let (events, tables) := tables.run rest
      (⟨call.text, outcome⟩ :: events, tables)

namespace Interner

/-- The calls of a run in order, with what they returned, and the interner at the
end. -/
def run (interner : Interner) : List InternCall -> List InternEvent × Interner
  | [] => ([], interner)
  | call :: rest =>
      let (outcome, interner) := call.answer interner
      let (events, interner) := interner.run rest
      (⟨call.text, outcome⟩ :: events, interner)

/-- The number of strings in a shard. -/
def shardSize (interner : Interner) (shard : Fin 16) : Nat :=
  (interner.shards.get shard).size

/-- No shard has as many strings as it has slots. -/
def Roomy (interner : Interner) : Prop :=
  forall shard, interner.shardSize shard < Name.slotCount

/-! ## One call -/

variable {interner later : Interner} {text other : String} {name : Name}

/-- The string has a slot, or there is one left for it. -/
def Admits (interner : Interner) (text : String) : Prop :=
  interner.tryIntern text = .ok (interner.intern text)

theorem admits_of_room (room : interner.shardSize (shardOf text) < Name.slotCount) :
    interner.Admits text := by
  have free : interner.shards[shardOf text].size ≤ Name.lastSlot := Nat.le_pred_of_lt room
  unfold Admits intern tryIntern
  cases interner.get? text with
  | some name => rfl
  | none => simp only [if_pos free]

/-- A string that is admitted has the name that interning it returns. -/
theorem Admits.get?_intern (admits : interner.Admits text) :
    (interner.intern text).2.get? text = some (interner.intern text).1 := by
  rcases interner.intern_cases text with ⟨name, found, equal⟩ | ⟨absent, free, equal⟩ |
    ⟨absent, full, _⟩
  · rw [equal]
    exact found
  · rw [equal]
    have fresh : interner.shards[shardOf text].idxOf? text = none :=
      Option.map_eq_none_iff.mp absent
    simp only [get?, Fin.getElem_fin, Vector.getElem_set_self] at fresh ⊢
    rw [idxOf?_push, fresh, if_pos rfl]
    rfl
  · simp only [Admits, tryIntern, absent, if_neg (Nat.not_le_of_lt full)] at admits
    cases admits

/-- Interning gives no other string a name. -/
theorem get?_of_get?_intern (found : (interner.intern other).2.get? text = some name) :
    interner.get? text = some name ∨ text = other := by
  rcases interner.intern_cases other with ⟨_, _, equal⟩ | ⟨_, _, equal⟩ | ⟨_, _, equal⟩
  · rw [equal] at found
    exact .inl found
  · rw [equal] at found
    by_cases same : shardOf other = shardOf text
    · simp only [get?, Fin.getElem_fin, same, Vector.getElem_set_self] at found ⊢
      rw [idxOf?_push] at found
      by_cases equal : other = text
      · exact .inr equal.symm
      · rw [if_neg equal, Option.or_none] at found
        exact .inl found
    · have apart : (shardOf other).val ≠ (shardOf text).val := fun equal => same (Fin.ext equal)
      simp only [get?, Fin.getElem_fin, Vector.getElem_set_ne _ _ apart] at found ⊢
      exact .inl found
  · rw [equal] at found
    exact .inl found

/-- A new string makes the interner larger by one. -/
theorem size_intern (admits : interner.Admits text) :
    (interner.intern text).2.size =
      if (interner.get? text).isSome then interner.size else interner.size + 1 := by
  rcases interner.intern_cases text with ⟨name, found, equal⟩ | ⟨absent, _, _⟩ | ⟨absent, full, _⟩
  · rw [equal, found]
    rfl
  · rw [absent]
    exact size_of_tryIntern absent admits
  · simp only [Admits, tryIntern, absent, if_neg (Nat.not_le_of_lt full)] at admits
    cases admits

/-! ## Runs -/

theorem Grows.size_le (grows : interner.Grows later) (shard : Fin 16) :
    interner.shardSize shard ≤ later.shardSize shard := by
  induction grows with
  | refl => exact Nat.le_refl _
  | @intern middle _ text inductionHypothesis =>
      apply Nat.le_trans inductionHypothesis
      change middle.shards[shard].size ≤ (middle.intern text).2.shards[shard].size
      rcases middle.intern_cases text with ⟨_, _, equal⟩ | ⟨_, _, equal⟩ | ⟨_, _, equal⟩
      · rw [equal]
      · rw [equal]
        by_cases same : shardOf text = shard
        · subst same
          simp only [Fin.getElem_fin, Vector.getElem_set_self, Array.size_push]
          exact Nat.le_succ _
        · have apart : (shardOf text).val ≠ shard.val := fun equal => same (Fin.ext equal)
          simp only [Fin.getElem_fin, Vector.getElem_set_ne _ _ apart]
          exact Nat.le_refl _
      · rw [equal]

theorem Roomy.of_grows (roomy : later.Roomy) (grows : interner.Grows later) : interner.Roomy :=
  fun shard => Nat.lt_of_le_of_lt (grows.size_le shard) (roomy shard)

theorem Roomy.admits (roomy : interner.Roomy) (text : String) : interner.Admits text :=
  admits_of_room (roomy (shardOf text))

theorem grows_run (interner : Interner) (calls : List InternCall) :
    interner.Grows (interner.run calls).2 := by
  induction calls generalizing interner with
  | nil => exact .refl
  | cons call rest inductionHypothesis =>
      have first : interner.Grows (call.answer interner).2 := by
        rw [call.answer_snd]
        exact Grows.intern .refl call.text
      exact first.trans (inductionHypothesis _)

theorem run_append (interner : Interner) (earlier later : List InternCall) :
    interner.run (earlier ++ later) =
      ((interner.run earlier).1 ++ ((interner.run earlier).2.run later).1,
        ((interner.run earlier).2.run later).2) := by
  induction earlier generalizing interner with
  | nil => rfl
  | cons call rest inductionHypothesis =>
      simp only [List.cons_append, run, inductionHypothesis]

theorem map_text_run (interner : Interner) (calls : List InternCall) :
    (interner.run calls).1.map (·.text) = calls.map InternCall.text := by
  induction calls generalizing interner with
  | nil => rfl
  | cons call rest inductionHypothesis =>
      simp only [run, List.map_cons, inductionHypothesis]

/-- The strings of a run that are not empty, each once. -/
def distinctTexts (events : List InternEvent) : Finset String :=
  (events.map (·.text)).toFinset.erase ""

/-- The interner holds what the events of a run say, and the empty string. -/
structure Records (interner : Interner) (events : List InternEvent) : Prop where
  started : empty.Grows interner
  present : forall event, event ∈ events -> Exists fun name =>
    event.outcome = .ok name ∧ interner.get? event.text = some name
  known : forall text name, interner.get? text = some name ->
    (text = "" ∧ name = Name.empty) ∨ ⟨text, .ok name⟩ ∈ events
  size : interner.size = 1 + (distinctTexts events).card

theorem get?_empty_text (started : empty.Grows interner) :
    interner.get? "" = some Name.empty :=
  started.get?_eq_some (by decide +kernel)

/-- Every name leads to the empty string in a fresh interner. -/
theorem lookup_empty (name : Name) : empty.lookup name = "" := by
  have shards : forall shard : Fin 16, empty.shards[shard] = #[] ∨ empty.shards[shard] = #[""] := by
    decide
  unfold lookup
  rcases shards name.shard with none | one
  · rw [none]
    rfl
  · rw [one]
    cases name.slot <;> rfl

theorem records_empty : empty.Records [] where
  started := .refl
  present := fun _ member => absurd member List.not_mem_nil
  known := by
    intro text name found
    have same : text = "" := by
      rw [← lookup_of_get? .refl found, lookup_empty]
    subst same
    rw [get?_empty_text .refl] at found
    exact .inl ⟨rfl, (Option.some.inj found).symm⟩
  size := by
    rw [size_empty]
    rfl

/-- One call more. -/
theorem Records.intern {events : List InternEvent} (records : interner.Records events)
    (admits : interner.Admits text) :
    (interner.intern text).2.Records (events ++ [⟨text, .ok (interner.intern text).1⟩]) where
  started := records.started.intern text
  present := by
    intro event member
    rcases List.mem_append.mp member with earlier | last
    · rcases records.present event earlier with ⟨name, returned, found⟩
      exact ⟨name, returned, get?_intern_of_some found text⟩
    · rw [List.mem_singleton.mp last]
      exact ⟨_, rfl, admits.get?_intern⟩
  known := by
    intro other name found
    rcases get?_of_get?_intern found with earlier | rfl
    · rcases records.known other name earlier with start | member
      · exact .inl start
      · exact .inr (List.mem_append_left _ member)
    · rw [admits.get?_intern] at found
      cases found
      exact .inr (List.mem_append_right _ (List.mem_singleton.mpr rfl))
  size := by
    have texts : distinctTexts (events ++ [⟨text, .ok (interner.intern text).1⟩]) =
        (insert text (events.map (·.text)).toFinset).erase "" := by
      rw [distinctTexts, List.map_append, List.toFinset_append, Finset.union_comm]
      rfl
    have known_iff : (interner.get? text).isSome = true ↔
        text = "" ∨ text ∈ (events.map (·.text)).toFinset := by
      constructor
      · intro found
        rcases Option.isSome_iff_exists.mp found with ⟨name, found⟩
        rcases records.known text name found with ⟨start, _⟩ | member
        · exact .inl start
        · exact .inr (List.mem_toFinset.mpr (List.mem_map_of_mem member))
      · rintro (rfl | member)
        · rw [get?_empty_text records.started]
          rfl
        · rcases List.mem_map.mp (List.mem_toFinset.mp member) with ⟨event, earlier, rfl⟩
          rcases records.present event earlier with ⟨name, _, found⟩
          rw [found]
          rfl
    rw [size_intern admits, texts]
    by_cases known : (interner.get? text).isSome = true
    · rw [if_pos known, records.size]
      congr 1
      rcases known_iff.mp known with rfl | member
      · rw [Finset.erase_insert_eq_erase]
        rfl
      · rw [Finset.insert_eq_of_mem member]
        rfl
    · rw [if_neg known, records.size]
      have fresh := mt known_iff.mpr known
      rw [not_or] at fresh
      rw [Finset.erase_insert_of_ne fresh.1, Finset.card_insert_of_notMem]
      · rfl
      · exact fun member => fresh.2 (Finset.mem_of_mem_erase member)

theorem Admits.answer {call : InternCall} (admits : interner.Admits call.text) :
    call.answer interner = (.ok (interner.intern call.text).1, (interner.intern call.text).2) := by
  cases call with
  | intern text => rfl
  | tryIntern text =>
      have given : interner.tryIntern text = .ok (interner.intern text) := admits
      simp only [InternCall.answer, InternCall.text, given]

/-- A run that fills no shard is recorded. -/
theorem records_run (calls : List InternCall) (roomy : (empty.run calls).2.Roomy) :
    (empty.run calls).2.Records (empty.run calls).1 := by
  induction calls using List.reverseRecOn with
  | nil => exact records_empty
  | append_singleton calls call inductionHypothesis =>
      rw [run_append] at roomy ⊢
      have before : (empty.run calls).2.Roomy :=
        roomy.of_grows ((empty.run calls).2.grows_run [call])
      have admits := before.admits call.text
      simp only [run, admits.answer]
      exact (inductionHypothesis before).intern admits

end Interner

/-! ## Maps and counter -/

namespace InternerTables

variable {tables : InternerTables} {interner : Interner}

theorem Agrees.answer (agrees : tables.Agrees interner) (call : InternCall) :
    (call.answerFrom tables).1 = (call.answer interner).1 ∧
      (call.answerFrom tables).2.Agrees (call.answer interner).2 := by
  rw [call.answer_snd]
  cases call with
  | intern text =>
      have given := agrees.tryIntern text
      refine ⟨?_, given.2⟩
      simp only [InternCall.answerFrom, InternCall.answer, Interner.intern, given.1]
      cases interner.tryIntern text with
      | error failure => rfl
      | ok outcome => rfl
  | tryIntern text =>
      have given := agrees.tryIntern text
      refine ⟨given.1.trans ?_, given.2⟩
      simp only [InternCall.answer]
      cases interner.tryIntern text with
      | error failure => rfl
      | ok outcome => rfl

/-- A run on the tables returns what the run on the interner returns. -/
theorem Agrees.run (agrees : tables.Agrees interner) (calls : List InternCall) :
    (tables.run calls).1 = (interner.run calls).1 ∧
      (tables.run calls).2.Agrees (interner.run calls).2 := by
  induction calls generalizing tables interner with
  | nil => exact ⟨rfl, agrees⟩
  | cons call rest inductionHypothesis =>
      have first := agrees.answer call
      have later := inductionHypothesis first.2
      simp only [InternerTables.run, Interner.run]
      rw [first.1, later.1]
      exact ⟨rfl, later.2⟩

end InternerTables

namespace Interner

variable {interner : Interner}

/-- The events of a run and the interner at the end of it fit together: strings
and names lead to each other, the empty string has the zero word, and nothing else
is in the interner. -/
structure Tabulates (interner : Interner) (events : List InternEvent) : Prop where
  /-- Every call returned a name, which leads to the string. -/
  lookup : forall event, event ∈ events -> Exists fun name =>
    event.outcome = .ok name ∧ interner.lookup name = event.text
  /-- Equal strings got equal names, and different strings different ones. -/
  name_eq_iff : forall first second firstName secondName,
    first ∈ events -> second ∈ events -> first.outcome = .ok firstName ->
      second.outcome = .ok secondName -> (firstName = secondName ↔ first.text = second.text)
  get?_eq_some_iff : forall text name, interner.get? text = some name ↔
    (text = "" ∧ name = Name.empty) ∨ ⟨text, .ok name⟩ ∈ events
  /-- The string of a name that was returned is interned as that name. -/
  answer_lookup : forall event name, event ∈ events -> event.outcome = .ok name ->
    forall call : InternCall, call.text = interner.lookup name ->
      call.answer interner = (.ok name, interner)
  empty_name : interner.get? "" = some Name.empty ∧
    forall event, event ∈ events -> event.text = "" -> event.outcome = .ok Name.empty
  size : interner.size = 1 + (distinctTexts events).card

theorem Records.get?_of_mem {events : List InternEvent} (records : interner.Records events)
    {event : InternEvent} (member : event ∈ events) {name : Name}
    (returned : event.outcome = .ok name) : interner.get? event.text = some name := by
  rcases records.present event member with ⟨other, otherReturned, found⟩
  rw [returned] at otherReturned
  cases otherReturned
  exact found

theorem Records.tabulates {events : List InternEvent} (records : interner.Records events) :
    interner.Tabulates events where
  lookup := by
    intro event member
    rcases records.present event member with ⟨name, returned, found⟩
    exact ⟨name, returned, lookup_of_get? records.started found⟩
  name_eq_iff := by
    intro first second firstName secondName firstMember secondMember firstReturned secondReturned
    have firstFound := records.get?_of_mem firstMember firstReturned
    have secondFound := records.get?_of_mem secondMember secondReturned
    constructor
    · rintro rfl
      exact (lookup_of_get? records.started firstFound).symm.trans
        (lookup_of_get? records.started secondFound)
    · intro same
      rw [same, secondFound] at firstFound
      exact (Option.some.inj firstFound).symm
  get?_eq_some_iff := by
    intro text name
    constructor
    · exact records.known text name
    · rintro (⟨rfl, rfl⟩ | member)
      · exact get?_empty_text records.started
      · exact records.get?_of_mem member rfl
  answer_lookup := by
    intro event name member returned call same
    have found := records.get?_of_mem member returned
    rw [lookup_of_get? records.started found] at same
    rw [← same] at found
    have admits : interner.Admits call.text :=
      (tryIntern_of_get? found).trans (congrArg Except.ok (intern_of_get? found).symm)
    rw [admits.answer, intern_of_get? found]
  empty_name := by
    refine ⟨get?_empty_text records.started, ?_⟩
    intro event member same
    rcases records.present event member with ⟨name, returned, found⟩
    rw [same, get?_empty_text records.started] at found
    rw [returned, Option.some.inj found]
  size := records.size

/-- At every point of a run that fills no shard, strings and names lead to each
other, and a name that was returned by then keeps its string until the end.  The maps
from strings to slots and the counter have by then what the interner has. -/
theorem run_tabulates (earlier later : List InternCall)
    (roomy : (empty.run (earlier ++ later)).2.Roomy) :
    (empty.run earlier).1.map (·.text) = earlier.map InternCall.text ∧
    (InternerTables.empty.run earlier).1 = (empty.run earlier).1 ∧
    (InternerTables.empty.run earlier).2.Agrees (empty.run earlier).2 ∧
    (empty.run earlier).2.Tabulates (empty.run earlier).1 ∧
    forall event name, event ∈ (empty.run earlier).1 -> event.outcome = .ok name ->
      (empty.run (earlier ++ later)).2.lookup name = event.text := by
  have grows : (empty.run earlier).2.Grows (empty.run (earlier ++ later)).2 := by
    rw [run_append]
    exact grows_run _ later
  have records := records_run earlier (roomy.of_grows grows)
  have tables := InternerTables.agrees_empty.run earlier
  refine ⟨map_text_run empty earlier, tables.1, tables.2, records.tabulates, ?_⟩
  intro event name member returned
  have found := grows.get?_eq_some (records.get?_of_mem member returned)
  exact lookup_of_get? (records.started.trans grows) found

/-- Four calls, with the empty string and a repetition among them. -/
theorem run_pointCalls :
    (empty.run [.intern "geo.Point", .tryIntern "", .intern "x", .tryIntern "geo.Point"]).2.Roomy ∧
      (empty.run [.intern "geo.Point", .tryIntern ""]).1.map (·.text) = ["geo.Point", ""] ∧
      (InternerTables.empty.run [.intern "geo.Point", .tryIntern ""]).2.Agrees
        (empty.run [.intern "geo.Point", .tryIntern ""]).2 ∧
      (empty.run [.intern "geo.Point", .tryIntern ""]).2.Tabulates
        (empty.run [.intern "geo.Point", .tryIntern ""]).1 ∧
      (empty.run [.intern "geo.Point", .tryIntern "", .intern "x", .tryIntern "geo.Point"]).2.lookup
        (Name.ofParts 1 0) = "geo.Point" := by
  have roomy : (empty.run ([.intern "geo.Point", .tryIntern ""] ++
      [.intern "x", .tryIntern "geo.Point"])).2.Roomy := by
    unfold Roomy
    decide +kernel
  have tabulated := run_tabulates _ _ roomy
  refine ⟨roomy, tabulated.1, tabulated.2.2.1, tabulated.2.2.2.1, ?_⟩
  have returned : (empty.run [.intern "geo.Point", .tryIntern ""]).1[0]? =
      some ⟨"geo.Point", .ok (empty.intern "geo.Point").1⟩ := rfl
  have named : (empty.intern "geo.Point").1 = Name.ofParts 1 0 := by decide +kernel
  rw [← named]
  exact tabulated.2.2.2.2 _ _ (List.mem_of_getElem? returned) rfl

end Interner
end StructuralProducts
