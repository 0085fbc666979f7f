import StructuralProducts.KeyedList
import StructuralProducts.Proofs.Descriptor.Parts
import StructuralProducts.Proofs.RegisteredContracts

namespace StructuralProducts

/-!
# Validated parts

The check accepts parts exactly when they agree, and what it makes of them keeps what
was checked: a label and its position determine each other, no component lies beyond
the last label, and all components together are the single components in order.

That a label determines its position can be seen from a scan that fills an index.  It
enters the labels one by one, each under its position, and stops at a label that the
index has already.  One step keeps the index the inverse of the labels entered so far,
and the scan stops exactly where the check finds a repetition.

Several components may fail to be read.  Reading all of them then fails as the first
of these does.
-/

/-! ## The index of labels -/

/-- Enter labels into an index under their positions, which count from the given start.
If the index has a label already, its position is the result. -/
def indexLabels : Nat -> KeyedList Name Nat -> List Name -> Except Nat (KeyedList Name Nat)
  | _, index, [] => .ok index
  | position, index, label :: rest =>
      if index.contains label then .error position
      else indexLabels (position + 1) (index.insert label position) rest

/-- A position is found under a label exactly when the label stands there. -/
def IndexesLabels (index : KeyedList Name Nat) (labels : List Name) : Prop :=
  forall label position, index.get? label = some position ↔ labels[position]? = some label

theorem getElem?_concat_eq_some_iff (labels : List Name) (last label : Name) (position : Nat) :
    (labels ++ [last])[position]? = some label ↔
      labels[position]? = some label ∨ position = labels.length ∧ last = label := by
  rw [List.getElem?_append]
  split
  · next inside =>
      have before := Nat.ne_of_lt inside
      simp only [before, false_and, or_false]
  · next beyond =>
      have there : position - labels.length = 0 ↔ position = labels.length := by omega
      rw [List.getElem?_eq_none (Nat.le_of_not_lt beyond), List.getElem?_singleton]
      simp [there]

namespace IndexesLabels

variable {index : KeyedList Name Nat} {labels : List Name}

theorem empty : IndexesLabels .empty [] := by
  intro label position
  rw [KeyedList.get?_empty, List.getElem?_nil]
  exact ⟨nofun, nofun⟩

theorem contains_iff (indexes : IndexesLabels index labels) (label : Name) :
    index.contains label = true ↔ label ∈ labels := by
  rw [KeyedList.contains, Option.isSome_iff_exists, List.mem_iff_getElem?]
  exact exists_congr fun position => indexes label position

/-- One step of the scan puts a label that is new to the index behind the others. -/
theorem insert (indexes : IndexesLabels index labels) {label : Name}
    (fresh : ¬ index.contains label = true) :
    IndexesLabels (index.insert label labels.length) (labels ++ [label]) := by
  intro other position
  rw [getElem?_concat_eq_some_iff]
  by_cases same : other = label
  · subst same
    have absent : labels[position]? ≠ some other := fun present =>
      fresh ((indexes.contains_iff other).mpr (List.mem_of_getElem? present))
    rw [KeyedList.get?_insert_self, Option.some.injEq, eq_comm]
    simp only [absent, false_or, and_true]
  · rw [KeyedList.get?_insert_of_ne _ _ same, indexes other position]
    simp only [Ne.symm same, and_false, or_false]

/-- The scan that is run to its end, from an index of the labels before. -/
theorem of_indexLabels {before rest : List Name} {whole : KeyedList Name Nat}
    (indexes : IndexesLabels index before)
    (entered : indexLabels before.length index rest = .ok whole) :
    IndexesLabels whole (before ++ rest) := by
  induction rest generalizing before index with
  | nil =>
      cases entered
      rwa [List.append_nil]
  | cons label rest inductionHypothesis =>
      unfold indexLabels at entered
      split at entered
      · cases entered
      · next fresh =>
          rw [← List.singleton_append, ← List.append_assoc]
          refine inductionHypothesis (indexes.insert fresh) ?_
          rwa [List.length_append, List.length_singleton]

end IndexesLabels

/-- The scan stops at a label exactly when the check finds a repetition there. -/
theorem indexLabels_eq_error_iff {labels seen : List Name} {position stopped : Nat}
    {index : KeyedList Name Nat}
    (known : forall label, index.contains label = true ↔ label ∈ seen) :
    indexLabels position index labels = .error stopped ↔
      firstRepeat? position seen labels = some stopped := by
  -- Both scans meet the same label, and the index has exactly the labels seen before it.
  induction labels generalizing position index seen with
  | nil => exact ⟨nofun, nofun⟩
  | cons label rest inductionHypothesis =>
      rw [indexLabels, firstRepeat?]
      by_cases repeated : label ∈ seen
      · rw [if_pos ((known label).mpr repeated), if_pos repeated, Except.error.injEq,
          Option.some.injEq]
      · rw [if_neg fun present => repeated ((known label).mp present), if_neg repeated]
        apply inductionHypothesis
        intro other
        rw [List.mem_cons, ← known other, KeyedList.contains, KeyedList.contains]
        by_cases same : other = label
        · simp only [same, KeyedList.get?_insert_self, Option.isSome_some, true_or]
        · rw [KeyedList.get?_insert_of_ne _ _ same]
          simp only [same, false_or]

/-- Distinct labels are entered to the last. -/
theorem exists_indexLabels {labels : List Name} (distinct : labels.Nodup) :
    Exists fun index => indexLabels 0 .empty labels = .ok index ∧ IndexesLabels index labels := by
  have unrepeated : firstRepeat? 0 [] labels = none :=
    firstRepeat?_of_nodup distinct fun _ _ => List.not_mem_nil
  cases entered : indexLabels 0 .empty labels with
  | error stopped =>
      rw [indexLabels_eq_error_iff IndexesLabels.empty.contains_iff, unrepeated] at entered
      cases entered
  | ok index => exact ⟨index, rfl, IndexesLabels.empty.of_indexLabels entered⟩

namespace Descriptor

variable {descriptor : Descriptor} {runtime : Runtime} {value : Value}

/-! ## Positions of labels -/

theorem position?_eq_some_iff (descriptor : Descriptor) (label : Name) (index : Nat) :
    descriptor.position? label = some index ↔ descriptor.label? index = some label := by
  rw [position?, label?, List.idxOf?_eq_some_iff, List.getElem?_eq_some_iff]
  constructor
  · rintro ⟨inside, here, _⟩
    exact ⟨inside, here⟩
  · rintro ⟨inside, here⟩
    refine ⟨inside, here, ?_⟩
    intro earlier before there
    exact Nat.ne_of_lt before
      ((List.getElem_inj descriptor.labels_nodup).mp (there.trans here.symm))

/-! ## The failure of a reading -/

/-- Reading the component at a position fails. -/
def FailsAt (descriptor : Descriptor) (runtime : Runtime) (value : Value) (index : Nat) : Prop :=
  index < descriptor.arity ∧
    Exists fun failure => descriptor.component runtime value index = .error failure

theorem component_of_reader {index : Nat} {reader : Reader}
    (present : descriptor.readers[index]? = some reader) :
    descriptor.component runtime value index = descriptor.readWith runtime value reader := by
  rw [component, present]

/-- Reading all components fails as the first component does that fails. -/
theorem exists_isLeast_of_components {failure : DescriptorError}
    (failed : descriptor.components runtime value = .error failure) :
    Exists fun index => IsLeast {position | descriptor.FailsAt runtime value position} index ∧
      descriptor.component runtime value index = .error failure := by
  rcases exists_split_of_readAll failed with ⟨before, reader, after, split, here, complete⟩
  have present : descriptor.readers[before.length]? = some reader := by
    rw [split, List.getElem?_append_right (Nat.le_refl _), Nat.sub_self, List.getElem?_cons_zero]
  have single : descriptor.component runtime value before.length = .error failure :=
    (component_of_reader present).trans here
  refine ⟨before.length, ⟨⟨?_, failure, single⟩, ?_⟩, single⟩
  · rw [← descriptor.readers_length_eq_arity]
    exact (List.getElem?_eq_some_iff.mp present).1
  · -- A failure further in front would be that of a reader that succeeds.
    rintro position ⟨_, other, failedToo⟩
    apply Nat.le_of_not_lt
    intro inside
    have earlier : descriptor.readers[position]? = some before[position] := by
      rw [split, List.getElem?_append_left inside, List.getElem?_eq_getElem inside]
    rcases complete before[position] (List.getElem_mem inside) with ⟨part, found⟩
    rw [component_of_reader earlier, found] at failedToo
    cases failedToo

end Descriptor

/-! ## The verdict of the check -/

/-- What is known of a descriptor that the check made. -/
structure DescriptorParts.Validated (parts : DescriptorParts) (descriptor : Descriptor) :
    Prop where
  consists : parts.Make descriptor
  /-- A label and its position determine each other. -/
  positions : forall label index,
    descriptor.position? label = some index ↔ descriptor.label? index = some label
  /-- All labels are entered into an index, and it gives the positions. -/
  indexed : Exists fun index => indexLabels 0 .empty parts.labels = .ok index ∧
    forall label, index.get? label = descriptor.position? label
  outside : forall runtime value index, descriptor.arity ≤ index ->
    descriptor.component runtime value index =
      .error (.outOfRange descriptor.path index descriptor.arity)
  /-- All components are the single ones in order, or fail as the first of them that fails. -/
  components : forall runtime value,
    (Exists fun values => descriptor.components runtime value = .ok values ∧
      values.length = descriptor.arity ∧
      forall (index : Nat) (part : Value), values[index]? = some part ->
        descriptor.component runtime value index = .ok part) ∨
    Exists fun index => Exists fun failure =>
      IsLeast {position | descriptor.FailsAt runtime value position} index ∧
      descriptor.component runtime value index = .error failure ∧
      descriptor.components runtime value = .error failure

namespace DescriptorParts

theorem Make.validated {parts : DescriptorParts} {descriptor : Descriptor}
    (consists : parts.Make descriptor) : parts.Validated descriptor where
  consists := consists
  positions := descriptor.position?_eq_some_iff
  indexed := by
    rw [← consists.labels]
    rcases exists_indexLabels descriptor.labels_nodup with ⟨index, entered, indexes⟩
    refine ⟨index, entered, fun label => Option.ext fun position => ?_⟩
    exact (indexes label position).trans (descriptor.position?_eq_some_iff label position).symm
  outside _ _ _ := Descriptor.component_of_arity_le
  components runtime value := by
    cases read : descriptor.components runtime value with
    | ok values => exact .inl ⟨values, rfl, (Descriptor.components_eq_ok_iff values).mp read⟩
    | error failure =>
        rcases Descriptor.exists_isLeast_of_components read with ⟨index, least, single⟩
        exact .inr ⟨index, failure, least, single, rfl⟩

theorem malformed_of_check {parts : DescriptorParts} {failure : DescriptorError}
    (refused : parts.check = .error failure) :
    Exists fun detail => failure = .malformed parts.path detail := by
  unfold check at refused
  split at refused
  · split at refused
    · split at refused
      · split at refused
        · cases refused
        · cases refused
          exact ⟨_, rfl⟩
      · cases refused
        exact ⟨_, rfl⟩
    · cases refused
      exact ⟨_, rfl⟩
  · cases refused
    exact ⟨_, rfl⟩

/-- The check accepts exactly the parts that agree and refuses the others as malformed,
and a descriptor that it made has what it validated. -/
theorem check_exact (parts : DescriptorParts) :
    ((Exists fun descriptor => parts.check = .ok descriptor) ↔ parts.Agree) ∧
      (forall failure, parts.check = .error failure ->
        Exists fun detail => failure = .malformed parts.path detail) ∧
      forall descriptor, parts.check = .ok descriptor -> parts.Validated descriptor := by
  refine ⟨⟨?_, exists_check⟩, fun _ refused => malformed_of_check refused, ?_⟩
  · rintro ⟨descriptor, checked⟩
    exact (of_check checked).1
  · intro descriptor checked
    exact (of_check checked).2.validated

end DescriptorParts

namespace Sample

/-- The parts of the record type, with readers of its two fields. -/
def pointParts : DescriptorParts where
  ident := point
  path := "geo.Point"
  labels := [xLabel, yLabel]
  types := [.int, .int]
  constructorArity := 2
  builder := .record [⟨"x", .int, "int"⟩, ⟨"y", .int, "int"⟩]
  readers := [.field 0, .field 1]

theorem pointParts_validated :
    Exists fun descriptor => pointParts.check = .ok descriptor ∧
      pointParts.Validated descriptor ∧ descriptor.position? yLabel = some 1 := by
  have validated := (DescriptorParts.check_exact pointParts).2.2 _ rfl
  exact ⟨_, rfl, validated, (validated.positions yLabel 1).mpr rfl⟩

end Sample
end StructuralProducts
