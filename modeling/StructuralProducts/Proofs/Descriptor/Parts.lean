import Mathlib.Data.List.Forall2
import Mathlib.Order.Bounds.Defs
import StructuralProducts.Descriptor

namespace StructuralProducts

/-!
# Descriptors and their parts

The check of descriptor parts looks at everything and invents nothing, so a
descriptor is known from the parts it was made of.

Reading every component runs the readers in order and stops at the first
failure.  It succeeds exactly when every reader succeeds by itself, and then it
gives what they give.
-/

/-! ## The check of descriptor parts -/

/-- Labels that are distinct, among themselves and from those seen before, are
scanned without finding a repetition. -/
theorem firstRepeat?_of_nodup {labels : List Name} {index : Nat} {seen : List Name}
    (distinct : labels.Nodup) (fresh : forall label, label ∈ labels -> label ∉ seen) :
    firstRepeat? index seen labels = none := by
  induction labels generalizing index seen with
  | nil => rfl
  | cons label rest inductionHypothesis =>
      have separate := List.nodup_cons.mp distinct
      rw [firstRepeat?, if_neg (fresh label List.mem_cons_self)]
      apply inductionHypothesis separate.2
      intro other member seenBefore
      rcases List.mem_cons.mp seenBefore with same | earlier
      · exact separate.1 (same ▸ member)
      · exact fresh other (List.mem_cons_of_mem _ member) earlier

/-- The label at a position stands at an earlier position too. -/
def RepeatsAt (labels : List Name) (position : Nat) : Prop :=
  Exists fun label => labels[position]? = some label ∧ label ∈ labels.take position

/-- The scan stops at a label that was seen before or stands before it, and up to
there the labels are distinct. -/
theorem exists_split_of_firstRepeat? {labels seen : List Name} {start index : Nat}
    (found : firstRepeat? start seen labels = some index) :
    Exists fun before => Exists fun label => Exists fun after =>
      labels = before ++ label :: after ∧ index = start + before.length ∧ before.Nodup ∧
      (forall other, other ∈ before -> other ∉ seen) ∧ (label ∈ seen ∨ label ∈ before) := by
  induction labels generalizing start seen with
  | nil => cases found
  | cons first rest inductionHypothesis =>
      unfold firstRepeat? at found
      split at found
      · next known =>
          cases found
          refine ⟨[], first, rest, rfl, rfl, List.nodup_nil, ?_, .inl known⟩
          exact fun other impossible => absurd impossible List.not_mem_nil
      · next fresh =>
          rcases inductionHypothesis found with
            ⟨before, label, after, rfl, rfl, distinct, apart, known⟩
          refine ⟨first :: before, label, after, rfl, ?_, ?_, ?_, ?_⟩
          · rw [List.length_cons, Nat.add_assoc, Nat.add_comm 1]
          · exact List.nodup_cons.mpr
              ⟨fun member => apart first member List.mem_cons_self, distinct⟩
          · refine List.forall_mem_cons.mpr ⟨fresh, ?_⟩
            exact fun other member listed =>
              apart other member (List.mem_cons_of_mem _ listed)
          · rcases known with listed | member
            · rcases List.mem_cons.mp listed with rfl | listed
              · exact .inr List.mem_cons_self
              · exact .inl listed
            · exact .inr (List.mem_cons_of_mem _ member)

theorem isLeast_of_firstRepeat? {labels : List Name} {index : Nat}
    (found : firstRepeat? 0 [] labels = some index) :
    IsLeast {position | RepeatsAt labels position} index := by
  rcases exists_split_of_firstRepeat? found with
    ⟨before, label, after, rfl, rfl, distinct, _, known⟩
  have repeated := known.resolve_left List.not_mem_nil
  rw [Nat.zero_add]
  refine ⟨⟨label, ?_, ?_⟩, ?_⟩
  · rw [List.getElem?_append_right (Nat.le_refl _), Nat.sub_self, List.getElem?_cons_zero]
  · rwa [List.take_left]
  · rintro position ⟨other, present, earlier⟩
    -- Two occurrences before the position would contradict that the labels differ there.
    apply Nat.le_of_not_lt
    intro inside
    rw [List.getElem?_append_left inside] at present
    rw [List.take_append_of_le_length (Nat.le_of_lt inside)] at earlier
    have later : other ∈ before.drop position :=
      List.mem_iff_getElem?.mpr ⟨0, by rw [List.getElem?_drop, Nat.add_zero, present]⟩
    exact List.disjoint_take_drop distinct (Nat.le_refl position) earlier later

namespace DescriptorParts

/-- The parts agree: one type, one reader and one argument for each label, and
no label twice. -/
structure Agree (parts : DescriptorParts) : Prop where
  types : parts.types.length = parts.labels.length
  constructorArity : parts.constructorArity = parts.labels.length
  readers : parts.readers.length = parts.labels.length
  labels : parts.labels.Nodup

/-- The descriptor consists of the parts. -/
structure Make (parts : DescriptorParts) (descriptor : Descriptor) : Prop where
  ident : descriptor.ident = parts.ident
  path : descriptor.path = parts.path
  labels : descriptor.labels = parts.labels
  types : descriptor.types = parts.types
  builder : descriptor.builder = parts.builder
  readers : descriptor.readers = parts.readers

/-- The check invents nothing and looks at everything: what it returns consists
of the parts, and the parts agree. -/
theorem of_check {parts : DescriptorParts} {descriptor : Descriptor}
    (checked : parts.check = .ok descriptor) : parts.Agree ∧ parts.Make descriptor := by
  unfold check at checked
  split at checked
  · next types =>
      split at checked
      · next constructorArity =>
          split at checked
          · next readers =>
              split at checked
              · next distinct =>
                  cases checked
                  exact ⟨⟨types, constructorArity, readers, (nodup_of_firstRepeat? distinct).1⟩,
                    ⟨rfl, rfl, rfl, rfl, rfl, rfl⟩⟩
              · cases checked
          · cases checked
      · cases checked
  · cases checked

theorem exists_check {parts : DescriptorParts} (agree : parts.Agree) :
    Exists fun descriptor => parts.check = .ok descriptor := by
  unfold check
  rw [dif_pos agree.types, if_pos agree.constructorArity, dif_pos agree.readers]
  split
  · exact ⟨_, rfl⟩
  · next index repeated =>
      have clean : firstRepeat? 0 [] parts.labels = none :=
        firstRepeat?_of_nodup agree.labels (fun _ _ => List.not_mem_nil)
      rw [clean] at repeated
      cases repeated

/-- If everything else agrees, the check refuses nothing but a repeated label. -/
theorem check_of_not_nodup {parts : DescriptorParts}
    (types : parts.types.length = parts.labels.length)
    (constructorArity : parts.constructorArity = parts.labels.length)
    (readers : parts.readers.length = parts.labels.length) (repeated : ¬ parts.labels.Nodup) :
    Exists fun index => IsLeast {position | RepeatsAt parts.labels position} index ∧
      parts.check = .error (.repeatedLabel parts.path index) := by
  unfold check
  rw [dif_pos types, if_pos constructorArity, dif_pos readers]
  split
  · next distinct => exact absurd (nodup_of_firstRepeat? distinct).1 repeated
  · next index found => exact ⟨index, isLeast_of_firstRepeat? found, rfl⟩

end DescriptorParts

/-! ## Reading all components and reading one -/

/-- The field at a position, if the value is an instance of the identity. -/
def Value.fieldOf? (ident : TypeId) (slot : Nat) : Value -> Option Value
  | .record other fields => if other = ident then fields[slot]? else Option.none
  | _ => Option.none

namespace Descriptor

variable {descriptor : Descriptor} {runtime : Runtime} {value : Value}

theorem component_of_arity_le {index : Nat} (outside : descriptor.arity ≤ index) :
    descriptor.component runtime value index =
      .error (.outOfRange descriptor.path index descriptor.arity) := by
  rw [← descriptor.readers_length_eq_arity] at outside
  rw [component, List.getElem?_eq_none outside]

theorem readAll_eq_ok_iff (readers : List Reader) (parts : List Value) :
    descriptor.readAll runtime value readers = .ok parts ↔
      List.Forall₂ (fun reader part => descriptor.readWith runtime value reader = .ok part)
        readers parts := by
  induction readers generalizing parts with
  | nil =>
      rw [List.forall₂_nil_left_iff]
      simp [readAll, eq_comm]
  | cons reader rest inductionHypothesis =>
      unfold readAll
      cases parts with
      | nil =>
          rw [List.forall₂_nil_right_iff]
          split
          · simp
          · split <;> simp
      | cons part others =>
          rw [List.forall₂_cons, ← inductionHypothesis]
          split
          next failure failed => simp [failed]
          next first found =>
            split
            next failure failed => simp [failed]
            next later complete => simp [found, complete]

/-- A failed reading is that of a reader before which all others succeed. -/
theorem exists_split_of_readAll {readers : List Reader} {failure : DescriptorError}
    (failed : descriptor.readAll runtime value readers = .error failure) :
    Exists fun before => Exists fun reader => Exists fun after =>
      readers = before ++ reader :: after ∧
      descriptor.readWith runtime value reader = .error failure ∧
      forall other, other ∈ before ->
        Exists fun part => descriptor.readWith runtime value other = .ok part := by
  induction readers with
  | nil => cases failed
  | cons first rest inductionHypothesis =>
      unfold readAll at failed
      split at failed
      · next here =>
          cases failed
          exact ⟨[], first, rest, rfl, here, fun other impossible =>
            absurd impossible List.not_mem_nil⟩
      · next part found =>
          split at failed
          · next later =>
              cases failed
              rcases inductionHypothesis later with ⟨before, reader, after, rfl, here, complete⟩
              refine ⟨first :: before, reader, after, rfl, here, ?_⟩
              exact List.forall_mem_cons.mpr ⟨⟨part, found⟩, complete⟩
          · cases failed

/-- All components are read exactly when there is one value for each of them and
each component by itself is read to its value. -/
theorem components_eq_ok_iff (parts : List Value) :
    descriptor.components runtime value = .ok parts ↔
      parts.length = descriptor.arity ∧
        forall (index : Nat) (part : Value), parts[index]? = some part ->
          descriptor.component runtime value index = .ok part := by
  unfold components
  have readerCount := descriptor.readers_length_eq_arity
  rw [readAll_eq_ok_iff, List.forall₂_iff_get]
  constructor
  · rintro ⟨count, each⟩
    refine ⟨count.symm.trans readerCount, ?_⟩
    intro index part found
    rcases List.getElem?_eq_some_iff.mp found with ⟨inside, rfl⟩
    have readerInside : index < descriptor.readers.length := count ▸ inside
    simp only [component, List.getElem?_eq_getElem readerInside]
    exact each index readerInside inside
  · rintro ⟨count, each⟩
    refine ⟨readerCount.trans count.symm, ?_⟩
    intro index readerInside inside
    have single := each index parts[index] (List.getElem?_eq_getElem inside)
    simp only [component, List.getElem?_eq_getElem readerInside] at single
    exact single

end Descriptor
end StructuralProducts
