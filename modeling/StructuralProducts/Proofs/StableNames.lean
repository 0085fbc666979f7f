import StructuralProducts.Interner

namespace StructuralProducts

/-!
# Interned names are stable

A string is settled in an interner when interning it again changes nothing.  One
call settles a string, with or without a slot for it, and no later call unsettles
it.  So equal strings get equal names whatever is interned in between.
-/

namespace Interner

theorem idxOf?_push (strings : Array String) (added text : String) :
    (strings.push added).idxOf? text =
      (strings.idxOf? text).or (if added = text then some strings.size else none) := by
  rcases strings with ⟨strings⟩
  by_cases same : added = text
  · simp [List.idxOf?, List.findIdx?_append, same]
  · simp [List.idxOf?, List.findIdx?_append, same]

/-- The string has a name and interning it changes nothing. -/
def Settled (interner : Interner) (text : String) (name : Name) : Prop :=
  interner.intern text = (name, interner)

/-- Whether a string is settled depends on its own shard alone. -/
theorem settled_congr {first second : Interner} {text : String} {name : Name}
    (same : second.shards[(shardOf text).val]? = first.shards[(shardOf text).val]?)
    (settled : first.Settled text name) : second.Settled text name := by
  rw [Vector.getElem?_eq_getElem (shardOf text).isLt,
    Vector.getElem?_eq_getElem (shardOf text).isLt, Option.some.injEq] at same
  have present : second.get? text = first.get? text := by
    simp only [get?, Fin.getElem_fin, same]
  rcases first.intern_cases text with ⟨other, found, equal⟩ | ⟨absent, _, equal⟩ |
    ⟨absent, full, equal⟩
  · have name_eq : other = name := congrArg Prod.fst (equal.symm.trans settled)
    subst name_eq
    exact intern_of_get? (present.trans found)
  · -- Interning has changed the shard, so the string was not settled.
    have unchanged := congrArg (fun outcome => outcome.2.shards[shardOf text].size)
      (equal.symm.trans settled)
    simp at unchanged
  · have name_eq : Name.empty = name := congrArg Prod.fst (equal.symm.trans settled)
    subst name_eq
    have stillFull : ¬ second.shards[shardOf text].size ≤ Name.lastSlot := by
      rw [Fin.getElem_fin, same]
      exact Nat.not_le_of_lt full
    simp only [Settled, intern, tryIntern, present.trans absent, if_neg stillFull]

theorem settled_intern (interner : Interner) (text : String) :
    (interner.intern text).2.Settled text (interner.intern text).1 := by
  rcases interner.intern_cases text with ⟨name, found, equal⟩ | ⟨absent, _, equal⟩ |
    ⟨_, _, equal⟩
  · rw [equal]
    exact equal
  · rw [equal]
    apply intern_of_get?
    have fresh : (interner.shards[shardOf text]).idxOf? text = none :=
      Option.map_eq_none_iff.mp absent
    simp only [get?, Fin.getElem_fin, Vector.getElem_set_self] at fresh ⊢
    rw [idxOf?_push, fresh, if_pos rfl]
    rfl
  · rw [equal]
    exact equal

/-- A string that has a name keeps it. -/
theorem get?_intern_of_some {interner : Interner} {text : String} {name : Name}
    (found : interner.get? text = some name) (other : String) :
    (interner.intern other).2.get? text = some name := by
  rcases interner.intern_cases other with ⟨_, _, equal⟩ | ⟨_, _, equal⟩ | ⟨_, _, equal⟩
  · rw [equal]
    exact found
  · rw [equal]
    rcases Option.map_eq_some_iff.mp found with ⟨slot, located, rfl⟩
    by_cases shard : shardOf other = shardOf text
    · simp only [get?, Fin.getElem_fin, shard, Vector.getElem_set_self] at located ⊢
      rw [idxOf?_push, located]
      rfl
    · have apart : (shardOf other).val ≠ (shardOf text).val := fun same =>
        shard (Fin.ext same)
      simp only [get?, Fin.getElem_fin, Vector.getElem_set_ne _ _ apart] at located ⊢
      rw [located]
      rfl
  · rw [equal]
    exact found

/-- No later call unsettles a string. -/
theorem Settled.intern {interner : Interner} {text : String} {name : Name}
    (settled : interner.Settled text name) (other : String) :
    (interner.intern other).2.Settled text name := by
  rcases interner.intern_cases other with ⟨_, _, equal⟩ | ⟨absent, free, equal⟩ | ⟨_, _, equal⟩
  · rw [equal]
    exact settled
  · rw [equal]
    by_cases shard : shardOf other = shardOf text
    · -- The shard has grown.  It was not full, so the string stood in it.
      rcases interner.intern_cases text with ⟨own, found, unchanged⟩ | ⟨_, _, changed⟩ |
        ⟨_, full, _⟩
      · have name_eq : own = name := congrArg Prod.fst (unchanged.symm.trans settled)
        subst name_eq
        have kept := get?_intern_of_some found other
        rw [equal] at kept
        exact intern_of_get? kept
      · have size := congrArg (fun outcome => outcome.2.shards[shardOf text].size)
          (changed.symm.trans settled)
        simp at size
      · simp only [shard] at free
        exact absurd free (Nat.not_le_of_lt full)
    · refine settled_congr ?_ settled
      have apart : (shardOf other).val ≠ (shardOf text).val := fun same =>
        shard (Fin.ext same)
      exact Vector.getElem?_set_ne (shardOf other).isLt apart
  · rw [equal]
    exact settled

theorem Settled.mem_internAll {interner : Interner} {text : String} {name : Name}
    (settled : interner.Settled text name) {texts : List String} (member : text ∈ texts) :
    name ∈ (interner.internAll texts).1 := by
  induction texts generalizing interner with
  | nil => cases member
  | cons first rest inductionHypothesis =>
      simp only [internAll]
      rcases List.mem_cons.mp member with rfl | later
      · rw [settled]
        exact List.mem_cons_self
      · exact List.mem_cons_of_mem _ (inductionHypothesis (settled.intern first) later)

theorem nodup_of_internAll (interner : Interner) {texts : List String}
    (distinct : (interner.internAll texts).1.Nodup) : texts.Nodup := by
  induction texts generalizing interner with
  | nil => exact List.nodup_nil
  | cons first rest inductionHypothesis =>
      simp only [internAll, List.nodup_cons] at distinct
      rw [List.nodup_cons]
      refine ⟨?_, inductionHypothesis _ distinct.2⟩
      intro again
      exact distinct.1 ((interner.settled_intern first).mem_internAll again)

theorem length_internAll (interner : Interner) (texts : List String) :
    (interner.internAll texts).1.length = texts.length := by
  induction texts generalizing interner with
  | nil => rfl
  | cons first rest inductionHypothesis =>
      simp only [internAll, List.length_cons, inductionHypothesis]

end Interner
end StructuralProducts
