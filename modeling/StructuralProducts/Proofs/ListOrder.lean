import Mathlib.Data.List.Induction

namespace StructuralProducts

/-!
# Orders of lists

Two ways to put a list into an order that is determined by the list: each item
once, where it occurs first, and all items by a key, those of one key in the order
in which they came.
-/

/-! ## First occurrences -/

/-- One more item at the end counts only if it is new. -/
theorem eraseDups_concat {Item : Type} [DecidableEq Item] (items : List Item) (item : Item) :
    (items ++ [item]).eraseDups =
      items.eraseDups ++ if item ∈ items then [] else [item] := by
  rw [List.eraseDups_append]
  by_cases known : item ∈ items
  · simp [List.removeAll, known]
  · simp [List.removeAll, known, List.eraseDups_cons]

section

variable {Item : Type} {key : Item -> Nat}

/-- A list has the items of another one in the order of a key, and items with equal
keys in the order they had. -/
structure StablySorted (key : Item -> Nat) (given sorted : List Item) : Prop where
  perm : sorted.Perm given
  ordered : sorted.Pairwise fun first second => key first ≤ key second
  stable : forall position, sorted.filter (key · == position) = given.filter (key · == position)

theorem stablySorted_mergeSort (key : Item -> Nat) (given : List Item) :
    StablySorted key given (given.mergeSort fun first second => key first ≤ key second) := by
  have transitive (first second third : Item) :
      decide (key first ≤ key second) = true -> decide (key second ≤ key third) = true ->
        decide (key first ≤ key third) = true := by
    simp only [decide_eq_true_eq]
    exact Nat.le_trans
  have total (first second : Item) :
      (decide (key first ≤ key second) || decide (key second ≤ key first)) = true := by
    simp only [Bool.or_eq_true, decide_eq_true_eq]
    exact Nat.le_total _ _
  have perm := List.mergeSort_perm given fun first second => key first ≤ key second
  refine ⟨perm, ?_, ?_⟩
  · exact (List.pairwise_mergeSort transitive total given).imp of_decide_eq_true
  · intro position
    have level : (given.filter (key · == position)).Pairwise fun first second =>
        decide (key first ≤ key second) = true := by
      rw [List.pairwise_iff_forall_sublist]
      intro first second sublist
      have firstKey := (List.mem_filter.mp (sublist.subset List.mem_cons_self)).2
      have secondKey := (List.mem_filter.mp (sublist.subset
        (List.mem_cons_of_mem _ List.mem_cons_self))).2
      rw [eq_of_beq firstKey, eq_of_beq secondKey]
      exact decide_eq_true (Nat.le_refl _)
    -- Items of one key are already in order, so sorting keeps them as a sublist.
    have kept := (List.sublist_mergeSort transitive total level List.filter_sublist).filter
      (key · == position)
    rw [List.filter_filter] at kept
    simp only [Bool.and_self] at kept
    exact (kept.eq_of_length (perm.filter _).length_eq.symm).symm

namespace StablySorted

variable {given sorted : List Item}

theorem filter (stably : StablySorted key given sorted) (keep : Item -> Bool) :
    StablySorted key (given.filter keep) (sorted.filter keep) where
  perm := stably.perm.filter keep
  ordered := stably.ordered.filter keep
  stable := by
    intro position
    have same := congrArg (List.filter keep) (stably.stable position)
    simp only [List.filter_filter] at same ⊢
    simpa only [Bool.and_comm] using same

theorem mem_iff (stably : StablySorted key given sorted) {item : Item} :
    item ∈ sorted ↔ item ∈ given :=
  stably.perm.mem_iff

/-- An item that comes last and has the largest key stays last. -/
theorem getLast?_of_forall_le {front : List Item} {last : Item}
    (stably : StablySorted key (front ++ [last]) sorted)
    (largest : forall item, item ∈ front -> key item ≤ key last) :
    sorted.getLast? = some last := by
  induction sorted using List.reverseRecOn with
  | nil =>
      have member := stably.mem_iff.mpr (List.mem_append_right front List.mem_cons_self)
      exact absurd member List.not_mem_nil
  | append_singleton others final =>
      have finalKey : key final = key last := by
        apply Nat.le_antisymm
        · have member := stably.mem_iff.mp (List.mem_append_right others List.mem_cons_self)
          rcases List.mem_append.mp member with earlier | only
          · exact largest final earlier
          · exact Nat.le_of_eq (congrArg key (List.mem_singleton.mp only))
        · have member := stably.mem_iff.mpr (List.mem_append_right front List.mem_cons_self)
          rcases List.mem_append.mp member with earlier | only
          · exact (List.pairwise_append.mp stably.ordered).2.2 last earlier final
              List.mem_cons_self
          · exact Nat.le_of_eq (congrArg key (List.mem_singleton.mp only))
      -- The items with this key end with the same item in both lists.
      have level := stably.stable (key last)
      have single (item : Item) (same : key item = key last) :
          [item].filter (key · == key last) = [item] :=
        List.filter_cons_of_pos (beq_iff_eq.mpr same)
      rw [List.filter_append, List.filter_append, single final finalKey, single last rfl] at level
      have ends := congrArg List.getLast? level
      rw [List.getLast?_concat, List.getLast?_concat] at ends
      rw [List.getLast?_concat, ends]

end StablySorted

end

end StructuralProducts
