import Mathlib.Logic.Function.Basic
import StructuralProducts.KeyedList
import StructuralProducts.Proofs.IssuedNames

namespace StructuralProducts

/-!
# The tables of an interner

An interner finds the slot of a string by a search through a shard, and it counts
strings by adding up the shards.  The tables described here do neither.  Beside its
strings, each shard has a map from them to their slots, and one counter serves all
shards.  A string that the map does not have goes to the end of the strings and into
the map, and is counted.

Strings, maps and counter never part: a map has the slot at which the search finds the
string, and the counter the sum of the shards.  So the tables give the names that the
interner gives.
-/

/-! ## The number of strings -/

namespace Interner

private theorem foldl_size_succ (shards : List (Array String)) (start : Nat) :
    shards.foldl (fun total strings => total + strings.size) (start + 1) =
      shards.foldl (fun total strings => total + strings.size) start + 1 := by
  induction shards generalizing start with
  | nil => rfl
  | cons strings rest inductionHypothesis =>
      rw [List.foldl_cons, List.foldl_cons, Nat.add_right_comm, inductionHypothesis]

private theorem foldl_size_set_push {shards : List (Array String)} {index : Nat}
    {strings : Array String} (present : shards[index]? = some strings) (text : String)
    (start : Nat) :
    (shards.set index (strings.push text)).foldl (fun total strings => total + strings.size)
        start =
      shards.foldl (fun total strings => total + strings.size) start + 1 := by
  induction shards generalizing index start with
  | nil => cases present
  | cons first rest inductionHypothesis =>
      cases index with
      | zero =>
          cases present
          rw [List.set_cons_zero, List.foldl_cons, List.foldl_cons, Array.size_push,
            ← Nat.add_assoc, foldl_size_succ]
      | succ position =>
          rw [List.set_cons_succ, List.foldl_cons, List.foldl_cons]
          exact inductionHypothesis present _

/-- A new string is one string more. -/
theorem size_of_tryIntern {interner : Interner} {text : String} {outcome : Name × Interner}
    (fresh : interner.get? text = none) (given : interner.tryIntern text = .ok outcome) :
    outcome.2.size = interner.size + 1 := by
  have present : interner.shards.toList[(shardOf text).val]? =
      some interner.shards[shardOf text] := by
    simp
  by_cases free : interner.shards[shardOf text].size ≤ Name.lastSlot
  · simp only [tryIntern, fresh, if_pos free] at given
    cases given
    rw [size, Vector.toList_set]
    exact foldl_size_set_push present text 0
  · simp only [tryIntern, fresh, if_neg free] at given
    cases given

end Interner

/-! ## One shard -/

/-- The strings of a shard, and the slot of each. -/
structure ShardTables where
  slots : KeyedList String Nat
  strings : Array String

namespace ShardTables

def empty : ShardTables := ⟨.empty, #[]⟩

/-- Put a string into the next slot. -/
def push (tables : ShardTables) (text : String) : ShardTables :=
  ⟨tables.slots.insert text tables.strings.size, tables.strings.push text⟩

/-- The tables have the strings of a shard, and the map has the slots that a search
finds. -/
structure Agrees (tables : ShardTables) (stored : Array String) : Prop where
  strings : tables.strings = stored
  slots : forall text, tables.slots.get? text = stored.idxOf? text

theorem agrees_empty : empty.Agrees #[] where
  strings := rfl
  slots text := by simp [empty]

theorem Agrees.push {tables : ShardTables} {stored : Array String}
    (agrees : tables.Agrees stored) {text : String} (fresh : stored.idxOf? text = none) :
    (tables.push text).Agrees (stored.push text) where
  strings := congrArg (Array.push · text) agrees.strings
  slots := by
    intro other
    rw [ShardTables.push, Interner.idxOf?_push, agrees.strings]
    by_cases same : text = other
    · subst same
      rw [KeyedList.get?_insert_self, fresh, if_pos rfl, Option.none_or]
    · rw [KeyedList.get?_insert_of_ne _ _ (Ne.symm same), agrees.slots, if_neg same,
        Option.or_none]

end ShardTables

/-! ## All shards -/

/-- The shards, and the number of strings in them. -/
structure InternerTables where
  shards : Fin 16 -> ShardTables
  total : Nat

namespace InternerTables

/-- From the start the empty string is in its shard. -/
def empty : InternerTables :=
  ⟨Function.update (fun _ => .empty) (Interner.shardOf "") (ShardTables.empty.push ""), 1⟩

/-- Intern a string: what is returned for it, and the tables afterwards. -/
def tryIntern (tables : InternerTables) (text : String) :
    Except InternError Name × InternerTables :=
  let shard := Interner.shardOf text
  let found := tables.shards shard
  match found.slots.get? text with
  | some slot => (.ok (Name.ofParts shard slot), tables)
  | none =>
      let count := found.strings.size
      if count <= Name.lastSlot then
        (.ok (Name.ofParts shard count),
          ⟨Function.update tables.shards shard (found.push text), tables.total + 1⟩)
      else (.error (.shardFull shard count), tables)

/-- The tables hold what an interner holds. -/
structure Agrees (tables : InternerTables) (interner : Interner) : Prop where
  shards : forall shard, (tables.shards shard).Agrees (interner.shards.get shard)
  total : tables.total = interner.size

theorem agrees_empty : empty.Agrees .empty where
  shards := by
    have first : (ShardTables.empty.push "").Agrees #[""] :=
      ShardTables.agrees_empty.push (by simp)
    have zero : Interner.shardOf "" = 0 := by decide +kernel
    intro shard
    simp only [empty, zero]
    by_cases same : shard = 0
    · subst same
      rw [Function.update_self]
      exact first
    · have apart : 0 ≠ shard.val := fun equal => same (Fin.ext equal.symm)
      have stored : Interner.empty.shards.get shard = #[] := by
        change Interner.empty.shards[shard] = #[]
        simp only [Interner.empty, Fin.getElem_fin, Vector.getElem_set_ne _ _ apart,
          Vector.getElem_replicate]
      rw [Function.update_of_ne same, stored]
      exact ShardTables.agrees_empty
  total := by decide

variable {tables : InternerTables} {interner : Interner}

/-- One more string in one shard, with the other shards as they were. -/
theorem Agrees.push {after : Interner} {shard : Fin 16} {text : String}
    (agrees : tables.Agrees interner) (fresh : (interner.shards.get shard).idxOf? text = none)
    (pushed : after.shards.get shard = (interner.shards.get shard).push text)
    (kept : forall other, other ≠ shard -> after.shards.get other = interner.shards.get other)
    (size : after.size = interner.size + 1) :
    InternerTables.Agrees
      ⟨Function.update tables.shards shard ((tables.shards shard).push text), tables.total + 1⟩
      after where
  shards := by
    intro other
    by_cases same : other = shard
    · subst same
      simp only [Function.update_self, pushed]
      exact (agrees.shards other).push fresh
    · simp only [Function.update_of_ne same, kept other same]
      exact agrees.shards other
  total := by rw [size, agrees.total]

/-- Interning a string gives what the interner gives, and keeps the agreement. -/
theorem Agrees.tryIntern (agrees : tables.Agrees interner) (text : String) :
    (tables.tryIntern text).1 = (interner.tryIntern text).map Prod.fst ∧
      (tables.tryIntern text).2.Agrees (interner.intern text).2 := by
  have shard : (tables.shards (Interner.shardOf text)).Agrees
      interner.shards[Interner.shardOf text] := agrees.shards (Interner.shardOf text)
  cases located : interner.shards[Interner.shardOf text].idxOf? text with
  | some slot =>
      have present : interner.get? text = some (Name.ofParts (Interner.shardOf text) slot) :=
        congrArg (Option.map _) located
      simp only [InternerTables.tryIntern, shard.slots, located,
        Interner.tryIntern_of_get? present, Interner.intern_of_get? present]
      exact ⟨rfl, agrees⟩
  | none =>
      have fresh : interner.get? text = none := congrArg (Option.map _) located
      simp only [InternerTables.tryIntern, Interner.intern, shard.slots, shard.strings, located]
      by_cases free : interner.shards[Interner.shardOf text].size ≤ Name.lastSlot
      · have given : interner.tryIntern text = .ok
            (Name.ofParts (Interner.shardOf text) interner.shards[Interner.shardOf text].size,
              ⟨interner.shards.set (Interner.shardOf text)
                (interner.shards[Interner.shardOf text].push text)⟩) := by
          simp only [Interner.tryIntern, fresh, if_pos free]
        simp only [given, if_pos free]
        refine ⟨rfl, agrees.push located (Vector.getElem_set_self _) ?_
          (Interner.size_of_tryIntern fresh given)⟩
        intro other different
        exact Vector.getElem_set_ne (Fin.isLt _) other.isLt fun equal =>
          different (Fin.ext equal.symm)
      · simp only [Interner.tryIntern, fresh, if_neg free]
        exact ⟨rfl, agrees⟩

end InternerTables
end StructuralProducts
