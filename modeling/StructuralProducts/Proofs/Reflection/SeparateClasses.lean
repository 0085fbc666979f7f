import Mathlib.Data.List.Induction
import StructuralProducts.KeyedList
import StructuralProducts.Proofs.Reflection.Loads

namespace StructuralProducts

/-!
# Classes under different paths

A load changes what stands in one slot, that of its own path, and no handle.  This is
said here of whole histories of loads.  A ledger keeps the handles that the loads
returned, each under the path of its class; it knows nothing of slots, and resolving a
path gives what the ledger has for it.  Every class stands behind the handle of its own
path, the one that was loaded there last.

What a host answers through a handle depends on the class behind that handle alone.  So
a load at one path is not noticed through the handles of the classes at other paths.
-/

namespace SymbolTable

variable {table : SymbolTable}

/-! ## Every class stands behind its own path -/

/-- The handle behind which a class stands is that of its path. -/
def Indexed (table : SymbolTable) : Prop :=
  forall handle owner, table.classAt? handle = some owner ->
    table.handleOf? owner.path = some handle

theorem indexed_empty : empty.Indexed := by
  intro handle owner present
  cases present

theorem Indexed.load (indexed : table.Indexed) (loaded : ForeignClass) :
    (table.load loaded).2.Indexed := by
  intro handle owner present
  rw [classAt?_load] at present
  rw [handleOf?_load_eq]
  split at present
  · next returned =>
      cases present
      rw [if_pos rfl, returned]
  · next apart =>
      have before := indexed handle owner present
      rw [if_neg fun same => apart ((handle_load_eq_iff before loaded).mpr same)]
      exact before

theorem Indexed.loadAll (indexed : table.Indexed) (loads : List ForeignClass) :
    (table.loadAll loads).Indexed := by
  induction loads generalizing table with
  | nil => exact indexed
  | cons loaded rest inductionHypothesis => exact inductionHypothesis (indexed.load loaded)

/-! ## The last load at a path counts -/

theorem loadAll_concat (table : SymbolTable) (loads : List ForeignClass) (loaded : ForeignClass) :
    table.loadAll (loads ++ [loaded]) = ((table.loadAll loads).load loaded).2 := by
  rw [loadAll, List.foldl_append]
  rfl

theorem classNamed?_loadAll_empty (loads : List ForeignClass) (path : String) :
    (empty.loadAll loads).classNamed? path = loads.reverse.find? (·.path == path) := by
  induction loads using List.reverseRecOn with
  | nil => rfl
  | append_singleton loads loaded inductionHypothesis =>
      rw [loadAll_concat, classNamed?_load, List.reverse_append, List.reverse_singleton,
        List.singleton_append]
      split
      · next same =>
          have found : (loaded.path == path) = true := beq_iff_eq.mpr same
          rw [List.find?_cons, found]
      · next elsewhere =>
          have passed : (loaded.path == path) = false := beq_eq_false_iff_ne.mpr elsewhere
          rw [List.find?_cons, passed, inductionHypothesis]

theorem isSome_handleOf?_iff (table : SymbolTable) (path : String) :
    (table.handleOf? path).isSome = true ↔ (table.classNamed? path).isSome = true := by
  cases named : table.handleOf? path with
  | none => rw [classNamed?_of_handleOf?_eq_none named]; rfl
  | some handle =>
      rcases exists_classAt?_of_handleOf? named with ⟨owner, present, _⟩
      rw [classNamed?_of_handleOf? named, present]
      rfl

end SymbolTable

/-! ## The handles that loads return -/

/-- A table with the handles that its loads returned, each under the path of its class. -/
structure LoadLedger where
  table : SymbolTable
  issued : KeyedList String ClassHandle

namespace LoadLedger

def record (ledger : LoadLedger) (loaded : ForeignClass) : LoadLedger where
  table := (ledger.table.load loaded).2
  issued := ledger.issued.insert loaded.path (ledger.table.load loaded).1

/-- The ledger after some loads into an empty table. -/
def run (loads : List ForeignClass) : LoadLedger :=
  loads.foldl record ⟨.empty, .empty⟩

theorem run_concat (loads : List ForeignClass) (loaded : ForeignClass) :
    run (loads ++ [loaded]) = (run loads).record loaded := by
  rw [run, List.foldl_append]
  rfl

/-- The table resolves paths as the ledger has them. -/
def Agrees (ledger : LoadLedger) : Prop :=
  forall path, ledger.table.handleOf? path = ledger.issued.get? path

theorem Agrees.record {ledger : LoadLedger} (agrees : ledger.Agrees) (loaded : ForeignClass) :
    (ledger.record loaded).Agrees := by
  intro path
  change (ledger.table.load loaded).2.handleOf? path = (ledger.issued.insert _ _).get? path
  rw [SymbolTable.handleOf?_load_eq]
  split
  · next same => rw [← same, KeyedList.get?_insert_self]
  · next elsewhere =>
      rw [KeyedList.get?_insert_of_ne _ _ (Ne.symm elsewhere)]
      exact agrees path

theorem agrees_run (loads : List ForeignClass) :
    (run loads).Agrees ∧ (run loads).table = SymbolTable.empty.loadAll loads := by
  induction loads using List.reverseRecOn with
  | nil => exact ⟨fun _ => rfl, rfl⟩
  | append_singleton loads loaded inductionHypothesis =>
      rw [run_concat, SymbolTable.loadAll_concat, ← inductionHypothesis.2]
      exact ⟨inductionHypothesis.1.record loaded, rfl⟩

end LoadLedger

/-! ## What is answered through a handle -/

namespace Host

/-- Through a handle two hosts answer everything in the same way. -/
structure AnswerAlike (first second : Host) (handle : ClassHandle) : Prop where
  constructors : first.symbols.constructors handle = second.symbols.constructors handle
  accessors : forall name,
    first.symbols.findAccessor handle name = second.symbols.findAccessor handle name
  invoke : forall index arguments,
    first.invoke ⟨handle, index⟩ arguments = second.invoke ⟨handle, index⟩ arguments
  read : forall index receiver,
    first.read ⟨handle, index⟩ receiver = second.read ⟨handle, index⟩ receiver

/-- Answers depend on nothing in the table but the class behind the handle. -/
theorem answerAlike_of_classAt? {first second : Host} {handle : ClassHandle}
    (interner : first.interner = second.interner)
    (same : first.symbols.classAt? handle = second.symbols.classAt? handle) :
    first.AnswerAlike second handle where
  constructors := by rw [SymbolTable.constructors, same, SymbolTable.constructors]
  accessors name := by rw [SymbolTable.findAccessor, same, SymbolTable.findAccessor]
  invoke index arguments := by rw [Host.invoke, same, interner, Host.invoke]
  read index receiver := by rw [Host.read, same, Host.read]

/-- What a host makes of the classes that were loaded. -/
structure HoldsApart (host : Host) (loads : List ForeignClass) : Prop where
  /-- A path is resolved if a class was loaded under it. -/
  known : forall path, (host.symbols.resolve path).1.isSome = true ↔
    Exists fun loaded => loaded ∈ loads ∧ loaded.path = path
  /-- A path is resolved to the handle that the loads at the path returned. -/
  issued : forall path,
    (host.symbols.resolve path).1 = (LoadLedger.run loads).issued.get? path
  /-- Once issued, the handle of a path stays, whatever is loaded. -/
  kept : forall path handle, (host.symbols.resolve path).1 = some handle -> forall further,
    ((host.loadAll further).symbols.resolve path).1 = some handle
  apart : forall first second handle, (host.symbols.resolve first).1 = some handle ->
    (host.symbols.resolve second).1 = some handle -> first = second
  /-- Behind the handle of a path stands the class that was loaded there last. -/
  latest : forall path handle, (host.symbols.resolve path).1 = some handle ->
    host.symbols.classAt? handle = loads.reverse.find? (·.path == path)
  /-- Through the handle of a class at another path a load is not noticed. -/
  unnoticed : forall handle owner, host.symbols.classAt? handle = some owner ->
    forall loaded, loaded.path ≠ owner.path -> host.AnswerAlike (host.load loaded).2 handle

/-- A load changes its own path only, after any loads into a host that had none. -/
theorem loads_hold_apart (session : SessionId) (interner : Interner)
    (loads : List ForeignClass) :
    ((Host.mk session interner .empty).loadAll loads).HoldsApart loads := by
  have symbols : ((Host.mk session interner .empty).loadAll loads).symbols =
      SymbolTable.empty.loadAll loads := symbols_loadAll _ loads
  have named (path : String) : (SymbolTable.empty.loadAll loads).classNamed? path =
      loads.reverse.find? (·.path == path) := SymbolTable.classNamed?_loadAll_empty loads path
  refine ⟨?_, ?_, ?_, ?_, ?_, ?_⟩
  · intro path
    rw [symbols, SymbolTable.resolve, SymbolTable.isSome_handleOf?_iff, named, List.find?_isSome]
    simp only [List.mem_reverse, beq_iff_eq]
  · intro path
    have agrees := LoadLedger.agrees_run loads
    rw [symbols, ← agrees.2]
    exact agrees.1 path
  · intro path handle resolved further
    rcases SymbolTable.exists_classAt?_of_handleOf? resolved with ⟨owner, present, _⟩
    rw [symbols_loadAll]
    exact (SymbolTable.classAt?_loadAll resolved present further).1
  · intro first second handle one other
    rcases SymbolTable.exists_classAt?_of_handleOf? one with ⟨owner, present, path⟩
    rcases SymbolTable.exists_classAt?_of_handleOf? other with ⟨_, presentToo, pathToo⟩
    rw [present] at presentToo
    cases presentToo
    exact path.symm.trans pathToo
  · intro path handle resolved
    rw [← SymbolTable.classNamed?_of_handleOf? resolved, symbols, named]
  · intro handle owner present loaded elsewhere
    have indexed := SymbolTable.indexed_empty.loadAll loads
    rw [← symbols] at indexed
    have returned := SymbolTable.handle_load_eq_iff (indexed handle owner present) loaded
    refine answerAlike_of_classAt? ?_ ?_
    · rfl
    · exact ((SymbolTable.classAt?_load _ loaded handle).trans
        (if_neg fun same => elsewhere (returned.mp same))).symm

end Host
end StructuralProducts
