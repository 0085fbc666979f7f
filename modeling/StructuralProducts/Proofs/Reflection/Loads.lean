import StructuralProducts.Reflection.Host

namespace StructuralProducts

/-!
# Loading classes

A load gives its class the slot of its path: the slot that the path already has,
or the next one.  So a path keeps its handle, and what a handle leads to changes
only through loads at its own path.  After several loads the class behind the
handle of a path is the one that was loaded there last.
-/

namespace SymbolTable

variable {table : SymbolTable} {handle : ClassHandle} {path : String}

/-! ## Classes under their paths -/

/-- The class that is loaded under a path. -/
def classNamed? (table : SymbolTable) (path : String) : Option ForeignClass :=
  table.classes.find? (·.path == path)

theorem classNamed?_congr {other : SymbolTable} (same : table.classes = other.classes)
    (path : String) : table.classNamed? path = other.classNamed? path := by
  rw [classNamed?, same, classNamed?]

theorem handleOf?_congr {other : SymbolTable} (same : table.classes = other.classes)
    (path : String) : table.handleOf? path = other.handleOf? path := by
  rw [handleOf?, same, handleOf?]

theorem classNamed?_eq_bind (table : SymbolTable) (path : String) :
    table.classNamed? path = (table.handleOf? path).bind table.classAt? := by
  rw [classNamed?, List.find?_eq_bind_findIdx?_getElem?, handleOf?, Option.bind_map]
  rfl

theorem classNamed?_of_handleOf? (named : table.handleOf? path = some handle) :
    table.classNamed? path = table.classAt? handle := by
  rw [classNamed?_eq_bind, named, Option.bind_some]

theorem classNamed?_of_handleOf?_eq_none (unnamed : table.handleOf? path = none) :
    table.classNamed? path = none := by
  rw [classNamed?_eq_bind, unnamed, Option.bind_none]

/-! ## One load -/

/-- The handle of a path depends on the paths of the loaded classes alone. -/
theorem handleOf?_eq (table : SymbolTable) (path : String) : table.handleOf? path =
    ((table.classes.map (·.path)).findIdx? (· == path)).map ClassHandle.mk := by
  rw [handleOf?, List.findIdx?_map]
  rfl

/-- Behind the handle of a path stands a class with that path. -/
theorem exists_classAt?_of_handleOf? (named : table.handleOf? path = some handle) :
    Exists fun owner => table.classAt? handle = some owner ∧ owner.path = path := by
  rcases Option.map_eq_some_iff.mp named with ⟨index, found, rfl⟩
  rcases List.findIdx?_eq_some_iff_getElem.mp found with ⟨inside, same, _⟩
  exact ⟨table.classes[index], List.getElem?_eq_getElem inside, eq_of_beq same⟩

/-- The loaded class stands behind the handle that the load returns.  Behind every
other handle stands what stood there before. -/
theorem classAt?_load (table : SymbolTable) (loaded : ForeignClass) (handle : ClassHandle) :
    (table.load loaded).2.classAt? handle =
      if handle = (table.load loaded).1 then some loaded else table.classAt? handle := by
  unfold load
  cases known : table.handleOf? loaded.path with
  | none =>
      change (table.classes ++ [loaded])[handle.index]? = _
      by_cases last : handle = ⟨table.classes.length⟩
      · rw [if_pos last, last, List.getElem?_concat_length]
      · have apart : handle.index ≠ table.classes.length := by
          intro same
          exact last (congrArg ClassHandle.mk same)
        rw [if_neg last, classAt?, List.getElem?_append]
        split
        · rfl
        · next outside =>
            rw [List.getElem?_eq_none (Nat.le_of_not_lt outside), List.getElem?_eq_none]
            rw [List.length_singleton]
            omega
  | some slot =>
      rcases exists_classAt?_of_handleOf? known with ⟨owner, present, _⟩
      change (table.classes.set slot.index loaded)[handle.index]? = _
      by_cases same : handle = slot
      · rw [if_pos same, same]
        exact List.getElem?_set_self (List.getElem?_eq_some_iff.mp present).1
      · have apart : slot.index ≠ handle.index := by
          intro equal
          exact same (congrArg ClassHandle.mk equal.symm)
        rw [if_neg same, List.getElem?_set_ne apart]
        rfl

/-- A path has the handle that a load at it returns, and every other path has what it
had. -/
theorem handleOf?_load_eq (table : SymbolTable) (loaded : ForeignClass) (path : String) :
    (table.load loaded).2.handleOf? path =
      if loaded.path = path then some (table.load loaded).1 else table.handleOf? path := by
  unfold load
  cases known : table.handleOf? loaded.path with
  | none =>
      change SymbolTable.handleOf? { table with classes := table.classes ++ [loaded] } path = _
      rw [handleOf?, List.findIdx?_append, List.findIdx?_singleton]
      by_cases same : loaded.path = path
      · rw [handleOf?, Option.map_eq_none_iff, same] at known
        rw [known, Option.none_or, if_pos (beq_iff_eq.mpr same), if_pos same, Option.map_some,
          Option.map_some, Nat.zero_add]
      · rw [if_neg (fun equal => same (eq_of_beq equal)), if_neg same, Option.map_none,
          Option.or_none]
        rfl
  | some slot =>
      rcases exists_classAt?_of_handleOf? known with ⟨owner, present, samePath⟩
      rcases List.getElem?_eq_some_iff.mp present with ⟨inside, rfl⟩
      -- The class that is replaced has the path of its replacement.
      have paths : (table.classes.set slot.index loaded).map (·.path) =
          table.classes.map (·.path) := by
        rw [List.map_set, ← samePath]
        have listed : slot.index < (table.classes.map (·.path)).length := by
          rw [List.length_map]
          exact inside
        have own := List.set_getElem_self listed
        rw [List.getElem_map] at own
        exact own
      have kept : SymbolTable.handleOf? { table with classes := table.classes.set slot.index loaded }
          path = table.handleOf? path := by
        rw [handleOf?_eq, handleOf?_eq]
        exact congrArg (fun paths => (paths.findIdx? (· == path)).map ClassHandle.mk) paths
      dsimp only
      rw [kept]
      split
      · next same => rw [← same, known]
      · rfl

/-- A path that is known keeps its handle, whatever is loaded. -/
theorem handleOf?_load (named : table.handleOf? path = some handle) (loaded : ForeignClass) :
    (table.load loaded).2.handleOf? path = some handle := by
  rw [handleOf?_load_eq]
  split
  · next same => rw [load, same, named]
  · exact named

/-- Loads return the handle of a path exactly when they are loads at that path. -/
theorem handle_load_eq_iff (named : table.handleOf? path = some handle) (loaded : ForeignClass) :
    handle = (table.load loaded).1 ↔ loaded.path = path := by
  rcases exists_classAt?_of_handleOf? named with ⟨owner, present, samePath⟩
  unfold load
  constructor
  · cases known : table.handleOf? loaded.path with
    | none =>
        rintro rfl
        have inside := (List.getElem?_eq_some_iff.mp present).1
        exact absurd inside (Nat.lt_irrefl _)
    | some slot =>
        rintro rfl
        rcases exists_classAt?_of_handleOf? known with ⟨other, otherPresent, otherPath⟩
        rw [present] at otherPresent
        cases otherPresent
        exact otherPath.symm.trans samePath
  · rintro rfl
    rw [named]

/-- Under the path of a load stands the loaded class, and under every other path what
stood there before. -/
theorem classNamed?_load (table : SymbolTable) (loaded : ForeignClass) (path : String) :
    (table.load loaded).2.classNamed? path =
      if loaded.path = path then some loaded else table.classNamed? path := by
  rw [classNamed?_eq_bind, handleOf?_load_eq]
  split
  · rw [Option.bind_some, classAt?_load, if_pos rfl]
  · next elsewhere =>
      rw [classNamed?_eq_bind]
      cases named : table.handleOf? path with
      | none => rfl
      | some handle =>
          rw [Option.bind_some, Option.bind_some, classAt?_load,
            if_neg fun same => elsewhere ((handle_load_eq_iff named loaded).mp same)]

/-- Behind a path a load at another path leaves the class that was there. -/
theorem classNamed?_load_of_ne {loaded : ForeignClass} (elsewhere : loaded.path ≠ path) :
    (table.load loaded).2.classNamed? path = table.classNamed? path := by
  rw [classNamed?_load, if_neg elsewhere]

/-! ## Several loads -/

/-- The table after several loads. -/
def loadAll (table : SymbolTable) (loads : List ForeignClass) : SymbolTable :=
  loads.foldl (fun table loaded => (table.load loaded).2) table

end SymbolTable

/-- The class that several loads leave in the place of a class: the last one that
was loaded at its path, if there is one. -/
def ForeignClass.replacedBy (owner : ForeignClass) (loads : List ForeignClass) : ForeignClass :=
  (loads.reverse.find? (·.path == owner.path)).getD owner

theorem ForeignClass.replacedBy_cons (owner loaded : ForeignClass) (loads : List ForeignClass) :
    owner.replacedBy (loaded :: loads) =
      (if loaded.path = owner.path then loaded else owner).replacedBy loads := by
  unfold replacedBy
  rw [List.reverse_cons, List.find?_append, List.find?_singleton]
  by_cases same : loaded.path = owner.path
  · rw [if_pos (beq_iff_eq.mpr same), if_pos same, same]
    cases loads.reverse.find? (·.path == owner.path) <;> rfl
  · have differ : ¬ (loaded.path == owner.path) = true := fun equal => same (eq_of_beq equal)
    rw [if_neg differ, if_neg same, Option.or_none]

theorem ForeignClass.replacedBy_of_forall_ne {owner : ForeignClass} {loads : List ForeignClass}
    (elsewhere : forall loaded, loaded ∈ loads -> loaded.path ≠ owner.path) :
    owner.replacedBy loads = owner := by
  have absent : loads.reverse.find? (·.path == owner.path) = none := by
    rw [List.find?_eq_none]
    intro loaded member same
    exact elsewhere loaded (List.mem_reverse.mp member) (eq_of_beq same)
  rw [replacedBy, absent, Option.getD_none]

/-- After any loads a known path has the handle that it had, and behind it stands
the class that was loaded last at the path. -/
theorem SymbolTable.classAt?_loadAll {table : SymbolTable} {path : String} {handle : ClassHandle}
    {owner : ForeignClass} (named : table.handleOf? path = some handle)
    (present : table.classAt? handle = some owner) (loads : List ForeignClass) :
    (table.loadAll loads).handleOf? path = some handle ∧
      (table.loadAll loads).classAt? handle = some (owner.replacedBy loads) := by
  induction loads generalizing table owner with
  | nil => exact ⟨named, present⟩
  | cons loaded rest inductionHypothesis =>
      have samePath : owner.path = path := by
        rcases exists_classAt?_of_handleOf? named with ⟨other, otherPresent, otherPath⟩
        rw [present] at otherPresent
        cases otherPresent
        exact otherPath
      rw [ForeignClass.replacedBy_cons, samePath]
      apply inductionHypothesis (handleOf?_load named loaded)
      rw [classAt?_load, present]
      simp only [handle_load_eq_iff named]
      split <;> rfl

namespace Host

/-- The host after several loads. -/
def loadAll (host : Host) (loads : List ForeignClass) : Host :=
  loads.foldl (fun host loaded => (host.load loaded).2) host

theorem symbols_loadAll (host : Host) (loads : List ForeignClass) :
    (host.loadAll loads).symbols = host.symbols.loadAll loads := by
  induction loads generalizing host with
  | nil => rfl
  | cons loaded rest inductionHypothesis => exact inductionHypothesis (host.load loaded).2

theorem session_loadAll (host : Host) (loads : List ForeignClass) :
    (host.loadAll loads).session = host.session := by
  induction loads generalizing host with
  | nil => rfl
  | cons loaded rest inductionHypothesis => exact inductionHypothesis (host.load loaded).2

theorem interner_loadAll (host : Host) (loads : List ForeignClass) :
    (host.loadAll loads).interner = host.interner := by
  induction loads generalizing host with
  | nil => rfl
  | cons loaded rest inductionHypothesis => exact inductionHypothesis (host.load loaded).2

end Host
end StructuralProducts
