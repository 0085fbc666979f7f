import Mathlib.Data.List.Nodup
import StructuralProducts.Proofs.StableNames
import StructuralProducts.TypeDecl

namespace StructuralProducts

/-!
# Issued names keep their strings

An interner starts with the empty string and only ever adds strings.  Whatever
was added, a name that was issued leads to the string it was issued for, and the
string to the name.  So it makes no difference when a path, a label or a type is
rendered for a message, as long as its names were issued before.
-/

namespace Interner

/-- The interners that interning strings leads to. -/
inductive Grows (earlier : Interner) : Interner -> Prop where
  | refl : Grows earlier earlier
  | intern {later : Interner} (grows : Grows earlier later) (text : String) :
      Grows earlier (later.intern text).2

/-- The name was issued for some string. -/
def Issued (interner : Interner) (name : Name) : Prop :=
  Exists fun text => interner.get? text = some name

theorem Grows.internAll {earlier later : Interner} (grows : earlier.Grows later)
    (texts : List String) : earlier.Grows (later.internAll texts).2 := by
  induction texts generalizing later with
  | nil => exact grows
  | cons text rest inductionHypothesis => exact inductionHypothesis (grows.intern text)

theorem Grows.trans {first second third : Interner} (earlier : first.Grows second)
    (later : second.Grows third) : first.Grows third := by
  induction later with
  | refl => exact earlier
  | intern _ text inductionHypothesis => exact inductionHypothesis.intern text

theorem Grows.get?_eq_some {earlier later : Interner} (grows : earlier.Grows later)
    {text : String} {name : Name} (found : earlier.get? text = some name) :
    later.get? text = some name := by
  induction grows with
  | refl => exact found
  | intern _ other inductionHypothesis => exact get?_intern_of_some inductionHypothesis other

/-- The slots of a name can tell all strings of a shard apart. -/
theorem size_le_slotCount {interner : Interner} (started : empty.Grows interner)
    (shard : Fin 16) : interner.shards[shard].size ≤ Name.slotCount := by
  induction started with
  | refl => revert shard; decide
  | @intern later _ text inductionHypothesis =>
      rcases later.intern_cases text with ⟨_, _, equal⟩ | ⟨_, free, equal⟩ | ⟨_, _, equal⟩
      · rw [equal]
        exact inductionHypothesis
      · rw [equal]
        by_cases same : shardOf text = shard
        · subst same
          simp only [Fin.getElem_fin, Vector.getElem_set_self, Array.size_push] at free ⊢
          exact Nat.succ_le_of_lt (Nat.lt_of_le_of_lt free (by decide))
        · have apart : (shardOf text).val ≠ shard.val := fun equal => same (Fin.ext equal)
          simp only [Fin.getElem_fin, Vector.getElem_set_ne _ _ apart]
          exact inductionHypothesis
      · rw [equal]
        exact inductionHypothesis

/-- A name leads back to the string it was issued for. -/
theorem lookup_of_get? {interner : Interner} (started : empty.Grows interner) {text : String}
    {name : Name} (found : interner.get? text = some name) : interner.lookup name = text := by
  rcases Option.map_eq_some_iff.mp found with ⟨slot, located, rfl⟩
  rcases Option.map_eq_some_iff.mp located with ⟨position, first, rfl⟩
  have stored := (Array.finIdxOf?_eq_some_iff.mp first).1
  have bound : position.val < Name.slotCount :=
    Nat.lt_of_lt_of_le position.isLt (size_le_slotCount started (shardOf text))
  have present : interner.shards[shardOf text][position.val]? = some text :=
    Array.getElem?_eq_some_iff.mpr ⟨position.isLt, stored⟩
  simp only [lookup, Name.shard_ofParts _ bound, Name.slot_ofParts _ bound, present,
    Option.getD_some]

variable {known later : Interner} {name : Name}

/-- In every later interner, an issued name and its string lead to each other. -/
theorem Issued.get?_lookup (issued : known.Issued name) (started : empty.Grows known)
    (grows : known.Grows later) : later.get? (known.lookup name) = some name := by
  rcases issued with ⟨text, found⟩
  rw [lookup_of_get? started found]
  exact grows.get?_eq_some found

theorem Issued.lookup_eq (issued : known.Issued name) (started : empty.Grows known)
    (grows : known.Grows later) : later.lookup name = known.lookup name :=
  lookup_of_get? (started.trans grows) (issued.get?_lookup started grows)

/-- Interning the strings of issued names gives the names and changes nothing. -/
theorem internAll_of_issued (started : empty.Grows known) (grows : known.Grows later)
    {names : List Name} (issued : forall name, name ∈ names -> known.Issued name) :
    later.internAll (names.map known.lookup) = (names, later) := by
  induction names with
  | nil => rfl
  | cons name rest inductionHypothesis =>
      have present := (issued name List.mem_cons_self).get?_lookup started grows
      have others := inductionHypothesis fun other member =>
        issued other (List.mem_cons_of_mem _ member)
      simp only [List.map_cons, internAll, intern_of_get? present, others]

/-- Different issued names stand for different strings. -/
theorem nodup_map_lookup (started : empty.Grows known) {names : List Name}
    (issued : forall name, name ∈ names -> known.Issued name) (distinct : names.Nodup) :
    (names.map known.lookup).Nodup := by
  refine distinct.map_on ?_
  intro first firstMember second secondMember same
  have firstFound := (issued first firstMember).get?_lookup started .refl
  have secondFound := (issued second secondMember).get?_lookup started .refl
  rw [same, secondFound] at firstFound
  exact (Option.some.inj firstFound).symm

end Interner

/-! ## Names in types and declarations -/

namespace Ty

mutual

/-- The names of the nominal types that a type mentions. -/
def names : Ty -> List Name
  | .unit | .int | .float | .bool | .str | .char => []
  | .list element => element.names
  | .option content => content.names
  | .tuple elements => allNames elements
  | .named ident => [ident.name]

def allNames : List Ty -> List Name
  | [] => []
  | ty :: rest => ty.names ++ allNames rest

end

mutual

/-- A type is shown alike wherever its names have the same strings. -/
theorem display_congr {first second : Interner} : (ty : Ty) ->
    (forall name, name ∈ ty.names -> first.lookup name = second.lookup name) ->
      ty.display first = ty.display second
  | .unit, _ | .int, _ | .float, _ | .bool, _ | .str, _ | .char, _ => rfl
  | .list element, same => by rw [display, display, display_congr element same]
  | .option content, same => by rw [display, display, display_congr content same]
  | .tuple elements, same => by rw [display, display, displayAll_congr elements same]
  | .named ident, same => same ident.name List.mem_cons_self

theorem displayAll_congr {first second : Interner} : (types : List Ty) ->
    (forall name, name ∈ allNames types -> first.lookup name = second.lookup name) ->
      displayAll first types = displayAll second types
  | [], _ => rfl
  | ty :: rest, same => by
      rw [displayAll, displayAll,
        display_congr ty fun name member => same name (List.mem_append_left _ member),
        displayAll_congr rest fun name member => same name (List.mem_append_right _ member)]

end

end Ty

namespace TypeDecl

/-- The names of a declaration that its descriptor shows: the path, the labels,
and the paths of the types of the components. -/
def names (decl : TypeDecl) : List Name :=
  decl.ident.name :: decl.components.flatMap fun component => component.label :: component.ty.names

/-- The names of a declaration were issued by the interner of a session. -/
structure NamedIn (decl : TypeDecl) (known : Interner) : Prop where
  started : Interner.empty.Grows known
  issued : forall name, name ∈ decl.names -> known.Issued name

namespace NamedIn

variable {decl : TypeDecl} {known later : Interner}

theorem issued_label (named : decl.NamedIn known) :
    forall label, label ∈ decl.labels -> known.Issued label := by
  intro label member
  rcases List.mem_map.mp member with ⟨component, present, rfl⟩
  exact named.issued _ (List.mem_cons_of_mem _
    (List.mem_flatMap.mpr ⟨component, present, List.mem_cons_self⟩))

theorem path_eq (named : decl.NamedIn known) (grows : known.Grows later) :
    decl.ident.path later = decl.ident.path known :=
  (named.issued _ List.mem_cons_self).lookup_eq named.started grows

theorem label_eq (named : decl.NamedIn known) (grows : known.Grows later)
    {component : ComponentDecl} (present : component ∈ decl.components) :
    later.lookup component.label = known.lookup component.label :=
  (named.issued_label _ (List.mem_map_of_mem present)).lookup_eq named.started grows

theorem display_eq (named : decl.NamedIn known) (grows : known.Grows later)
    {component : ComponentDecl} (present : component ∈ decl.components) :
    component.ty.display later = component.ty.display known := by
  apply Ty.display_congr
  intro name member
  have issued := named.issued name (List.mem_cons_of_mem _
    (List.mem_flatMap.mpr ⟨component, present, List.mem_cons_of_mem _ member⟩))
  exact issued.lookup_eq named.started grows

end NamedIn
end TypeDecl
end StructuralProducts
