import Mathlib.Data.List.TakeWhile
import StructuralProducts.Proofs.InterningRuns
import StructuralProducts.Proofs.RegisteredContracts

namespace StructuralProducts

/-!
# What names resolve to

A registry keeps an index from last segments to identities beside its
declarations and registered contracts.  The index is a cache: after any history of
registrations, with repetitions and replacements, it says no more than the history
does.  So resolution has a specification that mentions no index.  A name that was
registered as a path is that path; any other name stands for the registered
identities whose paths end in it.

An identity is an interned path, so its name was issued before it is registered.
Registering interns the last segment, which needs a slot.
-/

/-! ## The last segment of a path -/

namespace TypeId

/-- The segment is what follows the last dot of a path, or all of it if it has no
dot. -/
def EndsIn (path segment : String) : Prop :=
  '.' ∉ segment.toList ∧
    (path = segment ∨ Exists fun qualifier : String => path = qualifier ++ "." ++ segment)

private theorem takeWhile_append_dot {segment qualifier : List Char} (plain : '.' ∉ segment) :
    (segment ++ '.' :: qualifier).takeWhile (· != '.') = segment := by
  rw [List.takeWhile_append_of_pos, List.takeWhile_cons_of_neg, List.append_nil]
  · simp
  · intro character member
    rw [bne_iff_ne]
    rintro rfl
    exact plain member

theorem toList_lastSegment (path : String) :
    (lastSegment path).toList = (path.toList.reverse.takeWhile (· != '.')).reverse :=
  String.toList_ofList

theorem lastSegment_eq_iff (path segment : String) :
    lastSegment path = segment ↔ EndsIn path segment := by
  constructor
  · rintro rfl
    refine ⟨?_, ?_⟩
    · rw [toList_lastSegment, List.mem_reverse]
      intro member
      simpa using List.mem_takeWhile_imp member
    · have split := congrArg List.reverse
        (List.takeWhile_append_dropWhile (p := (· != '.')) (l := path.toList.reverse))
      rw [List.reverse_append, List.reverse_reverse, ← toList_lastSegment] at split
      cases rest : path.toList.reverse.dropWhile (· != '.') with
      | nil =>
          rw [rest, List.reverse_nil, List.nil_append] at split
          exact .inl (String.toList_inj.mp split.symm)
      | cons dot qualifier =>
          -- What stops the search is a dot.
          have stopped := List.head?_dropWhile_not (· != '.') path.toList.reverse
          rw [rest] at stopped split
          have same : dot = '.' := by simpa using stopped
          subst same
          refine .inr ⟨String.ofList qualifier.reverse, ?_⟩
          rw [← String.toList_inj, ← split]
          simp
  · rintro ⟨plain, rfl | ⟨qualifier, rfl⟩⟩
    · rw [← String.toList_inj, toList_lastSegment, List.takeWhile_eq_self_iff.mpr,
        List.reverse_reverse]
      intro character member
      rw [bne_iff_ne]
      rintro rfl
      exact plain (List.mem_reverse.mp member)
    · have apart : '.' ∉ segment.toList.reverse := fun member => plain (List.mem_reverse.mp member)
      have characters : (qualifier ++ "." ++ segment).toList.reverse =
          segment.toList.reverse ++ '.' :: qualifier.toList.reverse := by
        simp
      rw [← String.toList_inj, toList_lastSegment, characters, takeWhile_append_dot apart,
        List.reverse_reverse]

end TypeId

/-! ## Histories of registrations -/

/-- A declaration or a contract that is registered. -/
inductive Registration where
  | declaration (decl : TypeDecl)
  | contract (offered : Contract)

namespace Registration

def ident : Registration -> TypeId
  | .declaration decl => decl.ident
  | .contract offered => offered.ident

/-- The declaration of an identity, if it is one. -/
def declOf? (ident : TypeId) : Registration -> Option TypeDecl
  | .declaration decl => if decl.ident = ident then some decl else none
  | .contract _ => none

/-- The registered contract of an identity, if it is one. -/
def contractOf? (ident : TypeId) : Registration -> Option Contract
  | .declaration _ => none
  | .contract offered => if offered.ident = ident then some offered else none

/-- The identities of a history. -/
def idents (history : List Registration) : List TypeId :=
  history.map ident

/-- The latest declaration of an identity in a history. -/
def latestDecl? (history : List Registration) (ident : TypeId) : Option TypeDecl :=
  history.reverse.findSome? (declOf? ident)

/-- The latest contract of an identity that was registered in a history. -/
def latestContract? (history : List Registration) (ident : TypeId) : Option Contract :=
  history.reverse.findSome? (contractOf? ident)

theorem latestDecl?_concat (history : List Registration) (last : Registration) (ident : TypeId) :
    latestDecl? (history ++ [last]) ident = (last.declOf? ident).or (latestDecl? history ident) := by
  rw [latestDecl?, List.reverse_append, List.findSome?_append]
  simp only [List.reverse_singleton, List.findSome?_singleton]
  rfl

theorem latestContract?_concat (history : List Registration) (last : Registration)
    (ident : TypeId) : latestContract? (history ++ [last]) ident =
      (last.contractOf? ident).or (latestContract? history ident) := by
  rw [latestContract?, List.reverse_append, List.findSome?_append]
  simp only [List.reverse_singleton, List.findSome?_singleton]
  rfl

/-- Every identity of a history has a declaration or a registered contract there. -/
theorem mem_idents_iff (history : List Registration) (ident : TypeId) : ident ∈ idents history ↔
    (latestDecl? history ident).isSome = true ∨ (latestContract? history ident).isSome = true := by
  rw [idents, latestDecl?, latestContract?, List.findSome?_isSome_iff, List.findSome?_isSome_iff]
  simp only [List.mem_map, List.mem_reverse]
  constructor
  · rintro ⟨registration, member, rfl⟩
    cases registration with
    | declaration decl => exact .inl ⟨_, member, by simp [declOf?, Registration.ident]⟩
    | contract offered => exact .inr ⟨_, member, by simp [contractOf?, Registration.ident]⟩
  · rintro (⟨registration, member, found⟩ | ⟨registration, member, found⟩)
    · cases registration with
      | declaration decl =>
          by_cases same : decl.ident = ident
          · exact ⟨_, member, same⟩
          · simp [declOf?, same] at found
      | contract offered => cases found
    · cases registration with
      | declaration decl => cases found
      | contract offered =>
          by_cases same : offered.ident = ident
          · exact ⟨_, member, same⟩
          · simp [contractOf?, same] at found

end Registration

namespace Registry

variable {registry : Registry} {history : List Registration}

/-- An identity can be registered: its path was interned, and there is a slot for
the last segment of it. -/
structure Accepts (registry : Registry) (ident : TypeId) : Prop where
  issued : registry.interner.Issued ident.name
  segment : registry.interner.Admits (ident.simpleName registry.interner)

/-- The registry after a history of registrations, on an interner that is shared,
so that others may intern strings in between. -/
inductive Recorded : List Registration -> Registry -> Prop
  | fresh {interner : Interner} (started : Interner.empty.Grows interner) :
      Recorded [] (.empty interner)
  | declare {history : List Registration} {registry : Registry}
      (recorded : Recorded history registry) (decl : TypeDecl)
      (accepts : registry.Accepts decl.ident) :
      Recorded (history ++ [.declaration decl]) (registry.declare decl).2
  | register {history : List Registration} {registry : Registry}
      (recorded : Recorded history registry) (contract : Contract)
      (accepts : registry.Accepts contract.ident) :
      Recorded (history ++ [.contract contract]) (registry.register contract)
  | intern {history : List Registration} {registry : Registry}
      (recorded : Recorded history registry) (text : String) :
      Recorded history { registry with interner := (registry.interner.intern text).2 }

/-! ## The index -/

end Registry

/-- Inserting keeps a list of identities increasing. -/
theorem TypeId.increasing_insertSorted {ident : TypeId} {present : List TypeId}
    (increasing : present.Pairwise fun first second => first.name.raw < second.name.raw)
    (fresh : ident ∉ present) :
    (ident.insertSorted present).Pairwise fun first second => first.name.raw < second.name.raw := by
  induction present with
  | nil => exact List.pairwise_singleton _ _
  | cons first rest inductionHypothesis =>
      rw [List.pairwise_cons] at increasing
      rw [List.mem_cons, not_or] at fresh
      unfold insertSorted
      split
      · next before =>
          have less : ident.name.raw < first.name.raw := of_decide_eq_true before
          apply List.pairwise_cons.mpr
          refine ⟨?_, List.pairwise_cons.mpr increasing⟩
          intro other member
          rcases List.mem_cons.mp member with rfl | later
          · exact less
          · exact UInt32.lt_trans less (increasing.1 other later)
      · next notBefore =>
          have least : ¬ ident.name.raw < first.name.raw := fun less =>
            notBefore (decide_eq_true less)
          have apart : first.name.raw ≠ ident.name.raw := by
            intro same
            apply fresh.1
            cases ident with
            | mk name => cases name; cases first with
              | mk other => cases other; cases same; rfl
          apply List.pairwise_cons.mpr
          refine ⟨?_, inductionHypothesis increasing.2 fresh.2⟩
          intro other member
          rcases (mem_insertSorted_iff ident other rest).mp member with rfl | later
          · exact UInt32.lt_of_le_of_ne (UInt32.not_lt.mp least) apart
          · exact increasing.1 other later

namespace Registry

variable {registry : Registry} {history : List Registration}

/-- The index of a registry has each identity once, under the name of its last
segment, and no other. -/
structure Indexes (registry : Registry) (idents : List TypeId) : Prop where
  started : Interner.empty.Grows registry.interner
  issued : forall ident, ident ∈ idents -> registry.interner.Issued ident.name
  segment : forall ident, ident ∈ idents -> Exists fun name =>
    registry.interner.get? (ident.simpleName registry.interner) = some name
  mem_candidates_iff : forall name ident, ident ∈ registry.candidates name ↔
    ident ∈ idents ∧ registry.interner.get? (ident.simpleName registry.interner) = some name
  increasing : forall name,
    (registry.candidates name).Pairwise fun first second => first.name.raw < second.name.raw

theorem indexes_empty {interner : Interner} (started : Interner.empty.Grows interner) :
    (empty interner).Indexes [] where
  started := started
  issued := fun _ member => absurd member List.not_mem_nil
  segment := fun _ member => absurd member List.not_mem_nil
  mem_candidates_iff _ _ := iff_of_false List.not_mem_nil fun both => List.not_mem_nil both.1
  increasing := fun _ => .nil

/-- A larger interner shows the identities as before. -/
theorem Indexes.grow {idents : List TypeId} (indexes : registry.Indexes idents)
    {later : Interner} (grows : registry.interner.Grows later) :
    { registry with interner := later }.Indexes idents := by
  have same : forall ident, ident ∈ idents ->
      ident.simpleName later = ident.simpleName registry.interner := by
    intro ident member
    have path := (indexes.issued ident member).lookup_eq indexes.started grows
    simp only [TypeId.simpleName, TypeId.path, path]
  refine ⟨indexes.started.trans grows, ?_, ?_, ?_, indexes.increasing⟩
  · intro ident member
    rcases indexes.issued ident member with ⟨text, found⟩
    exact ⟨text, grows.get?_eq_some found⟩
  · intro ident member
    rcases indexes.segment ident member with ⟨name, found⟩
    refine ⟨name, ?_⟩
    rw [same ident member]
    exact grows.get?_eq_some found
  · intro name ident
    refine (indexes.mem_candidates_iff name ident).trans ?_
    apply and_congr_right
    intro member
    dsimp only
    rw [same ident member]
    constructor
    · exact grows.get?_eq_some
    · intro found
      rcases indexes.segment ident member with ⟨earlier, known⟩
      rw [grows.get?_eq_some known] at found
      cases found
      exact known

theorem candidates_index (registry : Registry) (ident : TypeId) (name : Name) :
    (registry.index ident).candidates name =
      if name = (registry.interner.intern (ident.simpleName registry.interner)).1 then
        if ident ∈ registry.candidates name then registry.candidates name
        else ident.insertSorted (registry.candidates name)
      else registry.candidates name := by
  by_cases same : name = (registry.interner.intern (ident.simpleName registry.interner)).1
  · subst same
    rw [if_pos rfl]
    simp only [index, candidates, KeyedList.get?_insert_self, Option.getD_some]
  · rw [if_neg same]
    simp only [index, candidates, KeyedList.get?_insert_of_ne _ _ same]

private theorem mem_added_iff (ident other : TypeId) (present : List TypeId) :
    (other ∈ if ident ∈ present then present else ident.insertSorted present) ↔
      other = ident ∨ other ∈ present := by
  split
  · next known =>
      rw [iff_or_self]
      rintro rfl
      exact known
  · exact TypeId.mem_insertSorted_iff ident other present

/-- Indexing an identity lists nothing else in addition. -/
theorem mem_candidates_of_index {ident other : TypeId} {name : Name}
    (member : other ∈ (registry.index ident).candidates name) :
    other = ident ∨ other ∈ registry.candidates name := by
  rw [candidates_index] at member
  split at member
  · exact (mem_added_iff ident other _).mp member
  · exact .inr member

/-- Registering an identity puts it into the index. -/
theorem Indexes.index {idents : List TypeId} (indexes : registry.Indexes idents) {ident : TypeId}
    (accepts : registry.Accepts ident) : (registry.index ident).Indexes (idents ++ [ident]) := by
  have grows : registry.interner.Grows
      (registry.interner.intern (ident.simpleName registry.interner)).2 := .intern .refl _
  have grown := indexes.grow grows
  have path := accepts.issued.lookup_eq indexes.started grows
  have segment : (registry.index ident).interner.get?
      (ident.simpleName (registry.index ident).interner) =
        some (registry.interner.intern (ident.simpleName registry.interner)).1 := by
    have same : ident.simpleName (registry.index ident).interner =
        ident.simpleName registry.interner := congrArg TypeId.lastSegment path
    rw [same]
    exact accepts.segment.get?_intern
  refine ⟨grown.started, ?_, ?_, ?_, ?_⟩
  · intro other member
    rcases List.mem_append.mp member with earlier | last
    · exact grown.issued other earlier
    · rw [List.mem_singleton.mp last]
      rcases accepts.issued with ⟨text, found⟩
      exact ⟨text, grows.get?_eq_some found⟩
  · intro other member
    rcases List.mem_append.mp member with earlier | last
    · exact grown.segment other earlier
    · rw [List.mem_singleton.mp last]
      exact ⟨_, segment⟩
  · intro name other
    have before : other ∈ registry.candidates name ↔ other ∈ idents ∧
        (registry.index ident).interner.get?
          (other.simpleName (registry.index ident).interner) = some name :=
      grown.mem_candidates_iff name other
    rw [candidates_index, List.mem_append, List.mem_singleton, or_and_right, ← before]
    by_cases same : name = (registry.interner.intern (ident.simpleName registry.interner)).1
    · rw [if_pos same, mem_added_iff, or_comm]
      apply or_congr_right
      rw [same, iff_self_and]
      rintro rfl
      exact segment
    · rw [if_neg same, iff_self_or]
      rintro ⟨rfl, found⟩
      rw [segment] at found
      exact absurd (Option.some.inj found).symm same
  · intro name
    rw [candidates_index]
    split
    · split
      · exact indexes.increasing name
      · next fresh => exact TypeId.increasing_insertSorted (indexes.increasing name) fresh
    · exact indexes.increasing name

theorem Recorded.indexes (recorded : Recorded history registry) :
    registry.Indexes (Registration.idents history) := by
  induction recorded with
  | fresh started => exact indexes_empty started
  | declare _ decl accepts inductionHypothesis =>
      have indexes := inductionHypothesis.index accepts
      rw [Registration.idents, List.map_append]
      exact ⟨indexes.started, indexes.issued, indexes.segment, indexes.mem_candidates_iff,
        indexes.increasing⟩
  | register _ contract accepts inductionHypothesis =>
      have indexes := inductionHypothesis.index accepts
      rw [Registration.idents, List.map_append]
      exact ⟨indexes.started, indexes.issued, indexes.segment, indexes.mem_candidates_iff,
        indexes.increasing⟩
  | intern _ text inductionHypothesis => exact inductionHypothesis.grow (.intern .refl text)

/-! ## The latest registrations -/

theorem decl?_declare (registry : Registry) (decl : TypeDecl) (ident : TypeId) :
    (registry.declare decl).2.decl? ident =
      if decl.ident = ident then some decl else registry.decl? ident := by
  change (registry.decls.insert decl.ident decl).get? ident = _
  by_cases same : decl.ident = ident
  · rw [if_pos same, ← same, KeyedList.get?_insert_self]
  · rw [if_neg same, KeyedList.get?_insert_of_ne _ _ (Ne.symm same)]
    rfl

theorem registered?_register (registry : Registry) (contract : Contract) (ident : TypeId) :
    (registry.register contract).registered? ident =
      if contract.ident = ident then some contract else registry.registered? ident := by
  change (registry.userContracts.insert contract.ident contract).get? ident = _
  by_cases same : contract.ident = ident
  · rw [if_pos same, ← same, KeyedList.get?_insert_self]
  · rw [if_neg same, KeyedList.get?_insert_of_ne _ _ (Ne.symm same)]
    rfl

theorem Recorded.decl?_eq (recorded : Recorded history registry) (ident : TypeId) :
    registry.decl? ident = Registration.latestDecl? history ident := by
  induction recorded with
  | fresh _ => rfl
  | declare _ decl _ inductionHypothesis =>
      rw [decl?_declare, inductionHypothesis, Registration.latestDecl?_concat,
        Registration.declOf?]
      split <;> rfl
  | register _ contract _ inductionHypothesis =>
      rw [Registration.latestDecl?_concat]
      exact inductionHypothesis
  | intern _ _ inductionHypothesis => exact inductionHypothesis

theorem Recorded.registered?_eq (recorded : Recorded history registry) (ident : TypeId) :
    registry.registered? ident = Registration.latestContract? history ident := by
  induction recorded with
  | fresh _ => rfl
  | declare _ decl _ inductionHypothesis =>
      rw [Registration.latestContract?_concat]
      exact inductionHypothesis
  | register _ contract _ inductionHypothesis =>
      rw [registered?_register, inductionHypothesis,
        Registration.latestContract?_concat, Registration.contractOf?]
      split <;> rfl
  | intern _ _ inductionHypothesis => exact inductionHypothesis

theorem knows_iff (registry : Registry) (ident : TypeId) : registry.knows ident = true ↔
    (registry.decl? ident).isSome = true ∨ (registry.registered? ident).isSome = true := by
  rw [knows, Bool.or_eq_true]
  rfl

theorem Recorded.knows_iff (recorded : Recorded history registry) (ident : TypeId) :
    registry.knows ident = true ↔ ident ∈ Registration.idents history := by
  rw [Registration.mem_idents_iff, ← recorded.decl?_eq, ← recorded.registered?_eq,
    Registry.knows_iff]

end Registry

/-- What a name resolves to that is no path itself, given the identities whose paths
end in it. -/
def Resolution.ofCandidates : List TypeId -> Resolution
  | [] => .unknown
  | [only] => .unique only
  | several => .ambiguous several

namespace Registry

variable {registry : Registry} {history : List Registration}

theorem resolve_of_not_knows {name : Name} (unknown : registry.knows ⟨name⟩ = false) :
    registry.resolve name = .ofCandidates (registry.candidates name) := by
  rw [resolve, if_neg (Bool.eq_false_iff.mp unknown)]
  rcases registry.candidates name with _ | ⟨only, _ | _⟩ <;> rfl

/-- Whatever a registry is built by, its index lists registered identities only. -/
theorem Built.knows_of_mem_candidates (built : registry.Built) {name : Name} {ident : TypeId}
    (member : ident ∈ registry.candidates name) : registry.knows ident = true := by
  induction built generalizing ident with
  | empty interner => exact absurd member List.not_mem_nil
  | @declare registry decl _ inductionHypothesis =>
      have known : (registry.declare decl).2.knows ident = true ↔
          decl.ident = ident ∨ registry.knows ident = true := by
        rw [knows_iff, knows_iff, decl?_declare, ← or_assoc]
        apply or_congr_left
        by_cases same : decl.ident = ident
        · simp [same]
        · simp [same]
      rw [known]
      exact (mem_candidates_of_index member).imp Eq.symm inductionHypothesis
  | @register registry contract _ inductionHypothesis =>
      have known : (registry.register contract).knows ident = true ↔
          contract.ident = ident ∨ registry.knows ident = true := by
        rw [knows_iff, knows_iff, registered?_register, or_left_comm]
        apply or_congr_right
        by_cases same : contract.ident = ident
        · simp [same]
        · simp [same]
      rw [known]
      exact (mem_candidates_of_index member).imp Eq.symm inductionHypothesis
  | intern text _ inductionHypothesis => exact inductionHypothesis member

/-- A name that resolves to one identity resolves to a registered one. -/
theorem Built.knows_of_resolve (built : registry.Built) {name : Name} {ident : TypeId}
    (resolved : registry.resolve name = .unique ident) : registry.knows ident = true := by
  cases known : registry.knows ⟨name⟩ with
  | true =>
      rw [resolve_of_knows known] at resolved
      cases resolved
      exact known
  | false =>
      rw [resolve_of_not_knows known] at resolved
      cases candidates : registry.candidates name with
      | nil =>
          rw [candidates] at resolved
          cases resolved
      | cons only others =>
          cases others with
          | nil =>
              rw [candidates] at resolved
              cases resolved
              have member : ident ∈ registry.candidates name := candidates ▸ List.mem_cons_self
              exact built.knows_of_mem_candidates member
          | cons second rest =>
              rw [candidates] at resolved
              cases resolved

/-- The answers of a registry are determined by the history of registrations. -/
structure Follows (registry : Registry) (history : List Registration) : Prop where
  /-- A registered path resolves to itself, whatever else ends in it. -/
  resolve_path : forall name, ⟨name⟩ ∈ Registration.idents history ->
    registry.resolve name = .unique ⟨name⟩
  /-- Any other name stands for the registered identities whose paths end in it, each
  listed once and in increasing order. -/
  resolve_segment : forall name, registry.interner.Issued name ->
    ⟨name⟩ ∉ Registration.idents history -> Exists fun candidates =>
      candidates.Pairwise (fun first second => first.name.raw < second.name.raw) ∧
      (forall ident, ident ∈ candidates ↔ ident ∈ Registration.idents history ∧
        TypeId.EndsIn (ident.path registry.interner) (registry.interner.lookup name)) ∧
      registry.resolve name = .ofCandidates candidates
  /-- Declaring gives back the declaration that is replaced. -/
  declare : forall decl : TypeDecl,
    (registry.declare decl).1 = Registration.latestDecl? history decl.ident
  decl? : forall ident, registry.decl? ident = Registration.latestDecl? history ident
  registered? : forall ident,
    registry.registered? ident = Registration.latestContract? history ident

/-- Whatever the history of registrations was, the registry answers by it. -/
theorem Recorded.follows_history (recorded : Recorded history registry) : registry.Follows history where
  resolve_path _ member := resolve_of_knows ((recorded.knows_iff _).mpr member)
  resolve_segment := by
    intro name issued other
    have indexes := recorded.indexes
    have unknown : registry.knows ⟨name⟩ = false :=
      Bool.eq_false_iff.mpr fun known => other ((recorded.knows_iff _).mp known)
    refine ⟨registry.candidates name, indexes.increasing name, ?_, resolve_of_not_knows unknown⟩
    intro ident
    rw [indexes.mem_candidates_iff, ← TypeId.lastSegment_eq_iff]
    apply and_congr_right
    intro _
    constructor
    · intro found
      exact (Interner.lookup_of_get? indexes.started found).symm
    · intro same
      have found := issued.get?_lookup indexes.started .refl
      rw [← same] at found
      exact found
  declare decl := recorded.decl?_eq decl.ident
  decl? := recorded.decl?_eq
  registered? := recorded.registered?_eq

end Registry

namespace Sample

/-- A session with two paths that end alike, and their last segment. -/
def pathInterner : Interner :=
  (Interner.empty.internAll ["geo.Point", "screen.Point", "Point"]).2

def screenPath : Name := (pathInterner.intern "screen.Point").1

def screenDecl : TypeDecl := .record ⟨screenPath⟩ []

/-- The point again, now without components. -/
def emptyPointDecl : TypeDecl := .record point []

/-- Both paths are declared, and one of them once more. -/
def pathHistory : List Registration :=
  [.declaration screenDecl, .declaration pointDecl, .declaration emptyPointDecl]

def pathRegistry : Registry :=
  ((((Registry.empty pathInterner).declare screenDecl).2.declare pointDecl).2.declare
    emptyPointDecl).2

theorem pathRegistry_recorded : Registry.Recorded pathHistory pathRegistry := by
  have started : Interner.empty.Grows pathInterner := .internAll .refl _
  refine .declare (.declare (.declare (.fresh started) screenDecl ⟨?_, ?_⟩) pointDecl ⟨?_, ?_⟩)
    emptyPointDecl ⟨?_, ?_⟩
  · exact ⟨"screen.Point", by decide +kernel⟩
  · exact Interner.admits_of_room (by decide +kernel)
  · exact ⟨"geo.Point", by decide +kernel⟩
  · exact Interner.admits_of_room (by decide +kernel)
  · exact ⟨"geo.Point", by decide +kernel⟩
  · exact Interner.admits_of_room (by decide +kernel)

end Sample

/-- Both paths end in the written name, the one that was declared twice is listed
once, and the handles decide the order. -/
theorem Registry.pathRegistry_follows :
    Registry.Recorded Sample.pathHistory Sample.pathRegistry ∧
      Sample.pathRegistry.Follows Sample.pathHistory ∧
      Sample.pathRegistry.resolve Sample.screenPath = .unique ⟨Sample.screenPath⟩ ∧
      Sample.pathRegistry.resolve (Sample.pathInterner.intern "Point").1 =
        .ambiguous [Sample.point, ⟨Sample.screenPath⟩] := by
  have follows := Sample.pathRegistry_recorded.follows_history
  refine ⟨Sample.pathRegistry_recorded, follows, ?_, by decide +kernel⟩
  exact follows.resolve_path Sample.screenPath (by decide +kernel)

end StructuralProducts
