import StructuralProducts.Pattern.Lowering
import StructuralProducts.Proofs.Pattern.Image

namespace StructuralProducts

/-!
# What one step of lowering can do

Lowering only appends: contracts to the table, diagnostics to those raised.  A
step is silent when it raises nothing, and every step has a condition that says
when it is.  `LoweringProgress.Step` packs the three facts that later proofs
need, and steps in a row compose: both conditions together say when the two
steps are silent.

The table and the rejected types are kept in agreement with the registry.  A
type is in the table with the contract that the registry provides for it, and a
rejected type has none.
-/

namespace LoweringProgress

/-! ## Growth, agreement, steps -/

/-- Contracts and diagnostics have only been appended. -/
structure Extends (before after : LoweringProgress) : Prop where
  contracts : before.contracts.entries <+: after.contracts.entries
  raised : before.raised <+: after.raised

theorem Extends.refl (progress : LoweringProgress) : progress.Extends progress :=
  ⟨List.prefix_refl _, List.prefix_refl _⟩

theorem Extends.trans {first second third : LoweringProgress} (earlier : first.Extends second)
    (later : second.Extends third) : first.Extends third :=
  ⟨earlier.contracts.trans later.contracts, earlier.raised.trans later.raised⟩

theorem silent_trans_iff {first second third : LoweringProgress}
    (earlier : first.Extends second) (later : second.Extends third) :
    third.raised = first.raised ↔
      second.raised = first.raised ∧ third.raised = second.raised := by
  constructor
  · intro silent
    have back : second.raised <+: first.raised := silent ▸ later.raised
    have equal := back.eq_of_length (Nat.le_antisymm back.length_le earlier.raised.length_le)
    exact ⟨equal, silent.trans equal.symm⟩
  · rintro ⟨firstSilent, secondSilent⟩
    exact secondSilent.trans firstSilent

/-- The table and the rejected types agree with what the registry provides. -/
structure Agrees (registry : Registry) (progress : LoweringProgress) : Prop where
  entries : forall entry, entry ∈ progress.contracts.entries ->
    registry.provision? entry.contract.ident = some entry
  rejected : forall ident, ident ∈ progress.rejected -> registry.provision? ident = none

theorem empty_agrees (registry : Registry) (config : QueueConfig) :
    (empty config).Agrees registry :=
  ⟨fun _ member => absurd member List.not_mem_nil,
    fun _ member => absurd member List.not_mem_nil⟩

/-- A step that appends, keeps the agreement, and is silent exactly under a
condition. -/
structure Step (registry : Registry) (before after : LoweringProgress) (condition : Prop) :
    Prop where
  grows : before.Extends after
  agrees : after.Agrees registry
  silent_iff : after.raised = before.raised ↔ condition

namespace Step

variable {registry : Registry} {before middle after : LoweringProgress} {first second : Prop}

theorem refl (agrees : before.Agrees registry) : Step registry before before True :=
  ⟨Extends.refl before, agrees, iff_of_true rfl trivial⟩

theorem trans (earlier : Step registry before middle first)
    (later : Step registry middle after second) : Step registry before after (first ∧ second) where
  grows := earlier.grows.trans later.grows
  agrees := later.agrees
  silent_iff := by
    rw [silent_trans_iff earlier.grows later.grows, earlier.silent_iff, later.silent_iff]

theorem congr (step : Step registry before after first) (same : first ↔ second) :
    Step registry before after second :=
  ⟨step.grows, step.agrees, step.silent_iff.trans same⟩

theorem condition_of_silent (step : Step registry before after first)
    (silent : after.raised = before.raised) : first :=
  step.silent_iff.mp silent

theorem silent_left (earlier : Step registry before middle first)
    (later : Step registry middle after second) (silent : after.raised = before.raised) :
    middle.raised = before.raised :=
  ((silent_trans_iff earlier.grows later.grows).mp silent).1

theorem silent_right (earlier : Step registry before middle first)
    (later : Step registry middle after second) (silent : after.raised = before.raised) :
    after.raised = middle.raised :=
  ((silent_trans_iff earlier.grows later.grows).mp silent).2

end Step

theorem step_raiseAll {registry : Registry} {progress : LoweringProgress}
    (agrees : progress.Agrees registry) (diagnostics : List Diagnostic) :
    Step registry progress (progress.raiseAll diagnostics) (diagnostics = []) where
  grows := ⟨List.prefix_refl _, List.prefix_append _ _⟩
  agrees := ⟨agrees.entries, agrees.rejected⟩
  silent_iff := List.append_right_eq_self

theorem step_raise {registry : Registry} {progress : LoweringProgress}
    (agrees : progress.Agrees registry) (diagnostic : Diagnostic) :
    Step registry progress (progress.raise diagnostic) False :=
  (step_raiseAll agrees [diagnostic]).congr (iff_of_false (List.cons_ne_nil _ _) id)

theorem Step.raise {registry : Registry} {before after : LoweringProgress} {condition : Prop}
    (step : Step registry before after condition) (diagnostic : Diagnostic) :
    Step registry before (after.raise diagnostic) False :=
  (step.trans (step_raise step.agrees diagnostic)).congr (iff_of_false And.right not_false)

theorem step_reject {registry : Registry} {progress : LoweringProgress} {ident : TypeId}
    (agrees : progress.Agrees registry) (absent : registry.provision? ident = none) :
    Step registry progress (progress.reject ident) True where
  grows := ⟨List.prefix_refl _, List.prefix_refl _⟩
  agrees := by
    refine ⟨agrees.entries, ?_⟩
    intro other member
    rcases List.mem_cons.mp member with rfl | earlier
    · exact absent
    · exact agrees.rejected other earlier
  silent_iff := iff_of_true rfl trivial

/-- Putting the contract of a new identity into the table is silent, and the
identity is then found at the position that was given. -/
theorem step_insert {registry : Registry} (keys : registry.KeysAgree)
    {progress : LoweringProgress} {ident : TypeId} {entry : ContractEntry}
    (agrees : progress.Agrees registry) (provided : registry.provision? ident = some entry)
    (absent : progress.contracts.find? ident = none) :
    let inserted := progress.contracts.insert entry.contract entry.descriptor?
    Step registry progress { progress with contracts := inserted.2 } True ∧
      inserted.2.find? ident = some inserted.1 ∧ inserted.2.entryAt? inserted.1 = some entry := by
  have ident_eq := keys.ident_of_provision? provided
  subst ident_eq
  have found := progress.contracts.find?_insert entry.contract entry.descriptor?
  simp only [ContractTable.insert, absent] at found ⊢
  refine ⟨⟨⟨List.prefix_append _ _, List.prefix_refl _⟩, ⟨?_, agrees.rejected⟩,
    iff_of_true rfl trivial⟩, found, ?_⟩
  · intro other member
    rcases List.mem_append.mp member with earlier | new
    · exact agrees.entries other earlier
    · rw [List.mem_singleton.mp new]
      exact provided
  · exact List.getElem?_concat_length

end LoweringProgress

namespace LoweringScope

open PatternNode ContractTable

variable {scope : LoweringScope} {progress : LoweringProgress}

/-! ## Contracts -/

theorem contractFor_of_find? {ident : TypeId} {id : ContractId}
    (found : progress.contracts.find? ident = some id) (span : Span) :
    scope.contractFor ident span progress = (some id, progress) := by
  simp only [contractFor, found]

/-- The contract that the registry provides is put into the table on first use. -/
theorem contractFor_of_provision? (agrees : progress.Agrees scope.registry) {ident : TypeId}
    {entry : ContractEntry} (absent : progress.contracts.find? ident = none)
    (provided : scope.registry.provision? ident = some entry) (span : Span) :
    scope.contractFor ident span progress =
      (some (progress.contracts.insert entry.contract entry.descriptor?).1,
        { progress with
          contracts := (progress.contracts.insert entry.contract entry.descriptor?).2 }) := by
  have kept : ident ∉ progress.rejected := by
    intro rejected
    rw [agrees.rejected ident rejected] at provided
    cases provided
  rcases Registry.provision?_cases provided with
    ⟨contract, found, rfl⟩ | ⟨decl, descriptor, unsupplied, declared, synthesized, rfl⟩
  · simp only [contractFor, absent, found]
  · simp only [contractFor, absent, unsupplied, kept, if_false, declared, interner, synthesized]

/-- Where the registry provides no contract, something is raised. -/
theorem contractFor_of_provision?_eq_none (agrees : progress.Agrees scope.registry)
    {ident : TypeId} (absent : progress.contracts.find? ident = none)
    (unprovided : scope.registry.provision? ident = none) (span : Span) :
    (scope.contractFor ident span progress).1 = none ∧
      LoweringProgress.Step scope.registry progress
        (scope.contractFor ident span progress).2 False := by
  have reject := LoweringProgress.step_reject agrees unprovided
  unfold Registry.provision? at unprovided
  split at unprovided
  · cases unprovided
  · next unsupplied =>
      by_cases known : ident ∈ progress.rejected
      · simp only [contractFor, absent, unsupplied, known, if_true]
        exact ⟨trivial, LoweringProgress.step_raise agrees _⟩
      · split at unprovided
        · next undeclared =>
            simp only [contractFor, absent, unsupplied, known, if_false, undeclared]
            exact ⟨trivial, LoweringProgress.step_raise agrees _⟩
        · next decl declared =>
            split at unprovided
            · cases unprovided
            · next failure failed =>
                cases failure with
                | notAProduct problems =>
                    simp only [contractFor, absent, unsupplied, known, if_false, declared,
                      interner, failed]
                    have listed := LoweringProgress.step_raiseAll reject.agrees
                      (problems.map (·.diagnostic ident decl.span scope.registry.interner))
                    exact ⟨trivial, (reject.trans listed).raise _⟩
                | malformed failure =>
                    simp only [contractFor, absent, unsupplied, known, if_false, declared,
                      interner, failed]
                    exact ⟨trivial, reject.raise _⟩

/-- A lookup either gives, silently, the position of the contract that the
registry provides, or raises something because there is none. -/
theorem contractFor_cases (keys : scope.registry.KeysAgree)
    (agrees : progress.Agrees scope.registry) (ident : TypeId) (span : Span) :
    let outcome := scope.contractFor ident span progress
    (Exists fun id => Exists fun entry => outcome.1 = some id ∧
      scope.registry.provision? ident = some entry ∧
      outcome.2.contracts.find? ident = some id ∧ outcome.2.contracts.entryAt? id = some entry ∧
      LoweringProgress.Step scope.registry progress outcome.2 True) ∨
    (outcome.1 = none ∧ scope.registry.provision? ident = none ∧
      LoweringProgress.Step scope.registry progress outcome.2 False) := by
  cases found : progress.contracts.find? ident with
  | some id =>
      rcases exists_entryAt?_of_find? found with ⟨entry, present, member, rfl⟩
      rw [contractFor_of_find? found]
      exact .inl ⟨id, entry, rfl, agrees.entries entry member, found, present,
        LoweringProgress.Step.refl agrees⟩
  | none =>
      cases provided : scope.registry.provision? ident with
      | some entry =>
          have inserted := LoweringProgress.step_insert keys agrees provided found
          rw [contractFor_of_provision? agrees found provided]
          exact .inl ⟨_, entry, rfl, rfl, inserted.2.1, inserted.2.2, inserted.1⟩
      | none =>
          have refused := contractFor_of_provision?_eq_none agrees found provided span
          exact .inr ⟨refused.1, rfl, refused.2⟩

/-! ## Single nodes -/

theorem exceeded?_eq_none_iff (depth : Nat) :
    scope.exceeded? depth = none ↔ Within scope.maxDepth? depth := by
  unfold exceeded? Within
  rw [Option.filter_eq_none_iff]
  simp only [decide_eq_true_eq, Nat.not_lt]

theorem contradicted?_eq_none_iff (expected? : Option Ty) (ident : TypeId) :
    contradicted? expected? ident = none ↔ Accepts (.named ident) expected? := by
  unfold contradicted? Accepts
  rw [Option.filter_eq_none_iff]
  simp only [bne_iff_ne, ne_eq, Decidable.not_not]

/-- A deconstruction is either opened, silently, with the component types of the
contract that the registry provides, or something that it needs is missing and
is raised. -/
theorem open?_cases (keys : scope.registry.KeysAgree) (agrees : progress.Agrees scope.registry)
    (typeName : Name) (argumentCount : Nat) (span : Span) (expected? : Option Ty) :
    let outcome := scope.open? typeName argumentCount span expected? progress
    (Exists fun id => Exists fun ident => Exists fun entry =>
      outcome.1 = some (id, entry.types) ∧
      Opens scope.registry outcome.2.contracts typeName id ident entry ∧
      Openable scope.registry typeName argumentCount expected? ∧
      LoweringProgress.Step scope.registry progress outcome.2 True) ∨
    (outcome.1 = none ∧ ¬ Openable scope.registry typeName argumentCount expected? ∧
      LoweringProgress.Step scope.registry progress outcome.2 False) := by
  intro outcome
  have unresolved (notUnique : forall ident, scope.registry.resolve typeName ≠ .unique ident) :
      ¬ Openable scope.registry typeName argumentCount expected? := by
    rintro ⟨ident, types, unique, _⟩
    exact notUnique ident unique
  have raised := LoweringProgress.step_raise agrees
  cases resolved : scope.registry.resolve typeName with
  | unknown =>
      simp only [outcome, open?, resolved]
      exact .inr ⟨trivial, unresolved (by simp [resolved]), raised _⟩
  | ambiguous candidates =>
      simp only [outcome, open?, resolved]
      exact .inr ⟨trivial, unresolved (by simp [resolved]), raised _⟩
  | unique ident =>
      cases against : contradicted? expected? ident with
      | some expected =>
          simp only [outcome, open?, resolved, against]
          refine .inr ⟨trivial, ?_, raised _⟩
          rintro ⟨other, types, unique, fits, _⟩
          rw [resolved] at unique
          cases unique
          rw [(contradicted?_eq_none_iff expected? ident).mpr fits] at against
          cases against
      | none =>
          have fits := (contradicted?_eq_none_iff expected? ident).mp against
          have types_eq := scope.registry.componentTypes?_eq_map ident
          have lookup := contractFor_cases keys agrees ident span
          rcases looked : scope.contractFor ident span progress with ⟨id?, after⟩
          rw [looked] at lookup
          rcases lookup with
            ⟨id, entry, given, provided, found, present, step⟩ | ⟨refused, absent, step⟩
          · -- The number of arguments is the last thing that can be wrong.
            dsimp only at given found present step
            subst given
            have types : after.contracts.componentTypes? id = some entry.types := by
              rw [componentTypes?, present, Option.map_some]
            rw [provided, Option.map_some] at types_eq
            by_cases count : entry.types.length = argumentCount
            · simp only [outcome, open?, resolved, against, looked, types, Option.getD_some, count,
                if_true]
              exact .inl ⟨id, ident, entry, rfl, ⟨resolved, found, present, provided⟩,
                ⟨ident, entry.types, resolved, fits, types_eq, count⟩, step⟩
            · simp only [outcome, open?, resolved, against, looked, types, Option.getD_some, count,
                if_false]
              refine .inr ⟨trivial, ?_, step.raise _⟩
              rintro ⟨other, others, unique, _, known, otherCount⟩
              rw [resolved] at unique
              cases unique
              rw [types_eq] at known
              cases known
              exact count otherCount
          · dsimp only at refused step
            subst refused
            simp only [outcome, open?, resolved, against, looked]
            refine .inr ⟨trivial, ?_, step⟩
            rintro ⟨other, others, unique, _, known, _⟩
            rw [resolved] at unique
            cases unique
            rw [types_eq, absent] at known
            cases known

/-- A literal is accepted where nothing or its own type is expected. -/
theorem step_checkLiteral (agrees : progress.Agrees scope.registry) (literal : Literal)
    (expected? : Option Ty) :
    LoweringProgress.Step scope.registry progress
      (scope.checkLiteral literal expected? progress)
      (Accepts literal.ty expected?) := by
  unfold checkLiteral
  cases expected? with
  | none => exact (LoweringProgress.Step.refl agrees).congr (iff_of_true trivial nofun)
  | some expected =>
      dsimp only
      by_cases same : expected = literal.ty
      · rw [if_pos same]
        refine (LoweringProgress.Step.refl agrees).congr (iff_of_true trivial ?_)
        intro other equal
        cases equal
        exact same
      · rw [if_neg same]
        exact (LoweringProgress.step_raise agrees _).congr
          (iff_of_false id fun fits => same (fits expected rfl))

/-- A tuple is accepted where nothing or a tuple of its length is expected, and
its elements are then lowered against the types at their positions. -/
theorem step_checkTuple (agrees : progress.Agrees scope.registry) (elementCount : Nat)
    (expected? : Option Ty) :
    LoweringProgress.Step scope.registry progress
        (scope.checkTuple elementCount expected? progress).2
        (AcceptsTuple elementCount expected?) ∧
      (AcceptsTuple elementCount expected? -> forall position,
        (scope.checkTuple elementCount expected? progress).1[position]?.join =
          Ty.elementType? expected? position) := by
  have refused (expected : Ty)
      (unfit : forall types, expected = .tuple types -> types.length ≠ elementCount)
      (diagnostic : Diagnostic) :
      LoweringProgress.Step scope.registry progress (progress.raise diagnostic)
          (AcceptsTuple elementCount (some expected)) ∧
        ¬ AcceptsTuple elementCount (some expected) := by
    have unmet : ¬ AcceptsTuple elementCount (some expected) := by
      intro accepts
      rcases accepts expected rfl with ⟨types, same, count⟩
      exact unfit types same count
    exact ⟨(LoweringProgress.step_raise agrees diagnostic).congr (iff_of_false id unmet), unmet⟩
  unfold checkTuple
  split
  · refine ⟨(LoweringProgress.Step.refl agrees).congr (iff_of_true trivial nofun), ?_⟩
    intro _ position
    rfl
  · next types =>
      by_cases count : types.length = elementCount
      · rw [if_pos count]
        refine ⟨(LoweringProgress.Step.refl agrees).congr (iff_of_true trivial ?_), ?_⟩
        · intro expected equal
          cases equal
          exact ⟨types, rfl, count⟩
        · intro _ position
          rw [List.getElem?_map, Ty.elementType?]
          cases types[position]? <;> rfl
      · rw [if_neg count]
        have step := refused (.tuple types) (by
          intro others same
          cases same
          exact count) (scope.mismatch scope.siteSpan (.tuple types)
            s!"a tuple pattern of {elementCount} elements")
        exact ⟨step.1, fun accepts => absurd accepts step.2⟩
  · next other notTuple =>
      have step := refused other (fun types same => absurd same (notTuple types))
        (scope.mismatch scope.siteSpan other s!"a tuple pattern of {elementCount} elements")
      exact ⟨step.1, fun accepts => absurd accepts step.2⟩

/-- Alternatives are accepted when each binds the names of the first, with
multiplicity. -/
theorem step_checkAlternatives (agrees : progress.Agrees scope.registry)
    (alternatives : List LoweredPattern) :
    LoweringProgress.Step scope.registry progress
      (scope.checkAlternatives alternatives progress)
      (forall first, first ∈ alternatives -> forall second, second ∈ alternatives ->
        first.boundNames.Perm second.boundNames) := by
  unfold checkAlternatives
  cases alternatives with
  | nil =>
      exact (LoweringProgress.Step.refl agrees).congr
        (iff_of_true trivial fun _ member => absurd member List.not_mem_nil)
  | cons first rest =>
      have agree_iff : (rest.all fun other => other.boundNames.isPerm first.boundNames) = true ↔
          forall one, one ∈ first :: rest -> forall other, other ∈ first :: rest ->
            one.boundNames.Perm other.boundNames := by
        rw [List.all_eq_true]
        constructor
        · intro same
          have toFirst : forall one, one ∈ first :: rest ->
              one.boundNames.Perm first.boundNames := by
            intro one member
            rcases List.mem_cons.mp member with rfl | later
            · exact List.Perm.refl _
            · exact List.isPerm_iff.mp (same one later)
          intro one oneMember other otherMember
          exact (toFirst one oneMember).trans (toFirst other otherMember).symm
        · intro same other member
          exact List.isPerm_iff.mpr
            (same other (List.mem_cons_of_mem _ member) first List.mem_cons_self)
      dsimp only
      split
      · next accepted =>
          exact (LoweringProgress.Step.refl agrees).congr
            (iff_of_true trivial (agree_iff.mp accepted))
      · next refused =>
          exact (LoweringProgress.step_raise agrees _).congr
            (iff_of_false id fun same => refused (agree_iff.mpr same))

end LoweringScope
end StructuralProducts
