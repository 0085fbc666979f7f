import Mathlib.Order.Bounds.Basic
import StructuralProducts.DescriptorCache
import StructuralProducts.Proofs.InterningRuns
import StructuralProducts.Proofs.RegisteredContracts
import StructuralProducts.Proofs.Reflection.Loads
import StructuralProducts.Proofs.Reflection.WellShaped

namespace StructuralProducts

/-!
# What introspection answers

Introspection makes up its mind from one class: the class that is loaded under the
path.  A survey says what a discovery hears about it, which class reports the
constructors and which of the canonical parameters is the first without an
accessor.  The survey decides the outcome, success and failure alike, and each
failure has its place in a fixed order.

Labels are names, so a repeated label is a repeated parameter only as long as
interning the parameters finds a slot for each.
-/

/-! ## Surveys and their outcomes -/

/-- What becomes of the canonical parameters of a class once each has an accessor.
The first without a type is refused, then the least position that repeats a label,
and otherwise there is a descriptor for them. -/
def ForeignClass.Describes (owner : ForeignClass) (ident : TypeId) (path : String)
    (interner : Interner) (outcome : Outcome) : Prop :=
  match owner.canonicalParameters.find? fun parameter => (owner.fieldType? parameter).isNone with
  | some parameter => outcome = .error (.untypedParameter path parameter)
  | none =>
      let labels := (interner.internAll owner.canonicalParameters).1
      if labels.Nodup then
        Exists fun descriptor : Descriptor => outcome = .ok descriptor ∧
          descriptor.ident = ident ∧ descriptor.labels = labels ∧
          owner.canonicalParameters.map owner.fieldType? = descriptor.types.map some
      else
        Exists fun index => IsLeast {position | RepeatsAt labels position} index ∧
          outcome = .error (.repeatedLabel path index)

/-- What a discovery hears: the class that reports its constructors, if there is
one, and among parameters the first for which no accessor is found. -/
structure Survey where
  reporting : Option ForeignClass
  unanswered? : List String -> Option String

namespace Survey

/-- One class answers all questions. -/
def alone (owner? : Option ForeignClass) : Survey where
  reporting := owner?
  unanswered? := List.find? fun parameter => !owner?.any (·.offers parameter)

/-- The outcomes that a survey leads to.  They differ in nothing but how a
descriptor builds and reads. -/
def Yields (survey : Survey) (ident : TypeId) (path : String) (interner : Interner)
    (outcome : Outcome) : Prop :=
  match survey.reporting with
  | none => outcome = .error (.typeNotFound path)
  | some owner =>
      if owner.canonicalCount = 1 then
        match survey.unanswered? owner.canonicalParameters with
        | some parameter => outcome = .error (.accessorMismatch path parameter)
        | none => owner.Describes ident path interner outcome
      else outcome = .error (.noCanonicalConstructor path owner.canonicalCount)

end Survey

namespace Outcome

theorem error_agrees_iff (failure : DescriptorError) (outcome : Outcome) :
    agrees (.error failure) outcome = true ↔ outcome = .error failure := by
  cases outcome with
  | error other =>
      simp only [agrees, beq_iff_eq, Except.error.injEq]
      exact eq_comm
  | ok descriptor => exact iff_of_false nofun nofun

theorem ok_agrees_iff (descriptor : Descriptor) (outcome : Outcome) :
    agrees (.ok descriptor) outcome = true ↔ Exists fun other => outcome = .ok other ∧
      descriptor.ident = other.ident ∧ descriptor.labels = other.labels ∧
      descriptor.types = other.types := by
  cases outcome with
  | error failure =>
      apply iff_of_false nofun
      rintro ⟨other, same, _⟩
      cases same
  | ok other =>
      simp only [agrees, Descriptor.sameShape, Bool.and_eq_true, beq_iff_eq, Except.ok.injEq,
        exists_eq_left', and_assoc]

theorem agrees_error_iff (outcome : Outcome) (failure : DescriptorError) :
    outcome.agrees (.error failure) = true ↔ outcome = .error failure := by
  cases outcome with
  | error other => simp only [agrees, beq_iff_eq, Except.error.injEq]
  | ok descriptor => exact iff_of_false nofun nofun

end Outcome

section Determined

variable {owner : ForeignClass} {survey : Survey} {ident : TypeId} {path : String}
  {interner : Interner} {outcome : Outcome}

theorem ForeignClass.Describes.iff_agrees (describes : owner.Describes ident path interner outcome)
    (other : Outcome) :
    owner.Describes ident path interner other ↔ outcome.agrees other = true := by
  unfold Describes at describes ⊢
  split at describes
  · subst describes
    rw [Outcome.error_agrees_iff]
  · dsimp only at describes ⊢
    split at describes
    · next distinct =>
        rcases describes with ⟨descriptor, rfl, rfl, labels, types⟩
        rw [if_pos distinct, Outcome.ok_agrees_iff, labels, types]
        simp only [List.map_inj_right (fun _ _ => Option.some.inj), eq_comm]
    · next repeated =>
        rcases describes with ⟨index, least, rfl⟩
        rw [if_neg repeated, Outcome.error_agrees_iff]
        constructor
        · rintro ⟨position, also, rfl⟩
          rw [also.unique least]
        · rintro rfl
          exact ⟨index, least, rfl⟩

/-- A survey determines its outcome. -/
theorem Survey.Yields.iff_agrees (yields : survey.Yields ident path interner outcome)
    (other : Outcome) :
    survey.Yields ident path interner other ↔ outcome.agrees other = true := by
  unfold Yields at yields ⊢
  split at yields
  · subst yields
    rw [Outcome.error_agrees_iff]
  · next owner reported =>
      by_cases single : owner.canonicalCount = 1
      · rw [if_pos single] at yields ⊢
        split at yields
        · subst yields
          rw [Outcome.error_agrees_iff]
        · exact yields.iff_agrees other
      · rw [if_neg single] at yields ⊢
        subst yields
        rw [Outcome.error_agrees_iff]

variable {descriptor : Descriptor}

theorem ForeignClass.describes_ok_iff : owner.Describes ident path interner (.ok descriptor) ↔
    (owner.canonicalParameters.find? fun name => (owner.fieldType? name).isNone) = none ∧
    (interner.internAll owner.canonicalParameters).1.Nodup ∧ descriptor.ident = ident ∧
    descriptor.labels = (interner.internAll owner.canonicalParameters).1 ∧
    owner.canonicalParameters.map owner.fieldType? = descriptor.types.map some := by
  unfold Describes
  split
  · next parameter untyped =>
      rw [untyped]
      exact iff_of_false nofun nofun
  · next typed =>
      rw [typed]
      by_cases distinct : (interner.internAll owner.canonicalParameters).1.Nodup
      · simp only [distinct, if_true, true_and, Except.ok.injEq, exists_eq_left']
      · simp only [distinct, if_false, false_and, and_false, iff_false]
        rintro ⟨index, _, impossible⟩
        cases impossible

/-- Once all accessors are found, no accessor is refused. -/
theorem ForeignClass.not_describes_accessorMismatch {shown name : String} :
    ¬ owner.Describes ident path interner (.error (.accessorMismatch shown name)) := by
  unfold Describes
  split
  · exact nofun
  · dsimp only
    split
    · rintro ⟨descriptor, impossible, _⟩
      cases impossible
    · rintro ⟨index, _, impossible⟩
      cases impossible

theorem Survey.yields_ok_iff : survey.Yields ident path interner (.ok descriptor) ↔
    Exists fun owner => survey.reporting = some owner ∧ owner.canonicalCount = 1 ∧
      survey.unanswered? owner.canonicalParameters = none ∧
      owner.Describes ident path interner (.ok descriptor) := by
  unfold Yields
  cases survey.reporting with
  | none => exact iff_of_false nofun nofun
  | some owner =>
      simp only [Option.some.injEq, exists_eq_left']
      by_cases single : owner.canonicalCount = 1
      · rw [if_pos single]
        cases survey.unanswered? owner.canonicalParameters with
        | none => simp only [single, true_and]
        | some parameter => exact iff_of_false nofun nofun
      · rw [if_neg single]
        exact iff_of_false nofun fun found => single found.1

end Determined

/-! ## What introspection hears -/

/-- Parts with the parameters of a class and their types are refused for a repeated
label or for nothing. -/
theorem ForeignClass.describes_check {owner : ForeignClass} {interner : Interner}
    {parts : DescriptorParts}
    (labels : parts.labels = (interner.internAll owner.canonicalParameters).1)
    (types : owner.canonicalParameters.map owner.fieldType? = parts.types.map some)
    (constructorArity : parts.constructorArity = parts.labels.length)
    (readers : parts.readers.length = parts.labels.length) :
    owner.Describes parts.ident parts.path interner parts.check := by
  have typeCount : parts.types.length = parts.labels.length := by
    have lengths := congrArg List.length types
    rw [List.length_map, List.length_map] at lengths
    rw [labels, Interner.length_internAll, lengths]
  have typed : (owner.canonicalParameters.find? fun parameter =>
      (owner.fieldType? parameter).isNone) = none := by
    rw [List.find?_eq_none]
    intro parameter member untyped
    have mapped := List.mem_map_of_mem (f := owner.fieldType?) member
    rw [types, Option.isNone_iff_eq_none.mp untyped] at mapped
    rcases List.mem_map.mp mapped with ⟨ty, _, impossible⟩
    cases impossible
  unfold Describes
  simp only [typed, ← labels]
  by_cases distinct : parts.labels.Nodup
  · rw [if_pos distinct]
    rcases DescriptorParts.exists_check ⟨typeCount, constructorArity, readers, distinct⟩ with
      ⟨descriptor, checked⟩
    have make := (DescriptorParts.of_check checked).2
    exact ⟨descriptor, checked, make.ident, make.labels, make.types ▸ types⟩
  · rw [if_neg distinct]
    exact DescriptorParts.check_of_not_nodup typeCount constructorArity readers distinct

/-- Once the constructor and an accessor for each parameter are chosen, the rest
depends on the class that reported the constructor. -/
theorem Introspection.describes_assemble {owner : ForeignClass} {chosen : ConstructorInfo}
    {accessors : List AccessorHandle} (session : SessionId) (interner : Interner)
    (ident : TypeId) (path : String)
    (reported : chosen.parameters = owner.canonicalParameters.map fun name =>
      ⟨name, owner.fieldType? name⟩)
    (count : accessors.length = chosen.parameters.length) :
    owner.Describes ident path interner
      (assemble session interner ident path chosen accessors).1 := by
  have names : chosen.parameters.map (·.name) = owner.canonicalParameters := by
    rw [reported, ParameterInfo.map_name_map]
  have typed := @parameterTypes_cases path owner.fieldType? owner.canonicalParameters
  rw [← reported] at typed
  unfold assemble
  simp only [names]
  split at typed
  · next parameter missing =>
      unfold ForeignClass.Describes
      simp only [missing, typed]
  · next present =>
      rcases typed with ⟨types, complete, same⟩
      simp only [complete]
      have labelCount : chosen.parameters.length =
          (interner.internAll owner.canonicalParameters).1.length := by
        rw [Interner.length_internAll, ← names, List.length_map]
      have readerCount : (accessors.map (Reader.reflective session)).length =
          (interner.internAll owner.canonicalParameters).1.length := by
        rw [List.length_map, count, labelCount]
      exact ForeignClass.describes_check rfl same labelCount readerCount

namespace Host

variable {host : Host} {ident : TypeId}

/-- Introspection gives what the survey of the one class leads to. -/
theorem yields_introspect (host : Host) (ident : TypeId) :
    (Survey.alone (host.symbols.classNamed? (ident.path host.interner))).Yields ident
      (ident.path host.interner) host.interner (host.introspect ident).1 := by
  unfold introspect
  simp only [SymbolTable.resolve]
  cases named : host.symbols.handleOf? (ident.path host.interner) with
  | none =>
      rw [SymbolTable.classNamed?_of_handleOf?_eq_none named]
      rfl
  | some handle =>
      rcases SymbolTable.exists_classAt?_of_handleOf? named with ⟨owner, loaded, _⟩
      rw [SymbolTable.classNamed?_of_handleOf? named, loaded]
      -- The question is counted, and the count has no part in the answers.
      generalize counted : SymbolTable.mk host.symbols.classes (host.symbols.resolutions + 1) =
        table
      have answering : table.classAt? handle = some owner := counted ▸ loaded
      unfold Survey.Yields Introspection.chooseHandles
      simp only [Survey.alone, Option.any_some]
      by_cases single : owner.canonicalCount = 1
      · rw [if_pos single]
        rcases @Introspection.exists_chooseConstructor (ident.path host.interner) _ _ _ answering
          single with ⟨chosen, found, reported⟩
        have names : chosen.parameters.map (·.name) = owner.canonicalParameters := by
          rw [reported, ParameterInfo.map_name_map]
        have accessors := @Introspection.chooseAccessors_cases (ident.path host.interner) _ _ _
          answering chosen.parameters
        rw [names] at accessors
        cases answered : owner.canonicalParameters.find? (!owner.offers ·) with
        | some parameter =>
            rw [answered] at accessors
            simp only [found, accessors]
        | none =>
            rw [answered] at accessors
            rcases accessors with ⟨handles, complete, count⟩
            simp only [found, complete]
            exact Introspection.describes_assemble _ _ _ _ reported count
      · rw [if_neg single, Introspection.chooseConstructor_of_count_ne answering single]

theorem yields_iff_agrees (host : Host) (ident : TypeId) (outcome : Outcome) :
    (Survey.alone (host.symbols.classNamed? (ident.path host.interner))).Yields ident
        (ident.path host.interner) host.interner outcome ↔
      Outcome.agrees (host.introspect ident).1 outcome = true :=
  (host.yields_introspect ident).iff_agrees outcome

/-- What a descriptor that introspection finds says of the class. -/
theorem of_introspect_ok {descriptor : Descriptor}
    (introspected : (host.introspect ident).1 = .ok descriptor) : Exists fun owner =>
      host.symbols.classNamed? (ident.path host.interner) = some owner ∧ owner.WellShaped ∧
      descriptor.ident = ident ∧
      descriptor.labels = (host.interner.internAll owner.canonicalParameters).1 ∧
      owner.canonicalParameters.map owner.fieldType? = descriptor.types.map some := by
  have yields := host.yields_introspect ident
  rw [introspected, Survey.yields_ok_iff] at yields
  rcases yields with ⟨owner, named, single, accessors, describes⟩
  have named : host.symbols.classNamed? (ident.path host.interner) = some owner := named
  rcases ForeignClass.describes_ok_iff.mp describes with ⟨typed, _, identity, labels, types⟩
  simp only [Survey.alone, named, Option.any_some] at accessors
  exact ⟨owner, named, owner.wellShaped_iff.mpr ⟨single, accessors, typed⟩, identity, labels,
    types⟩

/-- Introspection of a well-shaped class succeeds if its labels are different. -/
theorem exists_introspect {owner : ForeignClass}
    (named : host.symbols.classNamed? (ident.path host.interner) = some owner)
    (shaped : owner.WellShaped)
    (distinct : (host.interner.internAll owner.canonicalParameters).1.Nodup) :
    Exists fun descriptor => (host.introspect ident).1 = .ok descriptor := by
  have yields := host.yields_introspect ident
  rcases owner.wellShaped_iff.mp shaped with ⟨single, accessors, typed⟩
  unfold Survey.Yields ForeignClass.Describes at yields
  simp only [Survey.alone, named, Option.any_some, single, accessors, typed, distinct,
    if_true] at yields
  rcases yields with ⟨descriptor, introspected, _⟩
  exact ⟨descriptor, introspected⟩

end Host

/-! ## Labels and parameters -/

namespace Interner

/-- Interning finds a slot for each of several strings in order. -/
def AdmitsAll (interner : Interner) : List String -> Prop
  | [] => True
  | text :: rest => interner.Admits text ∧ (interner.intern text).2.AdmitsAll rest

/-- The names lead back to the strings. -/
theorem map_lookup_internAll {interner : Interner} (started : empty.Grows interner)
    {texts : List String} (room : interner.AdmitsAll texts) :
    (interner.internAll texts).1.map (interner.internAll texts).2.lookup = texts := by
  induction texts generalizing interner with
  | nil => rfl
  | cons text rest inductionHypothesis =>
      simp only [internAll, List.map_cons]
      have grows : (interner.intern text).2.Grows
          ((interner.intern text).2.internAll rest).2 := Grows.refl.internAll rest
      rw [inductionHypothesis (started.intern text) room.2,
        lookup_of_get? ((started.intern text).trans grows)
          (grows.get?_eq_some room.1.get?_intern)]

theorem nodup_internAll {interner : Interner} (started : empty.Grows interner)
    {texts : List String} (room : interner.AdmitsAll texts) (distinct : texts.Nodup) :
    (interner.internAll texts).1.Nodup := by
  apply List.Nodup.of_map (interner.internAll texts).2.lookup
  rwa [map_lookup_internAll started room]

end Interner

/-- An introspection that gives a descriptor has interned its labels. -/
theorem Host.interner_introspect {host : Host} {ident : TypeId} {owner : ForeignClass}
    {descriptor : Descriptor}
    (named : host.symbols.classNamed? (ident.path host.interner) = some owner)
    (introspected : (host.introspect ident).1 = .ok descriptor) :
    (host.introspect ident).2.interner =
      (host.interner.internAll owner.canonicalParameters).2 := by
  unfold introspect at introspected ⊢
  simp only [SymbolTable.resolve] at introspected ⊢
  split at introspected
  · cases introspected
  · next handle resolved =>
      split at introspected
      · cases introspected
      · next chosen accessors choices =>
          rcases Introspection.of_chooseHandles choices with ⟨other, loaded, single, _⟩
          have same : other = owner := by
            rw [SymbolTable.classNamed?_of_handleOf? resolved] at named
            exact Option.some.inj (loaded.symm.trans named)
          subst same
          simp only [Introspection.assemble, SymbolTable.map_name_of_single loaded single]
          split <;> rfl

/-- Introspection succeeds exactly on the well-shaped classes whose canonical
parameters are different, and gives their parameters and types.  It fails as the
survey of the class says, with the first of its complaints.  In both cases one
question is counted and no class is changed. -/
theorem Host.introspect_exact (host : Host) (ident : TypeId) :
    (host.introspect ident).2.symbols =
      { host.symbols with resolutions := host.symbols.resolutions + 1 } ∧
    (forall failure, (host.introspect ident).1 = .error failure ↔
      (Survey.alone (host.symbols.classNamed? (ident.path host.interner))).Yields ident
        (ident.path host.interner) host.interner (.error failure)) ∧
    (Interner.empty.Grows host.interner ->
      (forall owner, host.symbols.classNamed? (ident.path host.interner) = some owner ->
        owner.WellShaped -> host.interner.AdmitsAll owner.canonicalParameters) ->
      ((Exists fun descriptor => (host.introspect ident).1 = .ok descriptor) ↔
        Exists fun owner =>
          host.symbols.classNamed? (ident.path host.interner) = some owner ∧
          owner.WellShaped ∧ owner.canonicalParameters.Nodup) ∧
      forall owner descriptor,
        host.symbols.classNamed? (ident.path host.interner) = some owner ->
        (host.introspect ident).1 = .ok descriptor ->
          descriptor.ident = ident ∧
          descriptor.labels.map (host.introspect ident).2.interner.lookup =
            owner.canonicalParameters ∧
          owner.canonicalParameters.map owner.fieldType? = descriptor.types.map some) := by
  refine ⟨host.symbols_introspect ident, ?_, ?_⟩
  · intro failure
    rw [host.yields_iff_agrees, Outcome.agrees_error_iff]
  · intro started room
    refine ⟨⟨?_, ?_⟩, ?_⟩
    · rintro ⟨descriptor, introspected⟩
      rcases Host.of_introspect_ok introspected with ⟨owner, named, shaped, _, labels, _⟩
      exact ⟨owner, named, shaped,
        host.interner.nodup_of_internAll (labels ▸ descriptor.labels_nodup)⟩
    · rintro ⟨owner, named, shaped, distinct⟩
      exact Host.exists_introspect named shaped
        (Interner.nodup_internAll started (room owner named shaped) distinct)
    · intro owner descriptor named introspected
      rcases Host.of_introspect_ok introspected with
        ⟨other, otherNamed, shaped, identity, labels, types⟩
      rw [named] at otherNamed
      cases otherNamed
      refine ⟨identity, ?_, types⟩
      rw [labels, Host.interner_introspect named introspected,
        Interner.map_lookup_internAll started (room owner named shaped)]

namespace Sample

/-- A class of points with the fields in order, all of them canonical parameters. -/
def plainClass (fields : List String) : ForeignClass :=
  (fields.foldl (fun owner name => owner.withField name .int)
    (ForeignClass.bare point "geo.Point")).withCanonicalConstructor.withAccessors

def plainHost (fields : List String) : Host :=
  ⟨⟨0⟩, interner, (SymbolTable.empty.load (plainClass fields)).2⟩

end Sample

/-- Points are described by their coordinates. -/
theorem Host.introspect_exact_points : Interner.empty.Grows Sample.interner ∧
    Sample.interner.AdmitsAll ["x", "y"] ∧ (Sample.plainClass ["x", "y"]).WellShaped ∧
    Exists fun descriptor =>
      ((Sample.plainHost ["x", "y"]).introspect Sample.point).1 = .ok descriptor ∧
      descriptor.labels.map
        ((Sample.plainHost ["x", "y"]).introspect Sample.point).2.interner.lookup = ["x", "y"] ∧
      descriptor.types = [.int, .int] := by
  have started : Interner.empty.Grows Sample.interner :=
    Interner.Grows.refl.internAll ["geo.Point", "x", "y"]
  have room : Sample.interner.AdmitsAll ["x", "y"] :=
    ⟨Interner.admits_of_room (by decide +kernel), Interner.admits_of_room (by decide +kernel),
      trivial⟩
  have shaped : (Sample.plainClass ["x", "y"]).WellShaped :=
    (ForeignClass.wellShaped_iff _).mpr (by decide +kernel)
  have named : (Sample.plainHost ["x", "y"]).symbols.classNamed?
      (Sample.point.path Sample.interner) = some (Sample.plainClass ["x", "y"]) := by
    decide +kernel
  have answers := (Host.introspect_exact (Sample.plainHost ["x", "y"]) Sample.point).2.2 started (by
    intro owner found _
    rw [Option.some.inj (found.symm.trans named)]
    exact room)
  obtain ⟨descriptor, introspected⟩ := answers.1.mpr ⟨_, named, shaped, by decide +kernel⟩
  rcases answers.2 _ descriptor named introspected with ⟨_, labels, types⟩
  refine ⟨started, room, shaped, descriptor, introspected, labels, ?_⟩
  have expected : (Sample.plainClass ["x", "y"]).canonicalParameters.map
      (Sample.plainClass ["x", "y"]).fieldType? = [Ty.int, .int].map some := by decide +kernel
  exact (List.map_injective_iff.mpr fun _ _ => Option.some.inj) (types.symm.trans expected)

end StructuralProducts
