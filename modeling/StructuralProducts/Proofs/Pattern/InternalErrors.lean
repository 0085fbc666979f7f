import StructuralProducts.Proofs.NameResolution
import StructuralProducts.Proofs.Pattern.ErrorLimit

namespace StructuralProducts

/-!
# No internal errors

Lowering has two answers for situations that it does not expect.  One is for a
recognized declaration from which no descriptor can be made, the other for a name
that resolves to an identity without a declaration.

Neither situation occurs.  Recognition already establishes everything that the check
of descriptor parts asks for, and a registry lists an identity only after it was
declared or given a contract.  The second argument needs the history of the registry,
since nothing in its type excludes an index that lists unknown identities.
-/

/-- Synthesis fails on declarations that are no products, and on no others. -/
theorem Contract.synthesize_ne_malformed (decl : TypeDecl) (interner : Interner)
    (failure : DescriptorError) : synthesize decl interner ≠ .error (.malformed failure) := by
  intro malformed
  cases recognized : ProductShape.recognize decl with
  | error problems =>
      simp only [synthesize, recognized] at malformed
      cases malformed
  | ok shape =>
      rcases exists_synthesize recognized interner with ⟨descriptor, synthesized, _⟩
      rw [synthesized] at malformed
      cases malformed

/-- A diagnostic that admits no contradiction of the compiler: it neither has the
code for it nor says that a resolved type is not declared. -/
structure Diagnostic.Ordinary (diagnostic : Diagnostic) : Prop where
  code : diagnostic.code ≠ .internalError
  notes : LoweringScope.notDeclared ∉ diagnostic.notes

namespace LoweringScope

variable {registry : Registry} {diagnostic : Diagnostic}

theorem ambiguousType_ordinary (span : Span) (written : String) (paths : List String) :
    (ambiguousType span written paths).Ordinary := by
  refine ⟨nofun, ?_⟩
  intro member
  have note := congrArg String.toList (List.mem_singleton.mp member)
  simp [notDeclared] at note

theorem shapeProblem_ordinary (problem : ShapeProblem) (ident : TypeId) (declaredAt : Span)
    (interner : Interner) : (problem.diagnostic ident declaredAt interner).Ordinary := by
  cases problem with
  | constructorOrder expected found span =>
      refine ⟨nofun, ?_⟩
      intro member
      have note := congrArg String.toList (List.mem_singleton.mp member)
      simp [notDeclared] at note
  | _ => exact ⟨nofun, List.not_mem_nil⟩

theorem Refusal.ordinary (built : registry.Built) (refusal : Refusal registry diagnostic) :
    diagnostic.Ordinary := by
  cases refusal with
  | mismatch scope against span expected found => exact ⟨nofun, List.not_mem_nil⟩
  | unknownType span name => exact ⟨nofun, List.not_mem_nil⟩
  | ambiguousType span written paths => exact ambiguousType_ordinary span written paths
  | notAProduct span path =>
      refine ⟨nofun, ?_⟩
      intro member
      have note : LoweringScope.notDeclared = LoweringScope.notAProduct :=
        List.mem_singleton.mp member
      exact absurd note (by decide)
  | notDeclared span path resolved unsupplied undeclared =>
      have known := (registry.knows_iff _).mp (built.knows_of_resolve resolved)
      rw [unsupplied, undeclared] at known
      rcases known with known | known <;> cases known
  | shapeProblem problem ident declaredAt =>
      exact shapeProblem_ordinary problem ident declaredAt registry.interner
  | synthesisFailed span failed =>
      exact absurd failed (Contract.synthesize_ne_malformed _ _ _)
  | wrongArity scope against ident written span expected found =>
      have parts := scope.wrongArity_cases ident written span expected found
      refine ⟨?_, ?_⟩
      · rw [parts.1]
        exact nofun
      · rw [parts.2.2]
        exact List.not_mem_nil

theorem Complaint.ordinary (built : registry.Built) (complaint : Complaint registry diagnostic) :
    diagnostic.Ordinary := by
  cases complaint with
  | refusal refusal => exact refusal.ordinary built
  | tooDeep span limit => exact ⟨nofun, List.not_mem_nil⟩
  | differentNames span => exact ⟨nofun, List.not_mem_nil⟩
  | boundTwice span name => exact ⟨nofun, List.not_mem_nil⟩

end LoweringScope

/-- Every recognized declaration has a descriptor, synthesis never fails on one, and
nothing that a unit reports is an internal error, whatever the registry was built by
and whatever the limits are. -/
theorem PatternUnit.reports_ordinary :
    (forall decl shape interner, ProductShape.recognize decl = .ok shape ->
      Exists fun descriptor => shape.descriptor interner = .ok descriptor ∧
        Contract.synthesize decl interner = .ok descriptor) ∧
    (forall decl interner failure,
      Contract.synthesize decl interner ≠ .error (.malformed failure)) ∧
    forall (registry : Registry), registry.Built ->
      forall (written : PatternUnit) session limits failure,
        written.compile session registry limits = .error failure ->
          forall diagnostic, diagnostic ∈ failure.diagnostics ->
            diagnostic.code ≠ .internalError ∧
            LoweringScope.notDeclared ∉ diagnostic.notes := by
  refine ⟨?_, Contract.synthesize_ne_malformed, ?_⟩
  · intro decl shape interner recognized
    rcases Contract.exists_synthesize recognized interner with ⟨descriptor, synthesized, made⟩
    exact ⟨descriptor, made, synthesized⟩
  · intro registry built written session limits failure fails diagnostic member
    have limited :
        written.compile session registry ⟨limits.maxDepth?, limits.errorLimit⟩ = .error failure :=
      fails
    rcases mem_raised_of_compile limited member with raised | rfl
    · have complaint := written.lowered_explained registry _ diagnostic raised
      have ordinary := complaint.ordinary built
      exact ⟨ordinary.code, ordinary.notes⟩
    · exact ⟨nofun, List.not_mem_nil⟩

namespace Sample

/-- The point with a canonical constructor that takes the components in the wrong
order. -/
def turnedDecl : TypeDecl :=
  { pointDecl with constructors := [⟨[yLabel, xLabel], true, Span.synthetic⟩] }

/-- The point is declared once more, now as something that is no product. -/
def turnedRegistry : Registry := (registry.declare turnedDecl).2

/-- The point is deconstructed twice, and a label is taken for a type. -/
def turnedUnit : PatternUnit where
  name := "turned"
  exports := []
  sites :=
    [{ kind := .matchArms
       scrutinee? := none
       patterns :=
         [.deconstruct pointName [.wildcard, .wildcard] ⟨1, 5⟩,
          .deconstruct pointName [.wildcard, .wildcard] ⟨11, 15⟩, misnamed xLabel 21]
       span := Span.synthetic }]

end Sample

/-- The first pattern raises what is wrong with the declaration, with a note of its
own; each of the two says that the type cannot be deconstructed, with another note.
None of the four is an internal error. -/
theorem PatternUnit.turnedUnit_reports_ordinary :
    (Exists fun descriptor =>
      (ProductShape.ofDecl Sample.pointDecl).descriptor Sample.interner = .ok descriptor ∧
      Contract.synthesize Sample.pointDecl Sample.interner = .ok descriptor) ∧
    Sample.turnedRegistry.Built ∧
    (Sample.turnedUnit.distinctRaised Sample.turnedRegistry (some 64)).map
      (fun diagnostic => (diagnostic.code, diagnostic.notes.length)) =
        [(.constructorOrder, 1), (.noContract, 1), (.noContract, 1), (.unknownType, 0)] ∧
    Exists fun failure =>
      Sample.turnedUnit.compile ⟨0⟩ Sample.turnedRegistry .standard = .error failure ∧
      forall diagnostic, diagnostic ∈ failure.diagnostics ->
        diagnostic.code ≠ .internalError ∧ LoweringScope.notDeclared ∉ diagnostic.notes := by
  have recognized : ProductShape.recognize Sample.pointDecl =
      .ok (ProductShape.ofDecl Sample.pointDecl) := by
    decide
  have built : Sample.turnedRegistry.Built := .declare Sample.turnedDecl Sample.registry_built
  have kinds : (Sample.turnedUnit.distinctRaised Sample.turnedRegistry (some 64)).map
      (fun diagnostic => (diagnostic.code, diagnostic.notes.length)) =
        [(.constructorOrder, 1), (.noContract, 1), (.noContract, 1), (.unknownType, 0)] := by
    decide +kernel
  rcases List.map_eq_cons_iff.mp kinds with ⟨first, rest, distinct, _⟩
  have raised : first ∈ Sample.turnedUnit.distinctRaised Sample.turnedRegistry (some 64) :=
    distinct ▸ List.mem_cons_self
  rcases exists_failure_of_mem (List.mem_eraseDups.mp raised) ⟨0⟩ 10 with ⟨failure, fails⟩
  exact ⟨reports_ordinary.1 _ _ Sample.interner recognized, built, kinds, failure, fails,
    reports_ordinary.2.2 _ built _ _ _ _ fails⟩

end StructuralProducts
