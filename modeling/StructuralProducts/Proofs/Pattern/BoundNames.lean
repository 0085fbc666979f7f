import StructuralProducts.Proofs.Pattern.Taken

namespace StructuralProducts

/-!
# The names that a match binds

Lowering compares the names of alternatives at each alternation, and it looks
for names bound twice along the first alternatives only.  A match may go through
other alternatives, at any number of alternations inside each other.

Together the two tests are enough.  Taking another alternative reorders the names
at most, so whatever a match takes, it binds the names of its arm, each once.
-/

namespace Matcher

variable {matcher : Matcher}

/-- What a match binds has the names of the paths that reach it. -/
theorem map_fst_of_reaches {value : Value} {bound : List (Name × Value)}
    {entries : List (Name × AccessPath)}
    (reached : List.Forall₂ (matcher.Reaches value) bound entries) :
    bound.map (·.1) = entries.map (·.1) := by
  rw [← List.forall₂_eq_eq_eq, List.forall₂_map_left_iff, List.forall₂_map_right_iff]
  exact reached.imp fun _ _ both => both.1

end Matcher

namespace CompiledArm.Coherent

variable {arm : CompiledArm} {matcher : Matcher}

theorem names_nodup {table : ContractTable} (coherent : arm.Coherent table) :
    (arm.bindings.map (·.1)).Nodup := by
  rw [coherent.bindings, LoweredPattern.map_fst_bindings]
  exact coherent.distinct

/-- The alternatives taken bind the names of the arm, in another order at most. -/
theorem taken_names_perm (coherent : arm.Coherent matcher.contracts) (value : Value) :
    ((matcher.taken arm.pattern value).bindings.map (·.1)).Perm (arm.bindings.map (·.1)) := by
  rw [coherent.bindings, LoweredPattern.map_fst_bindings, LoweredPattern.map_fst_bindings]
  exact LoweredPattern.sameNames_congruence.taken matcher arm.pattern coherent.alike value

theorem bound_names_perm (sourced : matcher.contracts.Sourced)
    (coherent : arm.Coherent matcher.contracts) {value : Value} {bound : List (Name × Value)}
    (matched : matcher.meaning arm.pattern value = .ok (some bound)) :
    (bound.map (·.1)).Perm (arm.bindings.map (·.1)) := by
  have reached := matcher.reaches_taken sourced arm.pattern coherent.counted value bound matched
  rw [Matcher.map_fst_of_reaches reached]
  exact coherent.taken_names_perm value

end CompiledArm.Coherent

/-- Every match of an arm of a compiled unit binds the names of the arm, each
once. -/
theorem CompiledUnit.match_binds_names {registry : Registry} (built : registry.Built)
    {written : PatternUnit} {session : SessionId} {limits : LoweringLimits}
    {compiled : CompiledUnit}
    (compiles : written.compile session registry limits = .ok compiled) (runtime : Runtime)
    {site : CompiledSite} (siteMember : site ∈ compiled.sites) {arm : CompiledArm}
    (member : arm ∈ site.arms) {value : Value} {bound : List (Name × Value)}
    (matched : ((compiled.matcher runtime).matchPattern arm.pattern value).1 = .ok (some bound)) :
    (bound.map (·.1)).Nodup ∧ (bound.map (·.1)).Perm (arm.bindings.map (·.1)) := by
  have keys := built.keysAgree
  have coherent : arm.Coherent (compiled.matcher runtime).contracts :=
    PatternUnit.coherent_of_compile keys compiles siteMember member
  rw [Matcher.matchPattern_eq_meaning] at matched
  have names := coherent.bound_names_perm (PatternUnit.sourced_of_compile keys compiles) matched
  exact ⟨names.nodup_iff.mpr coherent.names_nodup, names⟩

/-- A pair that begins with one, or else a pair that ends with two or with anything
else.  The alternatives bind the two names in opposite orders. -/
def Sample.eitherWay : PatternUnit where
  name := "pairs"
  exports := []
  sites :=
    [{ kind := .matchArms
       scrutinee? := some (.tuple [.int, .int])
       patterns :=
         [.anyOf
            [.tuple [.asPattern xLabel (.literal (.int 1)), .binding yLabel],
             .tuple [.binding yLabel,
               .anyOf [.asPattern xLabel (.literal (.int 2)), .binding xLabel]]]]
       span := Span.synthetic }]

/-- The arm of `eitherWay`, with the paths through the first alternative. -/
def Sample.eitherWayArm : CompiledArm where
  pattern :=
    .anyOf
      [.tuple [.asPattern xLabel (.literal (.int 1)), .binding yLabel],
       .tuple [.binding yLabel,
         .anyOf [.asPattern xLabel (.literal (.int 2)), .binding xLabel]]]
  bindings := [(xLabel, [.element 0]), (yLabel, [.element 1])]

def Sample.eitherWayCompiled : CompiledUnit where
  session := ⟨0⟩
  name := "pairs"
  exports := []
  sites := [⟨.matchArms, Span.synthetic, [eitherWayArm]⟩]
  contracts := .empty

theorem Sample.compile_eitherWay :
    eitherWay.compile ⟨0⟩ registry .standard = .ok eitherWayCompiled := rfl

/-- Through the second alternative of both alternations, the names come in the
other order. -/
theorem CompiledUnit.eitherWay_binds_names :
    ((Sample.eitherWayCompiled.matcher Sample.runtime).matchPattern Sample.eitherWayArm.pattern
        (.tuple [.int 5, .int 7])).1 =
          .ok (some [(Sample.yLabel, .int 5), (Sample.xLabel, .int 7)]) ∧
      [Sample.yLabel, Sample.xLabel].Nodup ∧
      [Sample.yLabel, Sample.xLabel].Perm (Sample.eitherWayArm.bindings.map (·.1)) := by
  have matched : ((Sample.eitherWayCompiled.matcher Sample.runtime).matchPattern
      Sample.eitherWayArm.pattern (.tuple [.int 5, .int 7])).1 =
        .ok (some [(Sample.yLabel, .int 5), (Sample.xLabel, .int 7)]) := rfl
  have names := CompiledUnit.match_binds_names Sample.registry_built Sample.compile_eitherWay
    Sample.runtime List.mem_cons_self List.mem_cons_self matched
  exact ⟨matched, names⟩

end StructuralProducts
