import StructuralProducts.Proofs.Pattern.Acceptance

namespace StructuralProducts

/-!
# Types of lowered patterns

A lowered pattern carries no types, but its contract table determines what it can
be matched against.  `HasType` says so by the shape of the pattern: a literal has
one type, a tuple that of its elements, a deconstruction the type whose contract
it names, with one pattern for each component type.

A well-formed pattern is lowered to a pattern of the type it was written against.
The nesting limit and the bound names play no part in this.
-/

namespace LoweredPattern

mutual

/-- The pattern can be matched against the values of a type. -/
inductive HasType (table : ContractTable) : LoweredPattern -> Ty -> Prop where
  | wildcard {ty : Ty} : HasType table .wildcard ty
  | binding {name : Name} {ty : Ty} : HasType table (.binding name) ty
  | literal {literal : Literal} : HasType table (.literal literal) literal.ty
  | tuple {elements : List LoweredPattern} {types : List Ty}
      (each : HaveTypes table elements types) : HasType table (.tuple elements) (.tuple types)
  | deconstruct {id : ContractId} {entry : ContractEntry} {fields : List LoweredPattern}
      (present : table.entryAt? id = some entry) (each : HaveTypes table fields entry.types) :
      HasType table (.deconstruct id fields) (.named entry.contract.ident)
  | anyOf {alternatives : List LoweredPattern} {ty : Ty}
      (each : forall alternative, alternative ∈ alternatives -> HasType table alternative ty) :
      HasType table (.anyOf alternatives) ty
  | asPattern {name : Name} {inner : LoweredPattern} {ty : Ty}
      (typed : HasType table inner ty) : HasType table (.asPattern name inner) ty

/-- Equally many patterns as types, each of the type at its position. -/
inductive HaveTypes (table : ContractTable) : List LoweredPattern -> List Ty -> Prop where
  | nil : HaveTypes table [] []
  | cons {pattern : LoweredPattern} {ty : Ty} {rest : List LoweredPattern} {types : List Ty}
      (head : HasType table pattern ty) (tail : HaveTypes table rest types) :
      HaveTypes table (pattern :: rest) (ty :: types)

end

end LoweredPattern

namespace Pattern

open PatternNode

variable {registry : Registry} {table : ContractTable} {maxDepth? : Option Nat}

theorem Images.haveTypes {patterns : List Pattern} {lowered : List LoweredPattern}
    {types : List Ty} (images : Images registry table patterns lowered)
    (count : types.length = patterns.length)
    (each : forall (position : Nat) (pattern : Pattern) (image : LoweredPattern) (ty : Ty),
      patterns[position]? = some pattern -> types[position]? = some ty ->
        Image registry table pattern image -> image.HasType table ty) :
    LoweredPattern.HaveTypes table lowered types := by
  induction patterns generalizing lowered types with
  | nil =>
      cases images
      rw [List.length_nil, List.length_eq_zero_iff] at count
      rw [count]
      exact .nil
  | cons pattern rest inductionHypothesis =>
      cases images with
      | cons head tail =>
          cases types with
          | nil => cases count
          | cons ty others =>
              have first := each 0 pattern _ ty rfl rfl head
              have later := inductionHypothesis tail (Nat.succ.inj count)
                fun position => each (position + 1)
              exact .cons first later

theorem Image.hasType (keys : registry.KeysAgree) (pattern : Pattern) {lowered : LoweredPattern}
    {ty : Ty} {depth : Nat} (image : Image registry table pattern lowered)
    (fits : Fits registry maxDepth? ⟨pattern, some ty, depth⟩) : lowered.HasType table ty := by
  induction pattern using Pattern.ind generalizing lowered ty depth with
  | wildcard =>
      cases image
      exact .wildcard
  | binding name =>
      cases image
      exact .binding
  | literal literal =>
      cases image
      rw [fits_literal_iff] at fits
      rw [fits.2 ty rfl]
      exact .literal
  | tuple elements inductionHypothesis =>
      cases image with
      | tuple images =>
          rw [fits_tuple_iff] at fits
          rcases fits with ⟨_, accepts, each⟩
          rcases accepts ty rfl with ⟨types, rfl, count⟩
          refine .tuple (images.haveTypes count ?_)
          intro position element lowered elementType found typed elementImage
          have elementFits := each position element found
          simp only [Ty.elementType?, typed] at elementFits
          exact inductionHypothesis element (List.mem_of_getElem? found) elementImage elementFits
  | deconstruct typeName arguments span inductionHypothesis =>
      cases image with
      | @deconstruct _ _ _ id ident entry _ opens images =>
          rw [fits_deconstruct_iff] at fits
          rcases fits with ⟨_, ⟨other, types, unique, accepts, components, count⟩, each⟩
          -- The contract in the table is that of the identity the name resolves to.
          have same : ident = other := by
            have resolved := opens.resolved
            rw [unique] at resolved
            cases resolved
            rfl
          subst same
          have types_eq : entry.types = types := by
            rw [registry.componentTypes?_eq_map, opens.provided] at components
            exact Option.some.inj components
          have ident_eq := keys.ident_of_provision? opens.provided
          rw [accepts ty rfl, ← ident_eq]
          refine .deconstruct opens.present (images.haveTypes (types_eq ▸ count) ?_)
          intro position argument lowered argumentType found typed argumentImage
          have argumentFits := each position argument found
          rw [opens.argumentType?_eq, typed] at argumentFits
          exact inductionHypothesis argument (List.mem_of_getElem? found) argumentImage argumentFits
  | anyOf alternatives inductionHypothesis =>
      cases image with
      | anyOf images =>
          rw [fits_anyOf_iff] at fits
          apply LoweredPattern.HasType.anyOf
          intro alternative member
          rcases images.exists_of_mem member with ⟨written, writtenMember, writtenImage⟩
          exact inductionHypothesis written writtenMember writtenImage
            (fits.2.2 written writtenMember)
  | asPattern name inner inductionHypothesis =>
      cases image with
      | asPattern innerImage =>
          rw [fits_asPattern_iff] at fits
          exact .asPattern (inductionHypothesis innerImage fits.2)

end Pattern

/-! ## Compiled units -/

namespace PatternUnit

variable {registry : Registry} {written : PatternUnit} {session : SessionId}
  {limits : LoweringLimits} {compiled : CompiledUnit}

/-- Every contract of a compiled unit is the one that the registry provides. -/
theorem provision?_of_compile (keys : registry.KeysAgree)
    (compiles : written.compile session registry limits = .ok compiled) {id : ContractId}
    {entry : ContractEntry} (present : compiled.contracts.entryAt? id = some entry) :
    registry.provision? entry.contract.ident = some entry := by
  obtain ⟨_, rfl⟩ := (written.compile_eq_ok_iff_raised session limits compiled).mp compiles
  have run := (LoweringRun.start registry limits).sites_faithful keys
    (LoweringProgress.empty_agrees registry _) written.sites
  exact run.1.agrees.entries entry (List.mem_of_getElem? present)

theorem hasType_of_compile (keys : registry.KeysAgree)
    (compiles : written.compile session registry limits = .ok compiled) {index : Nat}
    {site : PatternSite} {lowered : CompiledSite} {ty : Ty}
    (writtenSite : written.sites[index]? = some site)
    (compiledSite : compiled.sites[index]? = some lowered)
    (scrutinee : site.scrutinee? = some ty) {arm : CompiledArm} (member : arm ∈ lowered.arms) :
    arm.pattern.HasType compiled.contracts ty := by
  rcases exists_image_of_arm keys compiles compiledSite member with
    ⟨other, pattern, otherSite, wellFormed, image, _⟩
  rw [writtenSite] at otherSite
  cases otherSite
  exact image.hasType keys pattern (scrutinee ▸ wellFormed.nodes)

end PatternUnit
end StructuralProducts
