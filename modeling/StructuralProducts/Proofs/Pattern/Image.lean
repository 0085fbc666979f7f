import StructuralProducts.Proofs.Pattern.WellFormed

namespace StructuralProducts

/-!
# The image of a pattern

A lowered pattern is the image of a written one when it is the same tree, with a
position of the contract table in place of each type name.  The contract at that
position is the one that the registry provides for the type that the name
resolves to.  Being an image survives the growth of the table.
-/

/-! ## Positions in a growing table -/

namespace ContractTable

theorem entryAt?_of_isPrefix {table later : ContractTable}
    (grows : table.entries <+: later.entries) {id : ContractId} {entry : ContractEntry}
    (present : table.entryAt? id = some entry) : later.entryAt? id = some entry := by
  rcases grows with ⟨added, equal⟩
  have inside := (List.getElem?_eq_some_iff.mp present).1
  unfold entryAt?
  rw [← equal, List.getElem?_append_left inside]
  exact present

theorem find?_of_isPrefix {table later : ContractTable}
    (grows : table.entries <+: later.entries) {ident : TypeId} {id : ContractId}
    (found : table.find? ident = some id) : later.find? ident = some id := by
  rcases grows with ⟨added, equal⟩
  rcases Option.map_eq_some_iff.mp found with ⟨position, located, rfl⟩
  unfold find?
  rw [← equal, List.findIdx?_append, located]
  rfl

theorem exists_entryAt?_of_find? {table : ContractTable} {ident : TypeId} {id : ContractId}
    (found : table.find? ident = some id) :
    Exists fun entry => table.entryAt? id = some entry ∧ entry ∈ table.entries ∧
      entry.contract.ident = ident := by
  rcases Option.map_eq_some_iff.mp found with ⟨position, located, rfl⟩
  rcases List.findIdx?_eq_some_iff_getElem.mp located with ⟨inside, matching, _⟩
  exact ⟨table.entries[position], List.getElem?_eq_getElem inside, List.getElem_mem inside,
    eq_of_beq matching⟩

/-- A position of the table stands for a written type name: the name is resolved,
and the contract is the one that the registry provides. -/
structure Opens (registry : Registry) (table : ContractTable) (typeName : Name) (id : ContractId)
    (ident : TypeId) (entry : ContractEntry) : Prop where
  resolved : registry.resolve typeName = .unique ident
  found : table.find? ident = some id
  present : table.entryAt? id = some entry
  provided : registry.provision? ident = some entry

theorem Opens.mono {registry : Registry} {table later : ContractTable} {typeName : Name}
    {id : ContractId} {ident : TypeId} {entry : ContractEntry}
    (opens : Opens registry table typeName id ident entry)
    (grows : table.entries <+: later.entries) :
    Opens registry later typeName id ident entry :=
  ⟨opens.resolved, find?_of_isPrefix grows opens.found,
    entryAt?_of_isPrefix grows opens.present, opens.provided⟩

/-- What is expected of the arguments are the types of the contract. -/
theorem Opens.argumentType?_eq {registry : Registry} {table : ContractTable} {typeName : Name}
    {id : ContractId} {ident : TypeId} {entry : ContractEntry}
    (opens : Opens registry table typeName id ident entry) (position : Nat) :
    registry.argumentType? typeName position = entry.types[position]? := by
  rw [Registry.argumentType?, opens.resolved]
  simp only [registry.componentTypes?_eq_map, opens.provided, Option.map_some, Option.bind_some]

end ContractTable

namespace Pattern

mutual

/-- The lowered pattern is the written one with contracts in place of type
names. -/
inductive Image (registry : Registry) (table : ContractTable) :
    Pattern -> LoweredPattern -> Prop where
  | wildcard : Image registry table .wildcard .wildcard
  | binding {name : Name} : Image registry table (.binding name) (.binding name)
  | literal {literal : Literal} : Image registry table (.literal literal) (.literal literal)
  | tuple {elements : List Pattern} {lowered : List LoweredPattern}
      (each : Images registry table elements lowered) :
      Image registry table (.tuple elements) (.tuple lowered)
  | deconstruct {typeName : Name} {arguments : List Pattern} {span : Span} {id : ContractId}
      {ident : TypeId} {entry : ContractEntry} {fields : List LoweredPattern}
      (opens : table.Opens registry typeName id ident entry)
      (each : Images registry table arguments fields) :
      Image registry table (.deconstruct typeName arguments span) (.deconstruct id fields)
  | anyOf {alternatives : List Pattern} {lowered : List LoweredPattern}
      (each : Images registry table alternatives lowered) :
      Image registry table (.anyOf alternatives) (.anyOf lowered)
  | asPattern {name : Name} {inner : Pattern} {lowered : LoweredPattern}
      (image : Image registry table inner lowered) :
      Image registry table (.asPattern name inner) (.asPattern name lowered)

/-- Equally many patterns, each the image of the written one at its position. -/
inductive Images (registry : Registry) (table : ContractTable) :
    List Pattern -> List LoweredPattern -> Prop where
  | nil : Images registry table [] []
  | cons {pattern : Pattern} {lowered : LoweredPattern} {rest : List Pattern}
      {others : List LoweredPattern} (head : Image registry table pattern lowered)
      (tail : Images registry table rest others) :
      Images registry table (pattern :: rest) (lowered :: others)

end

variable {registry : Registry} {table later : ContractTable}

mutual

theorem Image.mono (grows : table.entries <+: later.entries) {pattern : Pattern}
    {lowered : LoweredPattern} :
    Image registry table pattern lowered -> Image registry later pattern lowered
  | .wildcard => .wildcard
  | .binding => .binding
  | .literal => .literal
  | .tuple each => .tuple (each.mono grows)
  | .deconstruct opens each => .deconstruct (opens.mono grows) (each.mono grows)
  | .anyOf each => .anyOf (each.mono grows)
  | .asPattern image => .asPattern (image.mono grows)

theorem Images.mono (grows : table.entries <+: later.entries) {patterns : List Pattern}
    {lowered : List LoweredPattern} :
    Images registry table patterns lowered -> Images registry later patterns lowered
  | .nil => .nil
  | .cons head tail => .cons (head.mono grows) (tail.mono grows)

end

mutual

/-- An image binds the names of the written pattern, in the same order. -/
theorem Image.boundNames_eq {pattern : Pattern} {lowered : LoweredPattern} :
    Image registry table pattern lowered -> lowered.boundNames = pattern.boundNames
  | .wildcard => rfl
  | .binding => rfl
  | .literal => rfl
  | .tuple each => each.allBoundNames_eq
  | .deconstruct _ each => each.allBoundNames_eq
  | .anyOf .nil => rfl
  | .anyOf (.cons head _) => head.boundNames_eq
  | .asPattern image => congrArg (_ :: ·) image.boundNames_eq

theorem Images.allBoundNames_eq {patterns : List Pattern} {lowered : List LoweredPattern} :
    Images registry table patterns lowered ->
      LoweredPattern.allBoundNames lowered = allBoundNames patterns
  | .nil => rfl
  | .cons head tail => by
      rw [LoweredPattern.allBoundNames, allBoundNames, head.boundNames_eq, tail.allBoundNames_eq]

end

theorem Images.length_eq {patterns : List Pattern} {lowered : List LoweredPattern}
    (images : Images registry table patterns lowered) : lowered.length = patterns.length := by
  induction patterns generalizing lowered with
  | nil => cases images; rfl
  | cons pattern rest inductionHypothesis =>
      cases images with
      | cons head tail => rw [List.length_cons, List.length_cons, inductionHypothesis tail]

theorem Images.exists_of_mem {patterns : List Pattern} {lowered : List LoweredPattern}
    (images : Images registry table patterns lowered) {image : LoweredPattern}
    (member : image ∈ lowered) :
    Exists fun pattern => pattern ∈ patterns ∧ Image registry table pattern image := by
  induction patterns generalizing lowered with
  | nil => cases images; cases member
  | cons pattern rest inductionHypothesis =>
      cases images with
      | cons head tail =>
          rcases List.mem_cons.mp member with rfl | later
          · exact ⟨pattern, List.mem_cons_self, head⟩
          · rcases inductionHypothesis tail later with ⟨written, writtenMember, found⟩
            exact ⟨written, List.mem_cons_of_mem _ writtenMember, found⟩

theorem Images.exists_image_of_mem {patterns : List Pattern} {lowered : List LoweredPattern}
    (images : Images registry table patterns lowered) {pattern : Pattern}
    (member : pattern ∈ patterns) :
    Exists fun image => image ∈ lowered ∧ Image registry table pattern image := by
  induction patterns generalizing lowered with
  | nil => cases member
  | cons first rest inductionHypothesis =>
      cases images with
      | cons head tail =>
          rcases List.mem_cons.mp member with rfl | later
          · exact ⟨_, List.mem_cons_self, head⟩
          · rcases inductionHypothesis tail later with ⟨image, imageMember, found⟩
            exact ⟨image, List.mem_cons_of_mem _ imageMember, found⟩

/-- Written patterns bind the same names exactly when their images do. -/
theorem Images.perm_iff {patterns : List Pattern} {lowered : List LoweredPattern}
    (images : Images registry table patterns lowered) :
    (forall first, first ∈ lowered -> forall second, second ∈ lowered ->
        first.boundNames.Perm second.boundNames) ↔
      forall first, first ∈ patterns -> forall second, second ∈ patterns ->
        first.boundNames.Perm second.boundNames := by
  constructor
  · intro agree first firstMember second secondMember
    rcases images.exists_image_of_mem firstMember with ⟨firstImage, firstFound, fromFirst⟩
    rcases images.exists_image_of_mem secondMember with ⟨secondImage, secondFound, fromSecond⟩
    rw [← fromFirst.boundNames_eq, ← fromSecond.boundNames_eq]
    exact agree firstImage firstFound secondImage secondFound
  · intro agree first firstMember second secondMember
    rcases images.exists_of_mem firstMember with ⟨firstWritten, firstFound, toFirst⟩
    rcases images.exists_of_mem secondMember with ⟨secondWritten, secondFound, toSecond⟩
    rw [toFirst.boundNames_eq, toSecond.boundNames_eq]
    exact agree firstWritten firstFound secondWritten secondFound

end Pattern
end StructuralProducts
