import StructuralProducts.Proofs.Reflection.Discovery

namespace StructuralProducts

/-!
# Instances of foreign classes

A constructor puts each argument into the field that the parameter names, so an
instance holds the arguments in the order of the fields, and unit in the fields
that no parameter names.  A discovered descriptor therefore builds exactly from
the argument lists that inhabit its types.  If its accessors read the fields of
their names, it reads the arguments back.

What a call does is first said for any class and any position, whether or not a
parameter is repeated.  For the classes that introspection accepts the parameters
are distinct, and each sets a field of its own.
-/

namespace ForeignClass

variable {owner : ForeignClass}

/-! ## Fields and slots -/

/-- A name and a slot belong to each other through the field in that slot. -/
theorem exists_field_of_slot? {name : String} {slot : Nat} (found : owner.slot? name = some slot) :
    Exists fun field => owner.fields[slot]? = some field ∧ field.name = name ∧
      owner.typedSlot? name = some (slot, field.ty) := by
  simp only [slot?, typedSlot?, Option.map_eq_some_iff, Option.bind_eq_some_iff] at found
  rcases found with ⟨entry, ⟨position, located, field, present, rfl⟩, rfl⟩
  rcases List.findIdx?_eq_some_iff_getElem.mp located with ⟨inside, named, _⟩
  rw [List.getElem?_eq_getElem inside] at present
  cases present
  refine ⟨owner.fields[position], List.getElem?_eq_getElem inside, eq_of_beq named, ?_⟩
  simp only [typedSlot?, located, Option.bind_some, List.getElem?_eq_getElem inside,
    Option.map_some]

theorem slot?_injective {first second : String} {slot : Nat}
    (firstFound : owner.slot? first = some slot) (secondFound : owner.slot? second = some slot) :
    first = second := by
  rcases exists_field_of_slot? firstFound with ⟨field, present, rfl, _⟩
  rcases exists_field_of_slot? secondFound with ⟨other, otherPresent, rfl, _⟩
  rw [present] at otherPresent
  cases otherPresent
  rfl

theorem exists_slot?_of_fieldType? {name : String} {ty : Ty}
    (typed : owner.fieldType? name = some ty) : Exists fun slot => owner.slot? name = some slot := by
  rcases Option.map_eq_some_iff.mp typed with ⟨entry, found, _⟩
  exact ⟨entry.1, by rw [slot?, found, Option.map_some]⟩

/-! ## Putting arguments into slots -/

/-- The slots after each argument was put into the slot of its parameter. -/
def scatter (owner : ForeignClass) : List String -> List Value -> List Value -> List Value
  | parameter :: parameters, argument :: arguments, slots =>
      owner.scatter parameters arguments
        (match owner.slot? parameter with
        | some slot => slots.set slot argument
        | none => slots)
  | _, _, slots => slots

/-- The fields of the instance that a constructor with given parameters makes. -/
def filled (owner : ForeignClass) (parameters : List String) (arguments : List Value) :
    List Value :=
  owner.scatter parameters arguments (List.replicate owner.fields.length .unit)

/-- The fields of an instance that the canonical constructor makes. -/
def stored (owner : ForeignClass) (arguments : List Value) : List Value :=
  owner.scatter owner.canonicalParameters arguments (List.replicate owner.fields.length .unit)

/-- An argument inhabits the type of the field that a parameter names. -/
def Suits (owner : ForeignClass) (parameter : String) (argument : Value) : Prop :=
  Exists fun ty => owner.fieldType? parameter = some ty ∧ argument.conforms ty = true

/-- Arguments that suit their parameters are those that inhabit the types of the
fields. -/
theorem suits_iff_eachConforms {parameters : List String} {types : List Ty}
    (typed : parameters.map owner.fieldType? = types.map some) (arguments : List Value) :
    List.Forall₂ owner.Suits parameters arguments ↔
      Value.eachConforms arguments types = true := by
  induction parameters generalizing types arguments with
  | nil =>
      rw [List.map_nil, eq_comm, List.map_eq_nil_iff] at typed
      subst typed
      cases arguments with
      | nil => exact iff_of_true .nil rfl
      | cons argument others => exact iff_of_false nofun nofun
  | cons parameter rest inductionHypothesis =>
      cases types with
      | nil => cases typed
      | cons ty later =>
          rw [List.map_cons, List.map_cons, List.cons_eq_cons] at typed
          cases arguments with
          | nil => exact iff_of_false nofun nofun
          | cons argument others =>
              have tail := inductionHypothesis typed.2 others
              rw [List.forall₂_cons, Value.eachConforms, Bool.and_eq_true]
              simp only [Suits, typed.1, Option.some.injEq, exists_eq_left', tail]

/-- The host puts the arguments into the slots exactly when they suit their
parameters. -/
theorem place_eq_ok_iff (owner : ForeignClass) (interner : Interner)
    {parameters : List String} {arguments : List Value}
    (count : arguments.length = parameters.length) (index : Nat) (slots final : List Value) :
    owner.place interner index parameters arguments slots = .ok final ↔
      List.Forall₂ owner.Suits parameters arguments ∧
        final = owner.scatter parameters arguments slots := by
  induction parameters generalizing arguments index slots with
  | nil =>
      rw [List.length_nil, List.length_eq_zero_iff] at count
      subst count
      simp [place, scatter, eq_comm]
  | cons parameter rest inductionHypothesis =>
      cases arguments with
      | nil => cases count
      | cons argument others =>
          rw [List.forall₂_cons]
          unfold place scatter
          cases found : owner.typedSlot? parameter with
          | none => simp [Suits, fieldType?, found]
          | some entry =>
              rcases entry with ⟨slot, ty⟩
              have located : owner.slot? parameter = some slot := by
                rw [slot?, found, Option.map_some]
              have later := inductionHypothesis (Nat.succ.inj count) (index + 1)
                (slots.set slot argument)
              by_cases conforms : argument.conforms ty = true
              · simp [Suits, fieldType?, found, conforms, located, later]
              · simp [Suits, fieldType?, found, conforms]

theorem length_scatter (parameters : List String) (arguments slots : List Value) :
    (owner.scatter parameters arguments slots).length = slots.length := by
  induction parameters generalizing arguments slots with
  | nil => simp only [scatter]
  | cons parameter rest inductionHypothesis =>
      cases arguments with
      | nil => simp only [scatter]
      | cons argument others =>
          rw [scatter, inductionHypothesis]
          cases owner.slot? parameter with
          | none => rfl
          | some slot => exact List.length_set

/-- The position of the last parameter that names the field in a slot. -/
def setter? (owner : ForeignClass) (slot : Nat) : List String -> Option Nat
  | [] => none
  | parameter :: rest =>
      match owner.setter? slot rest with
      | some later => some (later + 1)
      | none => if owner.slot? parameter = some slot then some 0 else none

theorem exists_located_of_setter? {slot index : Nat} {parameters : List String}
    (found : owner.setter? slot parameters = some index) : Exists fun parameter =>
      parameters[index]? = some parameter ∧ owner.slot? parameter = some slot := by
  induction parameters generalizing index with
  | nil => cases found
  | cons parameter rest inductionHypothesis =>
      unfold setter? at found
      split at found
      · next later earlier =>
          cases found
          exact inductionHypothesis earlier
      · split at found
        · next located =>
            cases found
            exact ⟨parameter, rfl, located⟩
        · cases found

theorem setter?_lt_length {slot index : Nat} {parameters : List String}
    (found : owner.setter? slot parameters = some index) : index < parameters.length := by
  rcases exists_located_of_setter? found with ⟨parameter, named, _⟩
  exact (List.getElem?_eq_some_iff.mp named).1

theorem slot?_ne_of_setter?_eq_none {slot : Nat} {parameters : List String}
    (absent : owner.setter? slot parameters = none) {parameter : String}
    (member : parameter ∈ parameters) : owner.slot? parameter ≠ some slot := by
  induction parameters with
  | nil => cases member
  | cons first rest inductionHypothesis =>
      unfold setter? at absent
      split at absent
      · cases absent
      · next later =>
          split at absent
          · cases absent
          · next other =>
              rcases List.mem_cons.mp member with rfl | inRest
              · exact other
              · exact inductionHypothesis later inRest

/-- Where no parameter is repeated, a parameter is the last one that names its
field. -/
theorem setter?_of_nodup {parameters : List String} (distinct : parameters.Nodup)
    {index slot : Nat} {parameter : String} (named : parameters[index]? = some parameter)
    (located : owner.slot? parameter = some slot) :
    owner.setter? slot parameters = some index := by
  cases found : owner.setter? slot parameters with
  | none => exact absurd located (slot?_ne_of_setter?_eq_none found (List.mem_of_getElem? named))
  | some setter =>
      rcases exists_located_of_setter? found with ⟨other, otherNamed, otherLocated⟩
      rw [← slot?_injective located otherLocated] at otherNamed
      have same := (List.getElem?_inj (setter?_lt_length found) distinct).mp
        (otherNamed.trans named.symm)
      rw [same]

/-- A slot holds the argument of the last parameter that names its field, or what
it held before. -/
theorem getElem?_scatter {slot : Nat} {parameters : List String} {arguments : List Value}
    (count : arguments.length = parameters.length) {slots : List Value}
    (inside : slot < slots.length) : (owner.scatter parameters arguments slots)[slot]? =
      (owner.setter? slot parameters).elim slots[slot]? (arguments[·]?) := by
  induction parameters generalizing arguments slots with
  | nil => simp only [scatter, setter?, Option.elim_none]
  | cons parameter rest inductionHypothesis =>
      cases arguments with
      | nil => cases count
      | cons argument others =>
          rw [scatter, inductionHypothesis (Nat.succ.inj count), setter?]
          · cases owner.setter? slot rest with
            | some later => rfl
            | none =>
                by_cases same : owner.slot? parameter = some slot
                · rw [if_pos same, same]
                  exact List.getElem?_set_self inside
                · rw [if_neg same]
                  cases located : owner.slot? parameter with
                  | none => rfl
                  | some other =>
                      have apart : other ≠ slot := by
                        rintro rfl
                        exact same located
                      exact List.getElem?_set_ne apart
          · cases owner.slot? parameter with
            | none => exact inside
            | some other => exact List.length_set.symm ▸ inside

theorem length_filled (parameters : List String) (arguments : List Value) :
    (owner.filled parameters arguments).length = owner.fields.length := by
  rw [filled, length_scatter, List.length_replicate]

/-- A field holds the argument of the last parameter that names it, or unit. -/
theorem getElem?_filled {parameters : List String} {slot : Nat} {arguments : List Value}
    (count : arguments.length = parameters.length)
    (inside : slot < owner.fields.length) : (owner.filled parameters arguments)[slot]? =
      (owner.setter? slot parameters).elim (some .unit) (arguments[·]?) := by
  have replicated : slot < (List.replicate owner.fields.length Value.unit).length := by
    rw [List.length_replicate]
    exact inside
  rw [filled, getElem?_scatter count replicated, List.getElem?_replicate_of_lt inside]

/-! ## Calls by position -/

/-- A constructor call succeeds exactly when there is a constructor at the position
and the arguments suit its parameters. -/
theorem invoke_eq_ok_iff (interner : Interner) (position : Nat) (arguments : List Value)
    (value : Value) : owner.invoke interner position arguments = .ok value ↔
      Exists fun constructor => owner.constructors[position]? = some constructor ∧
        List.Forall₂ owner.Suits constructor.parameters arguments ∧
        value = .record owner.ident (owner.filled constructor.parameters arguments) := by
  unfold invoke
  cases owner.constructors[position]? with
  | none => exact iff_of_false nofun nofun
  | some constructor =>
      simp only [Option.some.injEq, exists_eq_left']
      by_cases count : arguments.length = constructor.parameters.length
      · have placed := owner.place_eq_ok_iff interner count 0
          (List.replicate owner.fields.length .unit)
        rw [if_pos count]
        cases outcome : owner.place interner 0 constructor.parameters arguments
            (List.replicate owner.fields.length .unit) with
        | error failure =>
            rw [outcome] at placed
            apply iff_of_false nofun
            rintro ⟨suits, _⟩
            cases (placed _).mpr ⟨suits, rfl⟩
        | ok final =>
            rw [outcome] at placed
            rcases (placed final).mp rfl with ⟨suits, rfl⟩
            simp only [Except.map, Except.ok.injEq, suits, true_and]
            exact eq_comm
      · rw [if_neg count]
        apply iff_of_false nofun
        rintro ⟨suits, _⟩
        exact count suits.length_eq.symm

/-- A method call on an instance succeeds exactly when there is a method without
parameters at the position and the field that it reads is there. -/
theorem read_record_eq_ok_iff (position : Nat) (fields : List Value) (value : Value) :
    owner.read position (.record owner.ident fields) = .ok value ↔
      Exists fun method => owner.methods[position]? = some method ∧
        method.parameterCount = 0 ∧
        Exists fun slot => method.slot = some slot ∧ fields[slot]? = some value := by
  unfold read
  cases owner.methods[position]? with
  | none => exact iff_of_false nofun nofun
  | some method =>
      simp only [Option.some.injEq, exists_eq_left']
      by_cases plain : method.parameterCount = 0
      · rw [if_pos plain, ← Option.bind_eq_some_iff]
        simp only [plain, true_and, if_true]
        cases method.slot.bind (fields[·]?) with
        | none => exact iff_of_false nofun nofun
        | some field => simp only [Except.ok.injEq, Option.some.injEq]
      · rw [if_neg plain]
        exact iff_of_false nofun (fun found => plain found.1)

/-- A method with a field to read succeeds on whatever has that field. -/
theorem exists_read_eq {position slot : Nat} {method : ForeignMethod}
    (present : owner.methods[position]? = some method) (plain : method.parameterCount = 0)
    (reading : method.slot = some slot) (value : Value) : Exists fun cause =>
      owner.read position value = (value.fieldOf? owner.ident slot).elim (.error cause) .ok := by
  simp only [read, present, plain, if_true, reading, Option.bind_some]
  cases value with
  | record ident fields =>
      by_cases same : ident = owner.ident
      · simp only [Value.fieldOf?, if_pos same]
        cases fields[slot]? with
        | some field => exact ⟨.notAFieldRead owner.path method.name, rfl⟩
        | none => exact ⟨_, rfl⟩
      · simp only [Value.fieldOf?, if_neg same]
        exact ⟨_, rfl⟩
  | _ => exact ⟨_, rfl⟩

/-- Every method without arguments that has the name of a canonical parameter
reads the field of that name. -/
def ReadsFields (owner : ForeignClass) : Prop :=
  forall method, method ∈ owner.methods -> method.parameterCount = 0 ->
    method.name ∈ owner.canonicalParameters -> method.slot = owner.slot? method.name

end ForeignClass

/-! ## Descriptors that call into a class -/

/-- The position of the constructor that a builder calls, if it calls a class. -/
def Builder.position? : Builder -> Option Nat
  | .reflective _ handle => some handle.index
  | _ => none

/-- The position of the method that a reader calls, if it calls a class. -/
def Reader.position? : Reader -> Option Nat
  | .reflective _ handle => some handle.index
  | _ => none

/-- A descriptor calls into the class behind one handle of a session. -/
structure Descriptor.CallsInto (descriptor : Descriptor) (session : SessionId)
    (handle : ClassHandle) : Prop where
  builder : Exists fun position => descriptor.builder = .reflective session ⟨handle, position⟩
  readers : forall reader, reader ∈ descriptor.readers ->
    Exists fun position => reader = .reflective session ⟨handle, position⟩

namespace Descriptor.CallsInto

variable {descriptor : Descriptor} {session : SessionId} {handle : ClassHandle}
  {owner : ForeignClass} {runtime : Runtime}

/-- Building calls the constructor at the position of the builder. -/
theorem construct_eq_ok_iff (calls : descriptor.CallsInto session handle)
    (present : (runtime session).symbols.classAt? handle = some owner) (arguments : List Value)
    (value : Value) : descriptor.construct runtime arguments = .ok value ↔
      arguments.length = descriptor.arity ∧ Exists fun constructor =>
        descriptor.builder.position?.bind (owner.constructors[·]?) = some constructor ∧
        List.Forall₂ owner.Suits constructor.parameters arguments ∧
        value = .record owner.ident (owner.filled constructor.parameters arguments) := by
  rcases calls.builder with ⟨position, builder⟩
  unfold construct
  by_cases count : arguments.length = descriptor.arity
  · rw [if_pos count, builder, Builder.position?, Option.bind_some,
      ← owner.invoke_eq_ok_iff (runtime session).interner]
    simp only [build, builder, Host.invoke, present, count, true_and]
    cases owner.invoke (runtime session).interner position arguments with
    | error failure =>
        constructor
        · intro built
          cases built
        · intro built
          cases built
    | ok built => simp only [Except.mapError, Except.ok.injEq]
  · rw [if_neg count]
    constructor
    · intro built
      cases built
    · intro built
      exact absurd built.1 count

/-- A component of an instance is read by the method at the position of its
reader. -/
theorem component_eq_ok_iff (calls : descriptor.CallsInto session handle)
    (present : (runtime session).symbols.classAt? handle = some owner) {index : Nat}
    {reader : Reader} (found : descriptor.readers[index]? = some reader) (fields : List Value)
    (part : Value) :
    descriptor.component runtime (.record owner.ident fields) index = .ok part ↔
      Exists fun method => reader.position?.bind (owner.methods[·]?) = some method ∧
        method.parameterCount = 0 ∧
        Exists fun slot => method.slot = some slot ∧ fields[slot]? = some part := by
  rcases calls.readers reader (List.mem_of_getElem? found) with ⟨position, rfl⟩
  rw [Reader.position?, Option.bind_some, ← owner.read_record_eq_ok_iff]
  simp only [component, found, readWith, Host.read, present]
  cases owner.read position (.record owner.ident fields) with
  | error failure =>
      constructor
      · intro read
        cases read
      · intro read
        cases read
  | ok field => simp only [Except.mapError, Except.ok.injEq]

end Descriptor.CallsInto

/-! ## Descriptors of foreign classes -/

namespace Host.Discovers

variable {host : Host} {handle : ClassHandle} {owner : ForeignClass} {mirror : Descriptor}
  {runtime : Runtime}

theorem nodup_canonicalParameters (discovers : host.Discovers handle owner mirror) :
    owner.canonicalParameters.Nodup :=
  host.interner.nodup_of_internAll (discovers.labels ▸ mirror.labels_nodup)

theorem length_canonicalParameters (discovers : host.Discovers handle owner mirror) :
    owner.canonicalParameters.length = mirror.arity := by
  rw [Descriptor.arity, discovers.labels, Interner.length_internAll]

/-- Arguments that suit the canonical parameters are those that inhabit the
component types. -/
theorem suits_iff (discovers : host.Discovers handle owner mirror) (arguments : List Value) :
    List.Forall₂ owner.Suits owner.canonicalParameters arguments ↔
      Value.eachConforms arguments mirror.types = true :=
  ForeignClass.suits_iff_eachConforms discovers.types arguments

theorem callsInto (discovers : host.Discovers handle owner mirror) :
    mirror.CallsInto host.session handle where
  builder := by
    rcases discovers.builder with ⟨position, _, _, _, calls⟩
    exact ⟨position, calls⟩
  readers := by
    intro reader member
    rcases List.getElem_of_mem member with ⟨index, inside, rfl⟩
    rcases List.forall₂_iff_get.mp discovers.readers with ⟨count, each⟩
    rcases each index (count.symm ▸ inside) inside with ⟨position, _, _, _, _, calls⟩
    exact ⟨position, calls⟩

/-- A discovered descriptor builds exactly from the argument lists that inhabit
its types, and puts the arguments into the fields that the parameters name. -/
theorem construct_iff (discovers : host.Discovers handle owner mirror)
    (loaded : (runtime host.session).symbols.classAt? handle = some owner)
    (arguments : List Value) (value : Value) :
    mirror.construct runtime arguments = .ok value ↔
      Value.eachConforms arguments mirror.types = true ∧
        value = .record owner.ident (owner.stored arguments) := by
  rcases discovers.builder with ⟨position, constructor, present, canonical, builder⟩
  have located : mirror.builder.position?.bind (owner.constructors[·]?) = some constructor := by
    rw [builder]
    exact present
  rw [discovers.callsInto.construct_eq_ok_iff loaded, ← discovers.suits_iff]
  simp only [located, Option.some.injEq, exists_eq_left', canonical]
  apply and_iff_right_of_imp
  rintro ⟨suits, _⟩
  exact suits.length_eq.symm.trans discovers.length_canonicalParameters

/-- The slot of a parameter holds the argument of the parameter. -/
theorem getElem?_stored (discovers : host.Discovers handle owner mirror) {arguments : List Value}
    (count : arguments.length = mirror.arity) {index slot : Nat} {parameter : String}
    (named : owner.canonicalParameters[index]? = some parameter)
    (located : owner.slot? parameter = some slot) :
    (owner.stored arguments)[slot]? = arguments[index]? := by
  have enough := count.trans discovers.length_canonicalParameters.symm
  change (owner.filled owner.canonicalParameters arguments)[slot]? = _
  rw [ForeignClass.getElem?_filled enough (ForeignClass.slot?_lt_length located),
    ForeignClass.setter?_of_nodup discovers.nodup_canonicalParameters named located,
    Option.elim_some]

theorem exists_slot? (discovers : host.Discovers handle owner mirror) {index : Nat}
    {parameter : String} (named : owner.canonicalParameters[index]? = some parameter) :
    Exists fun slot => owner.slot? parameter = some slot := by
  have typed := congrArg (fun types => types[index]?) discovers.types
  simp only [List.getElem?_map, named, Option.map_some] at typed
  rcases Option.map_eq_some_iff.mp typed.symm with ⟨ty, _, found⟩
  exact ForeignClass.exists_slot?_of_fieldType? found.symm

/-- If the accessors read the fields of their names, a component is the field that
its parameter names. -/
theorem exists_component_eq (discovers : host.Discovers handle owner mirror)
    (loaded : (runtime host.session).symbols.classAt? handle = some owner)
    (reads : owner.ReadsFields) {index slot : Nat} {parameter : String}
    (named : owner.canonicalParameters[index]? = some parameter)
    (located : owner.slot? parameter = some slot) (value : Value) : Exists fun cause =>
      mirror.component runtime value index =
        (value.fieldOf? owner.ident slot).elim (.error (.invocation mirror.path cause)) .ok := by
  rcases List.getElem?_eq_some_iff.mp named with ⟨inside, rfl⟩
  rcases List.forall₂_iff_get.mp discovers.readers with ⟨count, each⟩
  have readerInside : index < mirror.readers.length := count ▸ inside
  rcases each index inside readerInside with ⟨position, method, present, name, plain, reader⟩
  rw [List.get_eq_getElem] at name reader
  have reading : method.slot = some slot := by
    have member : method.name ∈ owner.canonicalParameters := name ▸ List.getElem_mem inside
    rw [reads method (List.mem_of_getElem? present) plain member, name]
    exact located
  rcases ForeignClass.exists_read_eq present plain reading value with ⟨cause, read⟩
  refine ⟨cause, ?_⟩
  simp only [Descriptor.component, List.getElem?_eq_getElem readerInside, reader,
    Descriptor.readWith, Host.read, loaded, read]
  cases value.fieldOf? owner.ident slot with
  | none => rfl
  | some field => rfl

/-- If the accessors read the fields of their names, the arguments of an instance
are read back. -/
theorem components_stored (discovers : host.Discovers handle owner mirror)
    (loaded : (runtime host.session).symbols.classAt? handle = some owner)
    (reads : owner.ReadsFields) {arguments : List Value}
    (conform : Value.eachConforms arguments mirror.types = true) :
    mirror.components runtime (.record owner.ident (owner.stored arguments)) =
      .ok arguments := by
  have count := (Value.length_of_eachConforms conform).trans mirror.types_length_eq_arity
  rw [Descriptor.components_eq_ok_iff]
  refine ⟨count, ?_⟩
  intro index argument given
  have inside : index < owner.canonicalParameters.length := by
    rw [discovers.length_canonicalParameters, ← count]
    exact (List.getElem?_eq_some_iff.mp given).1
  have named := List.getElem?_eq_getElem inside
  rcases discovers.exists_slot? named with ⟨slot, located⟩
  have held := (discovers.getElem?_stored count named located).trans given
  rcases discovers.exists_component_eq loaded reads named located
    (.record owner.ident (owner.stored arguments)) with ⟨cause, component⟩
  rw [component, Value.fieldOf?, if_pos rfl, held, Option.elim_some]

end Host.Discovers
end StructuralProducts
