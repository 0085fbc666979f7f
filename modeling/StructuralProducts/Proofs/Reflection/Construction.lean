import StructuralProducts.Proofs.Reflection.RoundTrip
import StructuralProducts.Proofs.Reflection.Twins

namespace StructuralProducts

/-!
# Which arguments build an instance

A descriptor builds from an argument list when there is one argument for each
component and each inhabits the type of its component.  The count is looked at
first.  After that the first argument that does not inhabit its type is refused,
and the refusal names its position and its label.

Both producers test in this way, the declaration by itself and the foreign class
when its constructor is called.  They differ in the instance: a native one has the
arguments as its fields, and a foreign one has them in the fields that the
parameters name and unit in all others.
-/

/-! ## The first argument that does not fit -/

/-- The test finds an argument exactly if it does not inhabit its type and all
arguments before it inhabit theirs. -/
theorem Parameter.firstMismatch?_eq_some_iff {start : Nat} {parameters : List Parameter}
    {arguments : List Value} {mismatch : InvokeError} :
    firstMismatch? start parameters arguments = some mismatch ↔
      Exists fun index => Exists fun parameter => Exists fun argument : Value =>
        parameters[index]? = some parameter ∧ arguments[index]? = some argument ∧
        argument.conforms parameter.ty = false ∧
        (forall (earlier : Nat) (other : Parameter) (given : Value), earlier < index ->
          parameters[earlier]? = some other -> arguments[earlier]? = some given ->
            given.conforms other.ty = true) ∧
        mismatch =
          .argumentType (start + index) parameter.label parameter.shown argument.kindName := by
  induction parameters generalizing start arguments with
  | nil => simp [firstMismatch?]
  | cons parameter rest inductionHypothesis =>
      cases arguments with
      | nil => simp [firstMismatch?]
      | cons argument others =>
          rw [firstMismatch?]
          by_cases conforms : argument.conforms parameter.ty = true
          · rw [if_pos conforms, inductionHypothesis]
            constructor
            · rintro ⟨index, found, given, located, supplied, unfit, least, rfl⟩
              refine ⟨index + 1, found, given, located, supplied, unfit, ?_, ?_⟩
              · intro earlier other part before otherLocated partSupplied
                cases earlier with
                | zero =>
                    cases otherLocated
                    cases partSupplied
                    exact conforms
                | succ position =>
                    exact least position other part (Nat.lt_of_succ_lt_succ before) otherLocated
                      partSupplied
              · rw [Nat.add_assoc, Nat.add_comm 1]
            · rintro ⟨index, found, given, located, supplied, unfit, least, rfl⟩
              cases index with
              | zero =>
                  cases located
                  cases supplied
                  rw [conforms] at unfit
                  cases unfit
              | succ position =>
                  refine ⟨position, found, given, located, supplied, unfit, ?_, ?_⟩
                  · intro earlier other part before
                    exact least (earlier + 1) other part (Nat.succ_lt_succ before)
                  · rw [Nat.add_assoc, Nat.add_comm 1]
          · rw [if_neg conforms, Option.some.injEq]
            constructor
            · rintro rfl
              refine ⟨0, parameter, argument, rfl, rfl, Bool.eq_false_iff.mpr conforms, ?_, rfl⟩
              exact fun earlier _ _ before => absurd before (Nat.not_lt_zero earlier)
            · rintro ⟨index, found, given, located, supplied, unfit, least, rfl⟩
              cases index with
              | zero =>
                  cases located
                  cases supplied
                  rfl
              | succ position =>
                  exact absurd (least 0 parameter argument (Nat.zero_lt_succ _) rfl rfl) conforms

theorem Parameter.tested_eq_error_iff (path : String) (parameters : List Parameter)
    (arguments : List Value) (made : Value) (failure : DescriptorError) :
    tested path parameters arguments made = .error failure ↔
      (arguments.length ≠ parameters.length ∧
        failure = .arityMismatch path parameters.length arguments.length) ∨
      (arguments.length = parameters.length ∧ Exists fun mismatch =>
        firstMismatch? 0 parameters arguments = some mismatch ∧
          failure = .invocation path mismatch) := by
  unfold tested
  by_cases count : arguments.length = parameters.length
  · rw [if_pos count]
    cases firstMismatch? 0 parameters arguments with
    | some mismatch => simp [count, eq_comm]
    | none => simp [count]
  · simp [count, eq_comm]

/-! ## What a descriptor accepts and refuses -/

namespace Descriptor

/-- There is one argument for each component, and each inhabits the type of its
component. -/
def Accepts (descriptor : Descriptor) (arguments : List Value) : Prop :=
  arguments.length = descriptor.arity ∧
    forall (index : Nat) (argument : Value) (ty : Ty), arguments[index]? = some argument ->
      descriptor.componentType? index = some ty -> argument.conforms ty = true

/-- How arguments are refused.  A wrong number of them is refused whatever they
are.  `texts` are the labels as messages show them, and `shown` is the interner by
which they show types. -/
inductive Refuses (descriptor : Descriptor) (texts : List String) (shown : Interner)
    (arguments : List Value) : DescriptorError -> Prop where
  | count (differ : arguments.length ≠ descriptor.arity) :
      Refuses descriptor texts shown arguments
        (.arityMismatch descriptor.path descriptor.arity arguments.length)
  | argument {index : Nat} {unfit : Value} {ty : Ty} {text : String}
      (count : arguments.length = descriptor.arity)
      (given : arguments[index]? = some unfit)
      (typed : descriptor.componentType? index = some ty)
      (labelled : texts[index]? = some text) (fails : unfit.conforms ty = false)
      (least : forall (earlier : Nat) (other : Value) (otherTy : Ty), earlier < index ->
        arguments[earlier]? = some other -> descriptor.componentType? earlier = some otherTy ->
          other.conforms otherTy = true) :
      Refuses descriptor texts shown arguments
        (.invocation descriptor.path
          (.argumentType index text (ty.display shown) unfit.kindName))

/-- A descriptor builds in a runtime exactly from what it accepts, makes instances
of one kind, and refuses everything else as said. -/
structure Constructs (descriptor : Descriptor) (runtime : Runtime) (texts : List String)
    (shown : Interner) (Makes : List Value -> Value -> Prop) : Prop where
  accepts_iff : forall arguments,
    (Exists fun value => descriptor.construct runtime arguments = .ok value) ↔
      descriptor.Accepts arguments
  makes : forall arguments value, descriptor.construct runtime arguments = .ok value ->
    Makes arguments value
  refuses_iff : forall arguments failure,
    descriptor.construct runtime arguments = .error failure ↔
      descriptor.Refuses texts shown arguments failure

variable {descriptor : Descriptor} {runtime : Runtime} {parameters : List Parameter}
  {shown : Interner}

theorem accepts_iff_eachConforms (descriptor : Descriptor) (arguments : List Value) :
    descriptor.Accepts arguments ↔ Value.eachConforms arguments descriptor.types = true := by
  rw [Value.eachConforms_iff_getElem?, types_length_eq_arity]
  rfl

/-- The parameters that a builder tests are the components of a descriptor, shown by
an interner. -/
structure Tests (descriptor : Descriptor) (parameters : List Parameter) (shown : Interner) :
    Prop where
  types : parameters.map (·.ty) = descriptor.types
  displayed : forall parameter, parameter ∈ parameters ->
    parameter.shown = parameter.ty.display shown

namespace Tests

theorem length_eq (tests : descriptor.Tests parameters shown) :
    parameters.length = descriptor.arity := by
  rw [← descriptor.types_length_eq_arity, ← tests.types, List.length_map]

theorem componentType?_eq (tests : descriptor.Tests parameters shown) (index : Nat) :
    descriptor.componentType? index = parameters[index]?.map (·.ty) := by
  rw [componentType?, ← tests.types, List.getElem?_map]

theorem refuses_iff (tests : descriptor.Tests parameters shown) (arguments : List Value)
    (made : Value) (failure : DescriptorError) :
    Parameter.tested descriptor.path parameters arguments made = .error failure ↔
      descriptor.Refuses (parameters.map (·.label)) shown arguments failure := by
  rw [Parameter.tested_eq_error_iff, tests.length_eq]
  constructor
  · rintro (⟨differ, rfl⟩ | ⟨count, mismatch, found, rfl⟩)
    · exact .count differ
    · rcases Parameter.firstMismatch?_eq_some_iff.mp found with
        ⟨index, parameter, argument, located, given, fails, least, rfl⟩
      rw [Nat.zero_add, tests.displayed parameter (List.mem_of_getElem? located)]
      refine .argument count given ?_ ?_ fails ?_
      · rw [tests.componentType?_eq, located, Option.map_some]
      · rw [List.getElem?_map, located, Option.map_some]
      · intro earlier other otherTy before supplied typed
        rw [tests.componentType?_eq] at typed
        rcases Option.map_eq_some_iff.mp typed with ⟨otherParameter, otherLocated, rfl⟩
        exact least earlier otherParameter other before otherLocated supplied
  · intro refused
    cases refused with
    | count differ => exact .inl ⟨differ, rfl⟩
    | argument count given typed labelled fails least =>
        refine .inr ⟨count, _, Parameter.firstMismatch?_eq_some_iff.mpr ?_, rfl⟩
        rw [tests.componentType?_eq] at typed
        rcases Option.map_eq_some_iff.mp typed with ⟨parameter, located, rfl⟩
        rw [List.getElem?_map, located, Option.map_some, Option.some.injEq] at labelled
        subst labelled
        refine ⟨_, parameter, _, located, given, fails, ?_, ?_⟩
        · intro earlier other part before otherLocated supplied
          apply least earlier part other.ty before supplied
          rw [tests.componentType?_eq, otherLocated, Option.map_some]
        · rw [Nat.zero_add, tests.displayed parameter (List.mem_of_getElem? located)]

/-- A descriptor whose construction is such a test constructs as it should. -/
theorem constructs (tests : descriptor.Tests parameters shown) {made : List Value -> Value}
    {Makes : List Value -> Value -> Prop}
    (tested : forall arguments, descriptor.construct runtime arguments =
      Parameter.tested descriptor.path parameters arguments (made arguments))
    (makes : forall arguments, descriptor.Accepts arguments -> Makes arguments (made arguments)) :
    descriptor.Constructs runtime (parameters.map (·.label)) shown Makes := by
  have succeeds (arguments : List Value) (value : Value) :
      descriptor.construct runtime arguments = .ok value ↔
        descriptor.Accepts arguments ∧ value = made arguments := by
    rw [tested, Parameter.tested_eq_ok_iff, tests.types, accepts_iff_eachConforms]
  refine ⟨?_, ?_, ?_⟩
  · intro arguments
    simp only [succeeds, and_true, exists_and_left, exists_eq]
  · intro arguments value constructed
    obtain ⟨accepted, rfl⟩ := (succeeds arguments value).mp constructed
    exact makes arguments accepted
  · intro arguments failure
    rw [tested, tests.refuses_iff]

end Tests
end Descriptor

/-! ## The two producers -/

/-- Fields that hold arguments as the class distributes them: each canonical
parameter has its argument in the first field of its name, and the fields that no
canonical parameter finds hold unit. -/
structure ForeignClass.Distributes (owner : ForeignClass) (arguments fields : List Value) :
    Prop where
  count : fields.length = owner.fields.length
  named : forall (index : Nat) (parameter : String),
    owner.canonicalParameters[index]? = some parameter -> Exists fun slot =>
      owner.slot? parameter = some slot ∧ fields[slot]? = arguments[index]?
  others : forall slot, slot < owner.fields.length ->
    (forall parameter, parameter ∈ owner.canonicalParameters ->
      owner.slot? parameter ≠ some slot) -> fields[slot]? = some .unit

/-- Names that have types are parameters, which show these types. -/
theorem ForeignClass.exists_parameters {owner : ForeignClass} {texts : List String}
    {types : List Ty} (typed : texts.map owner.fieldType? = types.map some)
    (shown : Interner) : Exists fun parameters : List Parameter =>
      parameters.map (·.label) = texts ∧ parameters.map (·.ty) = types ∧
      forall parameter, parameter ∈ parameters -> owner.Shows shown parameter := by
  induction texts generalizing types with
  | nil =>
      rw [List.map_nil, eq_comm, List.map_eq_nil_iff] at typed
      subst typed
      exact ⟨[], rfl, rfl, nofun⟩
  | cons text rest inductionHypothesis =>
      cases types with
      | nil => cases typed
      | cons ty later =>
          rw [List.map_cons, List.map_cons, List.cons_eq_cons] at typed
          rcases inductionHypothesis typed.2 with ⟨parameters, labels, types, shows⟩
          refine ⟨⟨text, ty, ty.display shown⟩ :: parameters, ?_, ?_, ?_⟩
          · rw [List.map_cons, labels]
          · rw [List.map_cons, types]
          · exact List.forall_mem_cons.mpr ⟨⟨typed.1, rfl⟩, shows⟩

namespace Host.Discovers

variable {host : Host} {handle : ClassHandle} {owner : ForeignClass} {mirror : Descriptor}
  {runtime : Runtime}

theorem distributes_stored (discovers : host.Discovers handle owner mirror)
    {arguments : List Value} (count : arguments.length = mirror.arity) :
    owner.Distributes arguments (owner.stored arguments) where
  count := owner.length_filled owner.canonicalParameters arguments
  named := by
    intro index parameter named
    rcases discovers.exists_slot? named with ⟨slot, located⟩
    exact ⟨slot, located, discovers.getElem?_stored count named located⟩
  others := by
    intro slot inside unnamed
    have enough := count.trans discovers.length_canonicalParameters.symm
    change (owner.filled owner.canonicalParameters arguments)[slot]? = _
    rw [ForeignClass.getElem?_filled enough inside]
    cases found : owner.setter? slot owner.canonicalParameters with
    | none => rfl
    | some index =>
        rcases ForeignClass.exists_located_of_setter? found with ⟨parameter, named, located⟩
        exact absurd located (unnamed parameter (List.mem_of_getElem? named))

/-- While the class stays behind its handle, a discovered descriptor builds exactly
from what it accepts. -/
theorem constructs (discovers : host.Discovers handle owner mirror)
    (loaded : (runtime host.session).symbols.classAt? handle = some owner) :
    mirror.Constructs runtime owner.canonicalParameters (runtime host.session).interner
      fun arguments value => Exists fun fields =>
        value = .record owner.ident fields ∧ owner.Distributes arguments fields := by
  rcases ForeignClass.exists_parameters discovers.types (runtime host.session).interner with
    ⟨parameters, labels, types, shows⟩
  have tests : mirror.Tests parameters (runtime host.session).interner :=
    ⟨types, fun parameter member => (shows parameter member).2⟩
  rw [← labels]
  apply tests.constructs (discovers.construct_eq loaded labels shows)
  intro arguments accepted
  exact ⟨owner.stored arguments, rfl, discovers.distributes_stored accepted.1⟩

end Host.Discovers

/-- A synthesized descriptor builds exactly from what it accepts, in every runtime. -/
theorem Descriptor.constructs_native {shape : ProductShape} {interner : Interner}
    {native : Descriptor} (made : shape.descriptor interner = .ok native) (runtime : Runtime) :
    native.Constructs runtime (native.labels.map interner.lookup) interner
      fun arguments value => value = .record shape.ident arguments := by
  have parts := make_of_descriptor made
  have tests : native.Tests (shape.parameters interner) interner := by
    refine ⟨?_, ?_⟩
    · rw [shape.parameters_ty interner, parts.types, ProductShape.descriptorParts]
    · intro parameter member
      rcases List.mem_map.mp member with ⟨component, _, rfl⟩
      rfl
  have texts : (shape.parameters interner).map (·.label) = native.labels.map interner.lookup := by
    rw [parts.labels, ProductShape.descriptorParts]
    simp only [ProductShape.parameters, ProductShape.labels, List.map_map, Function.comp_def]
  rw [← texts]
  apply tests.constructs (construct_native made runtime)
  exact fun _ _ => rfl

/-- Both producers accept exactly the arguments that are as many as the components
and inhabit their types.  They refuse a wrong count before they look at any
argument, and otherwise name the first argument that does not fit. -/
theorem Descriptor.constructs_exactly :
    (forall (decl : TypeDecl) (shape : ProductShape) (interner : Interner) (native : Descriptor),
      ProductShape.recognize decl = .ok shape -> shape.descriptor interner = .ok native ->
        native.ident = decl.ident ∧ native.labels = decl.labels ∧
        forall runtime,
          native.Constructs runtime (native.labels.map interner.lookup) interner
            fun arguments value => value = .record decl.ident arguments) ∧
    forall (host : Host) (ident : TypeId) (handle : ClassHandle) (owner : ForeignClass)
      (mirror : Descriptor),
      host.symbols.handleOf? (ident.path host.interner) = some handle ->
      host.symbols.classAt? handle = some owner -> (host.introspect ident).1 = .ok mirror ->
        mirror.labels = (host.interner.internAll owner.canonicalParameters).1 ∧
        forall runtime : Runtime,
          (runtime host.session).symbols.classAt? handle = some owner ->
            mirror.Constructs runtime owner.canonicalParameters (runtime host.session).interner
              fun arguments value => Exists fun fields =>
                value = .record owner.ident fields ∧ owner.Distributes arguments fields := by
  refine ⟨?_, ?_⟩
  · intro decl shape interner native recognized made
    obtain ⟨_, rfl⟩ := (ProductShape.recognize_eq_ok_iff decl shape).mp recognized
    have parts := make_of_descriptor made
    exact ⟨parts.ident, parts.labels.trans (ProductShape.labels_ofDecl decl),
      constructs_native made⟩
  · intro host ident handle owner mirror named loaded introspected
    have discovers := (host.discovers_of_named named loaded introspected).2
    exact ⟨discovers.labels, fun _ present => discovers.constructs present⟩

/-- A point in disorder is built, with each argument in the field of its parameter.
Of two arguments that do not fit the first is named, and one argument alone is too
few for the declaration whatever it is. -/
theorem Descriptor.constructs_exactly_points :
    ((Sample.mixedHost.introspect Sample.point).1 = .ok Sample.mixedMirror ∧
      (Exists fun fields =>
        Sample.mixedMirror.construct (fun _ => Sample.mixedHost)
          [.some (.int 2), .str "a", .int 1] = .ok (.record Sample.point fields) ∧
        Sample.mixedClass.Distributes [.some (.int 2), .str "a", .int 1] fields) ∧
      Sample.mixedMirror.construct (fun _ => Sample.mixedHost)
        [.none, .int 7, .bool true] =
          .error (.invocation "geo.Point" (.argumentType 1 "z" "str" "int"))) ∧
    ProductShape.recognize Sample.pointDecl = .ok (.ofDecl Sample.pointDecl) ∧
      (ProductShape.ofDecl Sample.pointDecl).descriptor Sample.interner =
        .ok Sample.pointNative ∧
      Sample.pointNative.construct (fun _ => Sample.mixedHost) [.unit] =
        .error (.arityMismatch "geo.Point" 2 1) := by
  refine ⟨⟨Sample.mixedHost_introspected, ?_⟩, Sample.pointDecl_recognized,
    Sample.pointDecl_descriptor, ?_⟩
  · have mirror := (constructs_exactly.2 _ _ _ _ _ Sample.mixedHost_named rfl
      Sample.mixedHost_introspected).2 (fun _ => Sample.mixedHost) rfl
    have accepted : Sample.mixedMirror.Accepts [.some (.int 2), .str "a", .int 1] := by
      rw [accepts_iff_eachConforms]
      rfl
    refine ⟨?_, ?_⟩
    · rcases (mirror.accepts_iff _).mpr accepted with ⟨value, built⟩
      rcases mirror.makes _ _ built with ⟨fields, rfl, distributes⟩
      exact ⟨fields, built, distributes⟩
    · rw [mirror.refuses_iff]
      refine @Refuses.argument _ _ _ _ 1 (.int 7) .str "z" rfl rfl rfl ?_ rfl ?_
      · decide +kernel
      · intro earlier other otherTy before supplied typed
        obtain rfl : earlier = 0 := Nat.lt_one_iff.mp before
        cases supplied
        cases typed
        rfl
  · have native := (constructs_exactly.1 _ _ _ _ Sample.pointDecl_recognized
      Sample.pointDecl_descriptor).2.2 fun _ => Sample.mixedHost
    rw [native.refuses_iff]
    exact .count (by decide)

end StructuralProducts
