import StructuralProducts.Proofs.Reflection.FieldOrder
import StructuralProducts.Proofs.Reflection.Interleaving
import StructuralProducts.Proofs.Reflection.Surveys

namespace StructuralProducts

/-!
# Versions of a class in one discovery

The class that reports the constructors and the classes that are asked for accessors
may be different versions of the class at a path.  A discovery among loads therefore
has the outcome of a survey of several classes, and no version needs to have that
outcome.  It is the outcome of the version that reported the constructors exactly if
that version and the versions that were asked leave the same parameter without an
accessor first.
-/

namespace Discovery

variable {ident : TypeId} {discovery : Discovery} {host : Host} {outcome : Outcome}
  {events : List HostEvent}

/-! ## The questions for accessors -/

/-- The first parameter that the class under a path does not offer an accessor for.
Each parameter is asked for at a host of its own. -/
def firstUnanswered? (path : String) : List Host -> List String -> Option String
  | host :: hosts, name :: rest =>
      if (host.symbols.classNamed? path).any (·.offers name) then
        firstUnanswered? path hosts rest
      else some name
  | _, _ => none

/-- What the accessors come to: the first parameter without one is refused, and
otherwise there is an accessor for each. -/
def Matches (ident : TypeId) (host : Host) (chosen : ConstructorInfo) (count : Nat)
    (asked : List Host) (names : List String) (outcome : Outcome) : Prop :=
  match firstUnanswered? (ident.path host.interner) asked names with
  | some name => outcome = .error (.accessorMismatch (ident.path host.interner) name)
  | none => asked.length = names.length ∧ Exists fun accessors : List AccessorHandle =>
      accessors.length = count + names.length ∧
      outcome = (Introspection.assemble host.session host.interner ident
        (ident.path host.interner) chosen accessors).1

/-- After any loads a known path has its handle, and some version of the class stands
behind it. -/
theorem loadAll_keeps {owner : ClassHandle}
    (named : host.symbols.handleOf? (ident.path host.interner) = some owner)
    (loads : List ForeignClass) : Exists fun version =>
      (host.loadAll loads).symbols.handleOf? (ident.path host.interner) = some owner ∧
      (host.loadAll loads).symbols.classAt? owner = some version ∧
      (host.loadAll loads).symbols.classNamed? (ident.path host.interner) = some version := by
  rcases SymbolTable.exists_classAt?_of_handleOf? named with ⟨first, present, _⟩
  rcases SymbolTable.classAt?_loadAll named present loads with ⟨still, loaded⟩
  rw [host.symbols_loadAll]
  exact ⟨_, still, loaded, (SymbolTable.classNamed?_of_handleOf? still).trans loaded⟩

/-- The call for the constructors leads on to the parameters of the canonical one, or
there is not exactly one. -/
theorem call_choosing {handle : ClassHandle} {owner : ForeignClass}
    (loaded : host.symbols.classAt? handle = some owner) :
    if owner.canonicalCount = 1 then
      Exists fun chosen => call ident ⟨host, .choosing handle⟩ =
          proceed ident host handle chosen [] chosen.parameters ∧
        chosen.parameters = owner.canonicalParameters.map fun name =>
          ⟨name, owner.fieldType? name⟩
    else call ident ⟨host, .choosing handle⟩ =
      ⟨host, .finished (.error (.noCanonicalConstructor (ident.path host.interner)
        owner.canonicalCount))⟩ := by
  by_cases single : owner.canonicalCount = 1
  · rcases @Introspection.exists_chooseConstructor (ident.path host.interner) _ _ _ loaded
      single with ⟨chosen, answer, reported⟩
    rw [if_pos single]
    exact ⟨chosen, by simp only [call, answer], reported⟩
  · have answer := @Introspection.chooseConstructor_of_count_ne (ident.path host.interner) _ _ _
      loaded single
    rw [if_neg single]
    simp only [call, answer]

/-- A call for an accessor is refused, or leads on to the remaining parameters. -/
theorem call_matching {owner : ClassHandle} {version : ForeignClass}
    (loaded : host.symbols.classAt? owner = some version) (chosen : ConstructorInfo)
    (found : List AccessorHandle) (parameter : ParameterInfo) (rest : List ParameterInfo) :
    if version.offers parameter.name then
      Exists fun accessor => call ident ⟨host, .matching owner chosen found parameter rest⟩ =
        proceed ident host owner chosen (found ++ [accessor]) rest
    else call ident ⟨host, .matching owner chosen found parameter rest⟩ =
      ⟨host, .finished (.error (.accessorMismatch (ident.path host.interner) parameter.name))⟩ := by
  cases offered : version.offers parameter.name with
  | true =>
      rcases @Introspection.exists_chooseAccessor_of_offers (ident.path host.interner) _ _ _
        loaded _ offered with ⟨accessor, answer⟩
      rw [if_pos rfl]
      exact ⟨accessor, by simp only [call, answer]⟩
  | false =>
      have answer := @Introspection.chooseAccessor_of_not_offers (ident.path host.interner) _ _ _
        loaded _ offered
      rw [if_neg Bool.false_ne_true]
      simp only [call, answer]

/-- The accessor of each parameter is asked for in the class that is loaded at that
moment. -/
theorem matches_of_run {owner : ClassHandle} {chosen : ConstructorInfo}
    {found : List AccessorHandle} {parameters : List ParameterInfo}
    (named : host.symbols.handleOf? (ident.path host.interner) = some owner)
    (finished : ((proceed ident host owner chosen found parameters).run ident events).stage =
      .finished outcome) :
    Matches ident host chosen found.length
      ((proceed ident host owner chosen found parameters).reached ident events)
      (parameters.map (·.name)) outcome := by
  induction parameters generalizing host found events with
  | nil =>
      rcases @run_of_finished ident (proceed ident host owner chosen found []) _ rfl events with
        ⟨stage, calls, _⟩
      rw [stage] at finished
      cases finished
      rw [calls]
      exact ⟨rfl, found, rfl, rfl⟩
  | cons parameter rest inductionHypothesis =>
      rw [proceed] at finished ⊢
      rcases exists_call rfl finished with ⟨loads, after, finished, calls, _⟩
      rcases loadAll_keeps named loads with ⟨version, still, loaded, classNamed⟩
      rw [calls, List.map_cons]
      have called := @call_matching ident _ _ _ loaded chosen found parameter rest
      cases offered : version.offers parameter.name with
      | true =>
          rw [if_pos offered] at called
          rcases called with ⟨accessor, called⟩
          rw [called] at finished ⊢
          rw [← host.interner_loadAll loads] at still
          have later := inductionHypothesis still finished
          unfold Matches at later ⊢
          rw [host.interner_loadAll, host.session_loadAll] at later
          simp only [firstUnanswered?, classNamed, Option.any_some, offered, if_true]
          cases unanswered : firstUnanswered? (ident.path host.interner) _ _ with
          | some name =>
              rw [unanswered] at later
              exact later
          | none =>
              rw [unanswered] at later
              rcases later with ⟨count, accessors, length, gives⟩
              refine ⟨congrArg Nat.succ count, accessors, length.trans ?_, gives⟩
              rw [List.length_append, List.length_singleton, List.length_cons]
              omega
      | false =>
          rw [if_neg (Bool.eq_false_iff.mp offered)] at called
          rw [called, (run_of_finished rfl after).1] at finished
          rw [called]
          cases finished
          unfold Matches
          simp only [firstUnanswered?, classNamed, Option.any_some, offered, Bool.false_eq_true,
            if_false, host.interner_loadAll]

/-! ## Steady discoveries -/

/-- A discovery is done with the constructors: it asks for accessors or has come to
its end. -/
def Past (discovery : Discovery) : Prop :=
  (Exists fun outcome => discovery.stage = .finished outcome) ∨
    discovery.stage.isMatching = true

theorem past_proceed (host : Host) (owner : ClassHandle) (chosen : ConstructorInfo)
    (found : List AccessorHandle) (parameters : List ParameterInfo) :
    (proceed ident host owner chosen found parameters).Past :=
  (proceed_keeps host owner chosen found parameters).2.imp id And.left

theorem past_call (past : discovery.Past) : (discovery.call ident).Past := by
  rcases past with ⟨outcome, done⟩ | matching
  · exact .inl ⟨outcome, (@run_of_finished ident _ _ done [.call]).1⟩
  · exact (call_keeps discovery).2.imp id fun kept => kept.1 matching

/-- In a steady discovery all accessors are asked for in one class. -/
theorem classNamed?_of_mem_reached {path : String} {handle : ClassHandle} (past : discovery.Past)
    (named : discovery.host.symbols.handleOf? path = some handle)
    (steady : Steady ident path discovery events) {version : Host}
    (member : version ∈ discovery.reached ident events) :
    version.symbols.classNamed? path = discovery.host.symbols.classNamed? path := by
  induction events generalizing discovery with
  | nil => cases member
  | cons event rest inductionHypothesis =>
      cases event with
      | load loaded =>
          rcases past with ⟨outcome, done⟩ | matching
          · rw [(run_of_finished done _).2.1] at member
            cases member
          · exact (@inductionHypothesis (discovery.step ident (.load loaded)) (.inr matching)
              (SymbolTable.handleOf?_load named loaded) steady.2 member).trans
                (SymbolTable.classNamed?_load_of_ne (steady.1 matching))
      | call =>
          rw [reached, List.mem_append] at member
          rcases member with here | further
          · rw [eq_host_of_mem_current here]
          · have classes := (@call_keeps ident discovery).1
            rw [← SymbolTable.classNamed?_congr classes path]
            rw [← SymbolTable.handleOf?_congr classes path] at named
            exact inductionHypothesis (past_call past) named steady further

/-! ## Surveys of a run -/

/-- What a discovery hears on its way to an outcome.  After the hosts that were called
earlier, one host reports the constructors of a class, and each of the others is asked
for an accessor. -/
structure Hears (ident : TypeId) (discovery : Discovery) (events : List HostEvent)
    (outcome : Outcome) (earlier : List Host) (reporter : Host) (asked : List Host)
    (owner : ForeignClass) : Prop where
  reached : discovery.reached ident events = earlier ++ reporter :: asked
  reporting : reporter.symbols.classNamed? (ident.path discovery.host.interner) = some owner
  yields :
    (Survey.mk (some owner)
      (firstUnanswered? (ident.path discovery.host.interner) asked)).Yields
        ident (ident.path discovery.host.interner) discovery.host.interner outcome
  /-- Unless one is refused there is a question for each canonical parameter. -/
  complete : owner.canonicalCount = 1 ->
    firstUnanswered? (ident.path discovery.host.interner) asked owner.canonicalParameters =
      none -> asked.length = owner.canonicalParameters.length
  steady : Steady ident (ident.path discovery.host.interner) discovery events ->
    forall version, version ∈ asked ->
      version.symbols.classNamed? (ident.path discovery.host.interner) = some owner

theorem yields_of_matches {chosen : ConstructorInfo} {owner : ForeignClass}
    {asked : List Host} (single : owner.canonicalCount = 1)
    (reported : chosen.parameters = owner.canonicalParameters.map fun name =>
      ⟨name, owner.fieldType? name⟩)
    (matched : Matches ident host chosen 0 asked owner.canonicalParameters outcome) :
    (Survey.mk (some owner) (firstUnanswered? (ident.path host.interner) asked)).Yields ident
      (ident.path host.interner) host.interner outcome := by
  unfold Survey.Yields
  unfold Matches at matched
  simp only [single, if_true]
  cases unanswered : firstUnanswered? (ident.path host.interner) asked
      owner.canonicalParameters with
  | some name =>
      rw [unanswered] at matched
      exact matched
  | none =>
      rw [unanswered] at matched
      rcases matched with ⟨_, accessors, count, rfl⟩
      have parameterCount : accessors.length = chosen.parameters.length := by
        rw [count, Nat.zero_add, reported, List.length_map]
      exact Introspection.describes_assemble _ _ _ _ reported parameterCount

theorem exists_hears_of_choosing {handle : ClassHandle}
    (named : host.symbols.handleOf? (ident.path host.interner) = some handle)
    (finished : (run ident ⟨host, .choosing handle⟩ events).stage = .finished outcome) :
    Exists fun reporter => Exists fun asked => Exists fun owner =>
      Hears ident ⟨host, .choosing handle⟩ events outcome [] reporter asked owner := by
  rcases exists_call rfl finished with ⟨loads, after, finished, calls, steady⟩
  rcases loadAll_keeps named loads with ⟨owner, still, loaded, classNamed⟩
  have interner := host.interner_loadAll loads
  have called := @call_choosing ident _ _ _ loaded
  by_cases single : owner.canonicalCount = 1
  · rw [if_pos single] at called
    rcases called with ⟨chosen, called, reported⟩
    rw [called] at finished calls steady
    have remains := still
    rw [← interner] at remains
    have matched := matches_of_run remains finished
    have names : chosen.parameters.map (·.name) = owner.canonicalParameters := by
      rw [reported, ParameterInfo.map_name_map]
    unfold Matches at matched
    rw [interner, host.session_loadAll, names] at matched
    refine ⟨_, _, owner, calls, classNamed, yields_of_matches single reported matched, ?_, ?_⟩
    · intro _ answered
      rw [answered] at matched
      exact matched.1
    · intro all version member
      have classes := (@proceed_keeps ident (host.loadAll loads) handle chosen []
        chosen.parameters).1
      rw [← SymbolTable.handleOf?_congr classes] at still
      rw [classNamed?_of_mem_reached (past_proceed _ _ _ _ _) still (steady _ all) member,
        SymbolTable.classNamed?_congr classes, classNamed]
  · rw [if_neg single] at called
    rw [called] at finished calls
    rw [(run_of_finished rfl after).1] at finished
    rw [(run_of_finished rfl after).2.1] at calls
    cases finished
    refine ⟨_, [], owner, calls, classNamed, ?_, fun impossible => absurd impossible single, ?_⟩
    · unfold Survey.Yields
      simp only [single, if_false, interner]
    · exact fun _ _ impossible => absurd impossible List.not_mem_nil

/-- A run does not find the path, or it hears about the class behind it. -/
theorem exists_hears (finished : ((start host).run ident events).stage = .finished outcome) :
    (Exists fun resolver => (start host).reached ident events = [resolver] ∧
      resolver.symbols.classNamed? (ident.path host.interner) = none ∧
      outcome = .error (.typeNotFound (ident.path host.interner))) ∨
    Exists fun resolver => Exists fun reporter => Exists fun asked => Exists fun owner =>
      Hears ident (start host) events outcome [resolver] reporter asked owner := by
  rcases exists_call rfl finished with ⟨loads, after, finished, calls, steady⟩
  have interner := host.interner_loadAll loads
  change (run ident (call ident ⟨host.loadAll loads, .resolving⟩) after).stage = _ at finished
  change _ = host.loadAll loads :: reached ident (call ident ⟨host.loadAll loads, .resolving⟩)
    after at calls
  change forall path, _ -> Steady ident path (call ident ⟨host.loadAll loads, .resolving⟩)
    after at steady
  generalize host.loadAll loads = resolver at *
  cases named : resolver.symbols.handleOf? (ident.path resolver.interner) with
  | none =>
      have called : call ident ⟨resolver, .resolving⟩ =
          ⟨{ resolver with symbols := (resolver.symbols.resolve
            (ident.path resolver.interner)).2 },
            .finished (.error (.typeNotFound (ident.path resolver.interner)))⟩ := by
        simp only [call, SymbolTable.resolve, named]
      rw [called] at finished calls
      rw [(run_of_finished rfl after).1] at finished
      rw [(run_of_finished rfl after).2.1] at calls
      cases finished
      rw [interner] at named ⊢
      exact .inl ⟨resolver, calls, SymbolTable.classNamed?_of_handleOf?_eq_none named, rfl⟩
  | some handle =>
      have called : call ident ⟨resolver, .resolving⟩ =
          ⟨{ resolver with symbols := (resolver.symbols.resolve
            (ident.path resolver.interner)).2 }, .choosing handle⟩ := by
        simp only [call, SymbolTable.resolve, named]
      rw [called] at finished calls steady
      rcases @exists_hears_of_choosing ident { resolver with symbols := (resolver.symbols.resolve
        (ident.path resolver.interner)).2 } _ _ _ named finished with
        ⟨reporter, asked, owner, hears⟩
      refine .inr ⟨resolver, reporter, asked, owner, ?_, ?_, ?_, ?_, ?_⟩
      · rw [calls, hears.reached, List.nil_append, List.singleton_append]
      · exact interner ▸ hears.reporting
      · exact interner ▸ hears.yields
      · exact interner ▸ hears.complete
      · exact fun all => interner ▸ hears.steady (interner ▸ steady _ all)

/-- The survey of the calls of a discovery, by the hosts that they reach. -/
def survey (path : String) : List Host -> Survey
  | _ :: reporter :: asked =>
      ⟨reporter.symbols.classNamed? path, firstUnanswered? path asked⟩
  | _ => ⟨none, fun _ => none⟩

theorem yields_of_run (finished : ((start host).run ident events).stage = .finished outcome) :
    (survey (ident.path host.interner) ((start host).reached ident events)).Yields ident
      (ident.path host.interner) host.interner outcome := by
  rcases exists_hears finished with ⟨resolver, calls, _, rfl⟩ |
    ⟨resolver, reporter, asked, owner, hears⟩
  · rw [calls]
    rfl
  · have reporting : reporter.symbols.classNamed? (ident.path host.interner) = some owner :=
      hears.reporting
    rw [hears.reached, List.singleton_append, survey, reporting]
    exact hears.yields

/-- Where all that were asked have the same class, it is as if that class had been asked
alone. -/
theorem firstUnanswered?_of_forall {path : String} {owner : ForeignClass} {asked : List Host}
    {names : List String}
    (versions : forall version, version ∈ asked ->
      version.symbols.classNamed? path = some owner)
    (enough : firstUnanswered? path asked names = none -> asked.length = names.length) :
    firstUnanswered? path asked names = names.find? (!owner.offers ·) := by
  induction asked generalizing names with
  | nil =>
      have empty := enough (by unfold firstUnanswered?; rfl)
      rw [List.length_nil, eq_comm, List.length_eq_zero_iff] at empty
      rw [empty]
      rfl
  | cons version rest inductionHypothesis =>
      cases names with
      | nil => rfl
      | cons name others =>
          have loaded := versions version List.mem_cons_self
          rw [List.find?_cons]
          cases offered : owner.offers name with
          | false =>
              simp only [firstUnanswered?, loaded, Option.any_some, offered, Bool.false_eq_true,
                if_false, Bool.not_false]
          | true =>
              simp only [firstUnanswered?, loaded, Option.any_some, offered, if_true,
                Bool.not_true] at enough ⊢
              apply inductionHypothesis
              · exact fun other member => versions other (List.mem_cons_of_mem _ member)
              · exact fun answered => Nat.succ.inj (enough answered)

namespace Hears

variable {earlier asked : List Host} {reporter : Host} {owner : ForeignClass}

/-- The outcome is the one of the reporting version exactly if the versions that were
asked leave the same parameter without an accessor first. -/
theorem agrees_iff (hears : Hears ident discovery events outcome earlier reporter asked owner)
    (interner : reporter.interner = discovery.host.interner) :
    Outcome.agrees (reporter.introspect ident).1 outcome = true ↔
      (owner.canonicalCount = 1 ->
        firstUnanswered? (ident.path discovery.host.interner) asked owner.canonicalParameters =
          owner.canonicalParameters.find? (!owner.offers ·)) := by
  have yields := hears.yields
  rw [← reporter.yields_iff_agrees, interner, hears.reporting]
  unfold Survey.Yields Survey.alone at *
  by_cases single : owner.canonicalCount = 1
  · simp only [single, if_true, Option.any_some, true_implies] at yields ⊢
    cases run : firstUnanswered? (ident.path discovery.host.interner) asked
        owner.canonicalParameters with
    | some name =>
        rw [run] at yields
        subst yields
        cases own : owner.canonicalParameters.find? (!owner.offers ·) with
        | some other =>
            constructor
            · rintro ⟨⟩
              rfl
            · rintro ⟨⟩
              rfl
        | none => exact iff_of_false ForeignClass.not_describes_accessorMismatch nofun
    | none =>
        rw [run] at yields
        cases own : owner.canonicalParameters.find? (!owner.offers ·) with
        | some other =>
            apply iff_of_false _ nofun
            rintro rfl
            exact ForeignClass.not_describes_accessorMismatch yields
        | none => exact iff_of_true yields rfl
  · simp only [single, if_false, false_implies, iff_true] at yields ⊢
    exact yields

end Hears

/-! ## One version or several -/

/-- A discovery among loads has the outcome of the survey of its calls.  Some state of
the host has that outcome exactly if the one class that is loaded there leads to it.
The state that reported the constructors has it exactly if its own class and the
classes that were asked leave the same parameter without an accessor first, as they do
if no class is loaded at the path while accessors are asked for. -/
theorem run_surveyed (host : Host) (ident : TypeId) :
    (Exists fun calls => (start host).run ident (List.replicate calls .call) =
      ⟨(host.introspect ident).2, .finished (host.introspect ident).1⟩) ∧
    forall events,
      (Exists fun calls => Exists fun outcome =>
        ((start host).run ident (events ++ List.replicate calls .call)).stage =
          .finished outcome) ∧
      forall outcome, ((start host).run ident events).stage = .finished outcome ->
        (forall other,
          (survey (ident.path host.interner) ((start host).reached ident events)).Yields ident
            (ident.path host.interner) host.interner other ↔ outcome.agrees other = true) ∧
        (forall state, state ∈ (start host).states ident events ->
          (Outcome.agrees (state.introspect ident).1 outcome = true ↔
            (Survey.alone (state.symbols.classNamed? (ident.path host.interner))).Yields ident
              (ident.path host.interner) host.interner outcome)) ∧
        (forall resolver reporter asked owner,
          (start host).reached ident events = resolver :: reporter :: asked ->
          reporter.symbols.classNamed? (ident.path host.interner) = some owner ->
            (Outcome.agrees (reporter.introspect ident).1 outcome = true ↔
              (owner.canonicalCount = 1 ->
                firstUnanswered? (ident.path host.interner) asked owner.canonicalParameters =
                  owner.canonicalParameters.find? (!owner.offers ·)))) ∧
        (Steady ident (ident.path host.interner) (start host) events ->
          Exists fun state => state ∈ (start host).states ident events ∧
            Outcome.agrees (state.introspect ident).1 outcome = true) := by
  refine ⟨exists_run_start host ident, ?_⟩
  intro events
  refine ⟨?_, ?_⟩
  · simp only [run_append]
    exact exists_finished _
  intro outcome finished
  refine ⟨(yields_of_run finished).iff_agrees, ?_, ?_, ?_⟩
  · intro state member
    have interner : state.interner = host.interner := interner_of_mem_states member
    rw [← state.yields_iff_agrees, interner]
  · intro resolver reporter asked owner calls reporting
    rcases exists_hears finished with ⟨only, single, _⟩ | ⟨first, second, others, other, hears⟩
    · rw [single] at calls
      cases calls
    · have same := hears.reached
      rw [calls] at same
      cases same
      have found : reporter.symbols.classNamed? (ident.path host.interner) = some other :=
        hears.reporting
      obtain rfl := Option.some.inj (reporting.symm.trans found)
      have member : reporter ∈ (start host).reached ident events := by
        rw [calls]
        exact List.mem_cons_of_mem _ List.mem_cons_self
      exact hears.agrees_iff (interner_of_mem_states (mem_states_of_mem_reached member))
  · intro steady
    rcases exists_hears finished with ⟨resolver, calls, unnamed, rfl⟩ |
      ⟨resolver, reporter, asked, owner, hears⟩
    · have member : resolver ∈ (start host).states ident events := by
        apply mem_states_of_mem_reached
        rw [calls]
        exact List.mem_cons_self
      have interner : resolver.interner = host.interner := interner_of_mem_states member
      refine ⟨resolver, member, ?_⟩
      rw [← resolver.yields_iff_agrees, interner, unnamed]
      rfl
    · have member : reporter ∈ (start host).states ident events := by
        apply mem_states_of_mem_reached
        rw [hears.reached]
        exact List.mem_cons_of_mem _ List.mem_cons_self
      refine ⟨reporter, member, (hears.agrees_iff (interner_of_mem_states member)).mpr ?_⟩
      intro single
      exact firstUnanswered?_of_forall (hears.steady steady) (hears.complete single)

end Discovery

namespace Sample

/-- Between the constructors and the accessor another version of the class is loaded. -/
def tearingEvents : List HostEvent :=
  [.call, .call, .load (plainClass ["y"]), .call]

/-- Classes are loaded before the constructors are asked for, and at another path. -/
def harmlessEvents : List HostEvent :=
  [.call, .load (plainClass ["x", "y"]), .call, .load (ForeignClass.bare point "geo.Line"),
    .call, .call]

end Sample

/-- The reload of a point before its constructors are reported makes no difference. -/
theorem Discovery.run_surveyed_harmless :
    ((start (Sample.plainHost ["y"])).run Sample.point Sample.harmlessEvents).stage =
      .finished (.ok Sample.pointMirror) ∧
    Steady Sample.point "geo.Point" (start (Sample.plainHost ["y"])) Sample.harmlessEvents ∧
    Exists fun state =>
      state ∈ (start (Sample.plainHost ["y"])).states Sample.point Sample.harmlessEvents ∧
      Outcome.agrees (state.introspect Sample.point).1 (.ok Sample.pointMirror) = true := by
  have finished : ((start (Sample.plainHost ["y"])).run Sample.point
      Sample.harmlessEvents).stage = .finished (.ok Sample.pointMirror) := by
    with_unfolding_all rfl
  have steady : Steady Sample.point (Sample.point.path (Sample.plainHost ["y"]).interner)
      (start (Sample.plainHost ["y"])) Sample.harmlessEvents := by
    refine ⟨fun impossible => ?_, fun _ => ?_, trivial⟩
    · revert impossible
      decide +kernel
    · decide +kernel
  have path : Sample.point.path (Sample.plainHost ["y"]).interner = "geo.Point" := by
    decide +kernel
  exact ⟨finished, path ▸ steady,
    (((run_surveyed (Sample.plainHost ["y"]) Sample.point).2 Sample.harmlessEvents).2 _
      finished).2.2.2 steady⟩

/-- The first version reports the parameter `x` and the second has no accessor for it.
Both versions are well shaped, and the discovery still fails. -/
theorem Discovery.run_torn :
    ((start (Sample.plainHost ["x"])).run Sample.point Sample.tearingEvents).stage =
      .finished (.error (.accessorMismatch "geo.Point" "x")) ∧
    (forall state,
      state ∈ (start (Sample.plainHost ["x"])).states Sample.point Sample.tearingEvents ->
        Exists fun descriptor => (state.introspect Sample.point).1 = .ok descriptor) ∧
    ¬ forall (host : Host) (ident : TypeId) (events : List HostEvent) (outcome : Outcome),
      ((start host).run ident events).stage = .finished outcome ->
        Exists fun state => state ∈ (start host).states ident events ∧
          Outcome.agrees (state.introspect ident).1 outcome = true := by
  have finished : ((start (Sample.plainHost ["x"])).run Sample.point
      Sample.tearingEvents).stage = .finished (.error (.accessorMismatch "geo.Point" "x")) := by
    with_unfolding_all rfl
  have described : forall state,
      state ∈ (start (Sample.plainHost ["x"])).states Sample.point Sample.tearingEvents ->
        Exists fun descriptor => (state.introspect Sample.point).1 = .ok descriptor := by
    have all : ((start (Sample.plainHost ["x"])).states Sample.point
        Sample.tearingEvents).all (fun state => (state.introspect Sample.point).1.isOk) =
          true := by
      decide +kernel
    intro state member
    have success := List.all_eq_true.mp all state member
    cases outcome : (state.introspect Sample.point).1 with
    | error failure =>
        rw [outcome] at success
        cases success
    | ok descriptor => exact ⟨descriptor, rfl⟩
  refine ⟨finished, described, ?_⟩
  intro consistent
  rcases consistent _ _ _ _ finished with ⟨state, member, agrees⟩
  rcases described state member with ⟨descriptor, introspected⟩
  rw [introspected, Outcome.agrees_error_iff] at agrees
  cases agrees

end StructuralProducts
