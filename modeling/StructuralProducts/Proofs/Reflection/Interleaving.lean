import StructuralProducts.DescriptorCache
import StructuralProducts.Proofs.Reflection.Loads
import StructuralProducts.Reflection.Introspection

namespace StructuralProducts

/-!
# Discovery among loads

A discovery is a sequence of calls on the host: for the path, for the constructors,
and for the accessor of each canonical parameter.  Each call by itself sees the
loaded classes at one moment.  Between two calls anyone may load classes, also at
the path of the discovery.

With no load in between the calls are the introspection of the host.  Whatever is
loaded, enough calls bring a discovery to its end, and until then nothing but the
loads changes a class and nothing at all the interner.
-/

/-- What happens while a discovery runs: somebody loads a class, or the discovery
makes its next call. -/
inductive HostEvent where
  | load (loaded : ForeignClass)
  | call
  deriving DecidableEq

/-- How far a discovery has come. -/
inductive DiscoveryStage where
  /-- The path is not resolved yet. -/
  | resolving
  /-- The constructors of the class are asked for next. -/
  | choosing (owner : ClassHandle)
  /-- The accessor of a parameter is asked for next. -/
  | matching (owner : ClassHandle) (chosen : ConstructorInfo) (found : List AccessorHandle)
      (parameter : ParameterInfo) (rest : List ParameterInfo)
  | finished (outcome : Outcome)

def DiscoveryStage.isMatching : DiscoveryStage -> Bool
  | .matching .. => true
  | _ => false

/-- A discovery and the host that it asks. -/
structure Discovery where
  host : Host
  stage : DiscoveryStage

namespace Discovery

variable (ident : TypeId)

def start (host : Host) : Discovery := ⟨host, .resolving⟩

/-- Ask for the accessor of the next parameter.  After the last one the descriptor is
made, without another call. -/
def proceed (host : Host) (owner : ClassHandle) (chosen : ConstructorInfo)
    (found : List AccessorHandle) : List ParameterInfo -> Discovery
  | parameter :: rest => ⟨host, .matching owner chosen found parameter rest⟩
  | [] =>
      let (outcome, interner) := Introspection.assemble host.session host.interner ident
        (ident.path host.interner) chosen found
      ⟨{ host with interner }, .finished outcome⟩

/-- The next call of a discovery. -/
def call (discovery : Discovery) : Discovery :=
  let host := discovery.host
  let path := ident.path host.interner
  match discovery.stage with
  | .resolving =>
      let (owner?, symbols) := host.symbols.resolve path
      match owner? with
      | none => ⟨{ host with symbols }, .finished (.error (.typeNotFound path))⟩
      | some owner => ⟨{ host with symbols }, .choosing owner⟩
  | .choosing owner =>
      match Introspection.chooseConstructor path (host.symbols.constructors owner) with
      | .error failure => ⟨host, .finished (.error failure)⟩
      | .ok chosen => proceed ident host owner chosen [] chosen.parameters
  | .matching owner chosen found parameter rest =>
      match Introspection.chooseAccessor path parameter.name
          (host.symbols.findAccessor owner parameter.name) with
      | .error failure => ⟨host, .finished (.error failure)⟩
      | .ok accessor => proceed ident host owner chosen (found ++ [accessor]) rest
  | .finished _ => discovery

def step (discovery : Discovery) : HostEvent -> Discovery
  | .load loaded => { discovery with host := (discovery.host.load loaded).2 }
  | .call => discovery.call ident

def run (discovery : Discovery) (events : List HostEvent) : Discovery :=
  events.foldl (step ident) discovery

/-- The host while the discovery runs. -/
def current (discovery : Discovery) : List Host :=
  match discovery.stage with
  | .finished _ => []
  | _ => [discovery.host]

/-- The hosts there are while a discovery runs. -/
def states (discovery : Discovery) : List HostEvent -> List Host
  | [] => discovery.current
  | event :: rest => discovery.current ++ (discovery.step ident event).states rest

/-- The hosts that the calls of a discovery reach. -/
def reached (discovery : Discovery) : List HostEvent -> List Host
  | [] => []
  | .load loaded :: rest => (discovery.step ident (.load loaded)).reached rest
  | .call :: rest => discovery.current ++ (discovery.step ident .call).reached rest

/-! ## The next call -/

variable {ident} {discovery : Discovery} {host : Host} {outcome : Outcome}
  {events : List HostEvent}

theorem run_append (discovery : Discovery) (before after : List HostEvent) :
    discovery.run ident (before ++ after) = (discovery.run ident before).run ident after :=
  List.foldl_append

theorem current_of_finished (done : discovery.stage = .finished outcome) :
    discovery.current = [] := by
  rw [current, done]

theorem eq_host_of_mem_current {state : Host} (member : state ∈ discovery.current) :
    state = discovery.host := by
  unfold current at member
  split at member
  · cases member
  · exact List.mem_singleton.mp member

/-- After its end a discovery asks nothing. -/
theorem run_of_finished (done : discovery.stage = .finished outcome)
    (events : List HostEvent) : (discovery.run ident events).stage = .finished outcome ∧
      discovery.reached ident events = [] ∧ discovery.states ident events = [] := by
  induction events generalizing discovery with
  | nil => exact ⟨done, rfl, current_of_finished done⟩
  | cons event rest inductionHypothesis =>
      cases event with
      | load loaded =>
          rcases @inductionHypothesis (discovery.step ident (.load loaded)) done with
            ⟨stage, calls, hosts⟩
          exact ⟨stage, calls, by rw [states, current_of_finished done, hosts, List.nil_append]⟩
      | call =>
          have same : discovery.step ident .call = discovery := by
            rw [step, call]
            simp only [done]
          rcases inductionHypothesis done with ⟨stage, calls, hosts⟩
          refine ⟨?_, ?_, ?_⟩
          · rw [run, List.foldl_cons, same]
            exact stage
          · rw [reached, same, current_of_finished done, calls, List.nil_append]
          · rw [states, same, current_of_finished done, hosts, List.nil_append]

/-- While accessors are asked for, no class is loaded at the path. -/
def Steady (ident : TypeId) (path : String) (discovery : Discovery) : List HostEvent -> Prop
  | [] => True
  | .load loaded :: rest =>
      (discovery.stage.isMatching = true -> loaded.path ≠ path) ∧
        Steady ident path (discovery.step ident (.load loaded)) rest
  | .call :: rest => Steady ident path (discovery.step ident .call) rest

/-- A discovery that is not finished and comes to an end makes a call.  Up to then
there are only loads. -/
theorem exists_call (running : discovery.current = [discovery.host])
    (finished : (discovery.run ident events).stage = .finished outcome) :
    Exists fun loads => Exists fun after =>
      ((call ident { discovery with host := discovery.host.loadAll loads }).run ident
        after).stage = .finished outcome ∧
      (discovery.reached ident events = discovery.host.loadAll loads ::
        (call ident { discovery with host := discovery.host.loadAll loads }).reached ident
          after) ∧
      forall path, Steady ident path discovery events -> Steady ident path
        (call ident { discovery with host := discovery.host.loadAll loads }) after := by
  induction events generalizing discovery with
  | nil =>
      have done : discovery.stage = .finished outcome := finished
      rw [current_of_finished done] at running
      cases running
  | cons event rest inductionHypothesis =>
      cases event with
      | call =>
          refine ⟨[], rest, finished, ?_, fun _ steady => steady⟩
          rw [reached, running]
          rfl
      | load loaded =>
          have still : (discovery.step ident (.load loaded)).current =
              [(discovery.host.load loaded).2] := by
            unfold current at running ⊢
            cases stage : discovery.stage with
            | finished other =>
                rw [stage] at running
                cases running
            | _ => simp only [step, stage]
          rcases inductionHypothesis still finished with ⟨loads, after, later, calls, steady⟩
          exact ⟨loaded :: loads, after, later, calls, fun path all => steady path all.2⟩

/-! ## What calls keep -/

theorem proceed_keeps (host : Host) (owner : ClassHandle) (chosen : ConstructorInfo)
    (found : List AccessorHandle) (parameters : List ParameterInfo) :
    (proceed ident host owner chosen found parameters).host.symbols.classes =
        host.symbols.classes ∧
      ((Exists fun outcome =>
          (proceed ident host owner chosen found parameters).stage = .finished outcome) ∨
        ((proceed ident host owner chosen found parameters).stage.isMatching = true ∧
          (proceed ident host owner chosen found parameters).host.interner = host.interner)) := by
  cases parameters with
  | nil => exact ⟨rfl, .inl ⟨_, rfl⟩⟩
  | cons parameter rest => exact ⟨rfl, .inr ⟨rfl, rfl⟩⟩

/-- A call changes no class.  Unless it is the last one it leaves the interner alone,
and after a call for an accessor another one follows. -/
theorem call_keeps (discovery : Discovery) :
    (discovery.call ident).host.symbols.classes = discovery.host.symbols.classes ∧
      ((Exists fun outcome => (discovery.call ident).stage = .finished outcome) ∨
        ((discovery.stage.isMatching = true ->
            (discovery.call ident).stage.isMatching = true) ∧
          (discovery.call ident).host.interner = discovery.host.interner)) := by
  unfold call
  cases stage : discovery.stage with
  | resolving =>
      simp only [SymbolTable.resolve]
      split
      · exact ⟨rfl, .inl ⟨_, rfl⟩⟩
      · exact ⟨rfl, .inr ⟨fun impossible => absurd impossible Bool.false_ne_true, rfl⟩⟩
  | choosing owner =>
      dsimp only
      split
      · exact ⟨rfl, .inl ⟨_, rfl⟩⟩
      · next chosen _ =>
          rcases @proceed_keeps ident discovery.host owner chosen [] chosen.parameters with
            ⟨classes, kept⟩
          exact ⟨classes, kept.imp id (And.imp (fun still _ => still) id)⟩
  | matching owner chosen found parameter rest =>
      dsimp only
      split
      · exact ⟨rfl, .inl ⟨_, rfl⟩⟩
      · next accessor _ =>
          rcases @proceed_keeps ident discovery.host owner chosen (found ++ [accessor]) rest with
            ⟨classes, kept⟩
          exact ⟨classes, kept.imp id (And.imp (fun still _ => still) id)⟩
  | finished other => exact ⟨rfl, .inl ⟨other, stage⟩⟩

/-- While a discovery runs, the interner of its host is not touched. -/
theorem interner_of_mem_states {state : Host} (member : state ∈ discovery.states ident events) :
    state.interner = discovery.host.interner := by
  induction events generalizing discovery with
  | nil => rw [eq_host_of_mem_current member]
  | cons event rest inductionHypothesis =>
      rw [states, List.mem_append] at member
      rcases member with here | later
      · rw [eq_host_of_mem_current here]
      · cases event with
        | load loaded =>
            exact @inductionHypothesis (discovery.step ident (.load loaded)) later
        | call =>
            rcases (@call_keeps ident discovery).2 with ⟨outcome, done⟩ | ⟨_, same⟩
            · rw [step, (run_of_finished done rest).2.2] at later
              cases later
            · exact (inductionHypothesis later).trans same

theorem mem_states_of_mem_reached {state : Host} (member : state ∈ discovery.reached ident events) :
    state ∈ discovery.states ident events := by
  induction events generalizing discovery with
  | nil => cases member
  | cons event rest inductionHypothesis =>
      rw [states, List.mem_append]
      cases event with
      | load loaded => exact .inr (inductionHypothesis member)
      | call =>
          rw [reached, List.mem_append] at member
          exact member.imp id inductionHypothesis

/-! ## Calls without loads -/

theorem run_replicate_succ (discovery : Discovery) (calls : Nat) :
    discovery.run ident (List.replicate (calls + 1) .call) =
      (discovery.call ident).run ident (List.replicate calls .call) := rfl

/-- Calls alone choose accessors as introspection does. -/
theorem exists_run_proceed (host : Host) (owner : ClassHandle) (chosen : ConstructorInfo)
    (found : List AccessorHandle) (parameters : List ParameterInfo) : Exists fun calls =>
      (proceed ident host owner chosen found parameters).run ident
          (List.replicate calls .call) =
        match Introspection.chooseAccessors (ident.path host.interner)
          (host.symbols.findAccessor owner) parameters with
        | .error failure => ⟨host, .finished (.error failure)⟩
        | .ok accessors => proceed ident host owner chosen (found ++ accessors) [] := by
  induction parameters generalizing found with
  | nil =>
      refine ⟨0, ?_⟩
      simp only [Introspection.chooseAccessors, List.append_nil]
      rfl
  | cons parameter rest inductionHypothesis =>
      cases answer : Introspection.chooseAccessor (ident.path host.interner) parameter.name
          (host.symbols.findAccessor owner parameter.name) with
      | error failure =>
          have called : call ident (proceed ident host owner chosen found (parameter :: rest)) =
              ⟨host, .finished (.error failure)⟩ := by
            simp only [proceed, call, answer]
          refine ⟨1, ?_⟩
          rw [run_replicate_succ, called, Introspection.chooseAccessors]
          simp only [answer]
          rfl
      | ok accessor =>
          have called : call ident (proceed ident host owner chosen found (parameter :: rest)) =
              proceed ident host owner chosen (found ++ [accessor]) rest := by
            rw [proceed]
            simp only [call, answer]
          rcases inductionHypothesis (found ++ [accessor]) with ⟨calls, remaining⟩
          refine ⟨calls + 1, ?_⟩
          rw [run_replicate_succ, called, remaining, Introspection.chooseAccessors]
          simp only [answer]
          cases Introspection.chooseAccessors (ident.path host.interner)
              (host.symbols.findAccessor owner) rest with
          | error failure => rfl
          | ok accessors => simp only [List.append_assoc, List.singleton_append]

theorem exists_run_choosing (host : Host) (owner : ClassHandle) : Exists fun calls =>
    run ident ⟨host, .choosing owner⟩ (List.replicate calls .call) =
      match Introspection.chooseHandles (ident.path host.interner) host.symbols owner with
      | .error failure => ⟨host, .finished (.error failure)⟩
      | .ok (chosen, accessors) => proceed ident host owner chosen accessors [] := by
  cases answer : Introspection.chooseConstructor (ident.path host.interner)
      (host.symbols.constructors owner) with
  | error failure =>
      refine ⟨1, ?_⟩
      rw [run_replicate_succ]
      simp only [call, answer, Introspection.chooseHandles]
      rfl
  | ok chosen =>
      rcases exists_run_proceed host owner chosen [] chosen.parameters with ⟨calls, remaining⟩
      refine ⟨calls + 1, ?_⟩
      rw [run_replicate_succ]
      simp only [call, answer, Introspection.chooseHandles]
      rw [remaining]
      cases Introspection.chooseAccessors (ident.path host.interner)
          (host.symbols.findAccessor owner) chosen.parameters with
      | error failure => rfl
      | ok accessors => rfl

/-- With no load in between, the calls are the introspection of the host. -/
theorem exists_run_start (host : Host) (ident : TypeId) : Exists fun calls =>
    (start host).run ident (List.replicate calls .call) =
      ⟨(host.introspect ident).2, .finished (host.introspect ident).1⟩ := by
  cases named : host.symbols.handleOf? (ident.path host.interner) with
  | none =>
      refine ⟨1, ?_⟩
      rw [run_replicate_succ]
      simp only [start, call, Host.introspect, SymbolTable.resolve, named]
      rfl
  | some owner =>
      rcases @exists_run_choosing ident { host with symbols := (host.symbols.resolve
        (ident.path host.interner)).2 } owner with ⟨calls, remaining⟩
      refine ⟨calls + 1, ?_⟩
      rw [run_replicate_succ]
      simp only [start, call, Host.introspect, SymbolTable.resolve, named] at remaining ⊢
      rw [remaining]
      cases Introspection.chooseHandles (ident.path host.interner)
          { host.symbols with resolutions := host.symbols.resolutions + 1 } owner with
      | error failure => rfl
      | ok choices => rfl

/-- Calls bring every discovery to its end. -/
theorem exists_finished (discovery : Discovery) : Exists fun calls => Exists fun outcome =>
    (discovery.run ident (List.replicate calls .call)).stage = .finished outcome := by
  rcases discovery with ⟨host, stage⟩
  cases stage with
  | resolving =>
      rcases exists_run_start host ident with ⟨calls, done⟩
      exact ⟨calls, _, congrArg stage done⟩
  | choosing owner =>
      rcases @exists_run_choosing ident host owner with ⟨calls, done⟩
      refine ⟨calls, ?_⟩
      rw [done]
      split <;> exact ⟨_, rfl⟩
  | matching owner chosen found parameter rest =>
      rcases @exists_run_proceed ident host owner chosen found (parameter :: rest) with
        ⟨calls, done⟩
      rw [proceed] at done
      refine ⟨calls, ?_⟩
      rw [done]
      split <;> exact ⟨_, rfl⟩
  | finished outcome => exact ⟨0, outcome, rfl⟩

end Discovery
end StructuralProducts
