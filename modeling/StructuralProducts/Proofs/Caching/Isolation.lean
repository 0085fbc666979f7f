import Mathlib.Data.List.Find
import StructuralProducts.Proofs.Caching.Accounts

namespace StructuralProducts

/-!
# A shared cache serves one session

Identities of different sessions may be the same words, so a cache cannot tell
them apart by its keys.  It goes by its owner instead.  The first foreign request
makes its session the owner, whether or not its discovery succeeds.  From then on
the requests of that session are answered from its own discoveries, and those of
all other sessions are refused before the entries are looked at.
-/

theorem TypeDecl.Gives.unique {decl : TypeDecl} {interner : Interner} {first second : Outcome}
    (one : decl.Gives interner first) (other : decl.Gives interner second) : first = second := by
  rcases one with ⟨shape, descriptor, recognized, made, rfl⟩ | ⟨problems, recognized, rfl⟩ <;>
    rcases other with ⟨shape', descriptor', recognized', made', rfl⟩ | ⟨problems', recognized', rfl⟩
  · cases recognized.symm.trans recognized'
    exact made.symm.trans made'
  · cases recognized.symm.trans recognized'
  · cases recognized.symm.trans recognized'
  · cases recognized.symm.trans recognized'
    rfl

/-- The session of the first foreign request. -/
def servingSession? (log : List Request) : Option SessionId :=
  (log.find? (·.isForeign)).map (·.describer.session)

/-- The other request is foreign too, and it has the same session and identity. -/
def Request.isAlike (request other : Request) : Bool :=
  other.isForeign && other.describer.session == request.describer.session &&
    other.ident == request.ident

/-- What the requests of any number of sessions find at a cache that they share. -/
structure Isolates (log : List Request) : Prop where
  native : forall request, request ∈ log -> forall decl,
    request.describer.registry.decl? request.ident = some decl -> decl.isNative = true ->
      decl.Gives (request.before.interners request.describer.session) request.outcome ∧
      request.after = request.before ∧
      forall cache, ({ request.before with cache }.ask request.describer request.ident).outcome =
        request.outcome
  served : forall request, request ∈ log -> request.isForeign = true ->
    servingSession? log = some request.describer.session ->
      Exists fun source => log.find? request.isAlike = some source ∧ source.Discovers ∧
        request.outcome = source.outcome
  refused : forall request, request ∈ log -> request.isForeign = true ->
    servingSession? log ≠ some request.describer.session ->
      request.outcome = .error (.sessionMismatch
        (request.ident.path (request.before.interners request.describer.session))) ∧
      request.after = request.before

namespace History

variable {start shared : SharedState} {log : List Request} {request : Request}

/-- The cache serves the foreign requests of one session. -/
theorem isServed_iff_serving (history : History start log shared) (fresh : start.cache = .empty)
    (member : request ∈ log) (foreign : request.isForeign = true) :
    request.isServed = true ↔ servingSession? log = some request.describer.session := by
  rcases history.isServed_iff fresh member foreign with ⟨opener, first, served⟩
  rw [served, servingSession?, first, Option.map_some, Option.some.injEq, eq_comm]

theorem isolates (history : History start log shared) (fresh : start.cache = .empty) :
    Isolates log := by
  refine ⟨?_, ?_, ?_⟩
  · intro request member decl declared native
    rcases List.mem_iff_append.mp member with ⟨earlier, later, position⟩
    have gives := (history.split position).2.of_native declared native
    refine ⟨gives.1, gives.2, fun cache => ?_⟩
    have course := ({ request.before with cache } : SharedState).course_ask request.describer
      request.ident
    exact (course.of_native declared native).1.unique gives.1
  · intro request member foreign serving
    have served := (history.isServed_iff_serving fresh member foreign).mpr serving
    rcases history.outcome_of_served fresh member served with ⟨source, first, outcome⟩
    have discovers := history.discovers_of_first fresh first
    refine ⟨source, Eq.trans ?_ first, discovers, outcome.trans discovers.outcome.symm⟩
    refine List.find?_congr fun other present => congrArg (· && _) ?_
    cases foreign : other.isForeign with
    | false => rw [Bool.false_and, Request.isServed, foreign, Bool.false_and]
    | true =>
        -- Among foreign requests, having the session of a served one is being served.
        rw [Bool.true_and, Bool.eq_iff_iff, beq_iff_eq,
          history.isServed_iff_serving fresh present foreign, serving, Option.some.injEq, eq_comm]
  · intro request member foreign other
    rcases List.mem_iff_append.mp member with ⟨earlier, later, position⟩
    refine (history.split position).2.of_not_served foreign (Bool.eq_false_iff.mpr ?_)
    exact fun served => other ((history.isServed_iff_serving fresh member foreign).mp served)

end History

/-- Whatever any number of describers do, in whatever order, the cache they share
gives discoveries to the session that made them and to no other.  The log has what
was requested, in order. -/
theorem SharedState.run_isolates (interners : SessionId -> Interner)
    (tables : HostId -> SymbolTable) (activities : List (Describer × Activity)) :
    let start := SharedState.fresh interners tables
    List.Forall₂ (fun asked request => request.Answers asked)
        (activities.filter (·.2.isRequest)) (start.log activities) ∧
      Isolates (start.log activities) := by
  intro start
  have history : History start (start.log activities) (start.finish activities) :=
    History.nothing.run activities
  exact ⟨start.log_answers activities, history.isolates rfl⟩

namespace Sample

/-- Two sessions, each with a path of its own. -/
def twoInterners (session : SessionId) : Interner :=
  if session = ⟨0⟩ then (Interner.empty.intern "libx.FooA").2
  else (Interner.empty.intern "libx.FooB").2

def twoDescriber (index : Nat) : Describer :=
  ⟨⟨index⟩, .empty .empty, ⟨index⟩⟩

/-- The word for the path of the first session, and also for that of the second. -/
def foo : TypeId := ⟨(Interner.empty.intern "libx.FooA").1⟩

/-- What the two sessions request, each by its own path. -/
def twoRequests : List Request :=
  (SharedState.fresh twoInterners fun _ => .empty).log
    [(twoDescriber 0, .describePath "libx.FooA"), (twoDescriber 1, .describePath "libx.FooB")]

end Sample

/-- A discovery that fails still makes its session the owner. -/
theorem SharedState.twoRequests_isolated : Isolates Sample.twoRequests ∧
    Sample.twoRequests.map (fun request => (request.ident, request.outcome)) =
      [(Sample.foo, .error (.typeNotFound "libx.FooA")),
        (Sample.foo, .error (.sessionMismatch "libx.FooB"))] := by
  have isolates := (SharedState.run_isolates Sample.twoInterners (fun _ => .empty)
    [(Sample.twoDescriber 0, .describePath "libx.FooA"),
      (Sample.twoDescriber 1, .describePath "libx.FooB")]).2
  exact ⟨isolates, by with_unfolding_all rfl⟩

end StructuralProducts
