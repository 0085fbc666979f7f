import Mathlib.Data.List.Find
import StructuralProducts.Proofs.RegisteredContracts
import StructuralProducts.Proofs.Caching.Accounts

namespace StructuralProducts

/-!
# A describer remembers what it discovered

A describer with a cache of its own answers as if it discovered each foreign
identity once, at the first request for it.  Later loads have no influence, also
not on a discovery that failed.  A native declaration is described afresh every
time, without the cache and without the host.
-/

/-- The foreign identities among those requested, each once. -/
def foreignIdents (log : List Request) : List TypeId :=
  ((log.filter (·.isForeign)).map (·.ident)).dedup

/-- What the requests of a describer find, and what they leave in the cache and in
the host. -/
structure Describer.Memoizes (describer : Describer) (start : SharedState) (log : List Request)
    (last : SharedState) : Prop where
  native : forall request, request ∈ log -> forall decl,
    describer.registry.decl? request.ident = some decl -> decl.isNative = true ->
      decl.Gives (request.before.interners describer.session) request.outcome ∧
        request.after = request.before
  foreign : forall request, request ∈ log -> describer.registry.isNative request.ident = false ->
    Exists fun first => log.find? (·.ident == request.ident) = some first ∧
      request.outcome = first.discovery
  resolutions : (last.tables describer.host).resolutions =
    (start.tables describer.host).resolutions + (foreignIdents log).length
  size : last.cache.size = (foreignIdents log).length
  computations : last.cache.computations = (foreignIdents log).length
  requests : last.cache.hits + last.cache.computations = (log.filter (·.isForeign)).length

namespace History

variable {start shared : SharedState} {log : List Request} {describer : Describer}

/-- Where there is one describer, the cache serves every foreign request. -/
theorem isServed_of_own (history : History start log shared) (fresh : start.cache = .empty)
    (own : forall request, request ∈ log -> request.describer = describer) {request : Request}
    (member : request ∈ log) : request.isServed = request.isForeign := by
  cases foreign : request.isForeign with
  | false => rw [Request.isServed, foreign, Bool.false_and]
  | true =>
      rcases history.isServed_iff fresh member foreign with ⟨opener, first, served⟩
      rw [own request member, own opener (List.mem_of_find?_eq_some first)] at served
      exact served.mpr rfl

theorem memoizes (history : History start log shared) (fresh : start.cache = .empty)
    (own : forall request, request ∈ log -> request.describer = describer) :
    describer.Memoizes start log shared := by
  have accounts := history.accounts fresh
  have isServed : forall request, request ∈ log -> request.isServed = request.isForeign :=
    fun _ => history.isServed_of_own fresh own
  have filtered : log.filter (·.isServed) = log.filter (·.isForeign) := List.filter_congr isServed
  have size : shared.cache.size = (foreignIdents log).length := by
    rw [accounts.size_eq, filtered, foreignIdents]
  have computations : shared.cache.computations = (foreignIdents log).length :=
    accounts.computations.trans size
  refine ⟨?_, ?_, ?_, size, computations, ?_⟩
  · intro request member decl declared native
    rw [← own request member] at declared ⊢
    rcases List.mem_iff_append.mp member with ⟨earlier, later, position⟩
    exact (history.split position).2.of_native declared native
  · intro request member foreign
    have isForeign : request.isForeign = true := by
      rw [Request.isForeign, own request member, foreign, Bool.not_false]
    have served := (isServed request member).trans isForeign
    rcases history.outcome_of_served fresh member served with ⟨source, first, outcome⟩
    refine ⟨source, Eq.trans ?_ first, outcome⟩
    -- Whether a request of the describer is foreign depends on its identity alone.
    refine List.find?_congr fun other present => ?_
    rw [isServed other present, Request.isForeign, own other present]
    by_cases same : other.ident = request.ident
    · rw [same, foreign, Bool.not_false, Bool.true_and]
    · rw [beq_eq_false_iff_ne.mpr same, Bool.and_false]
  · rw [← computations]
    exact history.resolutions fresh fun request member => congrArg _ (own request member)
  · rw [accounts.served, filtered]

end History

/-- A describer whose cache is fresh discovers each foreign identity once, whatever
is requested, loaded, interned and used in the meantime.  The log has what was
requested, in order.  Uses of descriptors could as well be left out. -/
theorem Describer.run_memoizes (describer : Describer) (interners : SessionId -> Interner)
    (tables : HostId -> SymbolTable) (activities : List Activity) :
    let start := SharedState.fresh interners tables
    let run := activities.map (describer, ·)
    List.Forall₂ (fun asked request => request.Answers asked) (run.filter (·.2.isRequest))
        (start.log run) ∧
      describer.Memoizes start (start.log run) (start.finish run) ∧
      start.log (run.filter (!·.2.isUse)) = start.log run ∧
      start.finish (run.filter (!·.2.isUse)) = start.finish run := by
  intro start run
  have history : History start (start.log run) (start.finish run) := History.nothing.run run
  exact ⟨start.log_answers run, history.memoizes rfl fun _ => SharedState.describer_of_mem_log,
    start.run_without_uses run⟩

namespace Sample

def boxClass : ForeignClass :=
  ForeignClass.bare ⟨(interner.intern "geo.Box").1⟩ "geo.Box"
    |>.withField "x" .int
    |>.withConstructor ["x"] true
    |>.withAccessors

def lateDescriber : Describer := ⟨⟨0⟩, registry, ⟨0⟩⟩

/-- The class is loaded after the first request for it. -/
def lateLoad : List (Describer × Activity) :=
  [.describePath "geo.Box", .load boxClass, .describePath "geo.Box", .describe point].map
    (lateDescriber, ·)

def unused : SharedState := .fresh (fun _ => interner) fun _ => .empty

end Sample

/-- What failed once stays failed, and the native point is none of it. -/
theorem Describer.lateLoad_memoizes :
    Sample.lateDescriber.Memoizes Sample.unused (Sample.unused.log Sample.lateLoad)
        (Sample.unused.finish Sample.lateLoad) ∧
      (Sample.unused.log Sample.lateLoad).map (·.outcome.toOption.isSome) =
        [false, false, true] ∧
      ((Sample.unused.finish Sample.lateLoad).tables ⟨0⟩).resolutions = 1 ∧
      (Sample.unused.finish Sample.lateLoad).cache.size = 1 ∧
      (Sample.unused.finish Sample.lateLoad).cache.hits = 1 := by
  have memoizes := (Sample.lateDescriber.run_memoizes (fun _ => Sample.interner) (fun _ => .empty)
    [.describePath "geo.Box", .load Sample.boxClass, .describePath "geo.Box",
      .describe Sample.point]).2.1
  have discovered : (foreignIdents (Sample.unused.log Sample.lateLoad)).length = 1 := by
    decide +kernel
  refine ⟨memoizes, by decide +kernel, ?_, memoizes.size.trans discovered, by decide +kernel⟩
  exact memoizes.resolutions.trans ((Nat.zero_add _).trans discovered)

end StructuralProducts
