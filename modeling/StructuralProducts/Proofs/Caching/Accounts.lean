import Mathlib.Data.List.Dedup
import StructuralProducts.Proofs.Caching.Runs

namespace StructuralProducts

/-!
# The cache as an account of its requests

A foreign request is served when the cache is free or belongs to the session of
the describer.  What the cache holds at any time can be read off the requests up
to then: which of them is the first foreign one, and which are served.
-/

namespace Request

/-- The request is foreign and the cache does not belong to another session. -/
def isServed (request : Request) : Bool :=
  request.isForeign && request.before.cache.owner?.all (· == request.describer.session)

theorem isServed_iff (request : Request) :
    request.isServed = true ↔ request.isForeign = true ∧
      (request.before.cache.owner? = none ∨
        request.before.cache.owner? = some request.describer.session) := by
  rw [isServed, Bool.and_eq_true]
  cases request.before.cache.owner? with
  | none => simp only [Option.all_none, true_or]
  | some owner =>
      simp only [Option.all_some, beq_iff_eq, reduceCtorEq, false_or, Option.some.injEq]

/-- The first served request for an identity. -/
def firstServed? (log : List Request) (ident : TypeId) : Option Request :=
  log.find? fun request => request.isServed && request.ident == ident

/-- The request discovered its outcome, and the host and the cache counted it. -/
structure Discovers (request : Request) : Prop where
  outcome : request.outcome = request.discovery
  resolutions : request.after.tables = request.countResolution
  computations : request.after.cache.computations = request.before.cache.computations + 1

variable {log : List Request} {request : Request}

theorem Course.isForeign_of_native {decl : TypeDecl}
    (declared : request.describer.registry.decl? request.ident = some decl)
    (native : decl.isNative = true) : request.isForeign = false := by
  simp only [isForeign, Registry.isNative, declared, native, Bool.not_true]

/-- A request with a native declaration gets what the declaration gives. -/
theorem Course.of_native (course : request.Course) {decl : TypeDecl}
    (declared : request.describer.registry.decl? request.ident = some decl)
    (native : decl.isNative = true) :
    decl.Gives (request.before.interners request.describer.session) request.outcome ∧
      request.after = request.before := by
  have own := isForeign_of_native declared native
  cases course with
  | native found _ gives unchanged =>
      cases declared.symm.trans found
      exact ⟨gives, unchanged⟩
  | refused foreign => exact absurd (foreign.symm.trans own) nofun
  | answered foreign => exact absurd (foreign.symm.trans own) nofun
  | discovered foreign => exact absurd (foreign.symm.trans own) nofun

/-- A served request is answered from the cache or discovers. -/
theorem Course.of_served (course : request.Course) (served : request.isServed = true) :
    request.before.cache.entries.get? request.ident = some (.settled request.outcome) ∨
    ((forall outcome, request.before.cache.entries.get? request.ident ≠ some (.settled outcome)) ∧
      request.Discovers) := by
  rcases request.isServed_iff.mp served with ⟨foreign, owned⟩
  cases course with
  | native declared native gives unchanged =>
      exact absurd (foreign.symm.trans (isForeign_of_native declared native)) nofun
  | refused _ refusing other refusal unchanged =>
      rcases owned with free | own
      · exact absurd (free.symm.trans refusing) nofun
      · exact absurd (Option.some.inj (refusing.symm.trans own)) other
  | answered _ _ found after => exact .inl found
  | discovered _ _ unsettled discovers cache tables =>
      exact .inr ⟨unsettled, discovers, tables, cache ▸ rfl⟩

/-- A foreign request that is not served is refused. -/
theorem Course.of_not_served (course : request.Course) (foreign : request.isForeign = true)
    (passed : request.isServed = false) :
    request.outcome = .error (.sessionMismatch
        (request.ident.path (request.before.interners request.describer.session))) ∧
      request.after = request.before := by
  cases course with
  | native declared native gives unchanged =>
      exact absurd (foreign.symm.trans (isForeign_of_native declared native)) nofun
  | refused _ owned other refusal unchanged => exact ⟨refusal, unchanged⟩
  | answered _ owned found after =>
      exact absurd (passed.symm.trans (request.isServed_iff.mpr ⟨foreign, owned⟩)) nofun
  | discovered _ owned unsettled discovers cache tables =>
      exact absurd (passed.symm.trans (request.isServed_iff.mpr ⟨foreign, owned⟩)) nofun

theorem firstServed?_append_of_served (served : request.isServed = true) (ident : TypeId) :
    firstServed? (log ++ [request]) ident =
      (firstServed? log ident).or (if request.ident = ident then some request else none) := by
  rw [firstServed?, List.find?_append, List.find?_singleton, served, Bool.true_and]
  simp only [beq_iff_eq, firstServed?]

theorem firstServed?_append_of_not_served (passed : request.isServed = false) (ident : TypeId) :
    firstServed? (log ++ [request]) ident = firstServed? log ident := by
  rw [firstServed?, List.find?_append, List.find?_singleton, passed, Bool.false_and]
  simp only [Bool.false_eq_true, if_false, Option.or_none, firstServed?]

end Request

open Request

/-- A cache accounts for the requests that were made to it since it was empty. -/
structure DescriptorCache.Accounts (cache : DescriptorCache) (log : List Request) : Prop where
  owner : cache.owner? = (log.find? (·.isForeign)).map (·.describer.session)
  entries : forall ident, cache.entries.get? ident =
    (firstServed? log ident).map fun source => .settled source.discovery
  keys : cache.entries.keys.Nodup
  computations : cache.computations = cache.size
  served : cache.hits + cache.computations = (log.filter (·.isServed)).length

namespace DescriptorCache.Accounts

variable {cache : DescriptorCache} {log : List Request} {request : Request}

theorem empty : DescriptorCache.empty.Accounts [] where
  owner := rfl
  entries _ := rfl
  keys := List.nodup_nil
  computations := rfl
  served := rfl

theorem firstServed?_eq_none (accounts : cache.Accounts log) {ident : TypeId}
    (unsettled : forall outcome, cache.entries.get? ident ≠ some (.settled outcome)) :
    firstServed? log ident = none := by
  cases found : firstServed? log ident with
  | none => rfl
  | some source =>
      have settled := accounts.entries ident
      rw [found] at settled
      exact absurd settled (unsettled source.discovery)

/-- Once a request is served, the session of its describer is the owner's. -/
theorem owner_append (accounts : request.before.cache.Accounts log)
    (foreign : request.isForeign = true)
    (owned : request.before.cache.owner? = none ∨
      request.before.cache.owner? = some request.describer.session) :
    some request.describer.session =
      ((log ++ [request]).find? (·.isForeign)).map (·.describer.session) := by
  have owner := accounts.owner
  rw [List.find?_append]
  cases opener : log.find? (·.isForeign) with
  | none => simp only [List.find?_singleton, foreign, if_true, Option.none_or, Option.map_some]
  | some opener =>
      rw [opener] at owner
      rcases owned with free | own
      · exact absurd (free.symm.trans owner) nofun
      · exact own.symm.trans owner

/-- A request that is not served finds the cache as it was. -/
theorem pass (accounts : request.before.cache.Accounts log) (passed : request.isServed = false)
    (owner : request.isForeign = true -> request.before.cache.owner? ≠ none)
    (unchanged : request.after = request.before) :
    request.after.cache.Accounts (log ++ [request]) where
  owner := by
    rw [unchanged, accounts.owner, List.find?_append]
    cases opener : log.find? (·.isForeign) with
    | some opener => rfl
    | none =>
        have native : request.isForeign = false := by
          refine Bool.eq_false_iff.mpr fun foreign => owner foreign ?_
          rw [accounts.owner, opener]
          rfl
        simp only [List.find?_singleton, native, Bool.false_eq_true, if_false, Option.none_or]
  entries ident := by
    rw [unchanged, accounts.entries, firstServed?_append_of_not_served passed]
  keys := unchanged ▸ accounts.keys
  computations := unchanged ▸ accounts.computations
  served := by
    rw [unchanged, accounts.served, List.filter_append, List.filter_cons_of_neg (by simp [passed]),
      List.filter_nil, List.append_nil]

theorem length_served_append (served : request.isServed = true) :
    ((log ++ [request]).filter (·.isServed)).length = (log.filter (·.isServed)).length + 1 := by
  rw [List.filter_append, List.filter_cons_of_pos served, List.filter_nil, List.length_append]
  rfl

/-- One more request, whatever its course, keeps the account. -/
theorem extend (accounts : request.before.cache.Accounts log) (course : request.Course) :
    request.after.cache.Accounts (log ++ [request]) := by
  cases course with
  | native declared isNative gives unchanged =>
      have native := Course.isForeign_of_native declared isNative
      refine accounts.pass (by rw [isServed, native, Bool.false_and]) (fun foreign => ?_) unchanged
      exact absurd (foreign.symm.trans native) nofun
  | refused foreign owned other refusal unchanged =>
      have passed : request.isServed = false := by
        simp only [isServed, foreign, owned, Option.all_some, Bool.true_and, beq_eq_false_iff_ne.mpr other]
      exact accounts.pass passed (fun _ free => nomatch free.symm.trans owned) unchanged
  | answered foreign owned found after =>
      have served := request.isServed_iff.mpr ⟨foreign, owned⟩
      rw [after]
      refine ⟨accounts.owner_append foreign owned, fun ident => ?_, accounts.keys,
        accounts.computations, ?_⟩
      · -- The entry of the identity is settled, so an earlier request was served for it.
        rw [firstServed?_append_of_served served, accounts.entries]
        cases earlier : firstServed? log ident with
        | some source => rfl
        | none =>
            have other : request.ident ≠ ident := by
              intro same
              have settled := accounts.entries request.ident
              rw [same, earlier, ← same, found] at settled
              cases settled
            simp only [if_neg other, Option.none_or]
      · rw [length_served_append served, ← accounts.served]
        exact Nat.add_right_comm _ _ _
  | discovered foreign owned unsettled discovers cache tables =>
      have served := request.isServed_iff.mpr ⟨foreign, owned⟩
      have first := accounts.firstServed?_eq_none unsettled
      have absent : request.before.cache.entries.get? request.ident = none := by
        rw [accounts.entries, first]
        rfl
      rw [cache]
      refine ⟨accounts.owner_append foreign owned, fun ident => ?_,
        KeyedList.nodup_keys_insert accounts.keys _ _, ?_, ?_⟩
      · rw [firstServed?_append_of_served served]
        by_cases same : request.ident = ident
        · subst same
          rw [KeyedList.get?_insert_self, first, discovers, if_pos rfl]
          rfl
        · rw [KeyedList.get?_insert_of_ne _ _ (Ne.symm same), accounts.entries, if_neg same,
            Option.or_none]
      · exact (congrArg (· + 1) accounts.computations).trans
          (KeyedList.size_insert_of_get?_eq_none absent _).symm
      · rw [length_served_append served, ← accounts.served]
        exact (Nat.add_assoc _ _ _).symm

/-- The cache has one entry for each identity that was served. -/
theorem size_eq (accounts : cache.Accounts log) :
    cache.size = ((log.filter (·.isServed)).map (·.ident)).dedup.length := by
  rw [size, KeyedList.size_eq_length_keys]
  refine ((List.perm_ext_iff_of_nodup accounts.keys (List.nodup_dedup _)).mpr fun ident => ?_).length_eq
  rw [KeyedList.mem_keys_iff, accounts.entries, Option.isSome_map, firstServed?,
    List.find?_isSome, List.mem_dedup, List.mem_map]
  simp only [List.mem_filter, Bool.and_eq_true, beq_iff_eq, and_assoc]

end DescriptorCache.Accounts

namespace History

variable {start shared : SharedState} {log : List Request} {request : Request}

theorem accounts (history : History start log shared) (fresh : start.cache = .empty) :
    shared.cache.Accounts log := by
  induction history with
  | nothing => exact fresh ▸ .empty
  | asked history describer ident inductionHypothesis =>
      exact DescriptorCache.Accounts.extend inductionHypothesis
        (SharedState.course_ask _ describer ident)
  | meanwhile history cache resolutions inductionHypothesis => exact cache ▸ inductionHypothesis

/-- Where all describers have one host, it answers once for each computation. -/
theorem resolutions (history : History start log shared) (fresh : start.cache = .empty)
    {host : HostId} (own : forall request, request ∈ log -> request.describer.host = host) :
    (shared.tables host).resolutions =
      (start.tables host).resolutions + shared.cache.computations := by
  induction history with
  | nothing => rw [fresh]; rfl
  | @asked before state history describer ident inductionHypothesis =>
      have earlier := inductionHypothesis fun request member =>
        own request (List.mem_append_left _ member)
      have last : describer.host = host :=
        own (state.ask describer ident) (List.mem_append_right _ List.mem_cons_self)
      subst last
      cases state.course_ask describer ident with
      | native declared isNative gives unchanged => rw [unchanged]; exact earlier
      | refused foreign owned other refusal unchanged => rw [unchanged]; exact earlier
      | answered foreign owned found after => rw [after]; exact earlier
      | discovered foreign owned unsettled discovers cache tables =>
          have counted : (state.ask describer ident).after.tables describer.host =
              { state.tables describer.host with
                resolutions := (state.tables describer.host).resolutions + 1 } := by
            rw [tables]
            exact Function.update_self ..
          rw [counted, cache]
          exact (congrArg (· + 1) earlier).trans (Nat.add_assoc _ _ _)
  | meanwhile history cache same inductionHypothesis =>
      rw [same, cache]
      exact inductionHypothesis own

/-- A foreign request is served exactly if its session is that of the first one. -/
theorem isServed_iff (history : History start log shared) (fresh : start.cache = .empty)
    (member : request ∈ log) (foreign : request.isForeign = true) :
    Exists fun opener => log.find? (·.isForeign) = some opener ∧
      (request.isServed = true ↔ request.describer.session = opener.describer.session) := by
  rcases List.mem_iff_append.mp member with ⟨earlier, later, position⟩
  have owner := ((history.split position).1.accounts fresh).owner
  rw [request.isServed_iff, and_iff_right foreign, position, List.find?_append, owner]
  cases found : earlier.find? (·.isForeign) with
  | some opener =>
      refine ⟨opener, rfl, ?_⟩
      simp only [Option.map_some, reduceCtorEq, false_or, Option.some.injEq]
      exact eq_comm
  | none =>
      refine ⟨request, ?_, iff_of_true (.inl rfl) rfl⟩
      rw [List.find?_cons_of_pos foreign]
      rfl

/-- A served request has the outcome that the first served one discovered. -/
theorem outcome_of_served (history : History start log shared) (fresh : start.cache = .empty)
    (member : request ∈ log) (served : request.isServed = true) :
    Exists fun source => firstServed? log request.ident = some source ∧
      request.outcome = source.discovery := by
  rcases List.mem_iff_append.mp member with ⟨earlier, later, position⟩
  rcases history.split position with ⟨before, course⟩
  have accounts := before.accounts fresh
  rw [position, List.append_cons, firstServed?, List.find?_append]
  change Exists fun source => (firstServed? (earlier ++ [request]) request.ident).or _ = _ ∧ _
  rw [firstServed?_append_of_served served, if_pos rfl]
  rcases course.of_served served with found | ⟨unsettled, discovers⟩
  · rw [accounts.entries] at found
    rcases Option.map_eq_some_iff.mp found with ⟨source, first, settled⟩
    rw [first]
    exact ⟨source, rfl, (CacheEntry.settled.inj settled).symm⟩
  · rw [accounts.firstServed?_eq_none unsettled]
    exact ⟨request, rfl, discovers.outcome⟩

/-- The first served request for an identity discovers. -/
theorem discovers_of_first (history : History start log shared) (fresh : start.cache = .empty)
    {ident : TypeId} {source : Request} (first : firstServed? log ident = some source) :
    source.Discovers := by
  rcases List.find?_eq_some_iff_append.mp first with ⟨chosen, earlier, later, position, none⟩
  rcases Bool.and_eq_true_iff.mp chosen with ⟨served, same⟩
  rcases history.split position with ⟨before, course⟩
  rcases course.of_served served with found | ⟨_, discovers⟩
  · -- Had the cache known the outcome, then an earlier request would be the first.
    rw [(before.accounts fresh).entries] at found
    rcases Option.map_eq_some_iff.mp found with ⟨other, known, _⟩
    rw [beq_iff_eq.mp same] at known
    have served := List.find?_some known
    have passed := none other (List.mem_of_find?_eq_some known)
    rw [served] at passed
    cases passed
  · exact discovers

end History
end StructuralProducts
