import StructuralProducts.Proofs.Caching.Requests
import StructuralProducts.Proofs.StableNames

namespace StructuralProducts

/-!
# Runs of describers

A run is any sequence of activities of any describers: requests, loads, interning,
and the use of descriptors.  Its log holds the requests in their order, each with
the states around it.

The cache after a run is an account of the log.  Its owner is the session of the
first foreign request; under each identity it has what the first served request
for it discovered; and its counters divide the served requests into those that
discovered and those that did not.  One request keeps the account
(`Accounts.extend`), so a run does, and so does every moment of a run before a
request (`History.split`).
-/

/-! ## Activities -/

/-- What can be done with a describer and what it gave. -/
inductive Activity where
  | describe (ident : TypeId)
  | describePath (path : String)
  | load (loaded : ForeignClass)
  | intern (text : String)
  | construct (descriptor : Descriptor) (arguments : List Value)
  | component (descriptor : Descriptor) (value : Value) (index : Nat)

/-- What comes of an activity. -/
inductive Report where
  | asked (request : Request)
  | loaded (handle : ClassHandle)
  | interned (name : Name)
  | used (result : Except DescriptorError Value)

def Report.request? : Report -> Option Request
  | .asked request => some request
  | _ => none

/-- The activity asks for a descriptor. -/
def Activity.isRequest : Activity -> Bool
  | .describe _ | .describePath _ => true
  | _ => false

/-- The activity uses a descriptor. -/
def Activity.isUse : Activity -> Bool
  | .construct _ _ | .component _ _ _ => true
  | _ => false

namespace SharedState

/-- The host that the descriptors of a describer call when they are used. -/
def runtime (shared : SharedState) (describer : Describer) : Runtime :=
  fun _ => (shared.session describer).host

def perform (shared : SharedState) (describer : Describer) : Activity -> Report × SharedState
  | .describe ident =>
      let request := shared.ask describer ident
      (.asked request, request.after)
  | .describePath path =>
      let request := shared.askPath describer path
      (.asked request, request.after)
  | .load loaded =>
      let (handle, shared) := shared.load describer.host loaded
      (.loaded handle, shared)
  | .intern text =>
      let (name, shared) := shared.intern describer.session text
      (.interned name, shared)
  | .construct descriptor arguments =>
      (.used (descriptor.construct (shared.runtime describer) arguments), shared)
  | .component descriptor value index =>
      (.used (descriptor.component (shared.runtime describer) value index), shared)

def run (shared : SharedState) : List (Describer × Activity) -> List Report × SharedState
  | [] => ([], shared)
  | (describer, activity) :: rest =>
      let (report, next) := shared.perform describer activity
      let (reports, last) := next.run rest
      (report :: reports, last)

/-- The requests of a run in their order. -/
def log (shared : SharedState) (activities : List (Describer × Activity)) : List Request :=
  (shared.run activities).1.filterMap Report.request?

/-- The state after a run. -/
def finish (shared : SharedState) (activities : List (Describer × Activity)) : SharedState :=
  (shared.run activities).2

variable {shared : SharedState}

theorem log_cons (describer : Describer) (activity : Activity)
    (rest : List (Describer × Activity)) :
    shared.log ((describer, activity) :: rest) =
      (shared.perform describer activity).1.request?.toList ++
        (shared.perform describer activity).2.log rest := by
  simp only [log, run, List.filterMap_cons]
  cases (shared.perform describer activity).1.request? <;> rfl

theorem finish_cons (describer : Describer) (activity : Activity)
    (rest : List (Describer × Activity)) :
    shared.finish ((describer, activity) :: rest) =
      (shared.perform describer activity).2.finish rest := rfl

/-- Using a descriptor is no request and changes nothing. -/
theorem perform_of_isUse {activity : Activity} (use : activity.isUse = true)
    (shared : SharedState) (describer : Describer) :
    (shared.perform describer activity).1.request? = none ∧
      (shared.perform describer activity).2 = shared := by
  cases activity with
  | construct descriptor arguments => exact ⟨rfl, rfl⟩
  | component descriptor value index => exact ⟨rfl, rfl⟩
  | describe ident => cases use
  | describePath path => cases use
  | load loaded => cases use
  | intern text => cases use

/-- A run without its uses of descriptors has the same log and the same end. -/
theorem run_without_uses (shared : SharedState) (activities : List (Describer × Activity)) :
    shared.log (activities.filter (!·.2.isUse)) = shared.log activities ∧
      shared.finish (activities.filter (!·.2.isUse)) = shared.finish activities := by
  induction activities generalizing shared with
  | nil => exact ⟨rfl, rfl⟩
  | cons first rest inductionHypothesis =>
      obtain ⟨describer, activity⟩ := first
      cases use : activity.isUse with
      | true =>
          rcases perform_of_isUse use shared describer with ⟨silent, unchanged⟩
          rw [List.filter_cons_of_neg (by simp only [use]; decide), log_cons, finish_cons, silent,
            unchanged]
          exact inductionHypothesis shared
      | false =>
          rw [List.filter_cons_of_pos (by simp only [use]; decide), log_cons, finish_cons, log_cons,
            finish_cons]
          rcases inductionHypothesis (shared.perform describer activity).2 with ⟨log, finish⟩
          exact ⟨congrArg _ log, finish⟩

end SharedState

/-- A request is the one that an activity makes: its describer asks, for the identity
that is named or for the one as which the path is interned. -/
def Request.Answers (request : Request) : Describer × Activity -> Prop
  | (describer, .describe ident) => request.describer = describer ∧ request.ident = ident
  | (describer, .describePath path) => request.describer = describer ∧
      (request.before.interners describer.session).intern path =
        (request.ident.name, request.before.interners describer.session)
  | _ => False

theorem Request.Answers.describer_eq {request : Request} {asked : Describer × Activity}
    (answers : request.Answers asked) : request.describer = asked.1 := by
  obtain ⟨describer, activity⟩ := asked
  cases activity with
  | describe ident => exact answers.1
  | describePath path => exact answers.1
  | load loaded => cases answers
  | intern text => cases answers
  | construct descriptor arguments => cases answers
  | component descriptor value index => cases answers

namespace SharedState

variable {shared : SharedState}

theorem answers_ask (shared : SharedState) (describer : Describer) (ident : TypeId) :
    (shared.ask describer ident).Answers (describer, .describe ident) :=
  ⟨rfl, rfl⟩

theorem answers_askPath (shared : SharedState) (describer : Describer) (path : String) :
    (shared.askPath describer path).Answers (describer, .describePath path) := by
  refine ⟨rfl, ?_⟩
  simp only [askPath, intern, Function.update_self]
  exact (shared.interners describer.session).settled_intern path

/-- The log has one request for each activity that asks for a descriptor, in order. -/
theorem log_answers (shared : SharedState) (activities : List (Describer × Activity)) :
    List.Forall₂ (fun asked request => request.Answers asked)
      (activities.filter (·.2.isRequest)) (shared.log activities) := by
  induction activities generalizing shared with
  | nil => exact .nil
  | cons first rest inductionHypothesis =>
      obtain ⟨describer, activity⟩ := first
      have later := inductionHypothesis (shared.perform describer activity).2
      rw [log_cons]
      cases activity with
      | describe ident => exact .cons (shared.answers_ask describer ident) later
      | describePath path => exact .cons (shared.answers_askPath describer path) later
      | load loaded => exact later
      | intern text => exact later
      | construct descriptor arguments => exact later
      | component descriptor value index => exact later

/-- In a run of one describer all requests are its own. -/
theorem describer_of_mem_log {describer : Describer} {activities : List Activity}
    {request : Request} (member : request ∈ shared.log (activities.map (describer, ·))) :
    request.describer = describer := by
  have answers := shared.log_answers (activities.map (describer, ·))
  rcases List.getElem_of_mem member with ⟨index, bound, rfl⟩
  have asked := answers.get (answers.length_eq ▸ bound) bound
  have present := (List.mem_filter.mp (List.getElem_mem (answers.length_eq ▸ bound))).1
  rcases List.mem_map.mp present with ⟨activity, _, own⟩
  exact asked.describer_eq.trans (congrArg Prod.fst own.symm)

end SharedState

/-! ## Histories -/

/-- The requests since a start and the state they led to.  What happens between
them leaves the cache and the counters of the hosts alone. -/
inductive History (start : SharedState) : List Request -> SharedState -> Prop where
  | nothing : History start [] start
  | asked {log : List Request} {shared : SharedState} (history : History start log shared)
      (describer : Describer) (ident : TypeId) :
      History start (log ++ [shared.ask describer ident]) (shared.ask describer ident).after
  | meanwhile {log : List Request} {shared next : SharedState} (history : History start log shared)
      (cache : next.cache = shared.cache)
      (resolutions : forall host, (next.tables host).resolutions = (shared.tables host).resolutions) :
      History start log next

namespace History

variable {start shared : SharedState} {log : List Request}

theorem perform (history : History start log shared) (describer : Describer)
    (activity : Activity) :
    History start (log ++ (shared.perform describer activity).1.request?.toList)
      (shared.perform describer activity).2 := by
  cases activity with
  | describe ident => exact history.asked describer ident
  | describePath path =>
      have interned : History start log (shared.intern describer.session path).2 :=
        history.meanwhile rfl fun _ => rfl
      have asked := interned.asked describer ⟨(shared.intern describer.session path).1⟩
      rw [← SharedState.askPath_eq_ask] at asked
      exact asked
  | load loaded =>
      refine (List.append_nil log).symm ▸ history.meanwhile rfl fun host => ?_
      by_cases same : host = describer.host
      · subst same
        simp only [SharedState.perform, SharedState.load, Function.update_self,
          SymbolTable.resolutions_load]
      · simp only [SharedState.perform, SharedState.load, Function.update_of_ne same]
  | intern text => exact (List.append_nil log).symm ▸ history.meanwhile rfl fun _ => rfl
  | construct descriptor arguments => exact (List.append_nil log).symm ▸ history
  | component descriptor value index => exact (List.append_nil log).symm ▸ history

theorem run (history : History start log shared) (activities : List (Describer × Activity)) :
    History start (log ++ shared.log activities) (shared.finish activities) := by
  induction activities generalizing log shared with
  | nil => exact (List.append_nil log).symm ▸ history
  | cons first rest inductionHypothesis =>
      rw [SharedState.log_cons, ← List.append_assoc]
      exact inductionHypothesis (history.perform first.1 first.2)

/-- Every request of a history took its course after those before it. -/
theorem split (history : History start log shared) {earlier later : List Request}
    {request : Request} (position : log = earlier ++ request :: later) :
    History start earlier request.before ∧ request.Course := by
  induction history generalizing later with
  | nothing => exact absurd position (by simp)
  | @asked before state history describer ident inductionHypothesis =>
      rcases List.eq_nil_or_concat later with none | ⟨rest, last, some⟩
      · subst none
        rcases List.append_inj' position rfl with ⟨same, asked⟩
        cases same
        cases List.singleton_inj.mp asked
        exact ⟨history, state.course_ask describer ident⟩
      · have longer : before ++ [state.ask describer ident] =
            (earlier ++ request :: rest) ++ [last] := by
          rw [position, some, List.concat_eq_append, List.append_assoc, List.cons_append]
        exact inductionHypothesis (List.append_inj' longer rfl).1
  | meanwhile history cache resolutions inductionHypothesis => exact inductionHypothesis position

end History
end StructuralProducts
