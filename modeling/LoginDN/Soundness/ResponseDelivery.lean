import LoginDN.Machine.Pipeline
import LoginDN.Machine.Simulation
import LoginDN.Model.SessionHandlers

/-! # Which response a handler is called with, and whether it is called

The handlers of a session are the items of a pipeline: each waits in the queue of its request, then on
the main queue. Every call has the response of the last task of its request and nothing of any other
task, or the error of the last attempt to make one. A handler is called unless its request hangs, and a
request hangs exactly if the completion of its last task was not heard.
-/

namespace LoginDN.ResponseDelivery

open Machine Alamofire SessionManager

variable {retrier : Bool} {manager target : SessionManager} {event : SessionEvent} {events : List SessionEvent}
  {request handler : ℕ}

section Pipeline

/-- A call as an item of the pipeline. -/
def item (call : Call) : ℕ × ℕ := (call.request, call.handler)

/-- The handlers of the manager as items under the numbers of their requests. -/
def pipeline (manager : SessionManager) : Pipeline ℕ ℕ where
  waiting request := if request < manager.nextRequest then manager.operations request else []
  shared := manager.mainQueue.map item
  entered := manager.added
  delivered := manager.called.map item

def pipelineEvents (manager : SessionManager) : SessionEvent → List (Pipeline.Event ℕ ℕ)
  | .response request => [.enter request manager.nextHandler]
  | .operation request => [.release request]
  | .main => [.deliver]
  | _ => []

/-- No request made by an event has an operation yet. -/
theorem operations_request (outcome : Except RequestFailure Unit) :
    (manager.request retrier outcome).operations manager.nextRequest = [] := by
  cases outcome with
  | ok value =>
    simp only [operations, SessionManager.request, Function.update_self]
    rfl
  | error failure =>
    let made := { manager with
      made := Function.update manager.made manager.nextRequest (.new failure.hasURLRequest none (some failure.error))
      nextRequest := manager.nextRequest + 1 }
    have new : made.operations manager.nextRequest = [] := by
      simp only [made, operations, Function.update_self]
      rfl
    by_cases asked : (retrier && failure.isAdaptError) = true
    · have result : manager.request retrier (.error failure) =
          { made with retries := manager.retries.issue (.asked manager.nextRequest none failure.error) } := if_pos asked
      rw [result]
      exact new
    · have result : manager.request retrier (.error failure) = made.modify manager.nextRequest DataRequest.resume :=
        if_neg asked
      rw [result]
      exact (apart_operations.resume _).trans new

/-- What waits in the pipeline after an event. -/
theorem waiting_step (routed : manager.Routed) (step : manager.step? retrier event = some target) (request : ℕ) :
    (pipeline target).waiting request =
      if request < manager.nextRequest then manager.operationsAfter request event else [] := by
  change (if request < target.nextRequest then target.operations request else []) = _
  by_cases below : request < manager.nextRequest
  · rw [if_pos below, if_pos (Nat.lt_of_lt_of_le below (nextRequest_le step)), operations_step routed step below]
  · rw [if_neg below]
    obtain ⟨outcome, _, rfl⟩ | ⟨_, same⟩ := nextRequest_step step
    · by_cases new : request = manager.nextRequest
      · rw [new, operations_request, ite_self]
      · rw [nextRequest_request, if_neg (by omega)]
    · rw [same, if_neg below]

/-- Every event of the session is an event of the pipeline, or none. -/
theorem pipeline_step (routed : manager.Routed) (step : manager.step? retrier event = some target) :
    Pipeline.machine.run? (pipeline manager) (pipelineEvents manager event) = some (pipeline target) := by
  have waiting := waiting_step routed step
  cases step?_queued step with
  | added other named known queues =>
    subst named
    simp only [SessionManager.queues, Prod.mk.injEq] at queues
    obtain ⟨_, added, mainQueue, called⟩ := queues
    rw [pipelineEvents, System.run?_singleton]
    refine congrArg some (Pipeline.ext (funext fun request => ?_) ?_ ?_ ?_)
    · rw [waiting]
      simp only [operationsAfter]
      by_cases same : request = other
      · subst same
        simp [pipeline, known]
      · simp [pipeline, same, Ne.symm same]
    · simp [pipeline, mainQueue]
    · simp [pipeline, added]
    · simp [pipeline, called]
  | answered other handler rest named resumed operations queues =>
    subst named
    simp only [SessionManager.queues, Prod.mk.injEq] at queues
    obtain ⟨_, added, mainQueue, called⟩ := queues
    have first : (pipeline manager).waiting other = handler :: rest := by
      simp only [pipeline, if_pos resumed.1, operations]
    rw [pipelineEvents, System.run?_singleton]
    simp only [Pipeline.machine, Pipeline.step?, first]
    refine congrArg some (Pipeline.ext (funext fun request => ?_) ?_ ?_ ?_)
    · rw [waiting]
      simp only [operationsAfter]
      by_cases same : request = other
      · subst same
        simp [resumed.1, operations]
      · simp [pipeline, same, Ne.symm same]
    · simp [pipeline, mainQueue, item]
    · simp [pipeline, added]
    · simp [pipeline, called]
  | called call rest named first queues =>
    subst named
    simp only [SessionManager.queues, Prod.mk.injEq] at queues
    obtain ⟨_, added, mainQueue, called⟩ := queues
    have shared : (pipeline manager).shared = item call :: rest.map item := by
      simp only [pipeline, first, List.map_cons]
    rw [pipelineEvents, System.run?_singleton]
    simp only [Pipeline.machine, Pipeline.step?, shared]
    refine congrArg some (Pipeline.ext (funext fun request => ?_) ?_ ?_ ?_)
    · rw [waiting]
      simp only [operationsAfter, pipeline]
    · simp [pipeline, mainQueue]
    · simp [pipeline, added]
    · simp [pipeline, called]
  | quiet main other queues =>
    simp only [SessionManager.queues, Prod.mk.injEq] at queues
    obtain ⟨_, added, mainQueue, called⟩ := queues
    have same : pipeline target = pipeline manager := by
      refine Pipeline.ext (funext fun request => ?_) ?_ ?_ ?_
      · rw [waiting]
        cases event with
        | response request => exact absurd rfl (other request).1
        | operation request => exact absurd rfl (other request).2
        | _ => rfl
      · simp only [pipeline, mainQueue]
      · simp only [pipeline, added]
      · simp only [pipeline, called]
    rw [same]
    cases event with
    | response request => exact absurd rfl (other request).1
    | operation request => exact absurd rfl (other request).2
    | main => exact absurd rfl main
    | _ => rfl

/-- Every run of the session is a run of the pipeline. -/
def translation (retrier : Bool) :
    System.Translation (machine retrier) (Pipeline.machine : System (Pipeline ℕ ℕ) _) Routed where
  state := pipeline
  events := pipelineEvents
  initial := rfl
  step _ _ _ routed step := pipeline_step routed step

theorem conserved_of_reaches (reached : (machine retrier).Reaches events manager) : (pipeline manager).Conserved :=
  Pipeline.conserved_of_reaches
    ((translation retrier).reaches routed_initial (fun _ _ _ routed step => routed_step routed step) reached)

/-- Handlers are numbered as they are added. -/
def Numbered (manager : SessionManager) : Prop := manager.added.map Prod.snd = List.range manager.nextHandler

theorem numbered_of_reaches (reached : (machine retrier).Reaches events manager) : Numbered manager := by
  have start : Numbered initial := rfl
  refine reached.invariant start fun source event target numbered step => ?_
  cases step?_queued step with
  | added request named known queues =>
    simp only [SessionManager.queues, Prod.mk.injEq] at queues
    rw [Numbered, queues.1, queues.2.1, List.map_append, numbered, List.range_succ]
    rfl
  | answered request handler rest named resumed waiting queues =>
    simp only [SessionManager.queues, Prod.mk.injEq] at queues
    rw [Numbered, queues.1, queues.2.1, numbered]
  | called call rest named waiting queues =>
    simp only [SessionManager.queues, Prod.mk.injEq] at queues
    rw [Numbered, queues.1, queues.2.1, numbered]
  | quiet main other queues =>
    simp only [SessionManager.queues, Prod.mk.injEq] at queues
    rw [Numbered, queues.1, queues.2.1, numbered]

/-- In every run each handler is called at most once and with its own request, and the handlers of a
request are called in the order in which they were added, without a gap. -/
theorem handlers_called_in_order (reached : (machine retrier).Reaches events manager) :
    (manager.called.map Call.handler).Nodup ∧ (∀ call ∈ manager.called, (call.request, call.handler) ∈ manager.added) ∧
      ∀ request, Pipeline.ofKey request (manager.called.map item) <+: Pipeline.ofKey request manager.added := by
  have conserved := conserved_of_reaches reached
  have numbers : (manager.added.map Prod.snd).Nodup := by
    rw [numbered_of_reaches reached]
    exact List.nodup_range
  have once := conserved.nodup (numbers.of_map Prod.snd)
  have entered {call : Call} (member : call ∈ manager.called) : (call.request, call.handler) ∈ manager.added :=
    conserved.mem (List.mem_append_left _ (List.mem_map_of_mem member))
  refine ⟨?_, fun call member => entered member, conserved.prefix⟩
  have items := (List.nodup_append.mp once).1
  have same : manager.called.map Call.handler = (manager.called.map item).map Prod.snd := by
    rw [List.map_map]
    rfl
  rw [same]
  refine items.map_on fun first member second other equal => ?_
  obtain ⟨one, called, rfl⟩ := List.mem_map.mp member
  obtain ⟨two, recalled, rfl⟩ := List.mem_map.mp other
  exact List.inj_on_of_nodup_map numbers (entered called) (entered recalled) equal

/-- A request that fails and is retried: its second task delivers. -/
def retriedRun : List SessionEvent :=
  [.request (.ok ()), .response 0, .didReceiveData 0 [1], .didComplete 0 (some NSError.blank), .retrierAnswered 0 true,
    .retried 0 (.ok ()), .response 0, .registered 0, .didReceiveResponse 1 200, .didReceiveData 1 [2, 3],
    .didComplete 1 none, .operation 0, .operation 0, .main, .main]

/-- Both handlers of a retried request are called. -/
theorem handlers_called_after_retry : ∃ manager, (machine true).Reaches retriedRun manager ∧
    manager.called.map Call.handler = [0, 1] ∧
    ∀ request, Pipeline.ofKey request (manager.called.map item) <+: Pipeline.ofKey request manager.added := by
  have run : ((machine true).run? initial retriedRun).map (fun manager => manager.called.map Call.handler) =
      some [0, 1] := by decide +kernel
  obtain ⟨manager, reached, handlers⟩ := Option.map_eq_some_iff.mp run
  exact ⟨manager, reached, handlers, (handlers_called_in_order reached).2.2⟩

end Pipeline

section Answers

/-- A response was made by a request whose handlers may run, and is what that request still answers. -/
structure Answered (manager : SessionManager) : Prop extends Routed manager where
  calls : ∀ call ∈ manager.called ++ manager.mainQueue,
    manager.Resumed call.request ∧ call.answer = manager.answer call.request

theorem answered_step (answered : Answered manager) (step : manager.step? retrier event = some target) :
    Answered target := by
  have routed := answered.toRouted
  have old {call : Call} (member : call ∈ manager.called ++ manager.mainQueue) :
      target.Resumed call.request ∧ call.answer = target.answer call.request := by
    obtain ⟨resumed, same⟩ := answered.calls call member
    obtain ⟨still, kept⟩ := resumed.step routed step
    exact ⟨still, same.trans kept.symm⟩
  refine ⟨routed_step routed step, fun call member => ?_⟩
  cases step?_queued step with
  | added request named known queues =>
    simp only [SessionManager.queues, Prod.mk.injEq] at queues
    rw [queues.2.2.1, queues.2.2.2] at member
    exact old member
  | answered request handler rest named resumed waiting queues =>
    simp only [SessionManager.queues, Prod.mk.injEq] at queues
    rw [queues.2.2.1, queues.2.2.2, ← List.append_assoc] at member
    rcases List.mem_append.mp member with before | new
    · exact old before
    · obtain rfl := List.mem_singleton.mp new
      obtain ⟨still, kept⟩ := resumed.step routed step
      exact ⟨still, kept.symm⟩
  | called first rest named waiting queues =>
    simp only [SessionManager.queues, Prod.mk.injEq] at queues
    rw [queues.2.2.1, queues.2.2.2, List.append_assoc, List.singleton_append, ← waiting] at member
    exact old member
  | quiet main other queues =>
    simp only [SessionManager.queues, Prod.mk.injEq] at queues
    rw [queues.2.2.1, queues.2.2.2] at member
    exact old member

theorem answered_of_reaches (reached : (machine retrier).Reaches events manager) : Answered manager :=
  reached.invariant ⟨routed_initial, fun _ member => absurd member List.not_mem_nil⟩ fun _ _ _ => answered_step

/-- The call tells of the task what the task has told: its response, all data that was not missed, and
an error unless the task completed without one and passed its validations. No other request has it. -/
structure Tells (manager : SessionManager) (call : Call) (task : ℕ) (data : List UInt8) : Prop where
  assigned : manager.taskOf call.request = some task
  owner : ∀ other, other < manager.nextRequest → manager.taskOf other = some task → other = call.request
  completed : (manager.tasks task).completed = true
  statusCode : call.answer.statusCode = (manager.tasks task).response
  answer : call.answer.data = some data
  received : (manager.tasks task).received = (manager.tasks task).missed ++ data
  error : call.answer.error = none ↔ (manager.tasks task).Passed data

/-- The call tells of no task, as its request has never had one, but of the error of the last attempt to
make one. -/
structure TellsRefusal (retrier : Bool) (events : List SessionEvent) (manager : SessionManager) (call : Call)
    (error : NSError) : Prop where
  unassigned : manager.taskOf call.request = none
  never : ∀ before after, events = before ++ after → ∀ state, (machine retrier).Reaches before state →
    call.request < state.nextRequest → state.taskOf call.request = none
  last : (machine retrier).lastSeen (refusal? call.request) (machine retrier).initial events = some error
  answer : call.answer = ⟨none, some [], some error⟩

/-- A request that has no task has had none. -/
theorem unassigned_before (routed : manager.Routed) (known : request < manager.nextRequest)
    (run : (machine retrier).run? manager events = some target) (unassigned : target.taskOf request = none) :
    manager.taskOf request = none := by
  induction events generalizing manager with
  | nil =>
    cases run
    exact unassigned
  | cons event rest ih =>
    obtain ⟨next, step, tail⟩ := System.run?_cons_iff.mp run
    have later := ih (routed_step routed step) (Nat.lt_of_lt_of_le known (nextRequest_le step)) tail
    exact (untasked_step routed step later).unassigned known

/-- In every run a request without a task has the error of the last attempt to make one. -/
theorem error_of_untasked (reached : (machine retrier).Reaches events manager) (unassigned : manager.taskOf request = none) :
    (manager.made request).delegate.error = (machine retrier).lastSeen (refusal? request) (machine retrier).initial events := by
  induction events using List.reverseRecOn generalizing manager with
  | nil =>
    cases reached
    rfl
  | append_singleton events event ih =>
    obtain ⟨source, before, step⟩ := System.reaches_concat_iff.mp reached
    rw [System.lastSeen_concat before step]
    cases untasked_step (answered_of_reaches before).toRouted step unassigned with
    | refused error told _ failed => rw [told, Option.some_or, failed]
    | kept untold earlier same => rw [untold, Option.none_or, same, ih before earlier]

theorem tells_of_reaches (reached : (machine retrier).Reaches events manager) {call : Call}
    (member : call ∈ manager.called) :
    (∃ task data, Tells manager call task data) ∨ ∃ error, TellsRefusal retrier events manager call error := by
  have answered := answered_of_reaches reached
  have routed := answered.toRouted
  obtain ⟨resumed, same⟩ := answered.calls call (List.mem_append_left _ member)
  have error : call.answer.error = (manager.made call.request).delegate.error := by rw [same]; rfl
  obtain ⟨_, ⟨task, assigned, _, completed, judged⟩ | ⟨unassigned, failed, empty⟩⟩ := resumed.cases routed
  · refine .inl ⟨task, (manager.made call.request).delegate.mutableData, assigned, fun other known belongs => ?_,
      completed, ?_, ?_, routed.data _ _ resumed.1 assigned, ?_⟩
    · exact routed.owner other call.request task known resumed.1 belongs assigned
    · rw [same, answer, response?, assigned, Option.bind_some]
    · rw [same, answer]
    · rw [error, judged]
  · obtain ⟨cause, known⟩ := Option.ne_none_iff_exists'.mp failed
    refine .inr ⟨cause, unassigned, ?_, (error_of_untasked reached unassigned).symm.trans known, ?_⟩
    · rintro before after rfl state start made
      obtain ⟨middle, first, rest⟩ := System.run?_append_iff.mp reached
      obtain rfl := Option.some.inj (first.symm.trans start)
      exact unassigned_before (answered_of_reaches start).toRouted made rest unassigned
    · rw [same, answer, response?, unassigned, empty, known]
      rfl

/-- In every run each call of a handler tells of the last task of its request, or of the error with which
the last attempt to make one has failed. -/
theorem calls_tell_of_own_task (reached : (machine retrier).Reaches events manager) :
    ∀ call ∈ manager.called,
      (∃ task data, Tells manager call task data) ∨ ∃ error, TellsRefusal retrier events manager call error :=
  fun _ member => tells_of_reaches reached member

/-- Another request, which the adapter refuses twice. -/
def refusedRun : List SessionEvent :=
  retriedRun ++ [.request (.error (.notAdapted NSError.blank)), .response 1, .retrierAnswered 1 true,
    .retried 1 (.error ⟨"expired"⟩), .operation 1, .main]

/-- The first task of the retried request leaves nothing in what its handlers are called with, and the
first refusal nothing in what the handler of the other is called with. -/
theorem calls_tell_of_second_task : ∃ manager, (machine true).Reaches refusedRun manager ∧
    (manager.called.map fun call => (call.answer.data, call.answer.error)) =
      [(some [2, 3], none), (some [2, 3], none), (some [], some ⟨"expired"⟩)] ∧ manager.taskOf 0 = some 1 ∧
    ∀ call ∈ manager.called,
      (∃ task data, Tells manager call task data) ∨ ∃ error, TellsRefusal true refusedRun manager call error := by
  have run : ((machine true).run? initial refusedRun).map
      (fun manager => (manager.called.map fun call => (call.answer.data, call.answer.error), manager.taskOf 0)) =
      some ([(some [2, 3], none), (some [2, 3], none), (some [], some ⟨"expired"⟩)], some 1) := by decide +kernel
  obtain ⟨manager, reached, observed⟩ := Option.map_eq_some_iff.mp run
  obtain ⟨answers, task⟩ := Prod.mk.inj observed
  exact ⟨manager, reached, answers, task, calls_tell_of_own_task reached⟩

end Answers

section Liveness

/-- Nothing happens by itself any more. -/
def Settled (retrier : Bool) (manager : SessionManager) : Prop :=
  ∀ event, event.causedByApp = false → manager.step? retrier event = none

theorem Settled.not_live (settled : Settled retrier manager) (task : ℕ) : ¬ manager.Live task := by
  intro live
  have refused := settled (.didComplete task none) rfl
  simp only [step?, if_pos live] at refused
  contradiction

theorem Settled.retries (settled : Settled retrier manager) : manager.retries.entries = [] := by
  apply List.eq_nil_iff_forall_not_mem.mpr
  rintro ⟨id, retry⟩ member
  have found := Ledger.find?_eq_some_iff.mpr member
  cases retry with
  | asked request task error =>
    have refused := settled (.retrierAnswered id true) rfl
    simp only [step?, found, if_true] at refused
    contradiction
  | delayed request task error =>
    have refused := settled (.retried id (.error error)) rfl
    simp only [step?, found] at refused
    split at refused
    · contradiction
    · contradiction
  | registering request =>
    have refused := settled (.registered id) rfl
    simp only [step?, found] at refused
    contradiction

theorem Settled.mainQueue (settled : Settled retrier manager) : manager.mainQueue = [] := by
  have refused := settled .main rfl
  simp only [step?] at refused
  split at refused
  · contradiction
  · assumption

theorem Settled.operations (settled : Settled retrier manager) (resumed : manager.Resumed request) :
    manager.operations request = [] := by
  have refused := settled (.operation request) rfl
  simp only [step?] at refused
  rw [if_pos ⟨resumed.1, resumed.2⟩] at refused
  split at refused
  · contradiction
  · assumption

/-- A session is settled when no task, no retry and no response is under way. -/
theorem settled_iff : Settled retrier manager ↔ (∀ task < manager.nextTask, (manager.tasks task).completed = true) ∧
    manager.retries.entries = [] ∧ manager.mainQueue = [] ∧ ∀ request < manager.nextRequest,
      (manager.made request).delegate.isSuspended = false → manager.operations request = [] := by
  constructor
  · intro settled
    refine ⟨fun task below => ?_, settled.retries, settled.mainQueue, fun request known running =>
      settled.operations ⟨known, running⟩⟩
    have idle := settled.not_live task
    simpa [Live, below] using idle
  · rintro ⟨completed, retries, mainQueue, operations⟩ event ours
    have idle (task : ℕ) : ¬ manager.Live task := by
      intro live
      have done := completed task live.1
      rw [live.2] at done
      contradiction
    have untried (id : ℕ) : manager.retries.find? id = none := by
      rw [Ledger.find?, retries]
      rfl
    cases event with
    | request outcome => contradiction
    | response request => contradiction
    | validate request validation => contradiction
    | didReceiveResponse task statusCode => exact if_neg (idle task)
    | didReceiveData task data => exact if_neg (idle task)
    | didComplete task error => exact if_neg (idle task)
    | retrierAnswered id shouldRetry => simp only [step?, untried]
    | retried id outcome => simp only [step?, untried]
    | registered id => simp only [step?, untried]
    | operation request =>
      by_cases resumed : manager.Resumed request
      · have waiting := operations request resumed.1 resumed.2
        rw [SessionManager.operations] at waiting
        simp only [step?, waiting, ite_self]
      · exact if_neg resumed
    | main => simp only [step?, mainQueue]

instance (retrier : Bool) (manager : SessionManager) : Decidable (Settled retrier manager) :=
  decidable_of_iff _ (@settled_iff retrier manager).symm

/-- In a settled session the handlers of a request may run unless it hangs. -/
theorem Settled.resumed_iff (settled : Settled retrier manager) (routed : manager.Routed)
    (known : request < manager.nextRequest) : manager.Resumed request ↔ manager.unheard request = false := by
  have untried {id : ℕ} {retry : Retry} (retrying : manager.Retrying id retry) : False := by
    have member := retrying.1
    rw [settled.retries] at member
    contradiction
  cases routed.phase request known with
  | finished task assigned resumed absent completed judged unretried heard =>
    rw [unheard, assigned, Option.any_some, heard]
    exact ⟨fun _ => rfl, fun _ => ⟨known, resumed⟩⟩
  | refused unassigned resumed failed empty unretried =>
    rw [unheard, unassigned]
    exact ⟨fun _ => rfl, fun _ => ⟨known, resumed⟩⟩
  | hung task assigned suspended completed unretried silent =>
    rw [unheard, assigned, Option.any_some, silent]
    refine ⟨fun resumed => ?_, by simp⟩
    have running := resumed.2
    rw [suspended] at running
    contradiction
  | running task assigned suspended clean entered live unretried heard =>
    exact absurd ⟨routed.bound request task known assigned, live⟩ (settled.not_live task)
  | failing task id retry assigned suspended entered completed failed named captured retrying heard =>
    exact (untried retrying).elim
  | adapting id retry unassigned suspended failed empty retriable named captured retrying =>
    exact (untried retrying).elim
  | starting task id assigned suspended clean empty absent retrying listening =>
    exact (untried retrying).elim

theorem Settled.calls (settled : Settled retrier manager) (answered : Answered manager)
    (conserved : (pipeline manager).Conserved) (known : request < manager.nextRequest) :
    Pipeline.ofKey request (manager.called.map item) =
      if manager.unheard request then [] else Pipeline.ofKey request manager.added := by
  have resumed_iff := settled.resumed_iff answered.toRouted known
  split
  · next silent =>
    apply List.eq_nil_iff_forall_not_mem.mpr
    intro handler member
    obtain ⟨call, called, same⟩ := List.mem_map.mp (Pipeline.mem_ofKey.mp member)
    obtain ⟨resumed, _⟩ := answered.calls call (List.mem_append_left _ called)
    have named : call.request = request := congrArg Prod.fst same
    rw [named, resumed_iff, silent] at resumed
    contradiction
  · next heard =>
    have resumed := resumed_iff.mpr (by simpa using heard)
    have kept := conserved request
    have waits : (pipeline manager).waiting request = [] := (if_pos known).trans (settled.operations resumed)
    have shared : (pipeline manager).shared = [] := by
      simp only [pipeline, settled.mainQueue, List.map_nil]
    rwa [waits, shared, List.append_nil, List.append_nil] at kept

/-- When nothing happens by itself any more, all handlers of a request have been called, in their order,
unless the completion of its last task was not heard: then none has been. -/
theorem settled_calls (reached : (machine retrier).Reaches events manager) (settled : Settled retrier manager)
    (known : request < manager.nextRequest) :
    Pipeline.ofKey request (manager.called.map item) =
      if manager.unheard request then [] else Pipeline.ofKey request manager.added :=
  settled.calls (answered_of_reaches reached) (conserved_of_reaches reached) known

/-- The second task of a request completes before it is entered in the dictionary. -/
def unheardRun : List SessionEvent :=
  [.request (.ok ()), .response 0, .didComplete 0 (some NSError.blank), .retrierAnswered 0 true,
    .retried 0 (.ok ()), .didComplete 1 none]

/-- Once the task is registered nothing happens any more, and the handler waits for ever. -/
theorem no_call_when_settled_unheard : ∃ manager, (machine true).Reaches (unheardRun ++ [.registered 0]) manager ∧
    Settled true manager ∧ manager.added = [(0, 0)] ∧ Pipeline.ofKey 0 (manager.called.map item) = [] := by
  have run : ((machine true).run? initial (unheardRun ++ [.registered 0])).map
      (fun manager => (decide (Settled true manager), manager.added, decide (0 < manager.nextRequest),
        manager.unheard 0)) = some (true, [(0, 0)], true, true) := by decide +kernel
  obtain ⟨manager, reached, observed⟩ := Option.map_eq_some_iff.mp run
  simp only [Prod.mk.injEq, decide_eq_true_eq] at observed
  obtain ⟨settled, added, known, silent⟩ := observed
  refine ⟨manager, reached, settled, added, ?_⟩
  rw [settled_calls reached settled known, if_pos silent]

/-- The completion of the last task of the request was not heard. -/
structure Lost (request : ℕ) (manager : SessionManager) : Prop extends Answered manager where
  known : request < manager.nextRequest
  silent : manager.unheard request = true

theorem lost_step (lost : Lost request manager) (step : manager.step? retrier event = some target) :
    Lost request target := by
  refine ⟨answered_step lost.toAnswered step, ?_, unheard_step lost.toRouted lost.known lost.silent step⟩
  exact Nat.lt_of_lt_of_le lost.known (nextRequest_le step)

/-- A handler of a request whose last task completed unheard is not called, whatever happens later. -/
theorem unheard_never_called (reached : (machine retrier).Reaches events manager)
    (known : request < manager.nextRequest) (silent : manager.unheard request = true) (later : List SessionEvent)
    (run : (machine retrier).run? manager later = some target) : ∀ call ∈ target.called, call.request ≠ request := by
  have lost : Lost request manager := ⟨answered_of_reaches reached, known, silent⟩
  have final := System.run?_preserves (fun _ _ _ => lost_step) lost run
  intro call member named
  obtain ⟨resumed, _⟩ := final.calls call (List.mem_append_left _ member)
  obtain ⟨_, suspended⟩ := ended_of_unheard final.toRouted final.known final.silent
  have running := resumed.2
  rw [named, suspended] at running
  contradiction

/-- The handler of a request whose second task completes before it is registered. -/
theorem unheard_handler_never_called : ∃ manager, (machine true).Reaches unheardRun manager ∧
    manager.added = [(0, 0)] ∧ ∀ later target, (machine true).run? manager later = some target →
      ∀ call ∈ target.called, call.request ≠ 0 := by
  have run : ((machine true).run? initial unheardRun).map
      (fun manager => (manager.added, manager.nextRequest, manager.unheard 0)) = some ([(0, 0)], 1, true) := by
    decide +kernel
  obtain ⟨manager, reached, observed⟩ := Option.map_eq_some_iff.mp run
  obtain ⟨added, rest⟩ := Prod.mk.inj observed
  obtain ⟨made, silent⟩ := Prod.mk.inj rest
  exact ⟨manager, reached, added, fun later target run =>
    unheard_never_called reached (by rw [made]; exact Nat.one_pos) silent later run⟩

end Liveness

section Direct

/-- Without a retrier no request has ever had a second task, and each task has always been in the
dictionary when URLSession called the delegate for it. -/
structure Direct (manager : SessionManager) : Prop extends Answered manager where
  unasked : manager.retries.entries = []
  owned : ∀ task, task < manager.nextTask → ∃ request, request < manager.nextRequest ∧ manager.taskOf request = some task
  heard : ∀ task, (manager.tasks task).missed = [] ∧ (manager.tasks task).unheard = false

/-- The delegate is called for tasks in the dictionary only. -/
theorem Direct.found (direct : Direct manager) {task : ℕ} (live : manager.Live task) :
    ∃ request, request < manager.nextRequest ∧ manager.requests task = some request := by
  obtain ⟨request, known, assigned⟩ := direct.owned task live.1
  obtain ⟨_, _, _, ⟨entered, _⟩ | ⟨_, _, id, retrying⟩⟩ := (direct.phase request known).of_live assigned live.2
  · exact ⟨request, known, entered⟩
  · have member := retrying.1
    rw [direct.unasked] at member
    contradiction

/-- What an event other than a new request leaves of the tasks of a direct session. -/
structure Steady (manager target : SessionManager) : Prop where
  retries : target.retries = manager.retries
  nextTask : target.nextTask = manager.nextTask
  known : target.nextRequest = manager.nextRequest
  assigned : ∀ request, target.taskOf request = manager.taskOf request
  tasks : ∀ task, (target.tasks task).missed = (manager.tasks task).missed ∧
    (target.tasks task).unheard = (manager.tasks task).unheard

theorem Direct.of_steady (direct : Direct manager) (answered : Answered target) (steady : Steady manager target) :
    Direct target := by
  refine ⟨answered, by rw [steady.retries, direct.unasked], fun task below => ?_, fun task => ?_⟩
  · rw [steady.nextTask] at below
    obtain ⟨request, member, owned⟩ := direct.owned task below
    exact ⟨request, by rwa [steady.known], (steady.assigned request).trans owned⟩
  · rw [(steady.tasks task).1, (steady.tasks task).2]
    exact direct.heard task

/-- A request changed in place keeps its task. -/
theorem steady_modify (request : ℕ) (change : DataRequest → DataRequest)
    (kept : ∀ made, (change made).delegate.task = made.delegate.task) : Steady manager (manager.modify request change) := by
  refine ⟨rfl, rfl, rfl, fun other => ?_, fun _ => ⟨rfl, rfl⟩⟩
  by_cases same : other = request
  · subst same
    rw [taskOf, made_modify_self, kept, taskOf]
  · rw [taskOf, made_modify_of_ne same, taskOf]

theorem steady_modifyTask (task : ℕ) (change : SessionTask → SessionTask)
    (kept : ∀ known, (change known).missed = known.missed ∧ (change known).unheard = known.unheard) :
    Steady manager (manager.modifyTask task change) := by
  refine ⟨rfl, rfl, rfl, fun _ => rfl, fun other => ?_⟩
  by_cases same : other = task
  · subst same
    rw [tasks_modifyTask_self]
    exact kept _
  · rw [tasks_modifyTask_of_ne same]
    exact ⟨rfl, rfl⟩

theorem Steady.trans {middle : SessionManager} (first : Steady manager middle) (second : Steady middle target) :
    Steady manager target := by
  refine ⟨second.retries.trans first.retries, second.nextTask.trans first.nextTask, second.known.trans first.known,
    fun request => (second.assigned request).trans (first.assigned request), fun task => ?_⟩
  exact ⟨(second.tasks task).1.trans (first.tasks task).1, (second.tasks task).2.trans (first.tasks task).2⟩

theorem steady_didComplete (direct : Direct manager) {task : ℕ} {error : Option NSError} (live : manager.Live task) :
    Steady manager (manager.didComplete false task error) := by
  obtain ⟨request, known, entered⟩ := direct.found live
  rw [didComplete_of_told entered (.inl rfl)]
  have validated : Steady manager (manager.validated request task error) := by
    refine (steady_modify request _ fun made => ?_).trans (steady_modifyTask task _ fun _ => ⟨rfl, rfl⟩)
    obtain ⟨verdict, ran, _⟩ := runValidations_eq made (manager.response? request)
    rw [ran]
  have still : (manager.validated request task error).requests task = some request := entered
  rw [completeTask_of_entered still]
  let answer := ((manager.validated request task error).made request).delegate.error.or error
  have told := @steady_modify (manager.validated request task error) request
    (fun made => { made with delegate := made.delegate.didCompleteWithError answer }) fun _ => rfl
  exact validated.trans ⟨told.retries, told.nextTask, told.known, told.assigned, told.tasks⟩

theorem steady_step (direct : Direct manager) (step : manager.step? false event = some target)
    (other : ∀ outcome, event ≠ .request outcome) : Steady manager target := by
  have untried (id : ℕ) : manager.retries.find? id = none := by
    rw [Ledger.find?, direct.unasked]
    rfl
  cases event with
  | request outcome => exact absurd rfl (other outcome)
  | response request =>
    obtain ⟨_, same⟩ := Option.ite_none_right_eq_some.mp step
    obtain rfl := Option.some.inj same
    have changed := @steady_modify manager request (fun made => made.addOperation manager.nextHandler) fun _ => rfl
    exact ⟨rfl, rfl, rfl, changed.assigned, changed.tasks⟩
  | validate request validation =>
    obtain ⟨_, same⟩ := Option.ite_none_right_eq_some.mp step
    obtain rfl := Option.some.inj same
    exact steady_modify request _ fun _ => rfl
  | didReceiveResponse task statusCode =>
    obtain ⟨_, same⟩ := Option.ite_none_right_eq_some.mp step
    obtain rfl := Option.some.inj same
    exact steady_modifyTask task _ fun _ => ⟨rfl, rfl⟩
  | didReceiveData task data =>
    obtain ⟨live, same⟩ := Option.ite_none_right_eq_some.mp step
    obtain rfl := Option.some.inj same
    obtain ⟨request, known, entered⟩ := direct.found live
    simp only [SessionManager.didReceiveData, entered]
    refine (steady_modifyTask task _ ?_).trans (steady_modify request _ ?_)
    · exact fun _ => ⟨rfl, rfl⟩
    · exact fun _ => rfl
  | didComplete task error =>
    obtain ⟨live, same⟩ := Option.ite_none_right_eq_some.mp step
    obtain rfl := Option.some.inj same
    exact steady_didComplete direct live
  | retrierAnswered id shouldRetry =>
    simp only [step?, untried] at step
    contradiction
  | retried id outcome =>
    simp only [step?, untried] at step
    contradiction
  | registered id =>
    simp only [step?, untried] at step
    contradiction
  | operation request =>
    obtain ⟨_, same⟩ := Option.ite_none_right_eq_some.mp step
    split at same
    · next handler rest waiting =>
      obtain rfl := Option.some.inj same
      have changed := @steady_modify manager request (fun made =>
        { made with delegate := { made.delegate with operations := rest } }) fun _ => rfl
      exact ⟨rfl, rfl, rfl, changed.assigned, changed.tasks⟩
    · contradiction
  | main =>
    simp only [step?] at step
    split at step
    · obtain rfl := Option.some.inj step
      exact ⟨rfl, rfl, rfl, fun _ => rfl, fun _ => ⟨rfl, rfl⟩⟩
    · contradiction

theorem direct_request (direct : Direct manager) (outcome : Except RequestFailure Unit)
    (answered : Answered (manager.request false outcome)) : Direct (manager.request false outcome) := by
  cases outcome with
  | error failure =>
    refine ⟨answered, direct.unasked, fun task below => ?_, direct.heard⟩
    obtain ⟨request, known, assigned⟩ := direct.owned task below
    refine ⟨request, Nat.lt_succ_of_lt known, ?_⟩
    rw [← assigned, taskOf, taskOf]
    have kept := @made_requestFailedWith_of_ne manager request false failure (Nat.ne_of_lt known)
    exact congrArg (fun made => made.delegate.task) kept
  | ok value =>
    refine ⟨answered, direct.unasked, fun task below => ?_, fun task => ?_⟩
    · by_cases new : task = manager.nextTask
      · subst new
        refine ⟨manager.nextRequest, Nat.lt_succ_self _, ?_⟩
        simp only [taskOf, SessionManager.request, Function.update_self]
        rfl
      · have old : task < manager.nextTask + 1 := below
        obtain ⟨request, known, assigned⟩ := direct.owned task (by omega)
        refine ⟨request, Nat.lt_succ_of_lt known, ?_⟩
        rw [← assigned, taskOf, taskOf]
        exact congrArg (fun made : DataRequest => made.delegate.task) (Function.update_of_ne (Nat.ne_of_lt known) ..)
    · by_cases new : task = manager.nextTask
      · subst new
        have fresh : (manager.request false (.ok value)).tasks manager.nextTask =
            ⟨none, false, [], [], false, none, []⟩ := Function.update_self ..
        rw [fresh]
        exact ⟨rfl, rfl⟩
      · have kept : (manager.request false (.ok value)).tasks task = manager.tasks task := Function.update_of_ne new ..
        rw [kept]
        exact direct.heard task

theorem direct_step (direct : Direct manager) (step : manager.step? false event = some target) : Direct target := by
  have answered := answered_step direct.toAnswered step
  obtain ⟨outcome, rfl, rfl⟩ | ⟨other, _⟩ := nextRequest_step step
  · exact direct_request direct outcome answered
  · exact direct.of_steady answered (steady_step direct step other)

theorem direct_of_reaches (reached : (machine false).Reaches events manager) : Direct manager := by
  refine reached.invariant ⟨?_, rfl, fun _ below => absurd below (Nat.not_lt_zero _), fun _ => ⟨rfl, rfl⟩⟩
    fun _ _ _ => direct_step
  exact ⟨routed_initial, fun _ member => absurd member List.not_mem_nil⟩

theorem Direct.not_unheard (direct : Direct manager) (request : ℕ) : manager.unheard request = false := by
  rw [unheard]
  cases manager.taskOf request with
  | none => rfl
  | some task => exact (direct.heard task).2

/-- No data of a task is missed, so a call that tells of it has all. -/
theorem direct_tells (reached : (machine false).Reaches events manager) {call : Call} (member : call ∈ manager.called) :
    (∃ task, Tells manager call task (manager.tasks task).received) ∨
      ∃ error, TellsRefusal false events manager call error := by
  rcases tells_of_reaches reached member with ⟨task, data, tells⟩ | refused
  · have all := tells.received
    rw [((direct_of_reaches reached).heard task).1, List.nil_append] at all
    rw [← all] at tells
    exact .inl ⟨task, tells⟩
  · exact .inr refused

theorem Direct.all_called (direct : Direct manager) (conserved : (pipeline manager).Conserved)
    (settled : Settled false manager) (known : request < manager.nextRequest) :
    Pipeline.ofKey request (manager.called.map item) = Pipeline.ofKey request manager.added := by
  rw [settled.calls direct.toAnswered conserved known, direct.not_unheard request]
  rfl

/-- Without a retrier each call of a handler has all data that was delivered for the task of its request.
When nothing happens by itself any more, every handler has been called and no task is remembered. -/
theorem direct_session_delivers (reached : (machine false).Reaches events manager) :
    (∀ call ∈ manager.called, (∃ task, Tells manager call task (manager.tasks task).received) ∨
      ∃ error, TellsRefusal false events manager call error) ∧
    (Settled false manager → (∀ task, manager.requests task = none) ∧
      ∀ request, request < manager.nextRequest →
        Pipeline.ofKey request (manager.called.map item) = Pipeline.ofKey request manager.added) := by
  have direct := direct_of_reaches reached
  refine ⟨fun call member => direct_tells reached member, fun settled => ⟨fun task => ?_, fun request known =>
    direct.all_called (conserved_of_reaches reached) settled known⟩⟩
  cases dictionary : manager.requests task with
  | none => rfl
  | some request =>
    obtain ⟨known, assigned⟩ := direct.entered task request dictionary
    have resumed := (settled.resumed_iff direct.toRouted known).mpr (direct.not_unheard request)
    obtain ⟨_, ⟨other, belongs, absent, _⟩ | ⟨unassigned, _⟩⟩ := resumed.cases direct.toRouted
    · obtain rfl := Option.some.inj (assigned.symm.trans belongs)
      exact dictionary.symm.trans absent
    · rw [unassigned] at assigned
      contradiction

/-- Two requests whose data arrives interleaved. -/
def directRun : List SessionEvent :=
  [.request (.ok ()), .response 0, .request (.ok ()), .response 1, .didReceiveResponse 1 200, .didReceiveData 1 [1],
    .didReceiveResponse 0 404, .didReceiveData 0 [2], .didReceiveData 1 [3], .didComplete 1 none,
    .didComplete 0 none, .operation 0, .operation 1, .main, .main]

/-- Each of two concurrent requests gets its own data. -/
theorem concurrent_requests_deliver : ∃ manager, (machine false).Reaches directRun manager ∧ Settled false manager ∧
    (manager.called.map fun call => (call.request, call.answer.data)) = [(0, some [2]), (1, some [1, 3])] ∧
    ∀ task, manager.requests task = none := by
  have run : ((machine false).run? initial directRun).map (fun manager => (decide (Settled false manager),
      manager.called.map fun call => (call.request, call.answer.data))) =
      some (true, [(0, some [2]), (1, some [1, 3])]) := by decide +kernel
  obtain ⟨manager, reached, observed⟩ := Option.map_eq_some_iff.mp run
  simp only [Prod.mk.injEq, decide_eq_true_eq] at observed
  exact ⟨manager, reached, observed.1, observed.2, ((direct_session_delivers reached).2 observed.1).1⟩

end Direct

end LoginDN.ResponseDelivery
