import LoginDN.Model.SessionSteps

/-! # Response handlers on their way

A handler waits in the queue of its request, then its response waits on the main queue, then it is
called. Each event concerns at most one request. What a request whose handlers may run will answer
does not change any more.
-/

namespace LoginDN.Alamofire.SessionManager

open Machine

variable {manager target : SessionManager} {request other task id : ℕ} {retry : Retry} {retrier : Bool}
  {event : SessionEvent}

/-- The request an event is about. -/
def concerned? (manager : SessionManager) : SessionEvent → Option ℕ
  | .response request | .validate request _ | .operation request => some request
  | .didReceiveData task _ | .didComplete task _ => manager.requests task
  | .retrierAnswered id _ | .retried id _ | .registered id => (manager.retries.find? id).map Retry.request
  | .request _ => some manager.nextRequest
  | .didReceiveResponse _ _ | .main => none

/-- The handlers of the request may run. -/
def Resumed (manager : SessionManager) (request : ℕ) : Prop :=
  request < manager.nextRequest ∧ (manager.made request).delegate.isSuspended = false

def operations (manager : SessionManager) (request : ℕ) : List ℕ := (manager.made request).delegate.operations

theorem made_addHandler : (manager.addHandler request).made =
    (manager.modify request fun made => made.addOperation manager.nextHandler).made := rfl

/-- A new task does not change the handlers of its request. -/
theorem operations_restarted (request other : ℕ) :
    (manager.restarted request).operations other = manager.operations other := by
  by_cases same : other = request
  · subst same
    simp only [operations, restarted, Function.update_self]
    rfl
  · simp only [operations, restarted, Function.update_of_ne same]

section Functions

variable {error : Option NSError} {data : List UInt8} {cause : NSError} {α : Type} {read : DataRequest → α}

/-- A part of a request that neither its data nor its error nor the state of its queue is in. -/
def Apart (read : DataRequest → α) : Prop :=
  ∀ (made : DataRequest) (error : Option NSError) (data : List UInt8) (suspended : Bool),
    read { made with delegate :=
      { made.delegate with error := error, mutableData := data, isSuspended := suspended } } = read made

theorem apart_operations : Apart fun made => made.delegate.operations := fun _ _ _ _ => rfl
theorem apart_task : Apart fun made => made.delegate.task := fun _ _ _ _ => rfl

theorem read_modify (read : DataRequest → α) {change : DataRequest → DataRequest}
    (kept : ∀ made, read (change made) = read made) (other : ℕ) :
    read ((manager.modify request change).made other) = read (manager.made other) := by
  by_cases same : other = request
  · subst same
    rw [made_modify_self, kept]
  · rw [made_modify_of_ne same]

theorem made_completeTask (entered : manager.requests task = some request) :
    (manager.completeTask task error).made = (manager.modify request fun made =>
      { made with delegate := made.delegate.didCompleteWithError error }).made := by
  rw [completeTask_of_entered entered]

theorem made_completeTask_of_ne (error : Option NSError) (different : manager.requests task ≠ some other) :
    (manager.completeTask task error).made other = manager.made other := by
  cases dictionary : manager.requests task with
  | none => rw [completeTask_of_absent dictionary]
  | some request =>
    rw [made_completeTask dictionary]
    apply made_modify_of_ne
    intro same
    exact different (same ▸ dictionary)

theorem Apart.completeTask (apart : Apart read) (other : ℕ) :
    read ((manager.completeTask task error).made other) = read (manager.made other) := by
  cases dictionary : manager.requests task with
  | none => rw [completeTask_of_absent dictionary]
  | some request =>
    rw [made_completeTask dictionary]
    exact read_modify read (fun made => apart made _ _ _) other

theorem Apart.resume (apart : Apart read) (other : ℕ) :
    read ((manager.modify request DataRequest.resume).made other) = read (manager.made other) := by
  refine read_modify read (fun made => ?_) other
  unfold DataRequest.resume
  split
  · exact apart made _ _ _
  · rfl

theorem Apart.giveUp (apart : Apart read) {assigned : Option ℕ} (other : ℕ) :
    read ((manager.giveUp request assigned cause).made other) = read (manager.made other) := by
  cases assigned with
  | some task => exact apart.completeTask other
  | none => exact apart.resume other

theorem Apart.failedAgain (apart : Apart read) (other : ℕ) :
    read ((manager.failedAgain request cause).made other) = read (manager.made other) :=
  read_modify read (fun made => apart made _ _ _) other

theorem made_didReceiveData_of_ne (different : manager.requests task ≠ some other) :
    (manager.didReceiveData task data).made other = manager.made other := by
  unfold didReceiveData
  split
  · next request entered =>
    apply made_modify_of_ne
    intro same
    exact different (same ▸ entered)
  · rfl

theorem Apart.didReceiveData (apart : Apart read) (other : ℕ) :
    read ((manager.didReceiveData task data).made other) = read (manager.made other) := by
  unfold SessionManager.didReceiveData
  split
  · exact read_modify read (fun made => apart made _ _ _) other
  · rfl

theorem made_validated_of_ne (task : ℕ) (error : Option NSError) (different : other ≠ request) :
    (manager.validated request task error).made other = manager.made other := by
  rw [validated, made_modifyTask, made_modify_of_ne different]

theorem Apart.validated (apart : Apart read) (request task : ℕ) (error : Option NSError) (other : ℕ) :
    read ((manager.validated request task error).made other) = read (manager.made other) := by
  rw [SessionManager.validated, made_modifyTask]
  refine read_modify read (fun made => ?_) other
  obtain ⟨verdict, ran, _⟩ := runValidations_eq made (manager.response? request)
  rw [ran]
  exact apart made _ _ _

theorem made_didComplete_of_ne (different : manager.requests task ≠ some other) :
    (manager.didComplete retrier task error).made other = manager.made other := by
  cases dictionary : manager.requests task with
  | none => rw [didComplete_of_absent dictionary, made_modifyTask]
  | some request =>
    have apart : other ≠ request := fun same => different (same ▸ dictionary)
    have told (answer : Option NSError) : ((manager.validated request task error).completeTask task answer).made other =
        manager.made other := by
      have elsewhere : (manager.validated request task error).requests task ≠ some other := different
      rw [made_completeTask_of_ne answer elsewhere, made_validated_of_ne task error apart]
    cases failed : ((manager.validated request task error).made request).delegate.error.or error with
    | none =>
      rw [didComplete_of_told dictionary (.inr failed)]
      exact told _
    | some cause =>
      cases retrier with
      | false =>
        rw [didComplete_of_told dictionary (.inl rfl)]
        exact told _
      | true =>
        rw [didComplete_of_asked dictionary failed]
        exact made_validated_of_ne task error apart

theorem Apart.didComplete (apart : Apart read) (other : ℕ) :
    read ((manager.didComplete retrier task error).made other) = read (manager.made other) := by
  cases dictionary : manager.requests task with
  | none => rw [didComplete_of_absent dictionary, made_modifyTask]
  | some request =>
    cases failed : ((manager.validated request task error).made request).delegate.error.or error with
    | none =>
      rw [didComplete_of_told dictionary (.inr failed), apart.completeTask, apart.validated]
    | some cause =>
      cases retrier with
      | false =>
        rw [didComplete_of_told dictionary (.inl rfl), apart.completeTask, apart.validated]
      | true =>
        rw [didComplete_of_asked dictionary failed]
        exact apart.validated request task error other

end Functions

/-- A request that no task could be made for concerns no earlier one. -/
theorem made_requestFailedWith_of_ne (failure : RequestFailure) (different : other ≠ manager.nextRequest) :
    (manager.requestFailedWith retrier failure).made other = manager.made other := by
  simp only [requestFailedWith]
  split
  · exact Function.update_of_ne different ..
  · rw [made_modify_of_ne different]
    exact Function.update_of_ne different ..

/-- An undecided retry concerns its own request only. -/
theorem made_giveUp_of_ne (routed : manager.Routed) (member : (id, retry) ∈ manager.retries.entries)
    {assigned : Option ℕ} (captured : retry.captured? = some assigned) (cause : NSError)
    (different : other ≠ retry.request) (changed : SessionManager) (requests : changed.requests = manager.requests) :
    (changed.giveUp retry.request assigned cause).made other = changed.made other := by
  cases assigned with
  | some task =>
    obtain ⟨entered, _⟩ := routed.of_failing member captured
    apply made_completeTask_of_ne
    rw [requests, entered]
    exact fun same => different (Option.some.inj same).symm
  | none => exact made_modify_of_ne different

/-- An event changes the request it is about. -/
theorem made_of_unconcerned (routed : manager.Routed) (step : manager.step? retrier event = some target)
    (different : manager.concerned? event ≠ some other) : target.made other = manager.made other := by
  cases event with
  | request outcome =>
    have new : other ≠ manager.nextRequest := fun same => different (congrArg some same.symm)
    obtain rfl := Option.some.inj step
    cases outcome with
    | ok value => exact Function.update_of_ne new ..
    | error failure => exact made_requestFailedWith_of_ne failure new
  | response request =>
    obtain ⟨_, same⟩ := Option.ite_none_right_eq_some.mp step
    obtain rfl := Option.some.inj same
    have apart : other ≠ request := fun same => different (congrArg some same.symm)
    rw [made_addHandler, made_modify_of_ne apart]
  | validate request validation =>
    obtain ⟨_, same⟩ := Option.ite_none_right_eq_some.mp step
    obtain rfl := Option.some.inj same
    exact made_modify_of_ne fun same => different (congrArg some same.symm)
  | didReceiveResponse task statusCode =>
    obtain ⟨_, same⟩ := Option.ite_none_right_eq_some.mp step
    obtain rfl := Option.some.inj same
    rfl
  | didReceiveData task data =>
    obtain ⟨_, same⟩ := Option.ite_none_right_eq_some.mp step
    obtain rfl := Option.some.inj same
    exact made_didReceiveData_of_ne different
  | didComplete task error =>
    obtain ⟨_, same⟩ := Option.ite_none_right_eq_some.mp step
    obtain rfl := Option.some.inj same
    exact made_didComplete_of_ne different
  | retrierAnswered id shouldRetry =>
    simp only [step?] at step
    split at step
    · next request task error found =>
      have apart : other ≠ request := fun same => different (by simp only [concerned?, found]; exact congrArg some same.symm)
      split at step
      · obtain rfl := Option.some.inj step
        rfl
      · obtain rfl := Option.some.inj step
        exact made_giveUp_of_ne routed (Ledger.mem_of_find? found) rfl error apart _ rfl
    · contradiction
  | retried id outcome =>
    simp only [step?] at step
    split at step
    · next request task error found =>
      have member := Ledger.mem_of_find? found
      have apart : other ≠ request := fun same => different (by simp only [concerned?, found]; exact congrArg some same.symm)
      by_cases original : (manager.made request).originalTask = true
      · cases outcome with
        | ok value =>
          rw [retry_ok original] at step
          obtain rfl := Option.some.inj step
          exact Function.update_of_ne apart ..
        | error failure =>
          simp only [retry, original, if_true] at step
          obtain rfl := Option.some.inj step
          let failing : SessionManager := { manager.failedAgain request failure with retries := manager.retries.close id }
          have kept := made_giveUp_of_ne routed member rfl error apart failing rfl
          exact kept.trans (Function.update_of_ne apart ..)
      · simp only [retry, original] at step
        obtain rfl := Option.some.inj step
        exact made_giveUp_of_ne routed member rfl error apart _ rfl
    · contradiction
  | registered id =>
    simp only [step?] at step
    split at step
    · obtain rfl := Option.some.inj step
      unfold register
      split <;> rfl
    · contradiction
  | operation request =>
    obtain ⟨_, same⟩ := Option.ite_none_right_eq_some.mp step
    split at same
    · obtain rfl := Option.some.inj same
      have apart : other ≠ request := fun same => different (congrArg some same.symm)
      exact Function.update_of_ne apart ..
    · contradiction
  | main =>
    simp only [step?] at step
    split at step
    · obtain rfl := Option.some.inj step
      rfl
    · contradiction

/-- The operations of a request after an event. -/
def operationsAfter (manager : SessionManager) (request : ℕ) : SessionEvent → List ℕ
  | .response other =>
      if other = request then manager.operations request ++ [manager.nextHandler] else manager.operations request
  | .operation other => if other = request then (manager.operations request).tail else manager.operations request
  | _ => manager.operations request

/-- Operations are added by handlers and taken by the queue when it runs. -/
theorem operations_step (routed : manager.Routed) (step : manager.step? retrier event = some target)
    (below : other < manager.nextRequest) : target.operations other = manager.operationsAfter other event := by
  by_cases concerned : manager.concerned? event = some other
  · cases event with
    | request outcome =>
      have new := Option.some.inj concerned
      omega
    | response request =>
      obtain rfl := Option.some.inj concerned
      obtain ⟨_, same⟩ := Option.ite_none_right_eq_some.mp step
      obtain rfl := Option.some.inj same
      simp only [operationsAfter, if_true, operations, made_addHandler, made_modify_self]
      rfl
    | validate request validation =>
      obtain rfl := Option.some.inj concerned
      obtain ⟨_, same⟩ := Option.ite_none_right_eq_some.mp step
      obtain rfl := Option.some.inj same
      simp only [operationsAfter, operations, made_modify_self]
      rfl
    | didReceiveResponse task statusCode => contradiction
    | didReceiveData task data =>
      obtain ⟨_, same⟩ := Option.ite_none_right_eq_some.mp step
      obtain rfl := Option.some.inj same
      exact apart_operations.didReceiveData other
    | didComplete task error =>
      obtain ⟨_, same⟩ := Option.ite_none_right_eq_some.mp step
      obtain rfl := Option.some.inj same
      exact apart_operations.didComplete other
    | retrierAnswered id shouldRetry =>
      simp only [step?] at step
      split at step
      · split at step
        · obtain rfl := Option.some.inj step
          rfl
        · obtain rfl := Option.some.inj step
          exact apart_operations.giveUp other
      · contradiction
    | retried id outcome =>
      simp only [step?] at step
      split at step
      · next request task error found =>
        by_cases original : (manager.made request).originalTask = true
        · cases outcome with
          | ok value =>
            rw [retry_ok original] at step
            obtain rfl := Option.some.inj step
            exact operations_restarted request other
          | error failure =>
            simp only [retry, original, if_true] at step
            obtain rfl := Option.some.inj step
            exact (apart_operations.giveUp other).trans (apart_operations.failedAgain other)
        · simp only [retry, original] at step
          obtain rfl := Option.some.inj step
          exact apart_operations.giveUp other
      · contradiction
    | registered id =>
      simp only [step?] at step
      split at step
      · obtain rfl := Option.some.inj step
        unfold register
        split <;> rfl
      · contradiction
    | operation request =>
      obtain rfl := Option.some.inj concerned
      obtain ⟨_, same⟩ := Option.ite_none_right_eq_some.mp step
      split at same
      · next handler rest waiting =>
        obtain rfl := Option.some.inj same
        simp only [operationsAfter, if_true, operations, waiting, List.tail_cons, made_modify_self]
      · contradiction
    | main => contradiction
  · have kept : target.operations other = manager.operations other := by
      rw [operations, made_of_unconcerned routed step concerned, operations]
    rw [kept]
    cases event with
    | response request => exact (if_neg fun same => concerned (congrArg some same)).symm
    | operation request => exact (if_neg fun same => concerned (congrArg some same)).symm
    | _ => rfl

section Queues

/-- The handlers there are, the responses on the main queue and the calls made. -/
def queues (manager : SessionManager) : ℕ × List (ℕ × ℕ) × List Call × List Call :=
  (manager.nextHandler, manager.added, manager.mainQueue, manager.called)

theorem queues_completeTask (error : Option NSError) : (manager.completeTask task error).queues = manager.queues := by
  unfold completeTask
  split <;> rfl

theorem queues_giveUp (request : ℕ) (assigned : Option ℕ) (cause : NSError) :
    (manager.giveUp request assigned cause).queues = manager.queues := by
  unfold giveUp
  split
  · exact queues_completeTask _
  · rfl

theorem queues_didComplete (error : Option NSError) :
    (manager.didComplete retrier task error).queues = manager.queues := by
  simp only [didComplete]
  split
  · exact queues_completeTask _
  · split
    · exact queues_completeTask _
    · split
      · rfl
      · exact queues_completeTask _

theorem queues_request (outcome : Except RequestFailure Unit) :
    (manager.request retrier outcome).queues = manager.queues := by
  cases outcome with
  | ok value => rfl
  | error failure =>
    simp only [SessionManager.request, requestFailedWith]
    split <;> rfl

theorem queues_retried (request : ℕ) (outcome : Except NSError Unit) :
    (manager.retry request outcome).1.queues = manager.queues := by
  unfold retry
  split
  · split <;> rfl
  · rfl

end Queues

/-- What an event does to the handlers, the main queue and the calls. -/
inductive Queued (manager : SessionManager) (event : SessionEvent) (target : SessionManager) : Prop
  | added (request : ℕ) (named : event = .response request) (known : request < manager.nextRequest)
      (queues : target.queues = (manager.nextHandler + 1, manager.added ++ [(request, manager.nextHandler)],
        manager.mainQueue, manager.called))
  | answered (request handler : ℕ) (rest : List ℕ) (named : event = .operation request)
      (resumed : manager.Resumed request) (waiting : manager.operations request = handler :: rest)
      (queues : target.queues = (manager.nextHandler, manager.added,
        manager.mainQueue ++ [⟨request, handler, manager.answer request⟩], manager.called))
  | called (call : Call) (rest : List Call) (named : event = .main) (waiting : manager.mainQueue = call :: rest)
      (queues : target.queues = (manager.nextHandler, manager.added, rest, manager.called ++ [call]))
  | quiet (main : event ≠ .main) (other : ∀ request, event ≠ .response request ∧ event ≠ .operation request)
      (queues : target.queues = manager.queues)

theorem step?_queued (step : manager.step? retrier event = some target) : manager.Queued event target := by
  cases event with
  | request outcome =>
    obtain rfl := Option.some.inj step
    exact .quiet (by simp) (fun _ => ⟨by simp, by simp⟩) (queues_request outcome)
  | response request =>
    obtain ⟨known, same⟩ := Option.ite_none_right_eq_some.mp step
    obtain rfl := Option.some.inj same
    exact .added request rfl known rfl
  | validate request validation =>
    obtain ⟨_, same⟩ := Option.ite_none_right_eq_some.mp step
    obtain rfl := Option.some.inj same
    exact .quiet (by simp) (fun _ => ⟨by simp, by simp⟩) rfl
  | didReceiveResponse task statusCode =>
    obtain ⟨_, same⟩ := Option.ite_none_right_eq_some.mp step
    obtain rfl := Option.some.inj same
    exact .quiet (by simp) (fun _ => ⟨by simp, by simp⟩) rfl
  | didReceiveData task data =>
    obtain ⟨_, same⟩ := Option.ite_none_right_eq_some.mp step
    obtain rfl := Option.some.inj same
    refine .quiet (by simp) (fun _ => ⟨by simp, by simp⟩) ?_
    unfold didReceiveData
    split <;> rfl
  | didComplete task error =>
    obtain ⟨_, same⟩ := Option.ite_none_right_eq_some.mp step
    obtain rfl := Option.some.inj same
    exact .quiet (by simp) (fun _ => ⟨by simp, by simp⟩) (queues_didComplete error)
  | retrierAnswered id shouldRetry =>
    refine .quiet (by simp) (fun _ => ⟨by simp, by simp⟩) ?_
    simp only [step?] at step
    split at step
    · split at step
      · obtain rfl := Option.some.inj step
        rfl
      · obtain rfl := Option.some.inj step
        exact queues_giveUp ..
    · contradiction
  | retried id outcome =>
    refine .quiet (by simp) (fun _ => ⟨by simp, by simp⟩) ?_
    simp only [step?] at step
    split at step
    · next request task error found =>
      have kept := @queues_retried manager request outcome
      split at step
      · next changed retried =>
        obtain rfl := Option.some.inj step
        rw [retried] at kept
        exact kept
      · next changed retried =>
        obtain rfl := Option.some.inj step
        rw [retried] at kept
        exact (queues_giveUp ..).trans kept
    · contradiction
  | registered id =>
    refine .quiet (by simp) (fun _ => ⟨by simp, by simp⟩) ?_
    simp only [step?] at step
    split at step
    · obtain rfl := Option.some.inj step
      unfold register
      split <;> rfl
    · contradiction
  | operation request =>
    obtain ⟨resumed, same⟩ := Option.ite_none_right_eq_some.mp step
    split at same
    · next handler rest waiting =>
      obtain rfl := Option.some.inj same
      exact .answered request handler rest rfl resumed waiting rfl
    · contradiction
  | main =>
    simp only [step?] at step
    split at step
    · next call rest waiting =>
      obtain rfl := Option.some.inj step
      exact .called call rest rfl waiting rfl
    · contradiction

section Tasks

theorem tasks_completeTask (error : Option NSError) : (manager.completeTask task error).tasks = manager.tasks := by
  unfold completeTask
  split <;> rfl

theorem tasks_giveUp (request : ℕ) (assigned : Option ℕ) (cause : NSError) :
    (manager.giveUp request assigned cause).tasks = manager.tasks := by
  unfold giveUp
  split
  · exact tasks_completeTask _
  · rfl

theorem tasks_didComplete_of_ne (error : Option NSError) {elsewhere : ℕ} (different : elsewhere ≠ task) :
    (manager.didComplete retrier task error).tasks elsewhere = manager.tasks elsewhere := by
  simp only [didComplete]
  split
  · rw [tasks_completeTask, tasks_modifyTask_of_ne different]
  · next request entered =>
    have kept : (manager.validated request task error).tasks elsewhere = manager.tasks elsewhere := by
      rw [validated, tasks_modifyTask_of_ne different, tasks_modify]
    split
    · rw [tasks_completeTask, kept]
    · split
      · exact kept
      · rw [tasks_completeTask, kept]

theorem tasks_request_of_lt (outcome : Except RequestFailure Unit) (below : task < manager.nextTask) :
    (manager.request retrier outcome).tasks task = manager.tasks task := by
  cases outcome with
  | ok value => exact tasks_makeTask_of_lt below
  | error failure =>
    simp only [SessionManager.request, requestFailedWith]
    split <;> rfl

theorem tasks_retry_of_lt (request : ℕ) (outcome : Except NSError Unit) (below : task < manager.nextTask) :
    (manager.retry request outcome).1.tasks task = manager.tasks task := by
  unfold retry
  split
  · split
    · exact tasks_makeTask_of_lt below
    · rfl
  · rfl

/-- URLSession is done with a completed task, and so is the delegate. -/
theorem tasks_step (step : manager.step? retrier event = some target) (below : task < manager.nextTask)
    (completed : (manager.tasks task).completed = true) : target.tasks task = manager.tasks task := by
  have ended {live : ℕ} (alive : manager.Live live) : task ≠ live := by
    intro same
    subst same
    rw [alive.2] at completed
    contradiction
  cases event with
  | request outcome =>
    obtain rfl := Option.some.inj step
    exact tasks_request_of_lt outcome below
  | response request =>
    obtain ⟨_, same⟩ := Option.ite_none_right_eq_some.mp step
    obtain rfl := Option.some.inj same
    rfl
  | validate request validation =>
    obtain ⟨_, same⟩ := Option.ite_none_right_eq_some.mp step
    obtain rfl := Option.some.inj same
    rfl
  | didReceiveResponse live statusCode =>
    obtain ⟨alive, same⟩ := Option.ite_none_right_eq_some.mp step
    obtain rfl := Option.some.inj same
    exact tasks_modifyTask_of_ne (ended alive)
  | didReceiveData live data =>
    obtain ⟨alive, same⟩ := Option.ite_none_right_eq_some.mp step
    obtain rfl := Option.some.inj same
    unfold didReceiveData
    split
    · rw [tasks_modify, tasks_modifyTask_of_ne (ended alive)]
    · exact tasks_modifyTask_of_ne (ended alive)
  | didComplete live error =>
    obtain ⟨alive, same⟩ := Option.ite_none_right_eq_some.mp step
    obtain rfl := Option.some.inj same
    exact tasks_didComplete_of_ne error (ended alive)
  | retrierAnswered id shouldRetry =>
    simp only [step?] at step
    split at step
    · split at step
      · obtain rfl := Option.some.inj step
        rfl
      · obtain rfl := Option.some.inj step
        rw [tasks_giveUp]
    · contradiction
  | retried id outcome =>
    simp only [step?] at step
    split at step
    · next request assigned error found =>
      have kept := tasks_retry_of_lt request outcome below
      split at step
      · next changed retried =>
        obtain rfl := Option.some.inj step
        rw [retried] at kept
        exact kept
      · next changed retried =>
        obtain rfl := Option.some.inj step
        rw [retried] at kept
        rw [tasks_giveUp]
        exact kept
    · contradiction
  | registered id =>
    simp only [step?] at step
    split at step
    · obtain rfl := Option.some.inj step
      unfold register
      split <;> rfl
    · contradiction
  | operation request =>
    obtain ⟨_, same⟩ := Option.ite_none_right_eq_some.mp step
    split at same
    · obtain rfl := Option.some.inj same
      rfl
    · contradiction
  | main =>
    simp only [step?] at step
    split at step
    · obtain rfl := Option.some.inj step
      rfl
    · contradiction

end Tasks

section Requests

theorem nextRequest_completeTask (error : Option NSError) :
    (manager.completeTask task error).nextRequest = manager.nextRequest := by
  unfold completeTask
  split <;> rfl

theorem nextRequest_giveUp (request : ℕ) (assigned : Option ℕ) (cause : NSError) :
    (manager.giveUp request assigned cause).nextRequest = manager.nextRequest := by
  unfold giveUp
  split
  · exact nextRequest_completeTask _
  · rfl

theorem nextRequest_didComplete (error : Option NSError) :
    (manager.didComplete retrier task error).nextRequest = manager.nextRequest := by
  simp only [didComplete]
  split
  · exact nextRequest_completeTask _
  · split
    · exact nextRequest_completeTask _
    · split
      · rfl
      · exact nextRequest_completeTask _

theorem nextRequest_request (outcome : Except RequestFailure Unit) :
    (manager.request retrier outcome).nextRequest = manager.nextRequest + 1 := by
  cases outcome with
  | ok value => rfl
  | error failure =>
    simp only [SessionManager.request, requestFailedWith]
    split <;> rfl

theorem nextRequest_retry (request : ℕ) (outcome : Except NSError Unit) :
    (manager.retry request outcome).1.nextRequest = manager.nextRequest := by
  unfold retry
  split
  · split <;> rfl
  · rfl

/-- Requests are made by one event only, and none is ever taken back. -/
theorem nextRequest_step (step : manager.step? retrier event = some target) :
    (∃ outcome, event = .request outcome ∧ target = manager.request retrier outcome) ∨
      ((∀ outcome, event ≠ .request outcome) ∧ target.nextRequest = manager.nextRequest) := by
  cases event with
  | request outcome => exact .inl ⟨outcome, rfl, (Option.some.inj step).symm⟩
  | response request =>
    obtain ⟨_, same⟩ := Option.ite_none_right_eq_some.mp step
    obtain rfl := Option.some.inj same
    exact .inr ⟨fun _ => by simp, rfl⟩
  | validate request validation =>
    obtain ⟨_, same⟩ := Option.ite_none_right_eq_some.mp step
    obtain rfl := Option.some.inj same
    exact .inr ⟨fun _ => by simp, rfl⟩
  | didReceiveResponse task statusCode =>
    obtain ⟨_, same⟩ := Option.ite_none_right_eq_some.mp step
    obtain rfl := Option.some.inj same
    exact .inr ⟨fun _ => by simp, rfl⟩
  | didReceiveData task data =>
    obtain ⟨_, same⟩ := Option.ite_none_right_eq_some.mp step
    obtain rfl := Option.some.inj same
    refine .inr ⟨fun _ => by simp, ?_⟩
    unfold didReceiveData
    split <;> rfl
  | didComplete task error =>
    obtain ⟨_, same⟩ := Option.ite_none_right_eq_some.mp step
    obtain rfl := Option.some.inj same
    exact .inr ⟨fun _ => by simp, nextRequest_didComplete error⟩
  | retrierAnswered id shouldRetry =>
    refine .inr ⟨fun _ => by simp, ?_⟩
    simp only [step?] at step
    split at step
    · split at step
      · obtain rfl := Option.some.inj step
        rfl
      · obtain rfl := Option.some.inj step
        exact nextRequest_giveUp ..
    · contradiction
  | retried id outcome =>
    refine .inr ⟨fun _ => by simp, ?_⟩
    simp only [step?] at step
    split at step
    · next request assigned error found =>
      have kept := @nextRequest_retry manager request outcome
      split at step
      · next changed retried =>
        obtain rfl := Option.some.inj step
        rw [retried] at kept
        exact kept
      · next changed retried =>
        obtain rfl := Option.some.inj step
        rw [retried] at kept
        exact (nextRequest_giveUp ..).trans kept
    · contradiction
  | registered id =>
    refine .inr ⟨fun _ => by simp, ?_⟩
    simp only [step?] at step
    split at step
    · obtain rfl := Option.some.inj step
      unfold register
      split <;> rfl
    · contradiction
  | operation request =>
    refine .inr ⟨fun _ => by simp, ?_⟩
    obtain ⟨_, same⟩ := Option.ite_none_right_eq_some.mp step
    split at same
    · obtain rfl := Option.some.inj same
      rfl
    · contradiction
  | main =>
    refine .inr ⟨fun _ => by simp, ?_⟩
    simp only [step?] at step
    split at step
    · obtain rfl := Option.some.inj step
      rfl
    · contradiction

theorem nextRequest_le (step : manager.step? retrier event = some target) :
    manager.nextRequest ≤ target.nextRequest := by
  obtain ⟨outcome, _, rfl⟩ | ⟨_, same⟩ := nextRequest_step step
  · rw [nextRequest_request]
    omega
  · omega

end Requests

/-- The session and the retrier have nothing left to do for the request. -/
structure Ended (manager : SessionManager) (request : ℕ) : Prop where
  known : request < manager.nextRequest
  decided : ∀ entry ∈ manager.retries.entries, entry.2.request = request → entry.2.captured? = none
  completed : ∀ task, manager.taskOf request = some task → (manager.tasks task).completed = true

/-- A request whose handlers may run is finished, or refused. -/
theorem Resumed.cases (resumed : manager.Resumed request) (routed : manager.Routed) :
    manager.Unretried request ∧
      ((∃ task, manager.taskOf request = some task ∧ manager.requests task = none ∧
          (manager.tasks task).completed = true ∧ ((manager.made request).delegate.error = none ↔
            (manager.tasks task).Passed (manager.made request).delegate.mutableData)) ∨
        (manager.taskOf request = none ∧ (manager.made request).delegate.error ≠ none ∧
          (manager.made request).delegate.mutableData = [])) := by
  have running := resumed.2
  cases routed.phase request resumed.1 with
  | finished task assigned _ absent completed judged unretried =>
    exact ⟨unretried, .inl ⟨task, assigned, absent, completed, judged⟩⟩
  | refused unassigned _ failed empty unretried => exact ⟨unretried, .inr ⟨unassigned, failed, empty⟩⟩
  | running task assigned suspended =>
    rw [running] at suspended
    contradiction
  | failing task id retry assigned suspended =>
    rw [running] at suspended
    contradiction
  | adapting id retry unassigned suspended =>
    rw [running] at suspended
    contradiction
  | starting task id assigned suspended =>
    rw [running] at suspended
    contradiction
  | hung task assigned suspended =>
    rw [running] at suspended
    contradiction

/-- Either way it has ended. -/
theorem Resumed.ended (resumed : manager.Resumed request) (routed : manager.Routed) : manager.Ended request := by
  obtain ⟨unretried, phase⟩ := resumed.cases routed
  refine ⟨resumed.1, fun entry member named => absurd named (unretried entry member), fun other belongs => ?_⟩
  obtain ⟨task, assigned, _, completed, _⟩ | ⟨unassigned, _⟩ := phase
  · obtain rfl := Option.some.inj (assigned.symm.trans belongs)
    exact completed
  · rw [unassigned] at belongs
    contradiction

/-- Whether the completion of the last task of a request was not heard. -/
def unheard (manager : SessionManager) (request : ℕ) : Bool :=
  (manager.taskOf request).any fun task => (manager.tasks task).unheard

/-- A request like this has ended too, but its handlers may not run. -/
theorem ended_of_unheard (routed : manager.Routed) (known : request < manager.nextRequest)
    (unheard : manager.unheard request = true) :
    manager.Ended request ∧ (manager.made request).delegate.isSuspended = true := by
  rw [SessionManager.unheard] at unheard
  have idle {task : ℕ} (assigned : manager.taskOf request = some task) : (manager.tasks task).unheard = true := by
    rw [assigned] at unheard
    exact unheard
  cases routed.phase request known with
  | starting task id assigned suspended clean empty absent retrying listening =>
    refine ⟨⟨known, fun (number, found) member named => ?_, fun other belongs => ?_⟩, suspended⟩
    · obtain rfl := retrying.2 _ member named
      rw [Ledger.eq_of_mem member retrying.1]
      rfl
    · obtain rfl := Option.some.inj (assigned.symm.trans belongs)
      exact listening.symm.trans (idle assigned)
  | hung task assigned suspended completed unretried _ =>
    refine ⟨⟨known, fun entry member named => absurd named (unretried entry member), fun other belongs => ?_⟩, suspended⟩
    obtain rfl := Option.some.inj (assigned.symm.trans belongs)
    exact completed
  | running task assigned suspended clean entered live unretried heard =>
    rw [idle assigned] at heard
    contradiction
  | failing task id retry assigned suspended entered completed failed named captured retrying heard =>
    rw [idle assigned] at heard
    contradiction
  | finished task assigned resumed absent completed judged unretried heard =>
    rw [idle assigned] at heard
    contradiction
  | adapting id retry unassigned =>
    rw [unassigned] at unheard
    contradiction
  | refused unassigned =>
    rw [unassigned] at unheard
    contradiction

/-- What answers, tasks and queues of a request read of it. -/
structure SameAnswer (manager target : SessionManager) (request : ℕ) : Prop where
  assigned : target.taskOf request = manager.taskOf request
  suspended : (target.made request).delegate.isSuspended = (manager.made request).delegate.isSuspended
  error : (target.made request).delegate.error = (manager.made request).delegate.error
  data : (target.made request).delegate.mutableData = (manager.made request).delegate.mutableData

private theorem SameAnswer.of_made (same : target.made request = manager.made request) :
    SameAnswer manager target request := by
  refine ⟨?_, ?_, ?_, ?_⟩
  · rw [taskOf, same, taskOf]
  · rw [same]
  · rw [same]
  · rw [same]

/-- What a request like this would answer does not change any more. -/
theorem Ended.same (ended : manager.Ended request) (routed : manager.Routed)
    (step : manager.step? retrier event = some target) : SameAnswer manager target request := by
  by_cases concerned : manager.concerned? event = some request
  · have decided {number : ℕ} {found : Retry} (entry : manager.retries.find? number = some found)
        (named : (manager.retries.find? number).map Retry.request = some request) : found.captured? = none := by
      rw [entry] at named
      exact ended.decided _ (Ledger.mem_of_find? entry) (Option.some.inj named)
    have idle {live : ℕ} (alive : manager.Live live) (entered : manager.requests live = some request) : False := by
      have completed := ended.completed live (routed.entered live request entered).2
      rw [alive.2] at completed
      contradiction
    cases event with
    | request outcome =>
      have new := Option.some.inj concerned
      have below := ended.known
      omega
    | response other =>
      obtain rfl := Option.some.inj concerned
      obtain ⟨_, same⟩ := Option.ite_none_right_eq_some.mp step
      obtain rfl := Option.some.inj same
      have changed : (manager.addHandler other).made other =
          (manager.made other).addOperation manager.nextHandler := by rw [made_addHandler, made_modify_self]
      exact ⟨by rw [taskOf, changed]; rfl, by rw [changed]; rfl, by rw [changed]; rfl, by rw [changed]; rfl⟩
    | validate other validation =>
      obtain rfl := Option.some.inj concerned
      obtain ⟨_, same⟩ := Option.ite_none_right_eq_some.mp step
      obtain rfl := Option.some.inj same
      have changed := @made_modify_self manager other fun made => made.validate validation
      exact ⟨by rw [taskOf, changed]; rfl, by rw [changed]; rfl, by rw [changed]; rfl, by rw [changed]; rfl⟩
    | didReceiveResponse task statusCode => contradiction
    | didReceiveData task data =>
      obtain ⟨alive, _⟩ := Option.ite_none_right_eq_some.mp step
      exact (idle alive concerned).elim
    | didComplete task error =>
      obtain ⟨alive, _⟩ := Option.ite_none_right_eq_some.mp step
      exact (idle alive concerned).elim
    | retrierAnswered id shouldRetry =>
      simp only [step?] at step
      split at step
      · next found => exact absurd (decided found concerned) (Option.some_ne_none _)
      · contradiction
    | retried id outcome =>
      simp only [step?] at step
      split at step
      · next found => exact absurd (decided found concerned) (Option.some_ne_none _)
      · contradiction
    | registered id =>
      simp only [step?] at step
      split at step
      · obtain rfl := Option.some.inj step
        apply SameAnswer.of_made
        unfold register
        split <;> rfl
      · contradiction
    | operation other =>
      obtain rfl := Option.some.inj concerned
      obtain ⟨_, same⟩ := Option.ite_none_right_eq_some.mp step
      split at same
      · next handler rest waiting =>
        obtain rfl := Option.some.inj same
        have changed := @made_modify_self manager other fun made =>
          { made with delegate := { made.delegate with operations := rest } }
        exact ⟨congrArg (fun made => made.delegate.task) changed, congrArg (fun made => made.delegate.isSuspended) changed,
          congrArg (fun made => made.delegate.error) changed, congrArg (fun made => made.delegate.mutableData) changed⟩
      · contradiction
    | main => contradiction
  · exact .of_made (made_of_unconcerned routed step concerned)

/-- The answer of a resumed request is the same after every event. -/
theorem Resumed.step (resumed : manager.Resumed request) (routed : manager.Routed)
    (step : manager.step? retrier event = some target) :
    target.Resumed request ∧ target.answer request = manager.answer request := by
  have ended := resumed.ended routed
  have same := ended.same routed step
  have response : target.response? request = manager.response? request := by
    rw [response?, same.assigned, response?]
    cases assigned : manager.taskOf request with
    | none => rfl
    | some task =>
      simp only [Option.bind_some]
      rw [tasks_step step (routed.bound request task ended.known assigned) (ended.completed task assigned)]
  refine ⟨⟨Nat.lt_of_lt_of_le ended.known (nextRequest_le step), same.suspended.trans resumed.2⟩, ?_⟩
  rw [answer, response, same.data, same.error, answer]

/-- A completion that was not heard is never heard of later. -/
theorem unheard_step (routed : manager.Routed) (known : request < manager.nextRequest)
    (silent : manager.unheard request = true) (step : manager.step? retrier event = some target) :
    target.unheard request = true := by
  obtain ⟨ended, _⟩ := ended_of_unheard routed known silent
  have same := ended.same routed step
  rw [unheard, same.assigned]
  rw [unheard] at silent
  cases assigned : manager.taskOf request with
  | none =>
    rw [assigned] at silent
    contradiction
  | some task =>
    rw [assigned] at silent
    rw [Option.any_some, tasks_step step (routed.bound request task known assigned) (ended.completed task assigned)]
    exact silent

section Refusals

/-- The error with which an event tells that no task could be made for the request. -/
def refusal? (request : ℕ) (manager : SessionManager) : SessionEvent → Option NSError
  | .request (.error (.notConverted error)) | .request (.error (.notEncoded error))
  | .request (.error (.notAdapted error)) => if manager.nextRequest = request then some error else none
  | .retried id (.error error) =>
      match manager.retries.find? id with
      | some (.delayed other _ _) => if other = request then some error else none
      | _ => none
  | _ => none

/-- Only an event that is about a request tells this of it. -/
theorem refusal?_of_unconcerned (different : manager.concerned? event ≠ some request) :
    refusal? request manager event = none := by
  have named (error : NSError) (about : manager.concerned? event = some manager.nextRequest) :
      (if manager.nextRequest = request then some error else none) = none :=
    if_neg fun same => different (about.trans (congrArg some same))
  unfold refusal?
  split
  · exact named _ rfl
  · exact named _ rfl
  · exact named _ rfl
  · next id error =>
    split
    · next other assigned cause found =>
      refine if_neg fun same => different ?_
      rw [concerned?, found, ← same]
      rfl
    · rfl
  · rfl

/-- How a request comes to be without a task after an event, and which error it then has. -/
inductive Untasked (manager : SessionManager) (event : SessionEvent) (target : SessionManager) (request : ℕ) : Prop
  | refused (error : NSError) (told : refusal? request manager event = some error)
      (unassigned : request < manager.nextRequest → manager.taskOf request = none)
      (failed : (target.made request).delegate.error = some error)
  | kept (untold : refusal? request manager event = none) (unassigned : manager.taskOf request = none)
      (same : (target.made request).delegate.error = (manager.made request).delegate.error)

/-- It had none before. -/
theorem Untasked.unassigned (untasked : manager.Untasked event target request) (known : request < manager.nextRequest) :
    manager.taskOf request = none := by
  cases untasked with
  | refused error told unassigned failed => exact unassigned known
  | kept untold unassigned same => exact unassigned

private theorem Untasked.of_same (untold : refusal? request manager event = none)
    (unassigned : target.taskOf request = none) (task : target.taskOf request = manager.taskOf request)
    (error : (target.made request).delegate.error = (manager.made request).delegate.error) :
    manager.Untasked event target request := .kept untold (task.symm.trans unassigned) error

/-- Handlers and validations change neither the task nor the error of their request. -/
private theorem Untasked.of_modify (change : DataRequest → DataRequest) (untold : refusal? request manager event = none)
    (unassigned : target.taskOf request = none) (changed : target.made = (manager.modify other change).made)
    (task : ∀ made, (change made).delegate.task = made.delegate.task)
    (error : ∀ made, (change made).delegate.error = made.delegate.error) :
    manager.Untasked event target request := by
  refine .of_same untold unassigned ?_ ?_
  · rw [taskOf, changed]
    exact read_modify (fun made => made.delegate.task) task request
  · rw [changed]
    exact read_modify (fun made => made.delegate.error) error request

theorem error_resume (other : ℕ) : ((manager.modify request DataRequest.resume).made other).delegate.error =
    (manager.made other).delegate.error := by
  refine read_modify (fun made => made.delegate.error) (fun made => ?_) other
  unfold DataRequest.resume
  split <;> rfl

/-- A request that could not be made has the error of its failure. -/
theorem error_requestFailedWith (failure : RequestFailure) :
    ((manager.requestFailedWith retrier failure).made manager.nextRequest).delegate.error = some failure.error := by
  have new : (Function.update manager.made manager.nextRequest
      (.new failure.hasURLRequest none (some failure.error)) manager.nextRequest).delegate.error = some failure.error := by
    rw [Function.update_self]
    rfl
  simp only [requestFailedWith]
  split
  · exact new
  · rw [error_resume]
    exact new

/-- A task in the dictionary is that of its request. -/
private theorem Routed.taskOf_ne_none (routed : manager.Routed) (found : manager.requests task = some request) :
    manager.taskOf request ≠ none := by
  obtain ⟨_, assigned⟩ := routed.entered task request found
  rw [assigned]
  exact Option.some_ne_none task

/-- The completion that a retry has kept is of the task of the request, if it has one. -/
private theorem Routed.captured_eq_none (routed : manager.Routed) {retry : Retry} {assigned : Option ℕ}
    (found : manager.retries.find? id = some retry) (captured : retry.captured? = some assigned)
    (unassigned : manager.taskOf retry.request = none) : assigned = none := by
  cases assigned with
  | some task =>
    have entered := (routed.of_failing (Ledger.mem_of_find? found) captured).1
    exact absurd unassigned (routed.taskOf_ne_none entered)
  | none => rfl

/-- A retry fails with its own error, which is then that of a request without a task. -/
private theorem untasked_retried (routed : manager.Routed) {outcome : Except NSError Unit}
    (step : manager.step? retrier (.retried id outcome) = some target)
    (concerned : manager.concerned? (.retried id outcome) = some request) (unassigned : target.taskOf request = none) :
    manager.Untasked (.retried id outcome) target request := by
  simp only [step?] at step
  split at step
  · next other assigned cause found =>
    have member := Ledger.mem_of_find? found
    have named : other = request := by
      rw [concerned?, found] at concerned
      exact Option.some.inj concerned
    subst named
    by_cases original : (manager.made other).originalTask = true
    · cases outcome with
      | ok value =>
        rw [retry_ok original] at step
        obtain rfl := Option.some.inj step
        simp only [taskOf, restarted, Function.update_self] at unassigned
        contradiction
      | error error =>
        simp only [retry, original, if_true] at step
        obtain rfl := Option.some.inj step
        have before : manager.taskOf other = none := by
          refine Eq.trans (Eq.symm ?_) unassigned
          exact (apart_task.giveUp other).trans (apart_task.failedAgain other)
        obtain rfl := routed.captured_eq_none found rfl before
        have failed : ((manager.failedAgain other error).made other).delegate.error = some error := by
          simp only [failedAgain, made_modify_self]
        have told : refusal? other manager (.retried id (.error error)) = some error := by
          simp only [refusal?, found, if_true]
        exact .refused error told (fun _ => before) ((error_resume other).trans failed)
    · simp only [retry, original] at step
      obtain rfl := Option.some.inj step
      have before : manager.taskOf other = none := by
        refine Eq.trans (Eq.symm ?_) unassigned
        exact apart_task.giveUp other
      obtain rfl := routed.captured_eq_none found rfl before
      exact absurd (routed.of_adapting member rfl).2.2.2 original
  · contradiction

/-- A request that has been given a task is never without one again, and without one it keeps the error
of the last attempt to make one. -/
theorem untasked_step (routed : manager.Routed) (step : manager.step? retrier event = some target)
    (unassigned : target.taskOf request = none) : manager.Untasked event target request := by
  by_cases concerned : manager.concerned? event = some request
  · cases event with
    | request outcome =>
      obtain rfl := Option.some.inj concerned
      obtain rfl := Option.some.inj step
      cases outcome with
      | ok value =>
        simp only [taskOf, SessionManager.request, Function.update_self] at unassigned
        contradiction
      | error failure =>
        have told : refusal? manager.nextRequest manager (.request (.error failure)) = some failure.error := by
          cases failure <;> exact if_pos rfl
        exact .refused failure.error told (fun known => absurd known (Nat.lt_irrefl _)) (error_requestFailedWith failure)
    | response other =>
      obtain ⟨_, same⟩ := Option.ite_none_right_eq_some.mp step
      obtain rfl := Option.some.inj same
      exact .of_modify (fun made => made.addOperation manager.nextHandler) rfl unassigned made_addHandler
        (fun _ => rfl) fun _ => rfl
    | validate other validation =>
      obtain ⟨_, same⟩ := Option.ite_none_right_eq_some.mp step
      obtain rfl := Option.some.inj same
      exact .of_modify (fun made => made.validate validation) rfl unassigned rfl (fun _ => rfl) fun _ => rfl
    | didReceiveResponse task statusCode => contradiction
    | didReceiveData task data =>
      obtain ⟨_, same⟩ := Option.ite_none_right_eq_some.mp step
      obtain rfl := Option.some.inj same
      exact absurd ((apart_task.didReceiveData request).symm.trans unassigned) (routed.taskOf_ne_none concerned)
    | didComplete task error =>
      obtain ⟨_, same⟩ := Option.ite_none_right_eq_some.mp step
      obtain rfl := Option.some.inj same
      exact absurd ((apart_task.didComplete request).symm.trans unassigned) (routed.taskOf_ne_none concerned)
    | retrierAnswered id shouldRetry =>
      simp only [step?] at step
      split at step
      · next other assigned cause found =>
        split at step
        · obtain rfl := Option.some.inj step
          exact .of_same rfl unassigned rfl rfl
        · obtain rfl := Option.some.inj step
          rw [concerned?, found] at concerned
          obtain rfl := Option.some.inj concerned
          have before : manager.taskOf other = none := by
            refine Eq.trans (Eq.symm ?_) unassigned
            exact apart_task.giveUp other
          obtain rfl := routed.captured_eq_none found rfl before
          exact .of_same rfl unassigned (apart_task.giveUp other) (error_resume other)
      · contradiction
    | retried id outcome => exact untasked_retried routed step concerned unassigned
    | registered id =>
      simp only [step?] at step
      split at step
      · obtain rfl := Option.some.inj step
        refine .of_same rfl unassigned ?_ ?_
        · unfold taskOf register
          split <;> rfl
        · unfold register
          split <;> rfl
      · contradiction
    | operation other =>
      obtain ⟨_, same⟩ := Option.ite_none_right_eq_some.mp step
      split at same
      · next handler rest waiting =>
        obtain rfl := Option.some.inj same
        exact .of_modify (fun made => { made with delegate := { made.delegate with operations := rest } }) rfl unassigned
          rfl (fun _ => rfl) fun _ => rfl
      · contradiction
    | main => contradiction
  · have same := made_of_unconcerned routed step concerned
    refine .of_same (refusal?_of_unconcerned concerned) unassigned ?_ ?_
    · rw [taskOf, same, taskOf]
    · rw [same]

end Refusals

end LoginDN.Alamofire.SessionManager
