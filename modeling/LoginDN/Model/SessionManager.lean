import LoginDN.Machine.Ledger
import LoginDN.Machine.Run
import LoginDN.Model.Feed
import Mathlib.Logic.Function.Basic

/-! # The data requests of a session manager

URLSession calls the session delegate for its tasks in any order. The delegate finds the request of a
task in a dictionary, passes data and completion on to the task delegate of that request, and forgets
the task. Response handlers are operations of a serial queue that stays suspended until then; each
hands its response to the main queue. With a retrier a failed request may be given a new task.
-/

namespace LoginDN.Alamofire

open Machine

/-- The error with which a response and the data received fail a validation. -/
abbrev Validation := ℤ → List UInt8 → Option NSError

/-- A `DataTaskDelegate`. The operations of its queue are response handlers, by number. -/
structure TaskDelegate where
  task : Option ℕ
  error : Option NSError
  mutableData : List UInt8
  operations : List ℕ
  isSuspended : Bool

/-- A `DataRequest`. Whether it could be given a task again is all that is read of `originalTask`. -/
structure DataRequest where
  originalTask : Bool
  delegate : TaskDelegate
  validations : List Validation
  retryCount : ℕ

/-- A task of URLSession, with histories that no code reads: all data it has delivered, the part of it
that found no request in the dictionary, whether its completion found none, the error it completed with,
and the validations run then. -/
structure SessionTask where
  response : Option ℤ
  completed : Bool
  received : List UInt8
  missed : List UInt8
  unheard : Bool
  failure : Option NSError
  checked : List Validation

/-- A response on its way to the handler it was made for. -/
structure Call where
  request : ℕ
  handler : ℕ
  answer : Answer

/-- What has become of a request that failed: the retrier has been asked, its delay is running, or the
new task is about to be entered in the dictionary. The closures capture the task and the error. -/
inductive Retry where
  | asked (request : ℕ) (task : Option ℕ) (error : NSError)
  | delayed (request : ℕ) (task : Option ℕ) (error : NSError)
  | registering (request : ℕ)

def Retry.request : Retry → ℕ
  | .asked request _ _ | .delayed request _ _ | .registering request => request

/-- A session manager with its delegate, its URLSession and the main queue, and two histories: the
handlers of each request and the calls made, both oldest first. -/
structure SessionManager where
  tasks : ℕ → SessionTask
  nextTask : ℕ
  made : ℕ → DataRequest
  nextRequest : ℕ
  requests : ℕ → Option ℕ
  retries : Ledger Retry
  nextHandler : ℕ
  mainQueue : List Call
  added : List (ℕ × ℕ)
  called : List Call

/-- Why no task could be made for a request: there is no URL request, it could not be encoded or be
made a task of, or the adapter has refused it. -/
inductive RequestFailure where
  | notConverted (error : NSError)
  | notEncoded (error : NSError)
  | notAdapted (error : NSError)

inductive SessionEvent where
  | request (outcome : Except RequestFailure Unit)
  | response (request : ℕ)
  | validate (request : ℕ) (validation : Validation)
  | didReceiveResponse (task : ℕ) (statusCode : ℤ)
  | didReceiveData (task : ℕ) (data : List UInt8)
  | didComplete (task : ℕ) (error : Option NSError)
  | retrierAnswered (id : ℕ) (shouldRetry : Bool)
  | retried (id : ℕ) (outcome : Except NSError Unit)
  | registered (id : ℕ)
  | operation (request : ℕ)
  | main

/-- Whether the app causes an event. All others happen by themselves. -/
def SessionEvent.causedByApp : SessionEvent → Bool
  | .request _ | .response _ | .validate _ _ => true
  | _ => false

namespace RequestFailure

def error : RequestFailure → NSError
  | .notConverted error | .notEncoded error | .notAdapted error => error

/-- A request without a URL request has nothing to make a task of. -/
def hasURLRequest : RequestFailure → Bool
  | .notConverted _ => false
  | .notEncoded _ | .notAdapted _ => true

def isAdaptError : RequestFailure → Bool
  | .notAdapted _ => true
  | .notConverted _ | .notEncoded _ => false

end RequestFailure

namespace TaskDelegate

/-- The observer of the task resets what is known of an earlier one. -/
def setTask (delegate : TaskDelegate) (task : ℕ) : TaskDelegate :=
  { delegate with task := some task, error := none, mutableData := [] }

def didReceiveData (delegate : TaskDelegate) (data : List UInt8) : TaskDelegate :=
  { delegate with mutableData := delegate.mutableData ++ data }

/-- An earlier error is not overwritten. -/
def didCompleteWithError (delegate : TaskDelegate) (error : Option NSError) : TaskDelegate :=
  { delegate with error := delegate.error.or error, isSuspended := false }

end TaskDelegate

namespace DataRequest

/-- `init(session:requestTask:error:)`: the queue is suspended. -/
def new (originalTask : Bool) (task : Option ℕ) (error : Option NSError) : DataRequest :=
  ⟨originalTask, ⟨task, error, [], [], true⟩, [], 0⟩

/-- Only a request without a task is changed: its handlers may run at once. -/
def resume (request : DataRequest) : DataRequest :=
  match request.delegate.task with
  | none => { request with delegate := { request.delegate with isSuspended := false } }
  | some _ => request

def addOperation (request : DataRequest) (handler : ℕ) : DataRequest :=
  { request with delegate := { request.delegate with operations := request.delegate.operations ++ [handler] } }

def validate (request : DataRequest) (validation : Validation) : DataRequest :=
  { request with validations := request.validations ++ [validation] }

/-- The closure that `validate` appends. It is skipped after an error and without a response. -/
def validationExecution (response : Option ℤ) (request : DataRequest) (validation : Validation) : DataRequest :=
  match response, request.delegate.error with
  | some statusCode, none =>
      { request with delegate :=
          { request.delegate with error := validation statusCode request.delegate.mutableData } }
  | _, _ => request

def runValidations (request : DataRequest) (response : Option ℤ) : DataRequest :=
  request.validations.foldl (validationExecution response) request

end DataRequest

namespace SessionManager

/-- The default manager before its first request. -/
def initial : SessionManager where
  tasks _ := ⟨none, false, [], [], false, none, []⟩
  nextTask := 0
  made _ := .new false none none
  nextRequest := 0
  requests _ := none
  retries := .empty
  nextHandler := 0
  mainQueue := []
  added := []
  called := []

/-- One request is changed in place. -/
def modify (manager : SessionManager) (request : ℕ) (change : DataRequest → DataRequest) : SessionManager :=
  { manager with made := Function.update manager.made request (change (manager.made request)) }

def modifyTask (manager : SessionManager) (task : ℕ) (change : SessionTask → SessionTask) : SessionManager :=
  { manager with tasks := Function.update manager.tasks task (change (manager.tasks task)) }

/-- URLSession makes a task. -/
def makeTask (manager : SessionManager) : SessionManager :=
  { manager with
    tasks := Function.update manager.tasks manager.nextTask ⟨none, false, [], [], false, none, []⟩
    nextTask := manager.nextTask + 1 }

/-- The task a request has now. -/
def taskOf (manager : SessionManager) (request : ℕ) : Option ℕ := (manager.made request).delegate.task

/-- The response of that task. -/
def response? (manager : SessionManager) (request : ℕ) : Option ℤ :=
  (manager.taskOf request).bind fun task => (manager.tasks task).response

variable (retrier : Bool)

/-- `request(_:failedWith:)`. -/
def requestFailedWith (manager : SessionManager) (failure : RequestFailure) : SessionManager :=
  let request := manager.nextRequest
  let manager := { manager with
    made := Function.update manager.made request (.new failure.hasURLRequest none (some failure.error))
    nextRequest := request + 1 }
  if retrier && failure.isAdaptError then
    { manager with retries := manager.retries.issue (.asked request none failure.error) }
  else manager.modify request DataRequest.resume

/-- `request(_:)`. The task is entered in the dictionary before it is resumed. -/
def request (manager : SessionManager) : Except RequestFailure Unit → SessionManager
  | .ok () =>
      { manager.makeTask with
        made := Function.update manager.made manager.nextRequest (.new true (some manager.nextTask) none)
        nextRequest := manager.nextRequest + 1
        requests := Function.update manager.requests manager.nextTask (some manager.nextRequest) }
  | .error failure => manager.requestFailedWith retrier failure

/-- `response(queue:responseSerializer:completionHandler:)`. -/
def addHandler (manager : SessionManager) (request : ℕ) : SessionManager :=
  { manager.modify request fun made => made.addOperation manager.nextHandler with
    nextHandler := manager.nextHandler + 1
    added := manager.added ++ [(request, manager.nextHandler)] }

/-- `urlSession(_:dataTask:didReceive:)`. Data of a task that is not in the dictionary is dropped. -/
def didReceiveData (manager : SessionManager) (task : ℕ) (data : List UInt8) : SessionManager :=
  match manager.requests task with
  | some request =>
      (manager.modifyTask task fun known => { known with received := known.received ++ data }).modify request
        fun made => { made with delegate := made.delegate.didReceiveData data }
  | none =>
      manager.modifyTask task fun known =>
        { known with received := known.received ++ data, missed := known.missed ++ data }

/-- The closure `completeTask` of the session delegate. -/
def completeTask (manager : SessionManager) (task : ℕ) (error : Option NSError) : SessionManager :=
  let notified := match manager.requests task with
    | some request =>
        manager.modify request fun made => { made with delegate := made.delegate.didCompleteWithError error }
    | none => manager
  { notified with requests := Function.update notified.requests task none }

/-- The manager after the validations of a completed task, before it is decided what to do. -/
def validated (manager : SessionManager) (request task : ℕ) (error : Option NSError) : SessionManager :=
  (manager.modify request fun made => made.runValidations (manager.response? request)).modifyTask task
    fun known => { known with completed := true, failure := error, checked := (manager.made request).validations }

/-- `urlSession(_:task:didCompleteWithError:)`. An error of the request comes before that of the task. -/
def didComplete (manager : SessionManager) (task : ℕ) (error : Option NSError) : SessionManager :=
  match manager.requests task with
  | none => (manager.modifyTask task fun known =>
      { known with completed := true, unheard := true, failure := error }).completeTask task error
  | some request =>
      let manager := manager.validated request task error
      let error := (manager.made request).delegate.error.or error
      match error with
      | none => manager.completeTask task none
      | some error =>
          if retrier then
            { manager with retries := manager.retries.issue (.asked request (some task) error) }
          else manager.completeTask task (some error)

/-- What is done with a failed request that is not retried. -/
def giveUp (manager : SessionManager) (request : ℕ) (task : Option ℕ) (error : NSError) : SessionManager :=
  match task with
  | some task => manager.completeTask task (some error)
  | none => manager.modify request DataRequest.resume

/-- A request is given a new task, and the entry of its old one is removed. -/
def restarted (manager : SessionManager) (request : ℕ) : SessionManager :=
  { manager.makeTask with
    requests := match manager.taskOf request with
      | some old => Function.update manager.requests old none
      | none => manager.requests
    made := Function.update manager.made request { manager.made request with
      delegate := (manager.made request).delegate.setTask manager.nextTask
      retryCount := (manager.made request).retryCount + 1 } }

/-- No new task could be made for a request: the error of that attempt replaces any earlier one. -/
def failedAgain (manager : SessionManager) (request : ℕ) (error : NSError) : SessionManager :=
  manager.modify request fun made => { made with delegate := { made.delegate with error := some error } }

/-- `retry(_:)`: whether it has succeeded, with the manager it leaves. -/
def retry (manager : SessionManager) (request : ℕ) (outcome : Except NSError Unit) : SessionManager × Bool :=
  if (manager.made request).originalTask then
    match outcome with
    | .ok () => (manager.restarted request, true)
    | .error error => (manager.failedAgain request error, false)
  else (manager, false)

/-- The new task of a retried request is entered in the dictionary. -/
def register (manager : SessionManager) (request : ℕ) : SessionManager :=
  match manager.taskOf request with
  | some task => { manager with requests := Function.update manager.requests task (some request) }
  | none => manager

/-- The response made by an operation of the queue of a request. -/
def answer (manager : SessionManager) (request : ℕ) : Answer where
  statusCode := manager.response? request
  data := some (manager.made request).delegate.mutableData
  error := (manager.made request).delegate.error

/-- URLSession calls its delegate for a task until it has called it for the completion of the task. -/
def Live (manager : SessionManager) (task : ℕ) : Prop :=
  task < manager.nextTask ∧ (manager.tasks task).completed = false

instance (manager : SessionManager) (task : ℕ) : Decidable (manager.Live task) :=
  inferInstanceAs (Decidable (_ ∧ _))

def step? (manager : SessionManager) : SessionEvent → Option SessionManager
  | .request outcome => some (manager.request retrier outcome)
  | .response request => if request < manager.nextRequest then some (manager.addHandler request) else none
  | .validate request validation =>
      if request < manager.nextRequest then some (manager.modify request fun made => made.validate validation)
      else none
  | .didReceiveResponse task statusCode =>
      if manager.Live task then
        some (manager.modifyTask task fun known => { known with response := some statusCode })
      else none
  | .didReceiveData task data => if manager.Live task then some (manager.didReceiveData task data) else none
  | .didComplete task error => if manager.Live task then some (manager.didComplete retrier task error) else none
  | .retrierAnswered id shouldRetry =>
      match manager.retries.find? id with
      | some (.asked request task error) =>
          if shouldRetry then some { manager with retries := manager.retries.revise id (.delayed request task error) }
          else some ({ manager with retries := manager.retries.close id }.giveUp request task error)
      | _ => none
  | .retried id outcome =>
      match manager.retries.find? id with
      | some (.delayed request task error) =>
          match manager.retry request outcome with
          | (manager, true) => some { manager with retries := manager.retries.revise id (.registering request) }
          | (manager, false) => some ({ manager with retries := manager.retries.close id }.giveUp request task error)
      | _ => none
  | .registered id =>
      match manager.retries.find? id with
      | some (.registering request) => some ({ manager with retries := manager.retries.close id }.register request)
      | _ => none
  | .operation request =>
      if request < manager.nextRequest ∧ (manager.made request).delegate.isSuspended = false then
        match (manager.made request).delegate.operations with
        | handler :: rest =>
            some { manager.modify request
                (fun made => { made with delegate := { made.delegate with operations := rest } }) with
              mainQueue := manager.mainQueue ++ [⟨request, handler, manager.answer request⟩] }
        | [] => none
      else none
  | .main =>
      match manager.mainQueue with
      | call :: rest => some { manager with mainQueue := rest, called := manager.called ++ [call] }
      | [] => none

/-- The manager as a machine over its events. -/
def machine : Machine.System SessionManager SessionEvent := ⟨initial, step? retrier⟩

end SessionManager

end LoginDN.Alamofire
