import LoginDN.Model.SessionManager

/-! # The phases of a request

At any time a request is in one phase of its life. It runs, or it has failed and its retry is being
decided, or it waits for its new task to be entered in the dictionary, or its handlers may run. One
phase is never left: that of a request whose new task completed before it was entered. Each event moves
the requests that have something to do with its task or its retry and leaves the others where they are.
-/

namespace LoginDN.Alamofire

open Machine

/-- The task that the closures of a retry have captured, while the retry is not decided. -/
def Retry.captured? : Retry → Option (Option ℕ)
  | .asked _ task _ | .delayed _ task _ => some task
  | .registering _ => none

/-- The task completed without an error, and its validations accepted its response and the data kept. -/
def SessionTask.Passed (known : SessionTask) (data : List UInt8) : Prop :=
  known.failure = none ∧ ∀ validation ∈ known.checked, ∀ statusCode, known.response = some statusCode →
    validation statusCode data = none

namespace SessionManager

/-- No retry of the request is under way. -/
def Unretried (manager : SessionManager) (request : ℕ) : Prop :=
  ∀ entry ∈ manager.retries.entries, entry.2.request ≠ request

/-- The one retry of its request that is under way. -/
def Retrying (manager : SessionManager) (id : ℕ) (retry : Retry) : Prop :=
  (id, retry) ∈ manager.retries.entries ∧
    ∀ entry ∈ manager.retries.entries, entry.2.request = retry.request → entry.1 = id

/-- What is true of a request in each phase. -/
inductive Phase (manager : SessionManager) (request : ℕ) : Prop
  | running (task : ℕ) (assigned : manager.taskOf request = some task)
      (suspended : (manager.made request).delegate.isSuspended = true)
      (clean : (manager.made request).delegate.error = none)
      (entered : manager.requests task = some request) (live : (manager.tasks task).completed = false)
      (unretried : manager.Unretried request) (heard : (manager.tasks task).unheard = false)
  | failing (task id : ℕ) (retry : Retry) (assigned : manager.taskOf request = some task)
      (suspended : (manager.made request).delegate.isSuspended = true)
      (entered : manager.requests task = some request) (completed : (manager.tasks task).completed = true)
      (failed : ¬ (manager.tasks task).Passed (manager.made request).delegate.mutableData)
      (named : retry.request = request) (captured : retry.captured? = some (some task))
      (retrying : manager.Retrying id retry) (heard : (manager.tasks task).unheard = false)
  | adapting (id : ℕ) (retry : Retry) (unassigned : manager.taskOf request = none)
      (suspended : (manager.made request).delegate.isSuspended = true)
      (failed : (manager.made request).delegate.error ≠ none)
      (empty : (manager.made request).delegate.mutableData = [])
      (retriable : (manager.made request).originalTask = true)
      (named : retry.request = request) (captured : retry.captured? = some none)
      (retrying : manager.Retrying id retry)
  | starting (task id : ℕ) (assigned : manager.taskOf request = some task)
      (suspended : (manager.made request).delegate.isSuspended = true)
      (clean : (manager.made request).delegate.error = none)
      (empty : (manager.made request).delegate.mutableData = [])
      (absent : manager.requests task = none) (retrying : manager.Retrying id (.registering request))
      (listening : (manager.tasks task).unheard = (manager.tasks task).completed)
  | finished (task : ℕ) (assigned : manager.taskOf request = some task)
      (resumed : (manager.made request).delegate.isSuspended = false)
      (absent : manager.requests task = none) (completed : (manager.tasks task).completed = true)
      (judged : (manager.made request).delegate.error = none ↔
        (manager.tasks task).Passed (manager.made request).delegate.mutableData)
      (unretried : manager.Unretried request) (heard : (manager.tasks task).unheard = false)
  | refused (unassigned : manager.taskOf request = none)
      (resumed : (manager.made request).delegate.isSuspended = false)
      (failed : (manager.made request).delegate.error ≠ none)
      (empty : (manager.made request).delegate.mutableData = []) (unretried : manager.Unretried request)
  | hung (task : ℕ) (assigned : manager.taskOf request = some task)
      (suspended : (manager.made request).delegate.isSuspended = true)
      (completed : (manager.tasks task).completed = true) (unretried : manager.Unretried request)
      (unheard : (manager.tasks task).unheard = true)

/-- A task belongs to one request, the dictionary leads to it, and the request has what was delivered
for its task and not missed. -/
structure Tracked (manager : SessionManager) : Prop where
  bound : ∀ request task, request < manager.nextRequest → manager.taskOf request = some task →
    task < manager.nextTask
  owner : ∀ request other task, request < manager.nextRequest → other < manager.nextRequest →
    manager.taskOf request = some task → manager.taskOf other = some task → request = other
  entered : ∀ task request, manager.requests task = some request →
    request < manager.nextRequest ∧ manager.taskOf request = some task
  retried : ∀ entry ∈ manager.retries.entries, entry.2.request < manager.nextRequest
  data : ∀ request task, request < manager.nextRequest → manager.taskOf request = some task →
    (manager.tasks task).received = (manager.tasks task).missed ++ (manager.made request).delegate.mutableData

/-- Every request made is in a phase. -/
structure Routed (manager : SessionManager) : Prop extends Tracked manager where
  phase : ∀ request, request < manager.nextRequest → manager.Phase request

variable {manager target : SessionManager} {request : ℕ}

/-- The parts of a request that its phase depends on. -/
structure SameRequest (manager target : SessionManager) (request : ℕ) : Prop where
  task : target.taskOf request = manager.taskOf request
  suspended : (target.made request).delegate.isSuspended = (manager.made request).delegate.isSuspended
  error : (target.made request).delegate.error = (manager.made request).delegate.error
  data : (target.made request).delegate.mutableData = (manager.made request).delegate.mutableData
  original : (target.made request).originalTask = (manager.made request).originalTask
  retries : ∀ entry, entry.2.request = request →
    (entry ∈ target.retries.entries ↔ entry ∈ manager.retries.entries)

theorem SameRequest.of_made (made : target.made request = manager.made request)
    (retries : ∀ entry, entry.2.request = request →
      (entry ∈ target.retries.entries ↔ entry ∈ manager.retries.entries)) :
    SameRequest manager target request := by
  refine ⟨?_, ?_, ?_, ?_, ?_, retries⟩
  · rw [taskOf, made, taskOf]
  · rw [made]
  · rw [made]
  · rw [made]
  · rw [made]

namespace SameRequest

variable (same : SameRequest manager target request)

include same

theorem unretried (unretried : manager.Unretried request) : target.Unretried request := by
  intro entry member named
  exact unretried entry ((same.retries entry named).mp member) named

theorem retrying {id : ℕ} {retry : Retry} (named : retry.request = request)
    (retrying : manager.Retrying id retry) : target.Retrying id retry := by
  refine ⟨(same.retries (id, retry) named).mpr retrying.1, fun entry member shared => ?_⟩
  have old := (same.retries entry (shared.trans named)).mp member
  exact retrying.2 entry old shared

end SameRequest

/-- A request that an event has nothing to do with stays in its phase. -/
theorem Phase.frame (phase : manager.Phase request) (same : SameRequest manager target request)
    (tasks : ∀ task, manager.taskOf request = some task →
      target.tasks task = manager.tasks task ∧ target.requests task = manager.requests task) :
    target.Phase request := by
  cases phase with
  | running task assigned suspended clean entered live unretried heard =>
    obtain ⟨known, dictionary⟩ := tasks task assigned
    exact .running task (same.task.trans assigned) (same.suspended.trans suspended) (same.error.trans clean)
      (dictionary.trans entered) (by rw [known, live]) (same.unretried unretried) (by rw [known, heard])
  | failing task id retry assigned suspended entered completed failed named captured retrying heard =>
    obtain ⟨known, dictionary⟩ := tasks task assigned
    exact .failing task id retry (same.task.trans assigned) (same.suspended.trans suspended)
      (dictionary.trans entered) (by rw [known, completed]) (by rwa [known, same.data]) named captured
      (same.retrying named retrying) (by rw [known, heard])
  | adapting id retry unassigned suspended failed empty retriable named captured retrying =>
    exact .adapting id retry (same.task.trans unassigned) (same.suspended.trans suspended)
      (by rwa [same.error]) (same.data.trans empty) (same.original.trans retriable) named captured
      (same.retrying named retrying)
  | starting task id assigned suspended clean empty absent retrying listening =>
    obtain ⟨known, dictionary⟩ := tasks task assigned
    exact .starting task id (same.task.trans assigned) (same.suspended.trans suspended)
      (same.error.trans clean) (same.data.trans empty) (dictionary.trans absent) (same.retrying rfl retrying)
      (by rw [known, listening])
  | finished task assigned resumed absent completed judged unretried heard =>
    obtain ⟨known, dictionary⟩ := tasks task assigned
    exact .finished task (same.task.trans assigned) (same.suspended.trans resumed)
      (dictionary.trans absent) (by rw [known, completed]) (by rwa [known, same.error, same.data])
      (same.unretried unretried) (by rw [known, heard])
  | refused unassigned resumed failed empty unretried =>
    exact .refused (same.task.trans unassigned) (same.suspended.trans resumed) (by rwa [same.error])
      (same.data.trans empty) (same.unretried unretried)
  | hung task assigned suspended completed unretried unheard =>
    obtain ⟨known, _⟩ := tasks task assigned
    exact .hung task (same.task.trans assigned) (same.suspended.trans suspended) (by rw [known, completed])
      (same.unretried unretried) (by rw [known, unheard])

end SessionManager

end LoginDN.Alamofire
