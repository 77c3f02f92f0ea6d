import LoginDN.Model.SessionPhases

/-! # What the events of a session do to the phases -/

namespace LoginDN.Alamofire.SessionManager

open Machine

variable {manager target : SessionManager} {request other task id : ℕ} {retry : Retry} {retrier : Bool}

section Updates

variable {change : DataRequest → DataRequest} {known : SessionTask → SessionTask} {error : Option NSError}

@[simp] theorem made_modify_self : (manager.modify request change).made request = change (manager.made request) :=
  Function.update_self ..

theorem made_modify_of_ne (different : other ≠ request) :
    (manager.modify request change).made other = manager.made other := Function.update_of_ne different ..

@[simp] theorem tasks_modify : (manager.modify request change).tasks = manager.tasks := rfl
@[simp] theorem made_modifyTask : (manager.modifyTask task known).made = manager.made := rfl

@[simp] theorem tasks_modifyTask_self : (manager.modifyTask task known).tasks task = known (manager.tasks task) :=
  Function.update_self ..

theorem tasks_modifyTask_of_ne {elsewhere : ℕ} (different : elsewhere ≠ task) :
    (manager.modifyTask task known).tasks elsewhere = manager.tasks elsewhere := Function.update_of_ne different ..

/-- The completion of a task in the dictionary is told to its request. -/
theorem completeTask_of_entered (entered : manager.requests task = some request) :
    manager.completeTask task error =
      { manager.modify request fun made => { made with delegate := made.delegate.didCompleteWithError error } with
        requests := Function.update manager.requests task none } := by
  simp only [completeTask, entered]
  rfl

/-- The completion of any other task is told to none. -/
theorem completeTask_of_absent (absent : manager.requests task = none) :
    manager.completeTask task error = manager := by
  have same : Function.update manager.requests task none = manager.requests := by
    rw [← absent, Function.update_eq_self]
  simp only [completeTask, absent, same]

end Updates

/-- What keeps the tracking of tasks: no task, no data and no entry that was not there. -/
structure Quieter (manager target : SessionManager) : Prop where
  nextTask : target.nextTask = manager.nextTask
  nextRequest : target.nextRequest = manager.nextRequest
  task : ∀ request, target.taskOf request = manager.taskOf request
  data : ∀ request, (target.made request).delegate.mutableData = (manager.made request).delegate.mutableData
  received : ∀ task, (target.tasks task).received = (manager.tasks task).received
  missed : ∀ task, (target.tasks task).missed = (manager.tasks task).missed
  entered : ∀ task request, target.requests task = some request → manager.requests task = some request
  retried : ∀ entry ∈ target.retries.entries, entry.2.request < manager.nextRequest

theorem Tracked.quieter (tracked : manager.Tracked) (quieter : Quieter manager target) : target.Tracked where
  bound request task below assigned := by
    rw [quieter.nextTask]
    exact tracked.bound request task (quieter.nextRequest ▸ below) (quieter.task request ▸ assigned)
  owner request other task below beyond assigned shared :=
    tracked.owner request other task (quieter.nextRequest ▸ below) (quieter.nextRequest ▸ beyond)
      (quieter.task request ▸ assigned) (quieter.task other ▸ shared)
  entered task request entered := by
    rw [quieter.nextRequest, quieter.task]
    exact tracked.entered task request (quieter.entered task request entered)
  retried entry member := by
    rw [quieter.nextRequest]
    exact quieter.retried entry member
  data request task below assigned := by
    rw [quieter.received, quieter.missed, quieter.data]
    exact tracked.data request task (quieter.nextRequest ▸ below) (quieter.task request ▸ assigned)

/-- Every request but one is in its phase. -/
def PhasedBut (manager : SessionManager) (request : ℕ) : Prop :=
  ∀ other, other < manager.nextRequest → other ≠ request → manager.Phase other

/-- A request whose task is live runs, or its task is still to be entered in the dictionary. -/
theorem Phase.of_live (phase : manager.Phase request) (assigned : manager.taskOf request = some task)
    (live : (manager.tasks task).completed = false) :
    (manager.made request).delegate.isSuspended = true ∧ (manager.made request).delegate.error = none ∧
      (manager.tasks task).unheard = false ∧
      (manager.requests task = some request ∧ manager.Unretried request ∨
        manager.requests task = none ∧ (manager.made request).delegate.mutableData = [] ∧
          ∃ id, manager.Retrying id (.registering request)) := by
  cases phase with
  | running other belongs suspended clean entered before unretried heard =>
    obtain rfl := Option.some.inj (belongs.symm.trans assigned)
    exact ⟨suspended, clean, heard, .inl ⟨entered, unretried⟩⟩
  | starting other id belongs suspended clean empty absent retrying listening =>
    obtain rfl := Option.some.inj (belongs.symm.trans assigned)
    exact ⟨suspended, clean, listening.trans live, .inr ⟨absent, empty, id, retrying⟩⟩
  | failing other id retry belongs suspended entered completed =>
    obtain rfl := Option.some.inj (belongs.symm.trans assigned)
    rw [live] at completed
    contradiction
  | finished other belongs resumed absent completed =>
    obtain rfl := Option.some.inj (belongs.symm.trans assigned)
    rw [live] at completed
    contradiction
  | hung other belongs suspended completed =>
    obtain rfl := Option.some.inj (belongs.symm.trans assigned)
    rw [live] at completed
    contradiction
  | adapting id retry unassigned =>
    rw [unassigned] at assigned
    contradiction
  | refused unassigned =>
    rw [unassigned] at assigned
    contradiction

section Completions

variable {error : Option NSError}

theorem quieter_completeTask (tracked : manager.Tracked) (entered : manager.requests task = some request) :
    Quieter manager (manager.completeTask task error) := by
  rw [completeTask_of_entered entered]
  have made {α : Type} (other : ℕ) (read : DataRequest → α)
      (kept : ∀ made : DataRequest,
        read { made with delegate := made.delegate.didCompleteWithError error } = read made) :
      read ((manager.modify request fun made =>
        { made with delegate := made.delegate.didCompleteWithError error }).made other) =
        read (manager.made other) := by
    by_cases same : other = request
    · subst same
      rw [made_modify_self, kept]
    · rw [made_modify_of_ne same]
  refine ⟨rfl, rfl, fun other => made other (fun made => made.delegate.task) fun _ => rfl,
    fun other => made other (fun made => made.delegate.mutableData) fun _ => rfl,
    fun _ => rfl, fun _ => rfl, fun elsewhere other found => ?_, tracked.retried⟩
  · change Function.update manager.requests task none elsewhere = some other at found
    by_cases same : elsewhere = task
    · subst same
      rw [Function.update_self] at found
      contradiction
    · rwa [Function.update_of_ne same] at found

/-- A completion told to its request lets the handlers of that request run. -/
theorem routed_completeTask (tracked : manager.Tracked) (others : manager.PhasedBut request)
    (entered : manager.requests task = some request) (completed : (manager.tasks task).completed = true)
    (unretried : manager.Unretried request) (heard : (manager.tasks task).unheard = false)
    (judged : (manager.made request).delegate.error.or error = none ↔
      (manager.tasks task).Passed (manager.made request).delegate.mutableData) :
    (manager.completeTask task error).Routed := by
  refine ⟨tracked.quieter (quieter_completeTask tracked entered), fun other below => ?_⟩
  obtain ⟨known, assigned⟩ := tracked.entered task request entered
  rw [completeTask_of_entered entered] at below ⊢
  by_cases same : other = request
  · subst same
    refine .finished task ?_ ?_ (Function.update_self ..) completed ?_ unretried heard
    · simp only [taskOf, made_modify_self]
      exact assigned
    · simp only [made_modify_self]
      rfl
    · simp only [made_modify_self]
      exact judged
  · have kept : (manager.modify request fun made =>
        { made with delegate := made.delegate.didCompleteWithError error }).made other = manager.made other :=
      made_modify_of_ne same
    refine (others other below same).frame (.of_made kept fun _ _ => Iff.rfl) fun elsewhere belongs => ⟨rfl, ?_⟩
    have different : elsewhere ≠ task := by
      intro shared
      subst shared
      exact same (tracked.owner other request elsewhere below known belongs assigned)
    exact Function.update_of_ne different ..

/-- So does the resumption of a request that has no task. -/
theorem routed_resume (tracked : manager.Tracked) (others : manager.PhasedBut request)
    (unassigned : manager.taskOf request = none) (failed : (manager.made request).delegate.error ≠ none)
    (empty : (manager.made request).delegate.mutableData = []) (unretried : manager.Unretried request) :
    (manager.modify request DataRequest.resume).Routed := by
  have resumed : DataRequest.resume (manager.made request) = { manager.made request with
      delegate := { (manager.made request).delegate with isSuspended := false } } := by
    rw [taskOf] at unassigned
    simp only [DataRequest.resume, unassigned]
  have self : (manager.modify request DataRequest.resume).made request = { manager.made request with
      delegate := { (manager.made request).delegate with isSuspended := false } } := by
    rw [made_modify_self, resumed]
  refine ⟨tracked.quieter ⟨rfl, rfl, fun other => ?_, fun other => ?_, fun _ => rfl, fun _ => rfl,
    fun _ _ => id, tracked.retried⟩, fun other below => ?_⟩
  · by_cases same : other = request
    · subst same
      rw [taskOf, self, taskOf]
    · rw [taskOf, made_modify_of_ne same, taskOf]
  · by_cases same : other = request
    · subst same
      rw [self]
    · rw [made_modify_of_ne same]
  · by_cases same : other = request
    · subst same
      refine .refused ?_ ?_ ?_ ?_ unretried
      · rw [taskOf, self]
        exact unassigned
      · rw [self]
      · rw [self]
        exact failed
      · rw [self]
        exact empty
    · exact (others other below same).frame (.of_made (made_modify_of_ne same) fun _ _ => Iff.rfl)
        fun _ _ => ⟨rfl, rfl⟩

end Completions

/-- An event that concerns no task and no retry leaves every request in its phase. -/
theorem Routed.same (routed : manager.Routed) (quieter : Quieter manager target)
    (same : ∀ request, SameRequest manager target request)
    (tasks : ∀ task, target.tasks task = manager.tasks task ∧ target.requests task = manager.requests task) :
    target.Routed where
  toTracked := routed.toTracked.quieter quieter
  phase request below :=
    (routed.phase request (quieter.nextRequest ▸ below)).frame (same request) fun task _ => tasks task

/-- Handlers, validations and the main queue are such events. -/
theorem Routed.of_made (routed : manager.Routed) (nextTask : target.nextTask = manager.nextTask)
    (nextRequest : target.nextRequest = manager.nextRequest) (tasks : target.tasks = manager.tasks)
    (requests : target.requests = manager.requests) (retries : target.retries = manager.retries)
    (same : ∀ request, SameRequest manager target request) : target.Routed := by
  refine routed.same ⟨nextTask, nextRequest, fun request => (same request).task, fun request => (same request).data,
    fun task => by rw [tasks], fun task => by rw [tasks], fun task request entered => by rwa [← requests],
    fun entry member => routed.retried entry (retries ▸ member)⟩ same fun task => ?_
  exact ⟨congrFun tasks task, congrFun requests task⟩

/-- What a change of one request has to keep for such an event. -/
theorem sameRequest_modify (manager : SessionManager) (request : ℕ) (change : DataRequest → DataRequest)
    (task : ∀ made, (change made).delegate.task = made.delegate.task)
    (suspended : ∀ made, (change made).delegate.isSuspended = made.delegate.isSuspended)
    (error : ∀ made, (change made).delegate.error = made.delegate.error)
    (data : ∀ made, (change made).delegate.mutableData = made.delegate.mutableData)
    (original : ∀ made, (change made).originalTask = made.originalTask) (other : ℕ) :
    SameRequest manager (manager.modify request change) other := by
  by_cases same : other = request
  · subst same
    refine ⟨?_, ?_, ?_, ?_, ?_, fun _ _ => Iff.rfl⟩
    · rw [taskOf, made_modify_self, task, taskOf]
    · rw [made_modify_self, suspended]
    · rw [made_modify_self, error]
    · rw [made_modify_self, data]
    · rw [made_modify_self, original]
  · exact .of_made (made_modify_of_ne same) fun _ _ => Iff.rfl

theorem Routed.addHandler (routed : manager.Routed) : (manager.addHandler request).Routed := by
  have same := sameRequest_modify manager request (fun made => made.addOperation manager.nextHandler) (fun _ => rfl)
    (fun _ => rfl) (fun _ => rfl) (fun _ => rfl) fun _ => rfl
  refine routed.of_made rfl rfl rfl rfl rfl fun other => ?_
  exact ⟨(same other).task, (same other).suspended, (same other).error, (same other).data, (same other).original,
    fun _ _ => Iff.rfl⟩

theorem Routed.validate (routed : manager.Routed) {validation : Validation} :
    (manager.modify request fun made => made.validate validation).Routed :=
  routed.of_made rfl rfl rfl rfl rfl
    (sameRequest_modify _ _ _ (fun _ => rfl) (fun _ => rfl) (fun _ => rfl) (fun _ => rfl) fun _ => rfl)

/-- The response of a task is no part of any phase while the task is live. -/
theorem Routed.didReceiveResponse (routed : manager.Routed) {statusCode : ℤ}
    (live : (manager.tasks task).completed = false) :
    (manager.modifyTask task fun known => { known with response := some statusCode }).Routed := by
  have known {α : Type} (elsewhere : ℕ) (read : SessionTask → α)
      (kept : ∀ known : SessionTask, read { known with response := some statusCode } = read known) :
      read ((manager.modifyTask task fun known => { known with response := some statusCode }).tasks elsewhere) =
        read (manager.tasks elsewhere) := by
    by_cases same : elsewhere = task
    · subst same
      rw [tasks_modifyTask_self, kept]
    · rw [tasks_modifyTask_of_ne same]
  refine ⟨routed.toTracked.quieter ⟨rfl, rfl, fun _ => rfl, fun _ => rfl,
    fun elsewhere => known elsewhere SessionTask.received fun _ => rfl,
    fun elsewhere => known elsewhere SessionTask.missed fun _ => rfl, fun _ _ => id, routed.retried⟩,
    fun request below => ?_⟩
  by_cases concerned : manager.taskOf request = some task
  · have still : ((manager.modifyTask task fun known =>
        { known with response := some statusCode }).tasks task).completed = false := by
      rw [tasks_modifyTask_self]
      exact live
    obtain ⟨suspended, clean, heard, waiting⟩ := (routed.phase request below).of_live concerned live
    have silent : ((manager.modifyTask task fun known =>
        { known with response := some statusCode }).tasks task).unheard = false := by
      rw [tasks_modifyTask_self]
      exact heard
    obtain ⟨entered, unretried⟩ | ⟨absent, empty, id, retrying⟩ := waiting
    · exact .running task concerned suspended clean entered still unretried silent
    · exact .starting task id concerned suspended clean empty absent retrying (silent.trans still.symm)
  · refine (routed.phase request below).frame (.of_made rfl fun _ _ => Iff.rfl) fun elsewhere assigned => ⟨?_, rfl⟩
    apply tasks_modifyTask_of_ne
    intro same
    exact concerned (same ▸ assigned)

/-- Data goes to the request of its task. -/
theorem routed_received (routed : manager.Routed) {data : List UInt8}
    (live : (manager.tasks task).completed = false) (entered : manager.requests task = some request) :
    ((manager.modifyTask task fun known => { known with received := known.received ++ data }).modify request
      fun made => { made with delegate := made.delegate.didReceiveData data }).Routed := by
  obtain ⟨known, assigned⟩ := routed.entered task request entered
  let received := manager.modifyTask task fun known => { known with received := known.received ++ data }
  let change (made : DataRequest) := { made with delegate := made.delegate.didReceiveData data }
  have kept (other : ℕ) : (received.modify request change).taskOf other = manager.taskOf other := by
    by_cases same : other = request
    · subst same
      rw [taskOf, made_modify_self]
      rfl
    · rw [taskOf, made_modify_of_ne same]
      rfl
  refine ⟨⟨fun other elsewhere below belongs => routed.bound other elsewhere below (kept other ▸ belongs),
    fun one other elsewhere below beyond belongs shared =>
      routed.owner one other elsewhere below beyond (kept one ▸ belongs) (kept other ▸ shared),
    fun elsewhere other found => ?_, routed.retried, fun other elsewhere below belongs => ?_⟩, fun other below => ?_⟩
  · rw [kept]
    exact routed.entered elsewhere other found
  · rw [kept] at belongs
    have delivered := routed.data other elsewhere below belongs
    change (received.tasks elsewhere).received = (received.tasks elsewhere).missed ++ _
    by_cases same : other = request
    · subst same
      obtain rfl := Option.some.inj (assigned.symm.trans belongs)
      simp only [made_modify_self, received, tasks_modifyTask_self, made_modifyTask,
        TaskDelegate.didReceiveData, delivered, List.append_assoc]
    · have different : elsewhere ≠ task := by
        intro shared
        exact same (routed.owner other request task below known (shared ▸ belongs) assigned)
      simp only [made_modify_of_ne same, received, tasks_modifyTask_of_ne different]
      exact delivered
  · by_cases same : other = request
    · subst same
      obtain ⟨suspended, clean, heard, ⟨_, unretried⟩ | ⟨absent, _⟩⟩ := (routed.phase other below).of_live assigned live
      · refine .running task ((kept other).trans assigned) ?_ ?_ entered ?_ unretried ?_
        · simp only [made_modify_self]
          exact suspended
        · simp only [made_modify_self]
          exact clean
        · change (received.tasks task).completed = false
          simp only [received, tasks_modifyTask_self]
          exact live
        · change (received.tasks task).unheard = false
          simp only [received, tasks_modifyTask_self]
          exact heard
      · rw [entered] at absent
        contradiction
    · refine (routed.phase other below).frame (.of_made (made_modify_of_ne same) fun _ _ => Iff.rfl)
        fun elsewhere belongs => ⟨?_, rfl⟩
      rw [tasks_modify]
      apply tasks_modifyTask_of_ne
      intro shared
      exact same (routed.owner other request task below known (shared ▸ belongs) assigned)

/-- It is missed by a request whose task is not entered yet. -/
theorem routed_missed (routed : manager.Routed) {data : List UInt8}
    (live : (manager.tasks task).completed = false) (absent : manager.requests task = none) :
    (manager.modifyTask task fun known =>
      { known with received := known.received ++ data, missed := known.missed ++ data }).Routed := by
  refine ⟨⟨routed.bound, routed.owner, routed.entered, routed.retried, fun other elsewhere below belongs => ?_⟩,
    fun other below => ?_⟩
  · have delivered := routed.data other elsewhere below belongs
    by_cases same : elsewhere = task
    · subst same
      obtain ⟨_, _, _, ⟨entered, _⟩ | ⟨_, empty, _⟩⟩ := (routed.phase other below).of_live belongs live
      · rw [entered] at absent
        contradiction
      · rw [empty, List.append_nil] at delivered
        change _ = _ ++ (manager.made other).delegate.mutableData
        rw [empty, List.append_nil, tasks_modifyTask_self, delivered]
    · rw [tasks_modifyTask_of_ne same]
      exact delivered
  · by_cases concerned : manager.taskOf other = some task
    · obtain ⟨suspended, clean, heard, ⟨entered, _⟩ | ⟨_, empty, id, retrying⟩⟩ :=
        (routed.phase other below).of_live concerned live
      · rw [entered] at absent
        contradiction
      · refine .starting task id concerned suspended clean empty absent retrying ?_
        rw [tasks_modifyTask_self]
        exact heard.trans live.symm
    · refine (routed.phase other below).frame (.of_made rfl fun _ _ => Iff.rfl) fun elsewhere assigned => ⟨?_, rfl⟩
      apply tasks_modifyTask_of_ne
      intro same
      exact concerned (same ▸ assigned)

theorem Routed.didReceiveData (routed : manager.Routed) {data : List UInt8}
    (live : (manager.tasks task).completed = false) : (manager.didReceiveData task data).Routed := by
  unfold SessionManager.didReceiveData
  split
  · next request entered => exact routed_received routed live entered
  · next absent => exact routed_missed routed live absent

section Validations

variable {response : Option ℤ}

/-- Validations change the error and nothing else. There is none afterwards if there was none before
and each validation accepts the response and the data. -/
private theorem foldl_validationExecution (made : DataRequest) (validations : List Validation) :
    ∃ error, validations.foldl (DataRequest.validationExecution response) made =
        { made with delegate := { made.delegate with error := error } } ∧
      (error = none ↔ made.delegate.error = none ∧ ∀ validation ∈ validations, ∀ statusCode,
        response = some statusCode → validation statusCode made.delegate.mutableData = none) := by
  induction validations generalizing made with
  | nil => exact ⟨made.delegate.error, rfl, by simp⟩
  | cons validation rest ih =>
    rw [List.foldl_cons]
    cases response with
    | none =>
      have skipped : DataRequest.validationExecution none made validation = made := rfl
      obtain ⟨error, result, clean⟩ := ih made
      rw [skipped]
      exact ⟨error, result, by simpa using clean⟩
    | some statusCode =>
      cases earlier : made.delegate.error with
      | some error =>
        have skipped : DataRequest.validationExecution (some statusCode) made validation = made := by
          simp only [DataRequest.validationExecution, earlier]
        obtain ⟨error, result, clean⟩ := ih made
        rw [skipped]
        refine ⟨error, result, ?_⟩
        rw [clean, earlier]
        simp
      | none =>
        obtain ⟨error, result, clean⟩ := ih { made with delegate :=
          { made.delegate with error := validation statusCode made.delegate.mutableData } }
        have ran : DataRequest.validationExecution (some statusCode) made validation = { made with delegate :=
            { made.delegate with error := validation statusCode made.delegate.mutableData } } := by
          simp only [DataRequest.validationExecution, earlier]
        rw [ran]
        refine ⟨error, result, ?_⟩
        rw [clean]
        simp

theorem runValidations_eq (made : DataRequest) (response : Option ℤ) : ∃ error, made.runValidations response =
      { made with delegate := { made.delegate with error := error } } ∧
    (error = none ↔ made.delegate.error = none ∧ ∀ validation ∈ made.validations, ∀ statusCode,
      response = some statusCode → validation statusCode made.delegate.mutableData = none) :=
  foldl_validationExecution made made.validations

end Validations

/-- What is known then of the request and of the others. -/
structure Validated (manager target : SessionManager) (request task : ℕ) (error : Option NSError) : Prop where
  quieter : Quieter manager target
  others : target.PhasedBut request
  assigned : target.taskOf request = some task
  suspended : (target.made request).delegate.isSuspended = true
  completed : (target.tasks task).completed = true
  unheard : (target.tasks task).unheard = (manager.tasks task).unheard
  judged : (target.made request).delegate.error.or error = none ↔
    (target.tasks task).Passed (target.made request).delegate.mutableData

theorem validated_spec (routed : manager.Routed) (error : Option NSError)
    (live : (manager.tasks task).completed = false) (entered : manager.requests task = some request) :
    Validated manager (manager.validated request task error) request task error := by
  obtain ⟨known, assigned⟩ := routed.entered task request entered
  obtain ⟨suspended, clean, _⟩ := (routed.phase request known).of_live assigned live
  obtain ⟨verdict, ran, judged⟩ := runValidations_eq (manager.made request)
    (manager.response? request)
  have self : (manager.validated request task error).made request = { manager.made request with
      delegate := { (manager.made request).delegate with error := verdict } } := by
    rw [validated, made_modifyTask, made_modify_self, ran]
  have of_ne {other : ℕ} (different : other ≠ request) :
      (manager.validated request task error).made other = manager.made other := by
    rw [validated, made_modifyTask, made_modify_of_ne different]
  have task_self : (manager.validated request task error).tasks task = { manager.tasks task with
      completed := true, failure := error, checked := (manager.made request).validations } := by
    rw [validated, tasks_modifyTask_self, tasks_modify]
  have task_of_ne {elsewhere : ℕ} (different : elsewhere ≠ task) :
      (manager.validated request task error).tasks elsewhere = manager.tasks elsewhere := by
    rw [validated, tasks_modifyTask_of_ne different, tasks_modify]
  have response : manager.response? request = (manager.tasks task).response := by
    rw [response?, assigned, Option.bind_some]
  refine ⟨⟨rfl, rfl, fun other => ?_, fun other => ?_, fun elsewhere => ?_, fun elsewhere => ?_, fun _ _ => id,
    routed.retried⟩, fun other below different => ?_, ?_, ?_, ?_, ?_, ?_⟩
  · by_cases same : other = request
    · subst same
      rw [taskOf, self, taskOf]
    · rw [taskOf, of_ne same, taskOf]
  · by_cases same : other = request
    · subst same
      rw [self]
    · rw [of_ne same]
  · by_cases same : elsewhere = task
    · subst same
      rw [task_self]
    · rw [task_of_ne same]
  · by_cases same : elsewhere = task
    · subst same
      rw [task_self]
    · rw [task_of_ne same]
  · refine (routed.phase other below).frame (.of_made (of_ne different) fun _ _ => Iff.rfl)
      fun elsewhere belongs => ⟨task_of_ne fun shared => ?_, rfl⟩
    exact different (routed.owner other request task below known (shared ▸ belongs) assigned)
  · rw [taskOf, self]
    exact assigned
  · rw [self]
    exact suspended
  · rw [task_self]
  · rw [task_self]
  · rw [self, task_self, Option.or_eq_none_iff]
    simp only [SessionTask.Passed, judged, clean, response, true_and]
    exact and_comm

theorem didComplete_of_asked {error : Option NSError} {cause : NSError} (entered : manager.requests task = some request)
    (failed : ((manager.validated request task error).made request).delegate.error.or error = some cause) :
    manager.didComplete true task error =
      { manager.validated request task error with
        retries := manager.retries.issue (.asked request (some task) cause) } := by
  simp only [didComplete, entered, failed, if_true]
  rfl

theorem didComplete_of_told {error : Option NSError} (entered : manager.requests task = some request)
    (unasked : retrier = false ∨ ((manager.validated request task error).made request).delegate.error.or error = none) :
    manager.didComplete retrier task error = (manager.validated request task error).completeTask task
      (((manager.validated request task error).made request).delegate.error.or error) := by
  simp only [didComplete, entered]
  split
  · next clean => rw [clean]
  · next cause failed =>
    rw [failed] at unasked ⊢
    rw [if_neg (by simpa using unasked)]

theorem didComplete_of_absent {error : Option NSError} (absent : manager.requests task = none) :
    manager.didComplete retrier task error =
      manager.modifyTask task fun known => { known with completed := true, unheard := true, failure := error } := by
  simp only [didComplete, absent]
  exact completeTask_of_absent absent

/-- The retrier is asked about a request that failed. -/
theorem routed_asked (routed : manager.Routed) {error : Option NSError} (cause : NSError)
    (live : (manager.tasks task).completed = false) (entered : manager.requests task = some request)
    (failed : ((manager.validated request task error).made request).delegate.error.or error = some cause) :
    { manager.validated request task error with
      retries := manager.retries.issue (.asked request (some task) cause) : SessionManager }.Routed := by
  have spec := validated_spec routed error live entered
  obtain ⟨known, assigned⟩ := routed.entered task request entered
  have tracked := routed.toTracked.quieter spec.quieter
  obtain ⟨_, _, heard, ⟨_, unretried⟩ | ⟨absent, _⟩⟩ := (routed.phase request known).of_live assigned live
  · refine ⟨⟨tracked.bound, tracked.owner, tracked.entered, fun entry member => ?_, tracked.data⟩, fun other below => ?_⟩
    · rcases Ledger.mem_issue.mp member with old | ⟨_, same⟩
      · exact tracked.retried entry old
      · rw [same]
        exact known
    · by_cases same : other = request
      · subst same
        refine .failing task manager.retries.next (.asked other (some task) cause) spec.assigned spec.suspended entered
          spec.completed ?_ rfl rfl ⟨Ledger.mem_issue.mpr (.inr ⟨rfl, rfl⟩), fun entry member shared => ?_⟩
          (spec.unheard.trans heard)
        · intro passed
          have clean := spec.judged.mpr passed
          rw [clean] at failed
          contradiction
        · rcases Ledger.mem_issue.mp member with old | ⟨new, _⟩
          · exact absurd shared (unretried entry old)
          · exact new
      · refine (spec.others other below same).frame (.of_made rfl fun entry named => ?_) fun _ _ => ⟨rfl, rfl⟩
        refine ⟨fun member => ?_, fun old => Ledger.mem_issue.mpr (.inl old)⟩
        rcases Ledger.mem_issue.mp member with old | ⟨_, new⟩
        · exact old
        · rw [new] at named
          exact absurd named.symm same
  · rw [entered] at absent
    contradiction

/-- A completion is told to its request, or the retrier is asked, or nobody waits for it. -/
theorem Routed.didComplete (routed : manager.Routed) {error : Option NSError}
    (live : (manager.tasks task).completed = false) : (manager.didComplete retrier task error).Routed := by
  cases dictionary : manager.requests task with
  | none =>
    rw [didComplete_of_absent dictionary]
    have history {α : Type} (read : SessionTask → α) (elsewhere : ℕ)
        (kept : ∀ known : SessionTask,
          read { known with completed := true, unheard := true, failure := error } = read known) :
        read ((manager.modifyTask task fun known =>
          { known with completed := true, unheard := true, failure := error }).tasks elsewhere) = read (manager.tasks elsewhere) := by
      by_cases same : elsewhere = task
      · subst same
        rw [tasks_modifyTask_self, kept]
      · rw [tasks_modifyTask_of_ne same]
    refine ⟨routed.toTracked.quieter ⟨rfl, rfl, fun _ => rfl, fun _ => rfl,
      fun elsewhere => history SessionTask.received elsewhere fun _ => rfl,
      fun elsewhere => history SessionTask.missed elsewhere fun _ => rfl, fun _ _ => id, routed.retried⟩,
      fun other below => ?_⟩
    by_cases concerned : manager.taskOf other = some task
    · obtain ⟨suspended, clean, _, ⟨entered, _⟩ | ⟨absent, empty, id, retrying⟩⟩ :=
        (routed.phase other below).of_live concerned live
      · rw [entered] at dictionary
        contradiction
      · refine .starting task id concerned suspended clean empty absent retrying ?_
        rw [tasks_modifyTask_self]
    · refine (routed.phase other below).frame (.of_made rfl fun _ _ => Iff.rfl) fun elsewhere assigned => ⟨?_, rfl⟩
      apply tasks_modifyTask_of_ne
      intro same
      exact concerned (same ▸ assigned)
  | some request =>
    have spec := validated_spec routed error live dictionary
    obtain ⟨known, assigned⟩ := routed.entered task request dictionary
    have finish (told : Option NSError)
        (same : told = ((manager.validated request task error).made request).delegate.error.or error) :
        ((manager.validated request task error).completeTask task told).Routed := by
      obtain ⟨_, _, heard, ⟨_, unretried⟩ | ⟨absent, _⟩⟩ := (routed.phase request known).of_live assigned live
      · apply routed_completeTask (routed.toTracked.quieter spec.quieter) spec.others dictionary spec.completed unretried
          (spec.unheard.trans heard)
        rw [← spec.judged, same]
        simp only [Option.or_eq_none_iff, and_self_left]
      · rw [dictionary] at absent
        contradiction
    cases failed : ((manager.validated request task error).made request).delegate.error.or error with
    | none =>
      rw [didComplete_of_told dictionary (.inr failed)]
      exact finish _ rfl
    | some cause =>
      cases retrier with
      | false =>
        rw [didComplete_of_told dictionary (.inl rfl)]
        exact finish _ rfl
      | true =>
        rw [didComplete_of_asked dictionary failed]
        exact routed_asked routed cause live dictionary failed

section Retries

/-- What a retry under way tells of its request. -/
theorem Routed.retried_cases (routed : manager.Routed) (member : (id, retry) ∈ manager.retries.entries) :
    manager.Retrying id retry ∧ (manager.made retry.request).delegate.isSuspended = true ∧
      ((∃ task, retry.captured? = some (some task) ∧ manager.requests task = some retry.request ∧
          (manager.tasks task).completed = true ∧ (manager.tasks task).unheard = false ∧
          ¬ (manager.tasks task).Passed (manager.made retry.request).delegate.mutableData) ∨
        (retry.captured? = some none ∧ manager.taskOf retry.request = none ∧
          (manager.made retry.request).delegate.error ≠ none ∧
          (manager.made retry.request).delegate.mutableData = [] ∧
          (manager.made retry.request).originalTask = true) ∨
        (retry.captured? = none ∧ (manager.made retry.request).delegate.error = none ∧
          ∃ task, manager.taskOf retry.request = some task ∧ manager.requests task = none ∧
            (manager.tasks task).unheard = (manager.tasks task).completed)) := by
  have only {number : ℕ} {found : Retry} (named : found.request = retry.request)
      (retrying : manager.Retrying number found) : number = id ∧ found = retry := by
    obtain rfl := retrying.2 _ member named.symm
    exact ⟨rfl, Ledger.eq_of_mem retrying.1 member⟩
  cases routed.phase retry.request (routed.retried _ member) with
  | failing task number found assigned suspended entered completed failed named captured retrying heard =>
    obtain ⟨rfl, rfl⟩ := only named retrying
    exact ⟨retrying, suspended, .inl ⟨task, captured, entered, completed, heard, failed⟩⟩
  | adapting number found unassigned suspended failed empty retriable named captured retrying =>
    obtain ⟨rfl, rfl⟩ := only named retrying
    exact ⟨retrying, suspended, .inr (.inl ⟨captured, unassigned, failed, empty, retriable⟩)⟩
  | starting task number assigned suspended clean empty absent retrying listening =>
    obtain ⟨rfl, same⟩ := @only number (.registering retry.request) rfl retrying
    rw [same] at retrying
    exact ⟨retrying, suspended, .inr (.inr ⟨by rw [← same]; rfl, clean, task, assigned, absent, listening⟩)⟩
  | running task assigned suspended clean entered live unretried => exact absurd rfl (unretried _ member)
  | finished task assigned resumed absent completed judged unretried => exact absurd rfl (unretried _ member)
  | refused unassigned resumed failed empty unretried => exact absurd rfl (unretried _ member)
  | hung task assigned suspended completed unretried => exact absurd rfl (unretried _ member)

/-- An undecided retry with a task is that of a request that has failed. -/
theorem Routed.of_failing (routed : manager.Routed) (member : (id, retry) ∈ manager.retries.entries)
    (captured : retry.captured? = some (some task)) :
    manager.requests task = some retry.request ∧ (manager.tasks task).completed = true ∧
      (manager.tasks task).unheard = false ∧
      ¬ (manager.tasks task).Passed (manager.made retry.request).delegate.mutableData := by
  obtain ⟨_, _, ⟨other, same, facts⟩ | ⟨same, _⟩ | ⟨same, _⟩⟩ := routed.retried_cases member
  · rw [captured] at same
    obtain rfl := Option.some.inj (Option.some.inj same)
    exact facts
  · simp [captured] at same
  · simp [captured] at same

/-- Without a task it is that of a request the adapter has refused. -/
theorem Routed.of_adapting (routed : manager.Routed) (member : (id, retry) ∈ manager.retries.entries)
    (captured : retry.captured? = some none) :
    manager.taskOf retry.request = none ∧ (manager.made retry.request).delegate.error ≠ none ∧
      (manager.made retry.request).delegate.mutableData = [] ∧ (manager.made retry.request).originalTask = true := by
  obtain ⟨_, _, ⟨other, same, _⟩ | ⟨_, facts⟩ | ⟨same, _⟩⟩ := routed.retried_cases member
  · simp [captured] at same
  · exact facts
  · simp [captured] at same

/-- A decided one is that of a request whose new task is to be entered. -/
theorem Routed.of_starting (routed : manager.Routed) (member : (id, .registering request) ∈ manager.retries.entries) :
    (manager.made request).delegate.error = none ∧
      ∃ task, manager.taskOf request = some task ∧ manager.requests task = none ∧
        (manager.tasks task).unheard = (manager.tasks task).completed := by
  obtain ⟨_, _, ⟨other, same, _⟩ | ⟨same, _⟩ | ⟨_, facts⟩⟩ := routed.retried_cases member
  · contradiction
  · contradiction
  · exact facts

/-- A retry that is over leaves its request without one. -/
theorem unretried_close (retrying : manager.Retrying id retry) :
    { manager with retries := manager.retries.close id }.Unretried retry.request := by
  intro entry member named
  obtain ⟨old, different⟩ := Ledger.mem_close.mp member
  exact different (retrying.2 entry old named)

/-- Other requests do not notice. -/
theorem sameRequest_close (member : (id, retry) ∈ manager.retries.entries) (different : other ≠ retry.request) :
    SameRequest manager { manager with retries := manager.retries.close id } other := by
  refine .of_made rfl fun entry named => ⟨fun kept => (Ledger.mem_close.mp kept).1, fun old => ?_⟩
  refine Ledger.mem_close.mpr ⟨old, fun same => ?_⟩
  subst same
  rw [Ledger.eq_of_mem old member] at named
  exact different named.symm

theorem phasedBut_close (routed : manager.Routed) (member : (id, retry) ∈ manager.retries.entries) :
    { manager with retries := manager.retries.close id }.PhasedBut retry.request := fun other below different =>
  (routed.phase other below).frame (sameRequest_close member different) fun _ _ => ⟨rfl, rfl⟩

theorem tracked_close (routed : manager.Routed) (id : ℕ) :
    { manager with retries := manager.retries.close id }.Tracked :=
  routed.toTracked.quieter ⟨rfl, rfl, fun _ => rfl, fun _ => rfl, fun _ => rfl, fun _ => rfl,
    fun _ _ entered => entered, fun entry member => routed.retried entry (Ledger.mem_close.mp member).1⟩

/-- A retry that goes on stays the one of its request, and other requests do not notice. -/
theorem retrying_revise (next : Retry) (retrying : manager.Retrying id retry) (named : next.request = retry.request) :
    { manager with retries := manager.retries.revise id next }.Retrying id next := by
  refine ⟨(Ledger.mem_revise retrying.1).mpr (.inl ⟨rfl, rfl⟩), fun entry kept shared => ?_⟩
  rcases (Ledger.mem_revise retrying.1).mp kept with ⟨same, _⟩ | ⟨_, old⟩
  · exact same
  · exact retrying.2 entry old (shared.trans named)

theorem mem_revise_of_ne {next : Retry} (member : (id, retry) ∈ manager.retries.entries)
    (named : next.request = retry.request) (different : other ≠ retry.request) (entry : ℕ × Retry)
    (concerned : entry.2.request = other) :
    entry ∈ (manager.retries.revise id next).entries ↔ entry ∈ manager.retries.entries := by
  refine ⟨fun kept => ?_, fun old => (Ledger.mem_revise member).mpr (.inr ⟨fun same => ?_, old⟩)⟩
  · rcases (Ledger.mem_revise member).mp kept with ⟨_, same⟩ | ⟨_, old⟩
    · rw [same, named] at concerned
      exact absurd concerned.symm different
    · exact old
  · subst same
    rw [Ledger.eq_of_mem old member] at concerned
    exact different concerned.symm

theorem retried_revise {next : Retry} (routed : manager.Routed) (member : (id, retry) ∈ manager.retries.entries)
    (named : next.request = retry.request) :
    ∀ entry ∈ (manager.retries.revise id next).entries, entry.2.request < manager.nextRequest := by
  intro entry kept
  rcases (Ledger.mem_revise member).mp kept with ⟨_, same⟩ | ⟨_, old⟩
  · rw [same, named]
    exact routed.retried _ member
  · exact routed.retried entry old

/-- The retrier has answered that the request be tried again. -/
theorem Routed.delayed {cause : NSError} {assigned : Option ℕ} (routed : manager.Routed)
    (member : (id, .asked request assigned cause) ∈ manager.retries.entries) :
    { manager with retries := manager.retries.revise id (.delayed request assigned cause) }.Routed := by
  obtain ⟨retrying, suspended, facts⟩ := routed.retried_cases member
  have revised := retrying_revise (.delayed request assigned cause) retrying rfl
  refine ⟨routed.toTracked.quieter ⟨rfl, rfl, fun _ => rfl, fun _ => rfl, fun _ => rfl, fun _ => rfl,
    fun _ _ entered => entered, retried_revise routed member rfl⟩, fun other below => ?_⟩
  by_cases same : other = request
  · subst same
    rcases facts with ⟨task, captured, entered, completed, heard, failed⟩ |
      ⟨captured, unassigned, failed, empty, retriable⟩ | ⟨captured, _⟩
    · exact .failing task id (.delayed other assigned cause) (routed.entered task other entered).2 suspended entered
        completed failed rfl captured revised heard
    · exact .adapting id (.delayed other assigned cause) unassigned suspended failed empty retriable rfl captured revised
    · contradiction
  · exact (routed.phase other below).frame (.of_made rfl (mem_revise_of_ne member rfl same)) fun _ _ => ⟨rfl, rfl⟩

/-- A failed request that is not tried again is finished. -/
theorem routed_giveUp {cause : NSError} {assigned : Option ℕ} (routed : manager.Routed)
    (member : (id, retry) ∈ manager.retries.entries) (captured : retry.captured? = some assigned) :
    ({ manager with retries := manager.retries.close id }.giveUp retry.request assigned cause).Routed := by
  obtain ⟨retrying, _⟩ := routed.retried_cases member
  cases assigned with
  | some task =>
    obtain ⟨entered, completed, heard, failed⟩ := routed.of_failing member captured
    apply routed_completeTask (tracked_close routed id) (phasedBut_close routed member) entered completed
      (unretried_close retrying) heard
    simp [failed]
  | none =>
    obtain ⟨unassigned, failed, empty, _⟩ := routed.of_adapting member captured
    exact routed_resume (tracked_close routed id) (phasedBut_close routed member) unassigned failed empty
      (unretried_close retrying)

/-- A request whose new task could not be made is finished with the error of that attempt. -/
theorem routed_unretried {cause error : NSError} {assigned : Option ℕ} (routed : manager.Routed)
    (member : (id, retry) ∈ manager.retries.entries) (captured : retry.captured? = some assigned) :
    ({ manager.failedAgain retry.request error with
      retries := manager.retries.close id }.giveUp retry.request assigned cause).Routed := by
  obtain ⟨retrying, _⟩ := routed.retried_cases member
  let changed := manager.failedAgain retry.request error
  have quieter : Quieter manager { changed with retries := manager.retries.close id } := by
    refine ⟨rfl, rfl, fun other => ?_, fun other => ?_, fun _ => rfl, fun _ => rfl, fun _ _ entered => entered,
      fun entry kept => routed.retried entry (Ledger.mem_close.mp kept).1⟩
    · by_cases same : other = retry.request
      · subst same
        simp only [taskOf, changed, failedAgain, made_modify_self]
      · simp only [taskOf, changed, failedAgain, made_modify_of_ne same]
    · by_cases same : other = retry.request
      · subst same
        simp only [changed, failedAgain, made_modify_self]
      · simp only [changed, failedAgain, made_modify_of_ne same]
  have others : { changed with retries := manager.retries.close id }.PhasedBut retry.request := by
    intro other below different
    refine (phasedBut_close routed member other below different).frame (.of_made ?_ fun _ _ => Iff.rfl)
      fun _ _ => ⟨rfl, rfl⟩
    change changed.made other = manager.made other
    simp only [changed, failedAgain, made_modify_of_ne different]
  have failing : (changed.made retry.request).delegate.error = some error := by
    simp only [changed, failedAgain, made_modify_self]
  have data : (changed.made retry.request).delegate.mutableData =
      (manager.made retry.request).delegate.mutableData := by
    simp only [changed, failedAgain, made_modify_self]
  cases assigned with
  | some task =>
    obtain ⟨entered, completed, heard, failed⟩ := routed.of_failing member captured
    apply routed_completeTask (routed.toTracked.quieter quieter) others entered completed (unretried_close retrying) heard
    change (changed.made retry.request).delegate.error.or (some cause) = none ↔ _
    rw [failing]
    refine ⟨by simp, fun passed => absurd ?_ failed⟩
    rwa [← data]
  | none =>
    obtain ⟨unassigned, _, empty, _⟩ := routed.of_adapting member captured
    refine routed_resume (routed.toTracked.quieter quieter) others ((quieter.task _).trans unassigned) ?_
      (data.trans empty) (unretried_close retrying)
    change (changed.made retry.request).delegate.error ≠ none
    rw [failing]
    exact Option.some_ne_none _

end Retries

section Tasks

/-- A task that URLSession has not made yet is not in the dictionary. -/
theorem Tracked.fresh (tracked : manager.Tracked) : manager.requests manager.nextTask = none := by
  cases dictionary : manager.requests manager.nextTask with
  | none => rfl
  | some owner =>
    obtain ⟨known, assigned⟩ := tracked.entered _ owner dictionary
    have below := tracked.bound owner _ known assigned
    omega

theorem tasks_makeTask_of_lt (made : task < manager.nextTask) : manager.makeTask.tasks task = manager.tasks task :=
  Function.update_of_ne (by omega) ..

/-- A request made with a task runs. -/
theorem Routed.requested (routed : manager.Routed) : (manager.request retrier (.ok ())).Routed := by
  let made := manager.request retrier (.ok ())
  have task_self : made.taskOf manager.nextRequest = some manager.nextTask := by
    simp only [made, taskOf, SessionManager.request, Function.update_self]
    rfl
  have self : made.made manager.nextRequest = .new true (some manager.nextTask) none := Function.update_self ..
  have of_ne {other : ℕ} (different : other ≠ manager.nextRequest) : made.made other = manager.made other :=
    Function.update_of_ne different ..
  have task_of_ne {other : ℕ} (different : other ≠ manager.nextRequest) : made.taskOf other = manager.taskOf other := by
    rw [taskOf, of_ne different, taskOf]
  have tasks_new : made.tasks manager.nextTask = ⟨none, false, [], [], false, none, []⟩ := Function.update_self ..
  refine ⟨⟨fun other task below assigned => ?_, fun one other task below beyond assigned shared => ?_,
    fun task other entered => ?_, fun entry member => ?_, fun other task below assigned => ?_⟩, fun other below => ?_⟩
  · change other < manager.nextRequest + 1 at below
    change task < manager.nextTask + 1
    by_cases new : other = manager.nextRequest
    · rw [new, task_self] at assigned
      have same := Option.some.inj assigned
      omega
    · rw [task_of_ne new] at assigned
      have known := routed.bound other task (by omega) assigned
      omega
  · change one < manager.nextRequest + 1 at below
    change other < manager.nextRequest + 1 at beyond
    by_cases first : one = manager.nextRequest
    · by_cases second : other = manager.nextRequest
      · rw [first, second]
      · rw [first, task_self] at assigned
        rw [task_of_ne second] at shared
        have known := routed.bound other task (by omega) shared
        have same := Option.some.inj assigned
        omega
    · rw [task_of_ne first] at assigned
      by_cases second : other = manager.nextRequest
      · rw [second, task_self] at shared
        have known := routed.bound one task (by omega) assigned
        have same := Option.some.inj shared
        omega
      · rw [task_of_ne second] at shared
        exact routed.owner one other task (by omega) (by omega) assigned shared
  · change Function.update manager.requests manager.nextTask (some manager.nextRequest) task = some other at entered
    change other < manager.nextRequest + 1 ∧ _
    by_cases new : task = manager.nextTask
    · subst new
      rw [Function.update_self] at entered
      obtain rfl := Option.some.inj entered
      exact ⟨Nat.lt_succ_self _, task_self⟩
    · rw [Function.update_of_ne new] at entered
      obtain ⟨known, assigned⟩ := routed.entered task other entered
      exact ⟨by omega, (task_of_ne (by omega)).trans assigned⟩
  · have known := routed.retried entry member
    change entry.2.request < manager.nextRequest + 1
    omega
  · change other < manager.nextRequest + 1 at below
    by_cases new : other = manager.nextRequest
    · subst new
      obtain rfl := Option.some.inj (task_self.symm.trans assigned)
      change (made.tasks _).received = (made.tasks _).missed ++ (made.made _).delegate.mutableData
      rw [tasks_new, self]
      rfl
    · have belongs := (task_of_ne new).symm.trans assigned
      have known := routed.bound other task (by omega) belongs
      have delivered := routed.data other task (by omega) belongs
      change (manager.makeTask.tasks task).received = (manager.makeTask.tasks task).missed ++ (made.made other).delegate.mutableData
      rwa [tasks_makeTask_of_lt known, of_ne new]
  · change other < manager.nextRequest + 1 at below
    by_cases new : other = manager.nextRequest
    · subst new
      refine .running manager.nextTask task_self ?_ ?_ (Function.update_self ..) ?_ (fun entry member named => ?_)
        (congrArg SessionTask.unheard tasks_new)
      · exact congrArg (fun made => made.delegate.isSuspended) self
      · exact congrArg (fun made => made.delegate.error) self
      · exact congrArg SessionTask.completed tasks_new
      · have known := routed.retried entry member
        omega
    · refine (routed.phase other (by omega)).frame (.of_made (of_ne new) fun _ _ => Iff.rfl) fun task assigned => ?_
      have known := routed.bound other task (by omega) assigned
      exact ⟨tasks_makeTask_of_lt known, Function.update_of_ne (by omega) ..⟩

/-- A request that no task could be made for is finished at once, unless the retrier is to be asked. -/
theorem Routed.requestFailed (routed : manager.Routed) (failure : RequestFailure) :
    (manager.requestFailedWith retrier failure).Routed := by
  let made := { manager with
    made := Function.update manager.made manager.nextRequest (.new failure.hasURLRequest none (some failure.error))
    nextRequest := manager.nextRequest + 1 }
  have self : made.made manager.nextRequest = .new failure.hasURLRequest none (some failure.error) :=
    Function.update_self ..
  have unassigned : made.taskOf manager.nextRequest = none := by
    rw [taskOf, self]
    rfl
  have of_ne {other : ℕ} (different : other ≠ manager.nextRequest) : made.made other = manager.made other :=
    Function.update_of_ne different ..
  have known {other task : ℕ} (below : other < manager.nextRequest + 1) (assigned : made.taskOf other = some task) :
      other < manager.nextRequest ∧ manager.taskOf other = some task := by
    by_cases new : other = manager.nextRequest
    · rw [new, unassigned] at assigned
      contradiction
    · rw [taskOf, of_ne new] at assigned
      exact ⟨by omega, assigned⟩
  have tracked : made.Tracked := by
    refine ⟨fun other task below assigned => ?_, fun one other task below beyond assigned shared => ?_,
      fun task other entered => ?_, fun entry member => ?_, fun other task below assigned => ?_⟩
    · exact routed.bound other task (known below assigned).1 (known below assigned).2
    · exact routed.owner one other task (known below assigned).1 (known beyond shared).1 (known below assigned).2
        (known beyond shared).2
    · obtain ⟨old, assigned⟩ := routed.entered task other entered
      refine ⟨Nat.lt_succ_of_lt old, ?_⟩
      rw [taskOf, of_ne (Nat.ne_of_lt old)]
      exact assigned
    · exact Nat.lt_succ_of_lt (routed.retried entry member)
    · rw [of_ne (Nat.ne_of_lt (known below assigned).1)]
      exact routed.data other task (known below assigned).1 (known below assigned).2
  have fresh (entry : ℕ × Retry) (member : entry ∈ manager.retries.entries) : entry.2.request ≠ manager.nextRequest :=
    Nat.ne_of_lt (routed.retried entry member)
  have others : made.PhasedBut manager.nextRequest := fun other below different =>
    (routed.phase other (by change other < manager.nextRequest + 1 at below; omega)).frame
      (.of_made (of_ne different) fun _ _ => Iff.rfl) fun _ _ => ⟨rfl, rfl⟩
  have failed : (made.made manager.nextRequest).delegate.error ≠ none := by
    rw [self]
    exact Option.some_ne_none _
  have empty : (made.made manager.nextRequest).delegate.mutableData = [] := by
    rw [self]
    rfl
  by_cases asked : (retrier && failure.isAdaptError) = true
  · have result : manager.requestFailedWith retrier failure =
        { made with retries := manager.retries.issue (.asked manager.nextRequest none failure.error) } := if_pos asked
    rw [result]
    refine ⟨⟨tracked.bound, tracked.owner, tracked.entered, fun entry member => ?_, tracked.data⟩, fun other below => ?_⟩
    · rcases Ledger.mem_issue.mp member with old | ⟨_, same⟩
      · exact tracked.retried entry old
      · rw [same]
        exact Nat.lt_succ_self _
    · by_cases new : other = manager.nextRequest
      · subst new
        refine .adapting manager.retries.next (.asked manager.nextRequest none failure.error) unassigned ?_ failed empty ?_
          rfl rfl ⟨Ledger.mem_issue.mpr (.inr ⟨rfl, rfl⟩), fun entry member shared => ?_⟩
        · exact congrArg (fun made => made.delegate.isSuspended) self
        · refine (congrArg DataRequest.originalTask self).trans ?_
          cases failure with
          | notConverted error => simp [RequestFailure.isAdaptError] at asked
          | notEncoded error => rfl
          | notAdapted error => rfl
        · rcases Ledger.mem_issue.mp member with old | ⟨new, _⟩
          · exact absurd shared (fresh entry old)
          · exact new
      · refine (others other below new).frame (.of_made rfl fun entry named => ?_) fun _ _ => ⟨rfl, rfl⟩
        refine ⟨fun member => ?_, fun old => Ledger.mem_issue.mpr (.inl old)⟩
        rcases Ledger.mem_issue.mp member with old | ⟨_, same⟩
        · exact old
        · rw [same] at named
          exact absurd named.symm new
  · have result : manager.requestFailedWith retrier failure =
        made.modify manager.nextRequest DataRequest.resume := if_neg asked
    rw [result]
    exact routed_resume tracked others unassigned failed empty fresh

theorem retry_ok (original : (manager.made request).originalTask = true) :
    manager.retry request (.ok ()) = (manager.restarted request, true) := if_pos original

/-- Only the entry of the request's own task is gone. -/
theorem requests_restarted_of_ne (different : manager.taskOf request ≠ some task) :
    (manager.restarted request).requests task = manager.requests task := by
  cases assigned : manager.taskOf request with
  | none => simp only [restarted, assigned]
  | some old =>
    simp only [restarted, assigned]
    apply Function.update_of_ne
    intro same
    exact different (same ▸ assigned)

theorem requests_restarted (tracked : manager.Tracked) {owner : ℕ}
    (entered : (manager.restarted request).requests task = some owner) :
    manager.requests task = some owner ∧ owner ≠ request := by
  by_cases own : manager.taskOf request = some task
  · have gone : (manager.restarted request).requests task = none := by
      simp only [restarted, own, Function.update_self]
    rw [gone] at entered
    contradiction
  · rw [requests_restarted_of_ne own] at entered
    refine ⟨entered, fun same => own ?_⟩
    rw [← same]
    exact (tracked.entered task owner entered).2

/-- A retried request waits for its new task to be entered. -/
theorem Routed.restarted (routed : manager.Routed) (member : (id, retry) ∈ manager.retries.entries) :
    { manager.restarted retry.request with
      retries := manager.retries.revise id (.registering retry.request) }.Routed := by
  obtain ⟨retrying, suspended, _⟩ := routed.retried_cases member
  have request_known := routed.retried _ member
  let made := manager.restarted retry.request
  have self : made.made retry.request = { manager.made retry.request with
      delegate := (manager.made retry.request).delegate.setTask manager.nextTask
      retryCount := (manager.made retry.request).retryCount + 1 } := Function.update_self ..
  have task_self : made.taskOf retry.request = some manager.nextTask := by
    rw [taskOf, self]
    rfl
  have of_ne {other : ℕ} (different : other ≠ retry.request) : made.made other = manager.made other :=
    Function.update_of_ne different ..
  have task_of_ne {other : ℕ} (different : other ≠ retry.request) : made.taskOf other = manager.taskOf other := by
    rw [taskOf, of_ne different, taskOf]
  have tasks_new : made.tasks manager.nextTask = ⟨none, false, [], [], false, none, []⟩ := Function.update_self ..
  have fresh {other : ℕ} (below : other < manager.nextRequest) (different : other ≠ retry.request) :
      made.taskOf other ≠ some manager.nextTask := by
    rw [task_of_ne different]
    intro assigned
    have known := routed.bound other _ below assigned
    omega
  refine ⟨⟨fun other task below assigned => ?_, fun one other task below beyond assigned shared => ?_,
    fun task other entered => ?_, retried_revise routed member rfl, fun other task below assigned => ?_⟩,
    fun other below => ?_⟩
  · change task < manager.nextTask + 1
    by_cases same : other = retry.request
    · subst same
      have new := Option.some.inj (task_self.symm.trans assigned)
      omega
    · have known := routed.bound other task below ((task_of_ne same).symm.trans assigned)
      omega
  · by_cases first : one = retry.request
    · by_cases second : other = retry.request
      · rw [first, second]
      · rw [first] at assigned
        obtain rfl := Option.some.inj (task_self.symm.trans assigned)
        exact absurd shared (fresh beyond second)
    · by_cases second : other = retry.request
      · rw [second] at shared
        obtain rfl := Option.some.inj (task_self.symm.trans shared)
        exact absurd assigned (fresh below first)
      · exact routed.owner one other task below beyond ((task_of_ne first).symm.trans assigned)
          ((task_of_ne second).symm.trans shared)
  · obtain ⟨old, different⟩ := requests_restarted routed.toTracked entered
    obtain ⟨known, assigned⟩ := routed.entered task other old
    exact ⟨known, (task_of_ne different).trans assigned⟩
  · change (made.tasks task).received = (made.tasks task).missed ++ (made.made other).delegate.mutableData
    by_cases same : other = retry.request
    · subst same
      obtain rfl := Option.some.inj (task_self.symm.trans assigned)
      rw [tasks_new, self]
      rfl
    · have belongs := (task_of_ne same).symm.trans assigned
      have known := routed.bound other task below belongs
      have kept : made.tasks task = manager.tasks task := tasks_makeTask_of_lt known
      rw [kept, of_ne same]
      exact routed.data other task below belongs
  · by_cases same : other = retry.request
    · subst same
      refine .starting manager.nextTask id task_self ?_ ?_ ?_ ?_ (retrying_revise _ retrying rfl)
        ((congrArg SessionTask.unheard tasks_new).trans (congrArg SessionTask.completed tasks_new).symm)
      · exact (congrArg (fun made => made.delegate.isSuspended) self).trans suspended
      · exact congrArg (fun made => made.delegate.error) self
      · exact congrArg (fun made => made.delegate.mutableData) self
      · cases entered : made.requests manager.nextTask with
        | none => rfl
        | some owner =>
          have old := (requests_restarted routed.toTracked entered).1
          rw [routed.fresh] at old
          contradiction
    · refine (routed.phase other below).frame (.of_made (of_ne same) (mem_revise_of_ne member rfl same))
        fun task assigned => ⟨tasks_makeTask_of_lt (routed.bound other task below assigned), ?_⟩
      apply requests_restarted_of_ne
      intro shared
      exact same (routed.owner other retry.request task below request_known assigned shared)

/-- Its new task is entered, and it runs, if the task is not over already. -/
theorem Routed.registered (routed : manager.Routed) (member : (id, .registering request) ∈ manager.retries.entries) :
    ({ manager with retries := manager.retries.close id }.register request).Routed := by
  obtain ⟨clean, task, assigned, absent, listening⟩ := routed.of_starting member
  obtain ⟨retrying, suspended, _⟩ := routed.retried_cases member
  have known := routed.retried _ member
  have result : { manager with retries := manager.retries.close id }.register request =
      { manager with
        retries := manager.retries.close id
        requests := Function.update manager.requests task (some request) } := by
    simp only [register, taskOf] at assigned ⊢
    simp only [assigned]
  rw [result]
  have tracked := tracked_close routed id
  refine ⟨⟨tracked.bound, tracked.owner, fun elsewhere other entered => ?_, tracked.retried, tracked.data⟩,
    fun other below => ?_⟩
  · change Function.update manager.requests task (some request) elsewhere = some other at entered
    by_cases new : elsewhere = task
    · subst new
      rw [Function.update_self] at entered
      obtain rfl := Option.some.inj entered
      exact ⟨known, assigned⟩
    · rw [Function.update_of_ne new] at entered
      exact routed.entered elsewhere other entered
  · by_cases same : other = request
    · subst same
      cases completed : (manager.tasks task).completed with
      | true => exact .hung task assigned suspended completed (unretried_close retrying) (listening.trans completed)
      | false =>
        exact .running task assigned suspended clean (Function.update_self ..) completed (unretried_close retrying)
          (listening.trans completed)
    · refine (phasedBut_close routed member other below same).frame (.of_made rfl fun _ _ => Iff.rfl)
        fun elsewhere belongs => ⟨rfl, ?_⟩
      apply Function.update_of_ne
      intro shared
      exact same (routed.owner other request task below known (shared ▸ belongs) assigned)

end Tasks

theorem routed_initial : initial.Routed :=
  ⟨⟨fun _ _ => nofun, fun _ _ _ => nofun, fun _ _ => nofun, fun _ => nofun, fun _ _ => nofun⟩, fun _ => nofun⟩

/-- Every event keeps the requests in their phases. -/
theorem routed_step {event : SessionEvent} (routed : manager.Routed)
    (step : manager.step? retrier event = some target) : target.Routed := by
  cases event with
  | request outcome =>
    obtain rfl := Option.some.inj step
    cases outcome with
    | ok value => exact routed.requested
    | error failure => exact routed.requestFailed failure
  | response request =>
    obtain ⟨_, same⟩ := Option.ite_none_right_eq_some.mp step
    exact Option.some.inj same ▸ routed.addHandler
  | validate request validation =>
    obtain ⟨_, same⟩ := Option.ite_none_right_eq_some.mp step
    exact Option.some.inj same ▸ routed.validate
  | didReceiveResponse task statusCode =>
    obtain ⟨live, same⟩ := Option.ite_none_right_eq_some.mp step
    exact Option.some.inj same ▸ routed.didReceiveResponse live.2
  | didReceiveData task data =>
    obtain ⟨live, same⟩ := Option.ite_none_right_eq_some.mp step
    exact Option.some.inj same ▸ routed.didReceiveData live.2
  | didComplete task error =>
    obtain ⟨live, same⟩ := Option.ite_none_right_eq_some.mp step
    exact Option.some.inj same ▸ routed.didComplete live.2
  | retrierAnswered id shouldRetry =>
    simp only [step?] at step
    split at step
    · next request task error found =>
      have member := Ledger.mem_of_find? found
      split at step
      · exact Option.some.inj step ▸ routed.delayed member
      · exact Option.some.inj step ▸ routed_giveUp routed member rfl
    · contradiction
  | retried id outcome =>
    simp only [step?] at step
    split at step
    · next request task error found =>
      have member := Ledger.mem_of_find? found
      by_cases original : (manager.made request).originalTask = true
      · cases outcome with
        | ok value =>
          rw [retry_ok original] at step
          exact Option.some.inj step ▸ routed.restarted member
        | error error =>
          simp only [retry, original, if_true] at step
          exact Option.some.inj step ▸ routed_unretried routed member rfl
      · simp only [retry, original] at step
        exact Option.some.inj step ▸ routed_giveUp routed member rfl
    · contradiction
  | registered id =>
    simp only [step?] at step
    split at step
    · next request found => exact Option.some.inj step ▸ routed.registered (Ledger.mem_of_find? found)
    · contradiction
  | operation request =>
    obtain ⟨_, same⟩ := Option.ite_none_right_eq_some.mp step
    split at same
    · next handler rest waiting =>
      obtain rfl := Option.some.inj same
      have kept := sameRequest_modify manager request
        (fun made => { made with delegate := { made.delegate with operations := rest } }) (fun _ => rfl)
        (fun _ => rfl) (fun _ => rfl) (fun _ => rfl) fun _ => rfl
      refine routed.of_made rfl rfl rfl rfl rfl fun other => ?_
      exact ⟨(kept other).task, (kept other).suspended, (kept other).error, (kept other).data, (kept other).original,
        fun _ _ => Iff.rfl⟩
    · contradiction
  | main =>
    simp only [step?] at step
    split at step
    · obtain rfl := Option.some.inj step
      exact routed.of_made rfl rfl rfl rfl rfl fun _ => .of_made rfl fun _ _ => Iff.rfl
    · contradiction

end LoginDN.Alamofire.SessionManager
