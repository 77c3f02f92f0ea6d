import LoginDN.Machine.Simulation
import LoginDN.Model.Settling

/-! # The same run with other user names typed

A retyping gives every sign-up request the user name that is typed for it instead. Nothing the app
does depends on a user name except whether the field is empty, so a run with the names replaced goes
through the same states with the names replaced. The library's translation carries this from single
steps to whole runs.
-/

namespace LoginDN

open Machine

/-- What is typed as user name for the request with a number, instead of what was. -/
structure Retyping where
  name : ℕ → String → String
  filled : ∀ id username, name id username = "" ↔ username = ""

namespace Retyping

/-- The names that were typed. -/
def identity : Retyping := ⟨fun _ username => username, fun _ _ => Iff.rfl⟩

/-- Another name for the request with one number. -/
def only (number : ℕ) (username : String) (filled : username ≠ "") : Retyping where
  name id typed := if id = number ∧ typed ≠ "" then username else typed
  filled id typed := by
    split
    · next both => simp [filled, both.2]
    · rfl

variable (retyping : Retyping)

def request (id : ℕ) : Request → Request
  | .createUser username email password => .createUser (retyping.name id username) email password
  | other => other

theorem fits_request (id : ℕ) (request : Request) (reply : Reply) :
    reply.Fits (retyping.request id request) ↔ reply.Fits request := by
  cases request <;> cases reply <;> rfl

def pending (id : ℕ) (pending : Pending) : Pending :=
  { pending with
    request := retyping.request id pending.request
    fits := fun answer same => (retyping.fits_request id pending.request answer).mpr (pending.fits answer same) }

def signUp (signUp : SignUp) : SignUp :=
  { signUp with username := retyping.name signUp.request signUp.username }

/-- The value under `username` is the one that was stored last. -/
def device (device : Device) : Device :=
  { device with
    requests := device.requests.relabel retyping.pending
    defaults := Device.storeName device.defaults (device.stored.head?.map retyping.signUp)
    signUps := device.signUps.map retyping.signUp
    stored := device.stored.map retyping.signUp }

/-- The event with the user name replaced. The next request gets the next number. -/
def event (device : Device) : AppEvent → AppEvent
  | .signUpSubmitted username email password =>
      .signUpSubmitted (retyping.name device.requests.next username) email password
  | other => other

variable {retyping} {source target : Device} {event : AppEvent} {id : ℕ} {request : Request} {reply : Reply}

theorem request_pending (waiting : Pending) :
    (retyping.pending id waiting).request = retyping.request id waiting.request := rfl

theorem signUp?_request : Device.signUp? id (retyping.request id request) reply =
    (Device.signUp? id request reply).map retyping.signUp := by
  cases request <;> cases reply <;> rfl

theorem link?_request : Device.link? (retyping.request id request) reply = Device.link? request reply := by
  cases request <;> cases reply <;> rfl

theorem admits_request : (retyping.device source).Admits (retyping.request id request) reply ↔
    source.Admits request reply := by
  cases request <;> cases reply <;> rfl

/-- The calls that are made alike whatever the user names are. -/
def plain : Effect → Bool
  | .setDefault _ _ => false
  | .send (.createUser _ _ _) => false
  | _ => true

theorem apply_device (owner : ℕ) {effect : Effect} (same : plain effect = true) :
    Device.apply owner (retyping.device source) effect = retyping.device (Device.apply owner source effect) := by
  cases effect with
  | send request =>
    have issued := @Ledger.relabel_issue _ source.requests (.sent owner request) retyping.pending
    have kept : retyping.pending source.requests.next (.sent owner request) = .sent owner request := by
      cases request <;> first | rfl | contradiction
    rw [kept] at issued
    simp only [Device.apply, device, issued]
  | setDefault value key => contradiction
  | _ => rfl

theorem perform_device (owner : ℕ) {effects : List Effect} (same : ∀ effect ∈ effects, plain effect = true) :
    Device.perform owner (retyping.device source) effects =
      retyping.device (Device.perform owner source effects) := by
  induction effects generalizing source with
  | nil => rfl
  | cons effect rest ih =>
    obtain ⟨head, tail⟩ := List.forall_mem_cons.mp same
    have first := @apply_device retyping source owner effect head
    have last := @ih (Device.apply owner source effect) tail
    simp only [Device.perform, List.foldl_cons] at first last ⊢
    rw [first, last]

/-- Events that neither type a user name nor settle a request. -/
def silent : AppEvent → Bool
  | .signUpSubmitted _ _ _ | .answered _ _ | .completed _ => false
  | _ => true

private theorem received?_silent (quiet : silent event = true) :
    (retyping.device source).received? event = (source.received? event).map retyping.device := by
  have front : (retyping.device source).front = source.front := rfl
  have logins : (retyping.device source).logins = source.logins := rfl
  cases event <;> first | rfl | contradiction | skip
  all_goals
    simp only [Device.received?, front, logins]
    split <;> rfl

private theorem plain_callback (quiet : silent event = true) :
    ∀ effect ∈ source.callback event, plain effect = true := by
  cases event with
  | signInSubmitted email password =>
    simp only [Device.callback, SignInViewController.performSignIn, SignInController.getSignin]
    split <;> simp [plain, AlertController.showAlert]
  | resetSubmitted email =>
    simp only [Device.callback, ResetPasswordViewController.resetpassword, ResetController.resetPassword]
    split <;> simp [plain, AlertController.showAlert]
  | facebookCompleted controller outcome =>
    simp only [Device.callback, SignInViewController.loginButton, SignInController.getSigninFaceBook]
    split <;> simp [plain]
  | signOutTapped thrown =>
    cases thrown <;> simp [Device.callback, SignOutViewController.signOutTappedNews, plain]
  | signUpSubmitted _ _ _ | answered _ _ | completed _ => contradiction
  | backSignIn => simp [Device.callback_backSignIn, plain]
  | _ => simp [Device.callback, AppDelegate.didFinishLaunching, SignInViewController.loginButtonDidLogOut, plain]

private theorem step?_silent (quiet : silent event = true) (step : source.step? event = some target) :
    (retyping.device source).step? event = some (retyping.device target) := by
  obtain ⟨received, first, rfl⟩ := Device.step?_eq_some_iff.mp step
  refine Device.step?_eq_some_iff.mpr ⟨retyping.device received, ?_, ?_⟩
  · rw [received?_silent quiet, first, Option.map_some]
  · have calls : (retyping.device source).callback event = source.callback event := by
      cases event <;> first | rfl | contradiction
    have owner : (retyping.device source).owner event = source.owner event := by
      cases event <;> first | rfl | contradiction
    rw [calls, owner]
    exact perform_device _ (plain_callback quiet)

private theorem step?_signUpSubmitted {username email password : String}
    (step : source.step? (.signUpSubmitted username email password) = some target) :
    (retyping.device source).step?
        (.signUpSubmitted (retyping.name source.requests.next username) email password) =
      some (retyping.device target) := by
  obtain ⟨received, first, rfl⟩ := Device.step?_eq_some_iff.mp step
  obtain ⟨front, same⟩ := Option.ite_none_right_eq_some.mp first
  obtain rfl := Option.some.inj same
  refine Device.step?_eq_some_iff.mpr ⟨retyping.device source, if_pos front, ?_⟩
  have filled := not_congr (retyping.filled source.requests.next username)
  simp only [Device.callback, SignUpViewController.performSignUp, filled]
  by_cases fields : username ≠ "" ∧ email ≠ "" ∧ password ≠ ""
  · rw [if_pos fields, if_pos fields]
    have issued := @Ledger.relabel_issue _ source.requests
      (.sent source.window.frontmost.id (.createUser username email password)) retyping.pending
    exact congrArg (fun requests => { retyping.device source with requests := requests }) issued.symm
  · rw [if_neg fields, if_neg fields]
    rfl

private theorem step?_answered (step : source.step? (.answered id reply) = some target) :
    (retyping.device source).step? (.answered id reply) = some (retyping.device target) := by
  cases Device.step?_change step with
  | moved _ user _ _ => contradiction
  | sent _ user _ _ _ => contradiction
  | answered _ waiting _ found unanswered admits =>
    have renamed : (id, retyping.pending id waiting) ∈ (retyping.device source).requests.entries :=
      Ledger.mem_relabel_of_mem found
    have allowed : (retyping.device source).Admits (retyping.pending id waiting).request reply :=
      admits_request.mpr admits
    have revised := @Ledger.relabel_revise _ source.requests id (waiting.settled reply admits.fits)
      retyping.pending
    rw [Device.step?_answered renamed unanswered allowed]
    simp only [Device.answer, device, request_pending, signUp?_request, link?_request, List.map_append,
      Option.toList_map, revised]
    rfl

/-- What is stored last replaces what was stored before, whatever the names are. -/
private theorem storeName_retyped (defaults : String → Option String) (stored : List SignUp)
    (last : Option SignUp) :
    Device.storeName (Device.storeName defaults (stored.head?.map retyping.signUp)) (last.map retyping.signUp) =
      Device.storeName (Device.storeName defaults last)
        ((last.toList ++ stored).head?.map retyping.signUp) := by
  cases last with
  | none => rfl
  | some signUp =>
    cases stored with
    | nil => simp [Device.storeName]
    | cons first rest => simp [Device.storeName]

/-- Without an account the completion does not use the user name. -/
private theorem callback_refused (fits : reply.Fits request) (none : reply.user = none) :
    (retyping.request id request).callback reply.error = request.callback reply.error ∧
      ∀ effect ∈ request.callback reply.error, plain effect = true := by
  cases reply with
  | signedIn user => contradiction
  | mailSent =>
    cases request with
    | passwordReset email => exact ⟨rfl, by simp [Request.callback, Reply.error, plain,
        AlertController.showAlert, ResetPasswordViewController.resetpassword.completion,
        ResetController.resetPassword.success]⟩
    | _ => exact fits.elim
  | refused error =>
    cases request <;> refine ⟨rfl, ?_⟩ <;> simp [Request.callback, Reply.error, plain,
      AlertController.showAlert, SignInViewController.performSignIn.completion,
      SignInViewController.loginButton.completion, SignUpViewController.performSignUp.completion,
      ResetPasswordViewController.resetpassword.completion, SignInController.getSignin.success,
      SignInController.getSigninFaceBook.success, SignUpController.getSignUp.success,
      ResetController.resetPassword.success]

private theorem step?_completed (step : source.step? (.completed id) = some target) :
    (retyping.device source).step? (.completed id) = some (retyping.device target) := by
  obtain ⟨received, first, _⟩ := Device.step?_eq_some_iff.mp step
  obtain ⟨waiting, named, first⟩ := Option.bind_eq_some_iff.mp first
  obtain ⟨reply, replied, _⟩ := Option.map_eq_some_iff.mp first
  have found := Ledger.mem_of_find? named
  have renamed : (id, retyping.pending id waiting) ∈ (retyping.device source).requests.entries :=
    Ledger.mem_relabel_of_mem found
  have fits := waiting.fits reply replied
  have closed := @Ledger.relabel_close _ source.requests id retyping.pending
  obtain rfl := Option.some.inj ((Device.step?_completed found replied).symm.trans step)
  rw [Device.step?_completed renamed replied]
  cases account : reply.user with
  | some user =>
    have typed := (retyping.fits_request id waiting.request reply).mpr fits
    rw [Device.perform_callback_user waiting.owner id _ fits account]
    simp only [request_pending]
    rw [Device.perform_callback_user _ id _ typed account]
    simp only [device, signUp?_request, List.map_append, Option.toList_map, closed, storeName_retyped]
    rfl
  | none =>
    obtain ⟨calls, quiet⟩ := callback_refused fits account
    have performed := @perform_device retyping
      { source with
        requests := source.requests.close id
        stored := (Device.signUp? id waiting.request reply).toList ++ source.stored } waiting.owner _ quiet
    rw [← performed, request_pending, calls]
    simp only [device, Device.signUp?_none account, closed]
    rfl

/-- One step with other user names is the same step. -/
theorem step?_device (step : source.step? event = some target) :
    (retyping.device source).step? (retyping.event source event) = some (retyping.device target) := by
  cases event with
  | signUpSubmitted username email password => exact step?_signUpSubmitted step
  | answered id reply => exact step?_answered step
  | completed id => exact step?_completed step
  | _ => exact step?_silent rfl step

/-- Every run with other user names typed is a run of the same machine. -/
def translation (retyping : Retyping) : System.Translation Device.machine Device.machine fun _ => True where
  state := retyping.device
  events source event := [retyping.event source event]
  initial := rfl
  step _ _ _ _ step := System.run?_cons_iff.mpr ⟨_, step?_device step, rfl⟩

/-- The events of a run with the user names replaced. -/
def run (retyping : Retyping) (events : List AppEvent) : List AppEvent :=
  retyping.translation.run Device.machine.initial events

theorem reaches_run {events : List AppEvent} {device : Device} (reached : Device.machine.Reaches events device) :
    Device.machine.Reaches (retyping.run events) (retyping.device device) :=
  retyping.translation.reaches trivial (fun _ _ _ _ _ => trivial) reached

end Retyping

end LoginDN
