import LoginDN.Model.FormScreen
import LoginDN.Model.Window

/-! # The whole app on one device

User actions, answers of Firebase and of the Facebook login, and relaunches are events in any order.
Firebase settles a request in two steps. Its answer, which makes the new account the current user,
comes first; the completion is called later on the main thread. Requests, running logins and the
window end with the process; the current user, the Facebook token and UserDefaults survive it.
-/

namespace LoginDN

open Machine

/-- What Firebase answers: the account that is now signed in, a mail that was sent, or an error. -/
inductive Reply where
  | signedIn (user : User)
  | mailSent
  | refused (error : NSError)
deriving DecidableEq

def Reply.error : Reply → Option NSError
  | .refused error => some error
  | .signedIn _ | .mailSent => none

def Reply.user : Reply → Option User
  | .signedIn user => some user
  | .mailSent | .refused _ => none

/-- An account is the answer to a sign-in or a sign-up, a mail to a password reset. -/
def Reply.Fits : Reply → Request → Prop
  | .refused _, _ => True
  | .mailSent, .passwordReset _ => True
  | .mailSent, _ => False
  | .signedIn _, .passwordReset _ => False
  | .signedIn _, _ => True

instance : ∀ (reply : Reply) (request : Request), Decidable (reply.Fits request)
  | .refused _, _ => .isTrue trivial
  | .mailSent, .passwordReset _ => .isTrue trivial
  | .mailSent, .signIn _ _ | .mailSent, .facebook _ | .mailSent, .createUser _ _ _ => .isFalse id
  | .signedIn _, .passwordReset _ => .isFalse id
  | .signedIn _, .signIn _ _ | .signedIn _, .facebook _ | .signedIn _, .createUser _ _ _ => .isTrue trivial

/-- A request in flight with the controller whose closure waits for it, and its answer once Firebase
has given one. -/
structure Pending where
  owner : ℕ
  request : Request
  reply : Option Reply
  fits : ∀ answer, reply = some answer → answer.Fits request

namespace Pending

/-- The account that Firebase has made the current one and whose completion is still to come. -/
def user (pending : Pending) : Option User := pending.reply.bind Reply.user

def sent (owner : ℕ) (request : Request) : Pending := ⟨owner, request, none, nofun⟩

/-- The closure that is called once there is an answer. -/
def callback (pending : Pending) : List Effect :=
  match pending.reply with
  | some reply => pending.request.callback reply.error
  | none => []

def settled (pending : Pending) (reply : Reply) (fits : reply.Fits pending.request) : Pending :=
  { pending with
    reply := some reply
    fits := fun _ same => Option.some.inj same ▸ fits }

end Pending

/-- An account that signed up on the device and the user name typed for it. -/
structure SignUp where
  request : ℕ
  uid : String
  username : String
deriving DecidableEq

/-- The state of the app and of the libraries it uses, with four histories that no code reads: the
accounts that have been signed in, those that signed up here, the sign-ups whose name was stored
(both newest first), and which token signed in which account. -/
structure Device where
  window : Window
  currentUser : Option User
  accessToken : Option String
  defaults : String → Option String
  requests : Ledger Pending
  logins : List ℕ
  accounts : List String
  signUps : List SignUp
  stored : List SignUp
  links : List (String × String)

inductive AppEvent where
  | launch
  | signInSubmitted (email password : String)
  | signUpSubmitted (username email password : String)
  | resetSubmitted (email : String)
  | facebookTapped
  | facebookCompleted (controller : ℕ) (outcome : LoginOutcome)
  | facebookLoggedOut
  | showSignUp
  | showReset
  | backSignIn
  | dismissAlert
  | openDetail
  | closeDetail
  | signOutTapped (thrown : Option NSError)
  | answered (id : ℕ) (reply : Reply)
  | completed (id : ℕ)
deriving DecidableEq

/-- The events by which Firebase settles a request. -/
def AppEvent.settles : AppEvent → Bool
  | .answered _ _ | .completed _ => true
  | _ => false

namespace Device

/-- Overlays, the keyboard and the text fields do not concern the device. Both segues of the auth
screens lead to the tab bar, and `dismiss` is called by the frontmost controller only. -/
def apply (owner : ℕ) (device : Device) : Effect → Device
  | .presentAlert _ _ => { device with window := device.window.present owner .alert }
  | .performSegue _ => { device with window := device.window.present owner .tabBar }
  | .dismiss => { device with window := device.window.pop }
  | .setDefault value key => { device with defaults := Function.update device.defaults key (some value) }
  | .send request => { device with requests := device.requests.issue (.sent owner request) }
  | .signOut => { device with currentUser := none }
  | .logOut => { device with accessToken := none }
  | .chooseStoryboardToOpen =>
      { device with
        window := device.window.setRoot (AppDelegate.chooseStoryboardToOpen device.currentUser) }
  | _ => device

def perform (owner : ℕ) (device : Device) (effects : List Effect) : Device :=
  effects.foldl (apply owner) device

/-- A device on which the app is launched for the first time. -/
def initial : Device :=
  perform 0 ⟨Window.opened .signInViewController 0, none, none, fun _ => none, .empty, [], [], [], [], []⟩
    AppDelegate.didFinishLaunching

/-- The screen in front. -/
def front (device : Device) : Screen := device.window.frontmost.screen

/-- The answers Firebase may give. `createUser` makes an account that never existed before and
leaves its display name empty. -/
def Admits (device : Device) : Request → Reply → Prop
  | .createUser _ _ _, .signedIn user => user.displayName.getD "" = "" ∧ user.uid ∉ device.accounts
  | request, reply => reply.Fits request

instance (device : Device) : ∀ request reply, Decidable (device.Admits request reply)
  | .createUser _ _ _, .signedIn _ => inferInstanceAs (Decidable (_ ∧ _))
  | .createUser _ _ _, .mailSent => .isFalse id
  | .createUser _ _ _, .refused _ => .isTrue trivial
  | .signIn email password, reply => inferInstanceAs (Decidable (reply.Fits (.signIn email password)))
  | .facebook tokenString, reply => inferInstanceAs (Decidable (reply.Fits (.facebook tokenString)))
  | .passwordReset email, reply => inferInstanceAs (Decidable (reply.Fits (.passwordReset email)))

theorem Admits.fits {device : Device} {request : Request} {reply : Reply}
    (admits : device.Admits request reply) : reply.Fits request := by
  cases request <;> cases reply <;> trivial

/-- The sign-up that an answer completes. -/
def signUp? (id : ℕ) : Request → Reply → Option SignUp
  | .createUser username _ _, .signedIn user => some ⟨id, user.uid, username⟩
  | _, _ => none

/-- The token and the account that an answer links. -/
def link? : Request → Reply → Option (String × String)
  | .facebook tokenString, .signedIn user => some (tokenString, user.uid)
  | _, _ => none

/-- Firebase answers a request: a new account becomes the current one, an error changes nothing. -/
def answer (device : Device) (id : ℕ) (pending : Pending) (reply : Reply)
    (fits : reply.Fits pending.request) : Device :=
  { device with
    currentUser := reply.user.or device.currentUser
    requests := device.requests.revise id (pending.settled reply fits)
    accounts := (reply.user.map User.uid).toList ++ device.accounts
    signUps := (signUp? id pending.request reply).toList ++ device.signUps
    links := (link? pending.request reply).toList ++ device.links }

/-- What the event itself changes before a callback of the app runs, if it can happen. -/
def received? (device : Device) : AppEvent → Option Device
  | .launch => some { device with requests := device.requests.clear, logins := [] }
  | .signInSubmitted _ _ => if device.front = .signIn then some device else none
  | .signUpSubmitted _ _ _ => if device.front = .signUp then some device else none
  | .resetSubmitted _ => if device.front = .reset then some device else none
  | .facebookTapped =>
      if device.front = .signIn then
        some { device with logins := device.window.frontmost.id :: device.logins }
      else none
  | .facebookCompleted controller outcome =>
      if controller ∈ device.logins then
        some { device with
          logins := device.logins.erase controller
          accessToken := outcome.current device.accessToken }
      else none
  | .facebookLoggedOut =>
      if device.front = .signIn then some { device with accessToken := none } else none
  | .showSignUp =>
      if device.front = .signIn then
        some { device with window := device.window.present device.window.frontmost.id .signUp }
      else none
  | .showReset =>
      if device.front = .signIn then
        some { device with window := device.window.present device.window.frontmost.id .reset }
      else none
  | .backSignIn => if device.front = .signUp ∨ device.front = .reset then some device else none
  | .dismissAlert =>
      if device.front = .alert then some { device with window := device.window.pop } else none
  | .openDetail =>
      if device.front = .tabBar then
        some { device with window := device.window.present device.window.frontmost.id .detail }
      else none
  | .closeDetail =>
      if device.front = .detail then some { device with window := device.window.pop } else none
  | .signOutTapped _ => if device.front = .tabBar then some device else none
  | .answered id reply =>
      (device.requests.find? id).bind fun pending =>
        if admits : pending.reply = none ∧ device.Admits pending.request reply then
          some (device.answer id pending reply admits.2.fits)
        else none
  | .completed id =>
      (device.requests.find? id).bind fun pending =>
        pending.reply.map fun reply =>
          { device with
            requests := device.requests.close id
            stored := (signUp? id pending.request reply).toList ++ device.stored }

/-- The calls of the callback an event leads to. -/
def callback (device : Device) : AppEvent → List Effect
  | .launch => AppDelegate.didFinishLaunching
  | .signInSubmitted email password => SignInViewController.performSignIn email password
  | .signUpSubmitted username email password => SignUpViewController.performSignUp username email password
  | .resetSubmitted email => ResetPasswordViewController.resetpassword email
  | .facebookCompleted _ outcome =>
      SignInViewController.loginButton outcome (outcome.current device.accessToken)
  | .facebookLoggedOut => SignInViewController.loginButtonDidLogOut
  | .backSignIn =>
      if device.front = .reset then ResetPasswordViewController.backSignIn else SignUpViewController.backSignIn
  | .signOutTapped thrown => SignOutViewController.signOutTappedNews thrown
  | .completed id =>
      match device.requests.find? id with
      | some pending => pending.callback
      | none => []
  | _ => []

/-- The controller whose callback it is. -/
def owner (device : Device) : AppEvent → ℕ
  | .facebookCompleted controller _ => controller
  | .completed id => ((device.requests.find? id).map Pending.owner).getD device.window.frontmost.id
  | _ => device.window.frontmost.id

def step? (device : Device) (event : AppEvent) : Option Device :=
  (device.received? event).map fun received => perform (device.owner event) received (device.callback event)

def machine : Machine.System Device AppEvent := ⟨initial, step?⟩

/-- The name the profile screen shows when it loads. -/
def shownName (device : Device) : Option String :=
  SignOutViewController.viewDidLoad device.currentUser device.defaults

theorem step?_eq_some_iff {device target : Device} {event : AppEvent} :
    device.step? event = some target ↔ ∃ received, device.received? event = some received ∧
      perform (device.owner event) received (device.callback event) = target := Option.map_eq_some_iff

/-- UserDefaults after the completion of a request that was, or was not, a sign-up. -/
def storeName (defaults : String → Option String) : Option SignUp → String → Option String
  | some signUp => Function.update defaults "username" (some signUp.username)
  | none => defaults

/-- A completion with an account performs a segue to the tab bar, and a sign-up stores its name. -/
theorem perform_callback_user (owner id : ℕ) (device : Device) {request : Request} {reply : Reply}
    (fits : reply.Fits request) {user : User} (signedIn : reply.user = some user) :
    perform owner device (request.callback reply.error) =
      { device with
        window := device.window.present owner .tabBar
        defaults := storeName device.defaults (signUp? id request reply) } := by
  cases reply with
  | signedIn other =>
    cases request with
    | passwordReset email => exact fits.elim
    | signIn email password => rfl
    | facebook tokenString => rfl
    | createUser username email password => rfl
  | mailSent => contradiction
  | refused error => contradiction

/-- A completion without an account at most presents an alert. -/
theorem perform_callback_none (owner : ℕ) (device : Device) {request : Request} {reply : Reply}
    (fits : reply.Fits request) (none : reply.user = none) : ∃ window,
      (window = device.window ∨ window = device.window.present owner .alert) ∧
        perform owner device (request.callback reply.error) = { device with window := window } := by
  cases reply with
  | signedIn user => contradiction
  | mailSent =>
    cases request with
    | passwordReset email => exact ⟨_, .inr rfl, rfl⟩
    | signIn email password => exact fits.elim
    | facebook tokenString => exact fits.elim
    | createUser username email password => exact fits.elim
  | refused error =>
    cases request with
    | facebook tokenString => exact ⟨_, .inl rfl, rfl⟩
    | signIn email password => exact ⟨_, .inr rfl, rfl⟩
    | createUser username email password => exact ⟨_, .inr rfl, rfl⟩
    | passwordReset email => exact ⟨_, .inr rfl, rfl⟩

/-- Both screens that lead back to the sign-in screen dismiss themselves. -/
theorem callback_backSignIn (device : Device) : device.callback .backSignIn = [.dismiss] := ite_self ..

/-- The branch taken at launch is the signed-in one exactly for a current user. -/
theorem signedInArea_chooseStoryboardToOpen (currentUser : Option User) :
    (AppDelegate.chooseStoryboardToOpen currentUser).screen.signedInArea = true ↔ currentUser ≠ none := by
  cases currentUser <;> simp [AppDelegate.chooseStoryboardToOpen, Storyboard.screen, Screen.signedInArea]

theorem signUp?_none {id : ℕ} {request : Request} {reply : Reply} (none : reply.user = none) :
    signUp? id request reply = Option.none := by
  cases reply <;> cases request <;> first | rfl | contradiction

theorem link?_none (request : Request) {reply : Reply} (none : reply.user = none) :
    link? request reply = Option.none := by
  cases reply <;> cases request <;> first | rfl | contradiction

/-- All that a step can do, with the event that does it. -/
inductive Change (device : Device) : AppEvent → Device → Prop
  | launched : Change device .launch
      { device with
        window := device.window.setRoot (AppDelegate.chooseStoryboardToOpen device.currentUser)
        requests := device.requests.clear
        logins := [] }
  | moved (event : AppEvent) (user : event.settles = false) (window : Window)
      (keeps : device.window.Keeps window) : Change device event { device with window := window }
  | tapped : Change device .facebookTapped
      { device with logins := device.window.frontmost.id :: device.logins }
  | sent (event : AppEvent) (user : event.settles = false) (request : Request)
      (source : request.fromForm = true) (named : request.Named) : Change device event
        { device with requests := device.requests.issue (.sent device.window.frontmost.id request) }
  | facebookCalled (controller : ℕ) (outcome : LoginOutcome) (caller : controller ∈ device.logins)
      (requests : Ledger Pending)
      (issued : requests = (outcome.current device.accessToken).elim device.requests
        fun tokenString => device.requests.issue (.sent controller (.facebook tokenString))) :
      Change device (.facebookCompleted controller outcome)
        { device with
          logins := device.logins.erase controller
          accessToken := outcome.current device.accessToken
          requests := requests }
  | facebookLeft : Change device .facebookLoggedOut { device with accessToken := none }
  | signedOut : Change device (.signOutTapped none)
      { device with
        window := device.window.pop.setRoot .signInViewController
        currentUser := none
        accessToken := none }
  | answered (id : ℕ) (pending : Pending) (reply : Reply)
      (found : (id, pending) ∈ device.requests.entries) (unanswered : pending.reply = none)
      (admits : device.Admits pending.request reply) :
      Change device (.answered id reply) (device.answer id pending reply admits.fits)
  | arrived (id : ℕ) (pending : Pending) (reply : Reply) (user : User)
      (found : (id, pending) ∈ device.requests.entries) (replied : pending.reply = some reply)
      (signedIn : reply.user = some user) :
      Change device (.completed id)
        { device with
          window := device.window.present pending.owner .tabBar
          requests := device.requests.close id
          defaults := storeName device.defaults (signUp? id pending.request reply)
          stored := (signUp? id pending.request reply).toList ++ device.stored }
  | reported (id : ℕ) (pending : Pending) (reply : Reply) (window : Window)
      (found : (id, pending) ∈ device.requests.entries) (replied : pending.reply = some reply)
      (refused : reply.user = none)
      (alert : window = device.window ∨ window = device.window.present pending.owner .alert) :
      Change device (.completed id)
        { device with window := window, requests := device.requests.close id }

variable {device target : Device} {event : AppEvent}

private theorem change_moved {window : Window} (keeps : device.window.Keeps window)
    (user : event.settles = false) (result : { device with window := window } = target) :
    Change device event target :=
  result ▸ .moved event user window keeps

/-- A submitted form sends one request or presents an alert. -/
private theorem change_form (kind : AuthScreen) (text : Field → String)
    (user : event.settles = false)
    (result : perform device.window.frontmost.id device (kind.submission text) = target) :
    Change device event target := by
  rcases kind.submission_cases text with
    ⟨_, request, ⟨source, named⟩, calls⟩ | ⟨_, _, title, message, calls⟩ | ⟨_, _, title, message, calls⟩
  · rw [calls] at result
    exact result ▸ .sent event user request source named
  · rw [calls] at result
    exact change_moved Window.keeps_present_alert user result
  · rw [calls] at result
    exact change_moved Window.keeps_present_alert user result

/-- What the text fields of a form hold. -/
def typed (username email password : String) : Field → String
  | .userName => username
  | .email => email
  | .password => password

private theorem change_completed {id : ℕ} (step : device.step? (.completed id) = some target) :
    Change device (.completed id) target := by
  obtain ⟨received, first, result⟩ := step?_eq_some_iff.mp step
  obtain ⟨pending, found, first⟩ := Option.bind_eq_some_iff.mp first
  obtain ⟨reply, replied, rfl⟩ := Option.map_eq_some_iff.mp first
  have member := Ledger.mem_of_find? found
  have fits := pending.fits reply replied
  simp only [owner, callback, found, Option.map_some, Option.getD_some, Pending.callback, replied] at result
  cases account : reply.user with
  | some user =>
    rw [perform_callback_user pending.owner id _ fits account] at result
    exact result ▸ .arrived id pending reply user member replied account
  | none =>
    obtain ⟨window, alert, after⟩ := perform_callback_none pending.owner
      { device with
        requests := device.requests.close id
        stored := (signUp? id pending.request reply).toList ++ device.stored } fits account
    rw [after, signUp?_none account] at result
    exact result ▸ .reported id pending reply window member replied account alert

private theorem eq_of_ite {condition : Prop} [Decidable condition] {value received : Device}
    (first : (if condition then some value else none) = some received) : condition ∧ value = received := by
  obtain ⟨met, same⟩ := Option.ite_none_right_eq_some.mp first
  exact ⟨met, Option.some.inj same⟩

private theorem front_ne {screen other : Screen} (front : device.front = screen)
    (different : screen ≠ other) : device.window.frontmost.screen ≠ other :=
  fun same => different (front.symm.trans same)

/-- Every step is one of the changes. -/
theorem step?_change (step : device.step? event = some target) : Change device event target := by
  obtain ⟨received, first, result⟩ := step?_eq_some_iff.mp step
  cases event with
  | launch =>
    obtain rfl := Option.some.inj first
    exact result ▸ .launched
  | signInSubmitted email password =>
    obtain ⟨_, rfl⟩ := eq_of_ite first
    exact change_form .signIn (typed "" email password) rfl result
  | signUpSubmitted username email password =>
    obtain ⟨_, rfl⟩ := eq_of_ite first
    exact change_form .signUp (typed username email password) rfl result
  | resetSubmitted email =>
    obtain ⟨_, rfl⟩ := eq_of_ite first
    exact change_form .reset (typed "" email "") rfl result
  | facebookTapped =>
    obtain ⟨_, rfl⟩ := eq_of_ite first
    exact result ▸ .tapped
  | facebookCompleted controller outcome =>
    obtain ⟨caller, rfl⟩ := eq_of_ite first
    cases current : outcome.current device.accessToken with
    | none =>
      have calls : device.callback (.facebookCompleted controller outcome) = [] := by
        simp only [callback, SignInViewController.loginButton, current]
      rw [calls] at result
      exact result ▸ .facebookCalled controller outcome caller device.requests (by rw [current]; rfl)
    | some tokenString =>
      have calls : device.callback (.facebookCompleted controller outcome) =
          [.showLoadingAnimation, .send (.facebook tokenString)] := by
        simp only [callback, SignInViewController.loginButton, current, SignInController.getSigninFaceBook]
      rw [calls] at result
      exact result ▸ .facebookCalled controller outcome caller _ (by rw [current]; rfl)
  | facebookLoggedOut =>
    obtain ⟨_, rfl⟩ := eq_of_ite first
    exact result ▸ .facebookLeft
  | showSignUp =>
    obtain ⟨front, rfl⟩ := eq_of_ite first
    exact change_moved (Window.keeps_present_auth front rfl) rfl result
  | showReset =>
    obtain ⟨front, rfl⟩ := eq_of_ite first
    exact change_moved (Window.keeps_present_auth front rfl) rfl result
  | backSignIn =>
    obtain ⟨front, rfl⟩ := eq_of_ite first
    rw [callback_backSignIn] at result
    refine change_moved (Window.keeps_pop ?_) rfl result
    rcases front with signUp | reset
    · exact front_ne signUp (by decide)
    · exact front_ne reset (by decide)
  | dismissAlert =>
    obtain ⟨front, rfl⟩ := eq_of_ite first
    exact change_moved (Window.keeps_pop (front_ne front (by decide))) rfl result
  | openDetail =>
    obtain ⟨front, rfl⟩ := eq_of_ite first
    exact change_moved (Window.keeps_present_detail front) rfl result
  | closeDetail =>
    obtain ⟨front, rfl⟩ := eq_of_ite first
    exact change_moved (Window.keeps_pop (front_ne front (by decide))) rfl result
  | signOutTapped thrown =>
    obtain ⟨_, rfl⟩ := eq_of_ite first
    cases thrown with
    | none => exact result ▸ .signedOut
    | some error => exact change_moved (Window.Keeps.refl device.window) rfl result
  | answered id reply =>
    obtain ⟨pending, found, first⟩ := Option.bind_eq_some_iff.mp first
    split at first
    · next admits =>
      obtain rfl := Option.some.inj first
      exact result ▸ .answered id pending reply (Ledger.mem_of_find? found) admits.1 admits.2
    · contradiction
  | completed id => exact change_completed step

end Device

end LoginDN
