import LoginDN.Machine.Ledger
import LoginDN.Machine.Run
import LoginDN.Model.AuthFlows
import LoginDN.Model.LoadingView
import Mathlib.Logic.Function.Basic

/-! # One auth screen: fields, keyboard offset, overlays and requests in flight

The sign-in, sign-up and password-reset screens share one machine; a screen's kind selects its
callbacks. User input, keyboard notifications and completions are events in any order. Whether a
tap or the return key can reach the screen is not part of the machine, so that the results about
all submissions hold whatever the answer. `Change` says once what a callback does to the overlays
and to the requests; the invariants are derived from it.
-/

namespace LoginDN

open Machine

inductive AuthScreen where
  | signIn
  | signUp
  | reset
deriving DecidableEq, Repr

/-- A request started by the screen's form, as opposed to the Facebook button. -/
def Request.fromForm : Request → Bool
  | .facebook _ => false
  | _ => true

/-- The user name of a sign-up request is not empty. -/
def Request.Named : Request → Prop
  | .createUser username _ _ => username ≠ ""
  | _ => True

structure FormScreen where
  kind : AuthScreen
  originY : ℚ
  firstResponder : Option Field
  text : Field → String
  loadingView : LoadingView
  requests : Ledger Request

inductive ScreenEvent where
  | keyboardNotification
  | focused (field : Option Field)
  | edited (field : Field) (text : String)
  | submitTapped
  | returnPressed (field : Field)
  | touchesBegan
  | facebookCompleted (outcome : LoginOutcome) (held : Option String)
  | completed (id : ℕ) (error : Option NSError)
deriving DecidableEq

namespace AuthScreen

def viewDidLoad : AuthScreen → List Effect
  | .signIn => SignInViewController.viewDidLoad
  | .signUp => SignUpViewController.viewDidLoad
  | .reset => ResetPasswordViewController.viewDidLoad

/-- Only the sign-in screen observes the keyboard notifications. -/
def keyboardNotification : AuthScreen → List Effect
  | .signIn => SignInViewController.keyboardWillChange
  | .signUp | .reset => []

def submitTapped (text : Field → String) : AuthScreen → List Effect
  | .signIn => SignInViewController.singInTapped (text .email) (text .password)
  | .signUp => SignUpViewController.registerBtTapped (text .userName) (text .email) (text .password)
  | .reset => ResetPasswordViewController.resetPasswordTapped (text .email)

def textFieldShouldReturn (field : Field) (text : Field → String) : AuthScreen → List Effect
  | .signIn => (SignInViewController.textFieldShouldReturn field text).1
  | .signUp => (SignUpViewController.textFieldShouldReturn field text).1
  | .reset => (ResetPasswordViewController.textFieldShouldReturn field text).1

def touchesBegan : AuthScreen → List Effect
  | .signIn => SignInViewController.touchesBegan
  | .signUp => SignUpViewController.touchesBegan
  | .reset => ResetPasswordViewController.touchesBegan

/-- The fields the screen's flow asks for are filled in. -/
def Filled (text : Field → String) : AuthScreen → Prop
  | .signIn => text .email ≠ "" ∧ text .password ≠ ""
  | .signUp => text .userName ≠ "" ∧ text .email ≠ "" ∧ text .password ≠ ""
  | .reset => text .email ≠ ""

instance (text : Field → String) : ∀ kind : AuthScreen, Decidable (kind.Filled text)
  | .signIn | .signUp => inferInstanceAs (Decidable (_ ∧ _))
  | .reset => inferInstanceAs (Decidable (_ ≠ _))

/-- The field whose return key submits. -/
def lastField : AuthScreen → Field
  | .signIn | .signUp => .password
  | .reset => .email

/-- The flow that the button and the return key of a screen share. -/
def submission (text : Field → String) : AuthScreen → List Effect
  | .signIn => SignInViewController.performSignIn (text .email) (text .password)
  | .signUp => SignUpViewController.performSignUp (text .userName) (text .email) (text .password)
  | .reset => ResetPasswordViewController.resetpassword (text .email)

/-- The calls around the flow: the sign-in screen moves its view back to the origin. -/
def moveBack (kind : AuthScreen) : List Effect := if kind = .signIn then [.setOriginY 0] else []

/-- A filled form shows the overlay and sends one request. A form with an empty field only alerts,
except on the sign-up screen, where the overlay went up first and is taken down again. -/
theorem submission_cases (kind : AuthScreen) (text : Field → String) :
    (kind.Filled text ∧ ∃ request, (request.fromForm = true ∧ request.Named) ∧
      kind.submission text = [.showLoadingAnimation, .send request]) ∨
    (¬ kind.Filled text ∧ kind = .signUp ∧ ∃ title message, kind.submission text =
      [.showLoadingAnimation, .presentAlert title message, .hiddenLoadingAnimation]) ∨
    (¬ kind.Filled text ∧ kind ≠ .signUp ∧ ∃ title message,
      kind.submission text = [.presentAlert title message]) := by
  cases kind with
  | signIn =>
    simp only [submission, SignInViewController.performSignIn]
    split
    · next filled => exact .inl ⟨filled, .signIn _ _, ⟨rfl, trivial⟩, rfl⟩
    · next unfilled => exact .inr (.inr ⟨unfilled, nofun, _, _, rfl⟩)
  | signUp =>
    simp only [submission, SignUpViewController.performSignUp]
    split
    · next filled => exact .inl ⟨filled, .createUser _ _ _, ⟨rfl, filled.1⟩, rfl⟩
    · next unfilled => exact .inr (.inl ⟨unfilled, trivial, _, _, rfl⟩)
  | reset =>
    simp only [submission, ResetPasswordViewController.resetpassword]
    split
    · next filled => exact .inl ⟨filled, .passwordReset _, ⟨rfl, trivial⟩, rfl⟩
    · next unfilled => exact .inr (.inr ⟨unfilled, nofun, _, _, rfl⟩)

theorem submitTapped_eq (kind : AuthScreen) (text : Field → String) :
    kind.submitTapped text = kind.submission text ++ kind.moveBack := by
  cases kind
  · rfl
  · exact (List.append_nil _).symm
  · exact (List.append_nil _).symm

/-- The return key submits in the last field and otherwise at most moves the focus. -/
theorem textFieldShouldReturn_cases (kind : AuthScreen) (field : Field) (text : Field → String) :
    (¬ (field = kind.lastField ∧ text field ≠ "") ∧ (kind.textFieldShouldReturn field text = [] ∨
      ∃ next, kind.textFieldShouldReturn field text =
        [.resignFirstResponder field, .becomeFirstResponder next])) ∨
    ((field = kind.lastField ∧ text field ≠ "") ∧ kind.textFieldShouldReturn field text =
      .resignFirstResponder field :: (kind.moveBack ++ kind.submission text)) := by
  by_cases empty : text field = ""
  · refine .inl ⟨fun both => both.2 empty, .inl ?_⟩
    cases kind <;>
      simp only [textFieldShouldReturn, SignInViewController.textFieldShouldReturn,
        SignUpViewController.textFieldShouldReturn, ResetPasswordViewController.textFieldShouldReturn,
        if_pos empty]
  · cases kind <;>
      simp only [textFieldShouldReturn, SignInViewController.textFieldShouldReturn,
        SignUpViewController.textFieldShouldReturn, ResetPasswordViewController.textFieldShouldReturn,
        if_neg empty]
    case signIn =>
      cases field
      · exact .inl ⟨nofun, .inl rfl⟩
      · exact .inl ⟨nofun, .inr ⟨_, rfl⟩⟩
      · exact .inr ⟨⟨rfl, empty⟩, rfl⟩
    case signUp =>
      cases field
      · exact .inl ⟨nofun, .inr ⟨_, rfl⟩⟩
      · exact .inl ⟨nofun, .inr ⟨_, rfl⟩⟩
      · exact .inr ⟨⟨rfl, empty⟩, rfl⟩
    case reset =>
      cases field
      · exact .inl ⟨nofun, .inl rfl⟩
      · exact .inr ⟨⟨rfl, empty⟩, rfl⟩
      · exact .inl ⟨nofun, .inl rfl⟩

end AuthScreen

namespace FormScreen

/-- Segues, alerts and the stored name do not concern the screen's own view. -/
def apply (screen : FormScreen) : Effect → FormScreen
  | .showLoadingAnimation => { screen with loadingView := screen.loadingView.showOn screen.originY }
  | .hiddenLoadingAnimation => { screen with loadingView := screen.loadingView.hide }
  | .setOriginY y => { screen with originY := y }
  | .resignFirstResponder field =>
      if screen.firstResponder = some field then { screen with firstResponder := none } else screen
  | .becomeFirstResponder field => { screen with firstResponder := some field }
  | .endEditing => { screen with firstResponder := none }
  | .send request => { screen with requests := screen.requests.issue request }
  | _ => screen

def perform (screen : FormScreen) (effects : List Effect) : FormScreen := effects.foldl apply screen

def initial (kind : AuthScreen) : FormScreen :=
  perform ⟨kind, 0, none, fun _ => "", .initial, .empty⟩ kind.viewDidLoad

/-- The calls made by the callback an event leads to. -/
def callback (screen : FormScreen) : ScreenEvent → List Effect
  | .keyboardNotification => screen.kind.keyboardNotification
  | .focused _ | .edited _ _ => []
  | .submitTapped => screen.kind.submitTapped screen.text
  | .returnPressed field => screen.kind.textFieldShouldReturn field screen.text
  | .touchesBegan => screen.kind.touchesBegan
  | .facebookCompleted outcome held => SignInViewController.loginButton outcome (outcome.current held)
  | .completed id error =>
      match screen.requests.find? id with
      | some request => request.callback error
      | none => []

/-- What the event itself changes before the callback runs. Only the sign-in screen has a Facebook
button, and a completion is called for a request in flight only. -/
def received? (screen : FormScreen) : ScreenEvent → Option FormScreen
  | .focused field => some { screen with firstResponder := field }
  | .edited field text => some { screen with text := Function.update screen.text field text }
  | .facebookCompleted _ _ => if screen.kind = .signIn then some screen else none
  | .completed id _ =>
      if (screen.requests.find? id).isSome then
        some { screen with requests := screen.requests.close id }
      else none
  | _ => some screen

def step? (screen : FormScreen) (event : ScreenEvent) : Option FormScreen :=
  (screen.received? event).map fun received => received.perform (screen.callback event)

/-- The screen as a machine over its events. -/
def machine (kind : AuthScreen) : Machine.System FormScreen ScreenEvent := ⟨initial kind, step?⟩

theorem step?_eq_some_iff {screen target : FormScreen} {event : ScreenEvent} :
    screen.step? event = some target ↔ ∃ received, screen.received? event = some received ∧
      received.perform (screen.callback event) = target := Option.map_eq_some_iff

@[simp] theorem perform_cons (screen : FormScreen) (effect : Effect) (rest : List Effect) :
    screen.perform (effect :: rest) = (screen.apply effect).perform rest := rfl

theorem perform_append (screen : FormScreen) (first second : List Effect) :
    screen.perform (first ++ second) = (screen.perform first).perform second := List.foldl_append

theorem apply_kind (screen : FormScreen) (effect : Effect) : (screen.apply effect).kind = screen.kind := by
  cases effect <;> simp only [apply]
  split <;> rfl

theorem perform_kind (screen : FormScreen) (effects : List Effect) :
    (screen.perform effects).kind = screen.kind := by
  induction effects generalizing screen with
  | nil => rfl
  | cons effect rest ih => rw [perform_cons, ih, apply_kind]

theorem received?_kind {screen received : FormScreen} {event : ScreenEvent}
    (first : screen.received? event = some received) : received.kind = screen.kind := by
  cases event <;> simp only [received?, Option.some.injEq, Option.ite_none_right_eq_some] at first
  case facebookCompleted => rw [← first.2]
  case completed => rw [← first.2]
  all_goals rw [← first]

/-- A screen never turns into another one. -/
theorem step?_kind {screen target : FormScreen} {event : ScreenEvent}
    (step : screen.step? event = some target) : target.kind = screen.kind := by
  obtain ⟨received, first, rfl⟩ := step?_eq_some_iff.mp step
  rw [perform_kind, received?_kind first]

/-- The offset at which a callback puts its overlay up: on the sign-in screen the return key moves
the view back before it submits, the button only afterwards. -/
def shownAt (screen : FormScreen) : ScreenEvent → ℚ
  | .returnPressed _ => if screen.kind = .signIn then 0 else screen.originY
  | _ => screen.originY

/-- The form's own events, its button and the return key. -/
def fromForm : ScreenEvent → Bool
  | .submitTapped | .returnPressed _ => true
  | _ => false

def completes : ScreenEvent → Bool
  | .completed _ _ => true
  | _ => false

/-- The event starts the screen's flow: the button, or the return key in the last field when that
field is not empty. -/
def Submits (screen : FormScreen) : ScreenEvent → Prop
  | .submitTapped => True
  | .returnPressed field => field = screen.kind.lastField ∧ screen.text field ≠ ""
  | _ => False

/-- The event puts an overlay up: a filled form that is submitted, any submission of the sign-up
screen, a Facebook callback that finds a token, and the completion of a Facebook request. -/
def PutsUpOverlay (screen : FormScreen) (event : ScreenEvent) : Prop :=
  match event with
  | .submitTapped | .returnPressed _ => screen.Submits event ∧ (screen.kind = .signUp ∨ screen.kind.Filled screen.text)
  | .facebookCompleted outcome held => outcome.current held ≠ none
  | .completed id _ => ∃ entry ∈ screen.requests.entries, entry.1 = id ∧ entry.2.fromForm = false
  | .keyboardNotification | .focused _ | .edited _ _ | .touchesBegan => False

instance (screen : FormScreen) : ∀ event, Decidable (screen.Submits event)
  | .submitTapped => .isTrue trivial
  | .returnPressed _ => inferInstanceAs (Decidable (_ ∧ _))
  | .keyboardNotification | .focused _ | .edited _ _ | .touchesBegan | .facebookCompleted _ _
  | .completed _ _ => .isFalse id

instance (screen : FormScreen) : ∀ event, Decidable (screen.PutsUpOverlay event)
  | .submitTapped | .returnPressed _ => inferInstanceAs (Decidable (_ ∧ _))
  | .facebookCompleted _ _ => inferInstanceAs (Decidable (_ ≠ _))
  | .completed _ _ => inferInstanceAs (Decidable (∃ entry ∈ _, _))
  | .keyboardNotification | .focused _ | .edited _ _ | .touchesBegan => .isFalse id

/-- What one callback does to the overlays and to the requests in flight, with the event that can
cause it. There is no other way for either to change. -/
inductive Change (screen : FormScreen) (event : ScreenEvent) (target : FormScreen) : Prop
  | quiet (silent : ¬ screen.PutsUpOverlay event)
      (view : target.loadingView = screen.loadingView) (requests : target.requests = screen.requests)
  | sent (request : Request) (shows : screen.PutsUpOverlay event) (fresh : completes event = false)
      (source : fromForm event = request.fromForm)
      (filled : request.fromForm = true → screen.kind.Filled screen.text)
      (view : target.loadingView = screen.loadingView.showOn (screen.shownAt event))
      (requests : target.requests = screen.requests.issue request)
  | refused (shows : screen.PutsUpOverlay event) (form : fromForm event = true)
      (unfilled : ¬ screen.kind.Filled screen.text)
      (view : target.loadingView = (screen.loadingView.showOn (screen.shownAt event)).hide)
      (requests : target.requests = screen.requests)
  | settled (id : ℕ) (request : Request) (found : (id, request) ∈ screen.requests.entries)
      (silent : ¬ screen.PutsUpOverlay event) (source : request.fromForm = true)
      (view : target.loadingView = screen.loadingView.hide)
      (requests : target.requests = screen.requests.close id)
  | facebookSettled (id : ℕ) (tokenString : String) (named : event = .completed id none)
      (found : (id, .facebook tokenString) ∈ screen.requests.entries)
      (shows : screen.PutsUpOverlay event)
      (view : target.loadingView = screen.loadingView.hide.showOn screen.originY)
      (requests : target.requests = screen.requests.close id)
  | facebookRefused (id : ℕ) (tokenString : String) (error : NSError)
      (named : event = .completed id (some error))
      (found : (id, .facebook tokenString) ∈ screen.requests.entries)
      (shows : screen.PutsUpOverlay event)
      (view : target.loadingView = screen.loadingView.showOn screen.originY)
      (requests : target.requests = screen.requests.close id)

variable {screen target : FormScreen} {event : ScreenEvent}

/-- The state after an event whose callback makes the given calls. -/
theorem eq_perform_of_step? {received : FormScreen} {calls : List Effect}
    (step : screen.step? event = some target) (first : screen.received? event = some received)
    (made : screen.callback event = calls) : target = received.perform calls := by
  obtain ⟨other, same, rfl⟩ := step?_eq_some_iff.mp step
  rw [← made, Option.some.inj (first.symm.trans same)]

/-- The calls that change the overlays or the requests. -/
def concerns : Effect → Bool
  | .showLoadingAnimation | .hiddenLoadingAnimation | .send _ => true
  | _ => false

theorem perform_plain {effects : List Effect} (plain : ∀ effect ∈ effects, concerns effect = false) :
    (screen.perform effects).loadingView = screen.loadingView ∧
      (screen.perform effects).requests = screen.requests := by
  induction effects generalizing screen with
  | nil => exact ⟨rfl, rfl⟩
  | cons effect rest ih =>
    obtain ⟨head, tail⟩ := List.forall_mem_cons.mp plain
    have same : (screen.apply effect).loadingView = screen.loadingView ∧
        (screen.apply effect).requests = screen.requests := by
      cases effect <;> first | exact ⟨rfl, rfl⟩ | contradiction | skip
      simp only [apply]
      split <;> exact ⟨rfl, rfl⟩
    rw [perform_cons, (ih tail).1, (ih tail).2]
    exact same

private theorem change_plain {received : FormScreen} (step : screen.step? event = some target)
    (first : screen.received? event = some received)
    (view : received.loadingView = screen.loadingView) (requests : received.requests = screen.requests)
    (plain : ∀ effect ∈ screen.callback event, concerns effect = false)
    (silent : ¬ screen.PutsUpOverlay event) : Change screen event target := by
  obtain rfl := eq_perform_of_step? step first rfl
  obtain ⟨lastView, lastRequests⟩ := received.perform_plain plain
  exact .quiet silent (lastView.trans view) (lastRequests.trans requests)

theorem perform_moveBack (screen : FormScreen) (kind : AuthScreen) :
    screen.perform kind.moveBack =
      { screen with originY := if kind = .signIn then 0 else screen.originY } := by
  unfold AuthScreen.moveBack
  split <;> rfl

theorem completes_of_fromForm (form : fromForm event = true) : completes event = false := by
  cases event <;> first | rfl | contradiction

theorem putsUpOverlay_form (form : fromForm event = true) : screen.PutsUpOverlay event ↔
    screen.Submits event ∧ (screen.kind = .signUp ∨ screen.kind.Filled screen.text) := by
  cases event <;> first | rfl | contradiction

/-- A request in flight whose completion puts an overlay up is the Facebook one. -/
theorem putsUpOverlay_completed {id : ℕ} {request : Request} (error : Option NSError)
    (found : (id, request) ∈ screen.requests.entries) :
    screen.PutsUpOverlay (.completed id error) ↔ request.fromForm = false := by
  constructor
  · rintro ⟨⟨number, other⟩, member, rfl, source⟩
    rwa [Ledger.eq_of_mem found member]
  · intro source
    exact ⟨_, found, rfl, source⟩

/-- A submission from a state that has the overlays and requests of the screen. -/
private theorem change_submission (ready : FormScreen) (form : fromForm event = true)
    (submits : screen.Submits event)
    (view : ready.loadingView = screen.loadingView) (requests : ready.requests = screen.requests)
    (offset : ready.originY = screen.shownAt event)
    (lastView : target.loadingView = (ready.perform (screen.kind.submission screen.text)).loadingView)
    (lastRequests : target.requests = (ready.perform (screen.kind.submission screen.text)).requests) :
    Change screen event target := by
  rcases screen.kind.submission_cases screen.text with
    ⟨filled, request, ⟨source, _⟩, calls⟩ | ⟨unfilled, signUp, title, message, calls⟩ |
    ⟨unfilled, other, title, message, calls⟩
  · rw [calls] at lastView lastRequests
    have shows := (putsUpOverlay_form form).mpr ⟨submits, .inr filled⟩
    refine .sent request shows (completes_of_fromForm form) (form.trans source.symm) (fun _ => filled) ?_ ?_
    · rw [lastView, ← view, ← offset]; rfl
    · rw [lastRequests, ← requests]; rfl
  · rw [calls] at lastView lastRequests
    have shows := (putsUpOverlay_form form).mpr ⟨submits, .inl signUp⟩
    refine .refused shows form unfilled ?_ ?_
    · rw [lastView, ← view, ← offset]; rfl
    · rw [lastRequests, ← requests]; rfl
  · rw [calls] at lastView lastRequests
    refine .quiet (fun shows => ?_) (lastView.trans view) (lastRequests.trans requests)
    rcases ((putsUpOverlay_form form).mp shows).2 with signUp | filled
    · exact other signUp
    · exact unfilled filled

private theorem change_submitTapped (step : screen.step? .submitTapped = some target) :
    Change screen .submitTapped target := by
  have calls := AuthScreen.submitTapped_eq screen.kind screen.text
  have result := eq_perform_of_step? step rfl calls
  rw [perform_append, perform_moveBack] at result
  exact change_submission screen rfl trivial rfl rfl rfl (by rw [result]) (by rw [result])

private theorem change_returnPressed {field : Field}
    (step : screen.step? (.returnPressed field) = some target) :
    Change screen (.returnPressed field) target := by
  rcases screen.kind.textFieldShouldReturn_cases field screen.text with
    ⟨other, calls | ⟨next, calls⟩⟩ | ⟨submits, calls⟩
  · exact change_plain step rfl rfl rfl (by simp [callback, calls]) fun shows => other shows.1
  · exact change_plain step rfl rfl rfl (by simp [callback, calls, concerns]) fun shows => other shows.1
  · have result := eq_perform_of_step? step rfl calls
    rw [perform_cons, perform_append, perform_moveBack] at result
    have resigned : ∃ responder, screen.apply (.resignFirstResponder field) =
        { screen with firstResponder := responder } := by
      simp only [apply]; split
      · exact ⟨none, rfl⟩
      · exact ⟨screen.firstResponder, rfl⟩
    obtain ⟨responder, resigned⟩ := resigned
    rw [resigned] at result
    exact change_submission
      { screen with firstResponder := responder, originY := screen.shownAt (.returnPressed field) }
      rfl submits rfl rfl rfl (congrArg loadingView result) (congrArg requests result)

private theorem change_facebookCompleted {outcome : LoginOutcome} {held : Option String}
    (step : screen.step? (.facebookCompleted outcome held) = some target) :
    Change screen (.facebookCompleted outcome held) target := by
  have signIn : screen.received? (.facebookCompleted outcome held) = some screen := by
    obtain ⟨received, first, _⟩ := step?_eq_some_iff.mp step
    simp only [received?] at first ⊢
    split at first
    · next same => rw [if_pos same]
    · contradiction
  cases current : outcome.current held with
  | none =>
    have calls : screen.callback (.facebookCompleted outcome held) = [] := by
      simp only [callback, SignInViewController.loginButton, current]
    exact change_plain step signIn rfl rfl (by simp [calls]) (by simp [PutsUpOverlay, current])
  | some tokenString =>
    have calls : screen.callback (.facebookCompleted outcome held) =
        [.showLoadingAnimation, .send (.facebook tokenString)] := by
      simp only [callback, SignInViewController.loginButton, current, SignInController.getSigninFaceBook]
    obtain rfl := eq_perform_of_step? step signIn calls
    exact .sent (.facebook tokenString) (by simp [PutsUpOverlay, current]) rfl rfl nofun rfl rfl

private theorem change_completed {id : ℕ} {error : Option NSError}
    (step : screen.step? (.completed id error) = some target) :
    Change screen (.completed id error) target := by
  obtain ⟨received, first, _⟩ := step?_eq_some_iff.mp step
  simp only [received?] at first
  split at first
  case isFalse => contradiction
  case isTrue present =>
    obtain ⟨request, found⟩ := Option.isSome_iff_exists.mp present
    have member := Ledger.mem_of_find? found
    have shows := putsUpOverlay_completed error member
    have closed : screen.received? (.completed id error) =
        some { screen with requests := screen.requests.close id } := by simp only [received?, if_pos present]
    have calls : screen.callback (.completed id error) = request.callback error := by
      simp only [callback, found]
    have result := eq_perform_of_step? step closed calls
    cases request with
    | facebook tokenString =>
      cases error with
      | none =>
        exact .facebookSettled id tokenString rfl member (shows.mpr rfl) (by rw [result]; rfl)
          (by rw [result]; rfl)
      | some error =>
        exact .facebookRefused id tokenString error rfl member (shows.mpr rfl) (by rw [result]; rfl)
          (by rw [result]; rfl)
    | signIn email password =>
      refine .settled id _ member (fun shown => absurd (shows.mp shown) nofun) rfl ?_ ?_
      · rw [result]; cases error <;> rfl
      · rw [result]; cases error <;> rfl
    | createUser username email password =>
      refine .settled id _ member (fun shown => absurd (shows.mp shown) nofun) rfl ?_ ?_
      · rw [result]; cases error <;> rfl
      · rw [result]; cases error <;> rfl
    | passwordReset email =>
      refine .settled id _ member (fun shown => absurd (shows.mp shown) nofun) rfl ?_ ?_
      · rw [result]; cases error <;> rfl
      · rw [result]; cases error <;> rfl

/-- Every step of a screen is one of the changes. -/
theorem step?_change (step : screen.step? event = some target) : Change screen event target := by
  cases event with
  | keyboardNotification =>
    refine change_plain step rfl rfl rfl ?_ id
    cases kind : screen.kind <;> simp [callback, kind, AuthScreen.keyboardNotification,
      SignInViewController.keyboardWillChange, concerns]
  | focused field => exact change_plain step rfl rfl rfl (by simp [callback]) id
  | edited field text => exact change_plain step rfl rfl rfl (by simp [callback]) id
  | submitTapped => exact change_submitTapped step
  | returnPressed field => exact change_returnPressed step
  | touchesBegan =>
    refine change_plain step rfl rfl rfl ?_ id
    cases kind : screen.kind <;> simp [callback, kind, AuthScreen.touchesBegan,
      SignInViewController.touchesBegan, SignUpViewController.touchesBegan,
      ResetPasswordViewController.touchesBegan, concerns]
  | facebookCompleted outcome held => exact change_facebookCompleted step
  | completed id error => exact change_completed step

/-- Submitting a filled form sends a request and puts an overlay up. -/
theorem step?_of_filled (submits : screen.Submits event) (form : fromForm event = true)
    (filled : screen.kind.Filled screen.text) (step : screen.step? event = some target) :
    ∃ request, request.fromForm = true ∧ target.requests = screen.requests.issue request ∧
      target.loadingView = screen.loadingView.showOn (screen.shownAt event) := by
  have shows := (putsUpOverlay_form form).mpr ⟨submits, .inr filled⟩
  cases step?_change step with
  | quiet silent _ _ => exact absurd shows silent
  | sent request _ _ source _ view requests => exact ⟨request, source.symm.trans form, requests, view⟩
  | refused _ _ unfilled _ _ => exact absurd filled unfilled
  | settled _ _ _ silent _ _ _ => exact absurd shows silent
  | facebookSettled _ _ named _ _ _ _ => rw [named] at form; contradiction
  | facebookRefused _ _ _ named _ _ _ _ => rw [named] at form; contradiction

/-- The calls that move the view anywhere else than to the origin. -/
def movesAway : Effect → Bool
  | .setOriginY y => y ≠ 0
  | _ => false

private theorem perform_originY {effects : List Effect} (start : screen.originY = 0)
    (back : ∀ effect ∈ effects, movesAway effect = false) : (screen.perform effects).originY = 0 := by
  induction effects generalizing screen with
  | nil => exact start
  | cons effect rest ih =>
    obtain ⟨head, tail⟩ := List.forall_mem_cons.mp back
    rw [perform_cons]
    refine ih ?_ tail
    cases effect <;> simp only [apply] <;> try exact start
    case setOriginY y => simpa [movesAway] using head
    case resignFirstResponder => split <;> exact start

private theorem not_movesAway_submission (kind : AuthScreen) (text : Field → String) :
    ∀ effect ∈ kind.submission text ++ kind.moveBack, movesAway effect = false := by
  have back : ∀ effect ∈ kind.moveBack, movesAway effect = false := by
    unfold AuthScreen.moveBack
    split <;> simp [movesAway]
  have flow : ∀ effect ∈ kind.submission text, movesAway effect = false := by
    rcases kind.submission_cases text with
      ⟨_, _, _, calls⟩ | ⟨_, _, _, _, calls⟩ | ⟨_, _, _, _, calls⟩ <;>
    simp [calls, movesAway]
  intro effect member
  rcases List.mem_append.mp member with submitted | moved
  · exact flow effect submitted
  · exact back effect moved

/-- Only the keyboard notifications move a view away from its origin. -/
theorem not_movesAway_callback (fixed : screen.kind ≠ .signIn) :
    ∀ effect ∈ screen.callback event, movesAway effect = false := by
  cases event with
  | keyboardNotification =>
    cases kind : screen.kind
    · exact absurd kind fixed
    · simp [callback, kind, AuthScreen.keyboardNotification]
    · simp [callback, kind, AuthScreen.keyboardNotification]
  | focused field => exact nofun
  | edited field text => exact nofun
  | submitTapped =>
    simp only [callback, AuthScreen.submitTapped_eq]
    exact not_movesAway_submission _ _
  | returnPressed field =>
    have flow := not_movesAway_submission screen.kind screen.text
    simp only [callback]
    rcases screen.kind.textFieldShouldReturn_cases field screen.text with
      ⟨_, calls | ⟨next, calls⟩⟩ | ⟨_, calls⟩
    · simp [calls]
    · simp [calls, movesAway]
    · intro effect member
      rw [calls, List.mem_cons, List.mem_append] at member
      rcases member with rfl | moved | submitted
      · rfl
      · exact flow effect (List.mem_append_right _ moved)
      · exact flow effect (List.mem_append_left _ submitted)
  | touchesBegan =>
    cases kind : screen.kind <;> simp [callback, kind, AuthScreen.touchesBegan, movesAway,
      SignInViewController.touchesBegan, SignUpViewController.touchesBegan,
      ResetPasswordViewController.touchesBegan]
  | facebookCompleted outcome held =>
    simp only [callback, SignInViewController.loginButton, SignInController.getSigninFaceBook]
    split <;> simp [movesAway]
  | completed id error =>
    simp only [callback]
    split
    · next request _ =>
      cases request <;> cases error <;> simp [Request.callback, movesAway, AlertController.showAlert,
        SignInViewController.performSignIn.completion, SignInViewController.loginButton.completion,
        SignUpViewController.performSignUp.completion, ResetPasswordViewController.resetpassword.completion,
        SignInController.getSignin.success, SignInController.getSigninFaceBook.success,
        SignUpController.getSignUp.success, ResetController.resetPassword.success]
    · exact nofun

private theorem received?_originY {received : FormScreen}
    (first : screen.received? event = some received) : received.originY = screen.originY := by
  cases event <;> simp only [received?, Option.some.injEq, Option.ite_none_right_eq_some] at first
  case facebookCompleted => rw [← first.2]
  case completed => rw [← first.2]
  all_goals rw [← first]

/-- The sign-up and the reset screen stay at their origin. -/
theorem step?_originY (fixed : screen.kind ≠ .signIn) (start : screen.originY = 0)
    (step : screen.step? event = some target) : target.originY = 0 := by
  obtain ⟨received, first, rfl⟩ := step?_eq_some_iff.mp step
  have ready : received.originY = 0 := (received?_originY first).trans start
  exact perform_originY ready (not_movesAway_callback fixed)

end FormScreen

end LoginDN
