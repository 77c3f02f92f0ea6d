import LoginDN.Model.Settling

/-! # The Facebook token and the current user

The token is set by the Facebook login, the current user by Firebase. The callback of the login
looks at the token only, and no completion but the sign-out ever clears it. A token is in step when
the current user is the account it signed in, or when an unanswered request will sign that account
in. The condition names the events after which it may be neither: a login that ended without
success under a token held before, another account signed in over the token, a refusal that leaves
the token behind, and the end of the process while the answer is awaited.
-/

namespace LoginDN.FacebookToken

open Machine Device

/-- A Firebase sign-in with a Facebook credential comes from a login that succeeded with it. -/
def StartedBySuccess (device : Device) (event : AppEvent) : Prop :=
  ∀ tokenString, Effect.send (.facebook tokenString) ∈ device.callback event →
    ∃ controller, event = .facebookCompleted controller (.success tokenString)

/-- The current user is the account that the token signed in. -/
def Linked (device : Device) (token : String) : Prop :=
  ∃ link ∈ device.links, link.1 = token ∧ device.currentUser.map User.uid = some link.2

/-- Any token that is held is the current user's. -/
def Matched (device : Device) : Prop := ∀ token ∈ device.accessToken, Linked device token

/-- Another request than the given one will sign in with the token and has no answer yet. -/
def ExpectedBeside (device : Device) (id : ℕ) (token : String) : Prop :=
  ∃ entry ∈ device.requests.entries,
    entry.1 ≠ id ∧ entry.2.request = .facebook token ∧ entry.2.reply = none

/-- Some request in flight will sign in with the token and has no answer yet. -/
def Expected (device : Device) (token : String) : Prop :=
  ∃ entry ∈ device.requests.entries, entry.2.request = .facebook token ∧ entry.2.reply = none

/-- The answer leaves the token to the account it belongs to: an account that is signed in is the
token's own, and a refusal of the token's request finds that account already signed in. -/
def Respects (device : Device) (token : String) (request : Request) : Reply → Prop
  | .signedIn user => request = .facebook token ∨ (token, user.uid) ∈ device.links
  | .mailSent => True
  | .refused _ => request = .facebook token → Linked device token

/-- No event takes the token and the current user apart: the process ends only with the two in
step, a login ends without success only if no token is held, and while one is held an answer
respects it or a further request for it is still unanswered. -/
def InStep (device : Device) : AppEvent → Prop
  | .launch => Matched device
  | .facebookCompleted _ outcome => device.accessToken ≠ none → ∃ tokenString, outcome = .success tokenString
  | .answered id reply => ∀ token ∈ device.accessToken, ∀ entry ∈ device.requests.entries, entry.1 = id →
      ExpectedBeside device id token ∨ Respects device token entry.2.request reply
  | _ => True

instance (device : Device) (token : String) : Decidable (Linked device token) :=
  inferInstanceAs (Decidable (∃ link ∈ device.links, _))

instance (device : Device) : Decidable (Matched device) :=
  inferInstanceAs (Decidable (∀ token ∈ device.accessToken, _))

instance (device : Device) (token : String) (request : Request) :
    ∀ reply, Decidable (Respects device token request reply)
  | .signedIn _ => inferInstanceAs (Decidable (_ ∨ _))
  | .mailSent => .isTrue trivial
  | .refused _ => inferInstanceAs (Decidable (_ → _))

instance (device : Device) (id : ℕ) (token : String) : Decidable (ExpectedBeside device id token) :=
  inferInstanceAs (Decidable (∃ entry ∈ device.requests.entries, _))

instance : ∀ outcome : LoginOutcome, Decidable (∃ tokenString, outcome = .success tokenString)
  | .success tokenString => .isTrue ⟨tokenString, rfl⟩
  | .cancelled | .failed _ => .isFalse nofun

instance (device : Device) : ∀ event, Decidable (InStep device event)
  | .launch => inferInstanceAs (Decidable (Matched device))
  | .facebookCompleted _ _ => inferInstanceAs (Decidable (_ → _))
  | .answered _ _ => inferInstanceAs (Decidable (∀ token ∈ device.accessToken, ∀ entry ∈ _, _))
  | .signInSubmitted _ _ | .signUpSubmitted _ _ _ | .resetSubmitted _ | .facebookTapped
  | .facebookLoggedOut | .showSignUp | .showReset | .backSignIn | .dismissAlert | .openDetail
  | .closeDetail | .signOutTapped _ | .completed _ => .isTrue trivial

/-- Every held token is in step with the current user. -/
def Steady (device : Device) : Prop :=
  ∀ token ∈ device.accessToken, Linked device token ∨ Expected device token

/-- A token is held that no answer to come can bring in step. -/
def Adrift (device : Device) : Prop :=
  ∃ token ∈ device.accessToken, ¬ Linked device token ∧ ¬ Expected device token

theorem steady_initial : Steady machine.initial := by
  intro token held
  have none : machine.initial.accessToken = Option.none := rfl
  rw [none] at held
  contradiction

variable {device target : Device} {event : AppEvent}

section Callbacks

variable {tokenString : String}

private theorem not_sends_submission (kind : AuthScreen) (text : Field → String) :
    Effect.send (.facebook tokenString) ∉ kind.submission text := by
  rcases kind.submission_cases text with
    ⟨_, request, ⟨source, _⟩, calls⟩ | ⟨_, _, title, message, calls⟩ | ⟨_, _, title, message, calls⟩
  · rw [calls]
    rintro (_ | ⟨_, _ | ⟨_, ⟨⟩⟩⟩)
    contradiction
  · simp [calls]
  · simp [calls]

private theorem not_sends_callback (request : Request) (error : Option NSError) :
    Effect.send (.facebook tokenString) ∉ request.callback error := by
  cases request <;> cases error <;> simp [Request.callback, AlertController.showAlert,
    SignInViewController.performSignIn.completion, SignInViewController.loginButton.completion,
    SignUpViewController.performSignUp.completion, ResetPasswordViewController.resetpassword.completion,
    SignInController.getSignin.success, SignInController.getSigninFaceBook.success,
    SignUpController.getSignUp.success, ResetController.resetPassword.success]

/-- Only the login's callback sends such a request, with the token that is current then. -/
theorem sends_facebook_iff : Effect.send (.facebook tokenString) ∈ device.callback event ↔
    ∃ controller outcome, event = .facebookCompleted controller outcome ∧
      outcome.current device.accessToken = some tokenString := by
  constructor
  · intro sends
    cases event with
    | signInSubmitted email password => exact absurd sends (not_sends_submission .signIn (typed "" email password))
    | signUpSubmitted username email password =>
      exact absurd sends (not_sends_submission .signUp (typed username email password))
    | resetSubmitted email => exact absurd sends (not_sends_submission .reset (typed "" email ""))
    | facebookCompleted controller outcome =>
      refine ⟨controller, outcome, rfl, ?_⟩
      simp only [callback, SignInViewController.loginButton] at sends
      cases current : outcome.current device.accessToken with
      | none => simp [current] at sends
      | some other =>
        have same : tokenString = other := by
          simpa [current, SignInController.getSigninFaceBook] using sends
        rw [same]
    | completed id =>
      simp only [callback] at sends
      split at sends
      · next pending _ =>
        simp only [Pending.callback] at sends
        split at sends
        · exact absurd sends (not_sends_callback _ _)
        · contradiction
      · contradiction
    | signOutTapped thrown => cases thrown <;> simp [callback, SignOutViewController.signOutTappedNews] at sends
    | backSignIn =>
      rw [callback_backSignIn] at sends
      contradiction
    | _ => simp [callback, AppDelegate.didFinishLaunching, SignInViewController.loginButtonDidLogOut] at sends
  · rintro ⟨controller, outcome, rfl, current⟩
    simp [callback, SignInViewController.loginButton, SignInController.getSigninFaceBook, current]

/-- A step that meets the condition starts a sign-in after a success only. -/
theorem startedBySuccess_of_inStep (inStep : InStep device event) : StartedBySuccess device event := by
  intro tokenString sends
  obtain ⟨controller, outcome, rfl, current⟩ := sends_facebook_iff.mp sends
  refine ⟨controller, ?_⟩
  by_cases held : device.accessToken = none
  · cases outcome with
    | success other => rw [Option.some.inj current]
    | cancelled => exact absurd (held.symm.trans current) nofun
    | failed error => exact absurd (held.symm.trans current) nofun
  · obtain ⟨other, rfl⟩ := inStep held
    rw [Option.some.inj current]

end Callbacks

/-- Requests that are added or still unanswered keep a token expected. -/
private theorem Expected.mono {requests : Ledger Pending} {token : String} (expected : Expected device token)
    (kept : ∀ entry ∈ device.requests.entries, entry.2.reply = none → entry ∈ requests.entries) :
    ∃ entry ∈ requests.entries, entry.2.request = .facebook token ∧ entry.2.reply = none := by
  obtain ⟨entry, member, request, unanswered⟩ := expected
  exact ⟨entry, kept entry member unanswered, request, unanswered⟩

private theorem kept_close {id : ℕ} {pending : Pending} {reply : Reply}
    (found : (id, pending) ∈ device.requests.entries) (replied : pending.reply = some reply) :
    ∀ entry ∈ device.requests.entries, entry.2.reply = none → entry ∈ (device.requests.close id).entries := by
  rintro ⟨number, other⟩ member unanswered
  refine Ledger.mem_close.mpr ⟨member, ?_⟩
  rintro rfl
  obtain rfl := Ledger.eq_of_mem found member
  rw [replied] at unanswered
  contradiction

section Answers

variable {id : ℕ} {pending : Pending} {reply : Reply} {token : String}

private theorem expected_answer (found : (id, pending) ∈ device.requests.entries)
    (fits : reply.Fits pending.request) :
    Expected (device.answer id pending reply fits) token ↔ ExpectedBeside device id token := by
  constructor
  · rintro ⟨⟨number, other⟩, member, request, unanswered⟩
    rcases (Ledger.mem_revise found).mp member with ⟨_, rfl⟩ | ⟨different, old⟩
    · contradiction
    · exact ⟨(number, other), old, different, request, unanswered⟩
  · rintro ⟨⟨number, other⟩, member, different, request, unanswered⟩
    exact ⟨(number, other), (Ledger.mem_revise found).mpr (.inr ⟨different, member⟩), request, unanswered⟩

/-- Without an account an answer links nothing and signs nobody in. -/
private theorem linked_answer_none (none : reply.user = none) (fits : reply.Fits pending.request) :
    Linked (device.answer id pending reply fits) token ↔ Linked device token := by
  simp [Linked, answer, none, link?_none _ none]

private theorem linked_answer_signedIn {user : User} (fits : (Reply.signedIn user).Fits pending.request) :
    Linked (device.answer id pending (.signedIn user) fits) token ↔
      pending.request = .facebook token ∨ (token, user.uid) ∈ device.links := by
  cases request : pending.request <;>
    simp [Linked, answer, link?, request, Reply.user, eq_comm, and_comm]

/-- An answer that respects the token leaves it the current user's, or a further one will. -/
private theorem steady_answered (found : (id, pending) ∈ device.requests.entries)
    (fits : reply.Fits pending.request) (steady : Linked device token ∨ Expected device token)
    (inStep : ExpectedBeside device id token ∨ Respects device token pending.request reply) :
    Linked (device.answer id pending reply fits) token ∨
      Expected (device.answer id pending reply fits) token := by
  rw [expected_answer found]
  rcases inStep with beside | respects
  · exact .inr beside
  cases reply with
  | signedIn user => exact .inl ((linked_answer_signedIn fits).mpr respects)
  | mailSent | refused error =>
    rw [linked_answer_none rfl]
    rcases steady with linked | ⟨⟨number, other⟩, member, request, unanswered⟩
    · exact .inl linked
    · by_cases same : number = id
      · subst same
        obtain rfl := Ledger.eq_of_mem found member
        first
          | exact .inl (respects request)
          | rw [request] at fits; contradiction
      · exact .inr ⟨(number, other), member, same, request, unanswered⟩

/-- An answer that does not respect the token, and that no further one can repair. -/
private theorem adrift_answered (found : (id, pending) ∈ device.requests.entries)
    (fits : reply.Fits pending.request) (held : device.accessToken = some token)
    (alone : ¬ ExpectedBeside device id token) (breaks : ¬ Respects device token pending.request reply) :
    Adrift (device.answer id pending reply fits) := by
  refine ⟨token, held, ?_, fun expected => alone ((expected_answer found fits).mp expected)⟩
  cases reply with
  | signedIn user => rwa [linked_answer_signedIn]
  | mailSent => exact absurd trivial breaks
  | refused error =>
    rw [linked_answer_none rfl]
    exact (Classical.not_imp.mp breaks).2

end Answers

/-- Every step that meets the condition keeps the token in step with the current user. -/
theorem steady_step (steady : Steady device) (inStep : InStep device event)
    (step : device.step? event = some target) : Steady target := by
  cases step?_change step with
  | launched => exact fun token held => .inl (inStep token held)
  | moved _ _ window keeps => exact steady
  | tapped => exact steady
  | sent _ _ request source named =>
    intro token held
    refine (steady token held).imp_right fun expected => ?_
    exact expected.mono fun entry member _ => List.mem_append_left _ member
  | facebookCalled controller outcome caller requests issued =>
    intro token held
    obtain ⟨tokenString, rfl⟩ : ∃ tokenString, outcome = .success tokenString := by
      by_cases before : device.accessToken = none
      · cases outcome with
        | success tokenString => exact ⟨tokenString, rfl⟩
        | cancelled => exact absurd (before.symm.trans held) nofun
        | failed error => exact absurd (before.symm.trans held) nofun
      · exact inStep before
    obtain rfl := Option.some.inj held
    refine .inr ⟨(device.requests.next, .sent controller (.facebook tokenString)), ?_, rfl, rfl⟩
    rw [issued]
    exact List.mem_append_right _ (.head _)
  | facebookLeft => exact nofun
  | signedOut => exact nofun
  | answered id pending reply found unanswered admits =>
    intro token held
    exact steady_answered found admits.fits (steady token held) (inStep token held _ found rfl)
  | arrived id pending reply user found replied signedIn =>
    intro token held
    exact (steady token held).imp_right fun expected => expected.mono (kept_close found replied)
  | reported id pending reply window found replied refused alert =>
    intro token held
    exact (steady token held).imp_right fun expected => expected.mono (kept_close found replied)

/-- A step that breaks the condition starts a sign-in without a success, or sets the token adrift. -/
theorem adrift_step (breaks : ¬ InStep device event) (step : device.step? event = some target) :
    ¬ StartedBySuccess device event ∨ Adrift target := by
  cases event with
  | launch =>
    right
    simp only [InStep, Matched, not_forall, exists_prop] at breaks
    obtain ⟨token, held, unlinked⟩ := breaks
    obtain rfl := Option.some.inj step
    exact ⟨token, held, unlinked, nofun⟩
  | facebookCompleted controller outcome =>
    left
    obtain ⟨held, unsuccessful⟩ := Classical.not_imp.mp breaks
    obtain ⟨token, before⟩ := Option.ne_none_iff_exists'.mp held
    intro started
    have current : outcome.current device.accessToken = some token := by
      cases outcome with
      | success tokenString => exact absurd ⟨tokenString, rfl⟩ unsuccessful
      | cancelled => exact before
      | failed error => exact before
    obtain ⟨other, same⟩ := started token (sends_facebook_iff.mpr ⟨controller, outcome, rfl, current⟩)
    exact unsuccessful ⟨token, (AppEvent.facebookCompleted.inj same).2⟩
  | answered id reply =>
    right
    simp only [InStep, not_forall, not_or, exists_prop] at breaks
    obtain ⟨token, held, ⟨number, pending⟩, member, rfl, alone, breaks⟩ := breaks
    cases step?_change step with
    | moved _ user _ _ => contradiction
    | sent _ user _ _ _ => contradiction
    | answered _ other _ found unanswered admits =>
      obtain rfl := Ledger.eq_of_mem found member
      exact adrift_answered found admits.fits held alone breaks
  | _ => exact absurd trivial breaks

/-- In every run whose steps all keep the token in step, Firebase sign-ins with a Facebook credential
come from successful logins only, and with nothing in flight a token that is held is the current
user's. The condition cannot be weakened: a step that breaks it starts a sign-in without a success,
or answers and completions alone lead to a state with nothing in flight and a foreign token. -/
theorem sessions_stay_together (events : List AppEvent) (device : Device)
    (reached : machine.Reaches events device) (inStep : machine.Along InStep machine.initial events) :
    machine.Along StartedBySuccess machine.initial events ∧
      (device.requests.entries = [] → Matched device) ∧
      ∀ event target, machine.step? device event = some target → ¬ InStep device event →
        ¬ StartedBySuccess device event ∨ ∃ more final, (∀ event ∈ more, event.settles = true) ∧
          machine.run? target more = some final ∧ final.requests.entries = [] ∧ ¬ Matched final := by
  have steady : Steady device :=
    reached.invariant_along steady_initial (fun _ _ _ => steady_step) inStep
  refine ⟨inStep.mono fun _ _ => startedBySuccess_of_inStep, fun idle token held => ?_,
    fun event target step breaks => ?_⟩
  · rcases steady token held with linked | ⟨entry, member, _⟩
    · exact linked
    · rw [idle] at member
      contradiction
  · refine (adrift_step breaks step).imp_right ?_
    rintro ⟨token, held, unlinked, _⟩
    obtain ⟨more, final, answers, run, idle, same⟩ := exists_settled target
    refine ⟨more, final, answers, run, idle, fun matched => unlinked ?_⟩
    have linked := matched token (same.accessToken.trans held)
    simpa only [Linked, same.links, same.currentUser] using linked

/-- A Facebook login that Firebase accepts. -/
theorem sessions_together_after_login : ∃ device, machine.Reaches
    [.facebookTapped, .facebookCompleted 1 (.success "token"), .answered 0 (.signedIn ⟨"ana", some "Ana"⟩),
      .completed 0] device ∧ device.accessToken = some "token" ∧ Matched device := by
  refine ⟨_, rfl, rfl, ?_⟩
  exact (sessions_stay_together
    [.facebookTapped, .facebookCompleted 1 (.success "token"), .answered 0 (.signedIn ⟨"ana", some "Ana"⟩),
      .completed 0] _ rfl (by decide +kernel)).2.1 rfl

/-- Firebase refuses the credential of a successful login, and the token stays with nobody signed in. The
button offers a further login only when that token has expired; cancelled, it starts a sign-in with it. -/
theorem token_left_behind :
    (∃ device, machine.Reaches
      [.facebookTapped, .facebookCompleted 1 (.success "token"), .answered 0 (.refused ⟨"refused"⟩),
        .completed 0, .facebookTapped] device ∧ device.requests.entries = [] ∧ ¬ Matched device ∧
      ¬ StartedBySuccess device (.facebookCompleted 1 .cancelled)) := by
  refine ⟨_, rfl, rfl, by decide +kernel, fun started => ?_⟩
  obtain ⟨controller, same⟩ := started "token" (.tail _ (.head _))
  cases same

end LoginDN.FacebookToken
