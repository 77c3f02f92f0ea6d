import LoginDN.Model.Retyping

/-! # The name on the profile screen

A user name is stored under one key for the whole device and never removed, so what the profile
falls back on is the name of the last sign-up that completed. That is the current account's name
only if the account is the one that signed up last. Other accounts' names can be replaced in the
whole history of the device without changing anything the current account did; exactly when the
condition fails, some replacement makes the profile show a wrong name.
-/

namespace LoginDN.ProfileName

open Machine Device

/-- The display name of the current account, unless it is empty. -/
def filledName (device : Device) : Option String :=
  (device.currentUser.bind User.displayName).filter (· ≠ "")

/-- The sign-up of the current account on this device, if there was one. -/
def ownSignUp (device : Device) : Option SignUp :=
  device.currentUser.bind fun user => device.signUps.find? fun signUp => signUp.uid == user.uid

/-- The name the profile ought to show: the display name, else the user name typed when this same
account signed up here, else none. -/
def expectedName (device : Device) : Option String :=
  (filledName device).or ((ownSignUp device).map SignUp.username)

/-- The account has a display name, or the name stored last is that of its own sign-up: neither
exists if it has not signed up here. -/
def Owns (device : Device) : Prop :=
  filledName device ≠ none ∨ device.stored.head? = ownSignUp device

instance (device : Device) : Decidable (Owns device) := inferInstanceAs (Decidable (_ ∨ _))

/-- A retyping that leaves the user names alone that the current account typed. -/
def KeepsOwn (retyping : Retyping) (device : Device) : Prop :=
  ∀ signUp ∈ device.signUps, device.currentUser.map User.uid = some signUp.uid →
    ∀ username, retyping.name signUp.request username = username

/-- In every run that differs only in the user names of other accounts, the profile shows the name
it ought to show. -/
def NameIsOwn (events : List AppEvent) (device : Device) : Prop :=
  ∀ retyping : Retyping, KeepsOwn retyping device →
    ∀ other, machine.Reaches (retyping.run events) other → shownName other = expectedName other

theorem shownName_eq (device : Device) :
    shownName device = (filledName device).or (device.defaults "username") := by
  unfold shownName SignOutViewController.viewDidLoad filledName
  cases device.currentUser.bind User.displayName with
  | none => rfl
  | some username =>
    by_cases empty : username = ""
    · simp [Option.filter, empty]
    · simp [Option.filter, empty]

/-- What the histories say of each other and of UserDefaults, in every run. -/
structure Filed (device : Device) : Prop where
  stored : device.defaults "username" = device.stored.head?.map SignUp.username
  signedUp : ∀ signUp ∈ device.stored, signUp ∈ device.signUps
  answered : ∀ id pending, (id, pending) ∈ device.requests.entries → ∀ reply, pending.reply = some reply →
    ∀ signUp, signUp? id pending.request reply = some signUp → signUp ∈ device.signUps
  settled : ∀ signUp ∈ device.signUps, signUp.request < device.requests.next ∧
    ∀ pending, (signUp.request, pending) ∈ device.requests.entries → pending.reply ≠ none
  known : ∀ signUp ∈ device.signUps, signUp.uid ∈ device.accounts
  typed : ∀ entry ∈ device.requests.entries, entry.2.request.Named
  named : ∀ signUp ∈ device.signUps, signUp.username ≠ ""
  oneRequest : ∀ signUp ∈ device.signUps, ∀ other ∈ device.signUps,
    signUp.request = other.request → signUp = other
  oneAccount : ∀ signUp ∈ device.signUps, ∀ other ∈ device.signUps, signUp.uid = other.uid → signUp = other

variable {device target : Device} {event : AppEvent}

theorem filed_initial : Filed machine.initial :=
  ⟨rfl, nofun, nofun, nofun, nofun, nofun, nofun, nofun, nofun⟩

/-- A request that is sent has no answer and a number of its own. -/
private theorem Filed.issue (filed : Filed device) (owner : ℕ) (request : Request)
    (named : request.Named) :
    Filed { device with requests := device.requests.issue (.sent owner request) } := by
  refine ⟨filed.stored, filed.signedUp, fun id pending member reply replied => ?_,
    fun signUp member => ⟨?_, fun pending found => ?_⟩, filed.known, fun entry member => ?_, filed.named,
    filed.oneRequest, filed.oneAccount⟩
  · rcases Ledger.mem_issue.mp member with old | ⟨_, rfl⟩
    · exact filed.answered id pending old reply replied
    · contradiction
  · exact Nat.lt_succ_of_lt (filed.settled signUp member).1
  · have bound := (filed.settled signUp member).1
    rcases Ledger.mem_issue.mp found with old | ⟨same, _⟩
    · exact (filed.settled signUp member).2 pending old
    · omega
  · rcases List.mem_append.mp member with old | new
    · exact filed.typed entry old
    · obtain rfl := List.mem_singleton.mp new
      exact named

/-- A completed request stores the sign-up it was answered with. -/
private theorem Filed.close (filed : Filed device) {id : ℕ} {pending : Pending} {reply : Reply}
    (found : (id, pending) ∈ device.requests.entries) (replied : pending.reply = some reply)
    (window : Window) :
    Filed { device with
      window := window
      requests := device.requests.close id
      defaults := storeName device.defaults (signUp? id pending.request reply)
      stored := (signUp? id pending.request reply).toList ++ device.stored } := by
  refine ⟨?_, fun signUp member => ?_, fun number other member => ?_, fun signUp member => ⟨?_, ?_⟩,
    filed.known, fun entry member => filed.typed entry (Ledger.mem_close.mp member).1, filed.named,
    filed.oneRequest, filed.oneAccount⟩
  · cases signUp? id pending.request reply with
    | none => exact filed.stored
    | some signUp => simp [storeName]
  · rcases List.mem_append.mp member with last | old
    · exact filed.answered id pending found reply replied signUp (Option.mem_toList.mp last)
    · exact filed.signedUp signUp old
  · exact filed.answered number other (Ledger.mem_close.mp member).1
  · exact (filed.settled signUp member).1
  · intro other kept
    exact (filed.settled signUp member).2 other (Ledger.mem_close.mp kept).1

/-- A value that differs from those of all earlier sign-ups keeps telling the sign-ups apart. -/
private theorem apart_append {Value : Type} (value : SignUp → Value) {last : Option SignUp}
    {signUps : List SignUp} (new : ∀ signUp ∈ last, ∀ other ∈ signUps, value other ≠ value signUp)
    (apart : ∀ signUp ∈ signUps, ∀ other ∈ signUps, value signUp = value other → signUp = other) :
    ∀ signUp ∈ last.toList ++ signUps, ∀ other ∈ last.toList ++ signUps,
      value signUp = value other → signUp = other := by
  intro signUp first other second same
  rcases List.mem_append.mp first with left | left <;> rcases List.mem_append.mp second with right | right
  · exact Option.some.inj ((Option.mem_toList.mp left).symm.trans (Option.mem_toList.mp right))
  · exact absurd same.symm (new signUp (Option.mem_toList.mp left) other right)
  · exact absurd same (new other (Option.mem_toList.mp right) signUp left)
  · exact apart signUp left other right same

/-- An answer files at most one sign-up, of an account and for a request that are new. -/
private theorem Filed.answer (filed : Filed device) {id : ℕ} {pending : Pending} {reply : Reply}
    (found : (id, pending) ∈ device.requests.entries) (unanswered : pending.reply = none)
    (admits : device.Admits pending.request reply) :
    Filed (device.answer id pending reply admits.fits) := by
  have fresh : ∀ signUp, signUp? id pending.request reply = some signUp →
      signUp.request = id ∧ signUp.uid ∉ device.accounts ∧
        signUp.uid ∈ (reply.user.map User.uid).toList ∧ signUp.username ≠ "" := by
    intro signUp same
    have typed := filed.typed _ found
    cases request : pending.request with
    | createUser username email password =>
      rw [request] at admits same typed
      cases reply with
      | signedIn user =>
        obtain rfl := Option.some.inj same
        exact ⟨rfl, admits.2, by simp [Reply.user], typed⟩
      | mailSent => contradiction
      | refused error => contradiction
    | _ => rw [request] at same; cases reply <;> contradiction
  have old : ∀ signUp ∈ device.signUps, signUp.request ≠ id := by
    rintro signUp member rfl
    exact (filed.settled signUp member).2 pending found unanswered
  refine ⟨filed.stored, fun signUp member => List.mem_append_right _ (filed.signedUp signUp member), ?_, ?_,
    ?_, ?_, ?_, ?_, ?_⟩
  · intro number other member known replied signUp same
    rcases (Ledger.mem_revise found).mp member with ⟨rfl, rfl⟩ | ⟨_, before⟩
    · obtain rfl := Option.some.inj replied
      exact List.mem_append_left _ (Option.mem_toList.mpr same)
    · exact List.mem_append_right _ (filed.answered number other before known replied signUp same)
  · intro signUp member
    rcases List.mem_append.mp member with last | before
    · obtain ⟨rfl, _⟩ := fresh signUp (Option.mem_toList.mp last)
      have bound := device.requests.number_below found
      refine ⟨bound, fun other known => ?_⟩
      rcases (Ledger.mem_revise found).mp known with ⟨_, rfl⟩ | ⟨different, _⟩
      · exact nofun
      · exact absurd rfl different
    · refine ⟨(filed.settled signUp before).1, fun other known => ?_⟩
      rcases (Ledger.mem_revise found).mp known with ⟨same, _⟩ | ⟨_, kept⟩
      · exact absurd same (old signUp before)
      · exact (filed.settled signUp before).2 other kept
  · intro signUp member
    rcases List.mem_append.mp member with last | before
    · exact List.mem_append_left _ (fresh signUp (Option.mem_toList.mp last)).2.2.1
    · exact List.mem_append_right _ (filed.known signUp before)
  · rintro ⟨number, other⟩ member
    rcases (Ledger.mem_revise found).mp member with ⟨_, rfl⟩ | ⟨_, before⟩
    · exact filed.typed (id, pending) found
    · exact filed.typed _ before
  · intro signUp member
    rcases List.mem_append.mp member with last | before
    · exact (fresh signUp (Option.mem_toList.mp last)).2.2.2
    · exact filed.named signUp before
  · refine apart_append SignUp.request (fun signUp last other before same => ?_) filed.oneRequest
    exact old other before (same.trans (fresh signUp last).1)
  · refine apart_append SignUp.uid (fun signUp last other before same => ?_) filed.oneAccount
    exact (fresh signUp last).2.1 (same ▸ filed.known other before)

/-- Every step keeps the histories in order. -/
theorem filed_step (filed : Filed device) (step : device.step? event = some target) : Filed target := by
  cases step?_change step with
  | launched =>
    exact ⟨filed.stored, filed.signedUp, nofun, fun signUp member => ⟨(filed.settled signUp member).1, nofun⟩,
      filed.known, nofun, filed.named, filed.oneRequest, filed.oneAccount⟩
  | sent _ _ request source named => exact filed.issue _ request named
  | facebookCalled controller outcome caller requests issued =>
    subst issued
    cases outcome.current device.accessToken with
    | none => exact ⟨filed.1, filed.2, filed.3, filed.4, filed.5, filed.6, filed.7, filed.8, filed.9⟩
    | some tokenString =>
      have sent := filed.issue controller (.facebook tokenString) trivial
      exact ⟨sent.1, sent.2, sent.3, sent.4, sent.5, sent.6, sent.7, sent.8, sent.9⟩
  | answered id pending reply found unanswered admits => exact filed.answer found unanswered admits
  | arrived id pending reply user found replied signedIn => exact filed.close found replied _
  | reported id pending reply window found replied refused alert =>
    have closed := filed.close found replied window
    rwa [signUp?_none refused] at closed
  | _ => exact ⟨filed.1, filed.2, filed.3, filed.4, filed.5, filed.6, filed.7, filed.8, filed.9⟩

section Retyped

variable {retyping : Retyping}

theorem filledName_device : filledName (retyping.device device) = filledName device := rfl

theorem shownName_device (filed : Filed device) : shownName (retyping.device device) =
    (filledName device).or ((device.stored.head?.map retyping.signUp).map SignUp.username) := by
  rw [shownName_eq, filledName_device]
  have stored := filed.stored
  cases last : device.stored.head? with
  | none => simpa [Retyping.device, storeName, last] using congrArg (filledName device).or stored
  | some signUp => simp [Retyping.device, storeName, last]

theorem ownSignUp_device : ownSignUp (retyping.device device) = (ownSignUp device).map retyping.signUp := by
  unfold ownSignUp
  cases user : device.currentUser with
  | none => simp [Retyping.device, user]
  | some user => simp [Retyping.device, user, List.find?_map, Function.comp_def, Retyping.signUp]

theorem expectedName_device : expectedName (retyping.device device) =
    (filledName device).or (((ownSignUp device).map retyping.signUp).map SignUp.username) := by
  rw [expectedName, filledName_device, ownSignUp_device]

end Retyped

/-- The current account's own sign-up is one of those filed for it. -/
private theorem ownSignUp_eq_some {signUp : SignUp} (own : ownSignUp device = some signUp) :
    signUp ∈ device.signUps ∧ device.currentUser.map User.uid = some signUp.uid := by
  obtain ⟨user, current, found⟩ := Option.bind_eq_some_iff.mp own
  have same : signUp.uid = user.uid := by simpa using List.find?_some found
  exact ⟨List.mem_of_find?_eq_some found, by rw [current, Option.map_some, same]⟩

/-- If the name stored last is not the account's own, some retyping of the others tells the two apart. -/
private theorem exists_retyping (filed : Filed device) (differs : device.stored.head? ≠ ownSignUp device) :
    ∃ retyping, KeepsOwn retyping device ∧ (device.stored.head?.map retyping.signUp).map SignUp.username ≠
      ((ownSignUp device).map retyping.signUp).map SignUp.username := by
  cases last : device.stored.head? with
  | none =>
    obtain ⟨own, same⟩ := Option.ne_none_iff_exists'.mp (last ▸ differs).symm
    exact ⟨.identity, fun _ _ _ _ => rfl, by simp [same]⟩
  | some signUp =>
    have present := filed.signedUp signUp (List.mem_of_head? last)
    cases same : ownSignUp device with
    | none => exact ⟨.identity, fun _ _ _ _ => rfl, nofun⟩
    | some own =>
      obtain ⟨member, current⟩ := ownSignUp_eq_some same
      have other : signUp ≠ own := by
        rintro rfl
        exact differs (last.trans same.symm)
      have longer : own.username ++ "x" ≠ "" := by simp
      refine ⟨.only signUp.request (own.username ++ "x") longer, fun kept listed mine username => ?_, ?_⟩
      · have account : kept = own := by
          refine filed.oneAccount kept listed own member ?_
          exact Option.some.inj (mine.symm.trans current)
        have different : kept.request ≠ signUp.request := by
          rw [account]
          exact fun equal => other (filed.oneRequest signUp present own member equal.symm)
        exact if_neg fun both => different both.1
      · have distinct : own.request ≠ signUp.request :=
          fun equal => other (filed.oneRequest signUp present own member equal.symm)
        have named := filed.named signUp present
        simp [Retyping.signUp, Retyping.only, named, distinct]

/-- The profile shows the name of the current account, whatever the other accounts typed, exactly
when the account has a display name or was the last one to have a sign-up stored. -/
theorem name_is_own_iff (events : List AppEvent) (device : Device) (reached : machine.Reaches events device) :
    NameIsOwn events device ↔ Owns device := by
  have filed : Filed device := reached.invariant filed_initial fun _ _ _ => filed_step
  have agree : NameIsOwn events device ↔ ∀ retyping : Retyping, KeepsOwn retyping device →
      shownName (retyping.device device) = expectedName (retyping.device device) := by
    constructor
    · exact fun own retyping keeps => own retyping keeps _ (Retyping.reaches_run reached)
    · intro own retyping keeps other run
      obtain rfl := Option.some.inj ((Retyping.reaches_run reached).symm.trans run)
      exact own retyping keeps
  rw [agree]
  simp only [shownName_device filed, expectedName_device]
  constructor
  · intro own
    by_contra foreign
    obtain ⟨unnamed, differs⟩ := not_or.mp foreign
    rw [not_not] at unnamed
    obtain ⟨retyping, keeps, apart⟩ := exists_retyping filed differs
    have same := own retyping keeps
    rw [unnamed, Option.none_or, Option.none_or] at same
    exact apart same
  · rintro (named | same) retyping _
    · obtain ⟨name, filled⟩ := Option.ne_none_iff_exists'.mp named
      rw [filled, Option.some_or, Option.some_or]
    · rw [same]

/-- After her own sign-up the profile shows the name an account typed. -/
theorem name_is_own_after_sign_up : ∃ device, machine.Reaches
    [.showSignUp, .signUpSubmitted "ana" "ana@mail.com" "123456", .answered 0 (.signedIn ⟨"uid-ana", none⟩),
      .completed 0] device ∧ NameIsOwn
    [.showSignUp, .signUpSubmitted "ana" "ana@mail.com" "123456", .answered 0 (.signedIn ⟨"uid-ana", none⟩),
      .completed 0] device := by
  refine ⟨_, rfl, ?_⟩
  exact (name_is_own_iff
    [.showSignUp, .signUpSubmitted "ana" "ana@mail.com" "123456", .answered 0 (.signedIn ⟨"uid-ana", none⟩),
      .completed 0] _ rfl).mpr (by decide +kernel)

/-- One account signs up and out; the next one, which has no name at all, signs in and is shown the
name that the first one typed. -/
theorem foreign_name_shown : ∃ device, machine.Reaches
    [.showSignUp, .signUpSubmitted "ana" "ana@mail.com" "123456", .answered 0 (.signedIn ⟨"uid-ana", none⟩),
      .completed 0, .signOutTapped none, .signInSubmitted "bia@mail.com" "abcdef",
      .answered 1 (.signedIn ⟨"uid-bia", none⟩), .completed 1] device ∧
      device.front = .tabBar ∧ shownName device = some "ana" ∧ expectedName device = none :=
  ⟨_, rfl, rfl, by decide +kernel, by decide +kernel⟩

end LoginDN.ProfileName
