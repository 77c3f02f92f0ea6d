import LoginDN.Model.Settling

/-! # The screen shown and the current user

Launch, three completions and sign-out each choose the screen on their own. The signed-in area is
never shown without a current user. The converse rests on the segue of a completion, which UIKit
drops unless the controller that sent the request is still in front: a user who has moved on to
another screen, or has an alert in front, is then signed in behind a sign-in screen. The condition
is that no successful completion loses its segue so, and a step that breaks it can be followed by
answers alone to a state with nothing in flight and the wrong screen.
-/

namespace LoginDN.ScreenArea

open Machine Device

/-- The tab bar, or the article above it, is the screen shown. -/
def Shows (device : Device) : Prop := device.window.shown.signedInArea = true

instance (device : Device) : Decidable (Shows device) := inferInstanceAs (Decidable (_ = _))

/-- The area is shown exactly while there is a current user. -/
def Agrees (device : Device) : Prop := Shows device ↔ device.currentUser ≠ none

instance (device : Device) : Decidable (Agrees device) := inferInstanceAs (Decidable (_ ↔ _))

/-- Some completion with an account is still to come. -/
def Awaits (device : Device) : Prop := ∃ entry ∈ device.requests.entries, entry.2.user ≠ none

/-- A completion with an account, if anyone is signed in when it is called, finds the area shown or
the controller that sent the request in front, or is not the last one to come. -/
def Lands (device : Device) : AppEvent → Prop
  | .completed id => ∀ entry ∈ device.requests.entries, entry.1 = id → entry.2.user ≠ none →
      device.currentUser ≠ none → Shows device ∨ device.window.frontmost.id = entry.2.owner ∨
        ∃ other ∈ device.requests.entries, other.1 ≠ id ∧ other.2.user ≠ none
  | _ => True

instance (device : Device) : ∀ event, Decidable (Lands device event)
  | .completed _ => inferInstanceAs (Decidable (∀ entry ∈ _, _ → _ → _ → _ ∨ _ ∨ ∃ other ∈ _, _ ∧ _))
  | .launch | .signInSubmitted _ _ | .signUpSubmitted _ _ _ | .resetSubmitted _ | .facebookTapped
  | .facebookCompleted _ _ | .facebookLoggedOut | .showSignUp | .showReset | .backSignIn | .dismissAlert
  | .openDetail | .closeDetail | .signOutTapped _ | .answered _ _ => .isTrue trivial

/-- Holds in every run: whoever waits for an answer has an identity already given away, and a
controller of the area, or one that is about to present it, is in the window only for a user. -/
structure Anchored (device : Device) : Prop where
  owners : ∀ entry ∈ device.requests.entries, entry.2.owner < device.window.next
  callers : ∀ controller ∈ device.logins, controller < device.window.next
  inside : ∀ controller ∈ device.window.controllers, controller.screen.signedInArea = true →
    device.currentUser ≠ none
  awaited : ∀ entry ∈ device.requests.entries, entry.2.user ≠ none →
    (∃ controller ∈ device.window.controllers, controller.id = entry.2.owner) → device.currentUser ≠ none

/-- A signed-in user sees the area or waits for a completion. -/
def Tracked (device : Device) : Prop := device.currentUser ≠ none → Shows device ∨ Awaits device

theorem anchored_initial : Anchored machine.initial := by
  refine ⟨nofun, nofun, ?_, nofun⟩
  rintro _ (_ | ⟨_, ⟨⟩⟩)
  exact nofun

variable {device target : Device} {event : AppEvent}

/-- A Facebook callback adds at most a request without an answer, for the controller called. -/
private theorem entries_facebookCalled {controller : ℕ} {current : Option String} {requests : Ledger Pending}
    (issued : requests = current.elim device.requests
      fun tokenString => device.requests.issue (.sent controller (.facebook tokenString))) :
    (∀ entry ∈ device.requests.entries, entry ∈ requests.entries) ∧
      ∀ entry ∈ requests.entries, entry ∈ device.requests.entries ∨
        entry.2.owner = controller ∧ entry.2.user = none := by
  subst issued
  cases current with
  | none => exact ⟨fun _ => id, fun _ => .inl⟩
  | some tokenString =>
    refine ⟨fun entry member => List.mem_append_left _ member, fun entry member => ?_⟩
    rcases List.mem_append.mp member with old | new
    · exact .inl old
    · obtain rfl := List.mem_singleton.mp new
      exact .inr ⟨rfl, rfl⟩

private theorem Anchored.moved {window : Window} (anchored : Anchored device)
    (keeps : device.window.Keeps window) : Anchored { device with window := window } := by
  refine ⟨fun entry member => ?_, fun controller member => ?_, fun controller member area => ?_,
    fun entry member account present => ?_⟩
  · have bound := anchored.owners entry member
    have grown := keeps.next
    exact Nat.lt_of_lt_of_le bound grown
  · have bound := anchored.callers controller member
    have grown := keeps.next
    exact Nat.lt_of_lt_of_le bound grown
  · rcases keeps.member controller member with old | ⟨_, front⟩
    · exact anchored.inside controller old area
    · exact anchored.inside _ device.window.frontmost_mem (front area)
  · obtain ⟨controller, listed, same⟩ := present
    rcases keeps.member controller listed with old | ⟨fresh, _⟩
    · exact anchored.awaited entry member account ⟨controller, old, same⟩
    · have bound := anchored.owners entry member
      omega

/-- Every step keeps the window and the requests anchored, whatever the order of events. -/
theorem anchored_step (anchored : Anchored device) (step : device.step? event = some target) :
    Anchored target := by
  cases step?_change step with
  | launched =>
    refine ⟨nofun, nofun, fun controller member area => ?_, nofun⟩
    obtain rfl := List.mem_singleton.mp member
    exact (signedInArea_chooseStoryboardToOpen device.currentUser).mp area
  | moved _ _ window keeps => exact anchored.moved keeps
  | tapped =>
    refine ⟨anchored.owners, fun controller member => ?_, anchored.inside, anchored.awaited⟩
    rcases List.mem_cons.mp member with rfl | old
    · exact Window.id_lt_next device.window.frontmost_mem
    · exact anchored.callers controller old
  | sent _ _ request source named =>
    refine ⟨fun entry member => ?_, anchored.callers, anchored.inside, fun entry member account => ?_⟩
    · rcases List.mem_append.mp member with old | new
      · exact anchored.owners entry old
      · obtain rfl := List.mem_singleton.mp new
        exact Window.id_lt_next device.window.frontmost_mem
    · rcases List.mem_append.mp member with old | new
      · exact anchored.awaited entry old account
      · obtain rfl := List.mem_singleton.mp new
        exact absurd rfl account
  | facebookCalled controller outcome caller requests issued =>
    obtain ⟨_, added⟩ := entries_facebookCalled issued
    refine ⟨fun entry member => ?_, fun other member => ?_, anchored.inside, fun entry member account => ?_⟩
    · rcases added entry member with old | ⟨same, _⟩
      · exact anchored.owners entry old
      · exact same ▸ anchored.callers controller caller
    · exact anchored.callers other (List.mem_of_mem_erase member)
    · rcases added entry member with old | ⟨_, none⟩
      · exact anchored.awaited entry old account
      · exact absurd none account
  | facebookLeft => exact ⟨anchored.owners, anchored.callers, anchored.inside, anchored.awaited⟩
  | signedOut =>
    refine ⟨fun entry member => ?_, fun controller member => ?_, fun controller member area => ?_,
      fun entry member account present => ?_⟩
    · exact Nat.lt_succ_of_lt (anchored.owners entry member)
    · exact Nat.lt_succ_of_lt (anchored.callers controller member)
    · obtain rfl := List.mem_singleton.mp member
      contradiction
    · obtain ⟨controller, listed, same⟩ := present
      obtain rfl := List.mem_singleton.mp listed
      have bound := anchored.owners entry member
      exact absurd same (Nat.ne_of_gt bound)
  | answered id pending reply found unanswered admits =>
    refine ⟨fun entry member => ?_, anchored.callers, fun controller member area => ?_,
      fun entry member account present => ?_⟩
    · obtain ⟨number, other⟩ := entry
      rcases (Ledger.mem_revise found).mp member with ⟨_, rfl⟩ | ⟨_, old⟩
      · exact anchored.owners (id, pending) found
      · exact anchored.owners _ old
    · have user := anchored.inside controller member area
      simpa [answer] using fun _ => user
    · obtain ⟨number, other⟩ := entry
      rcases (Ledger.mem_revise found).mp member with ⟨_, rfl⟩ | ⟨_, old⟩
      · have user : reply.user ≠ none := account
        simpa [answer] using fun none => absurd none user
      · have user := anchored.awaited _ old account present
        simpa [answer] using fun _ => user
  | arrived id pending reply user found replied signedIn =>
    have account : pending.user ≠ none := by simp [Pending.user, replied, signedIn]
    have front : device.window.frontmost.id = pending.owner → device.currentUser ≠ none := fun same =>
      anchored.awaited _ found account ⟨_, device.window.frontmost_mem, same⟩
    refine ⟨fun entry member => ?_, fun controller member => ?_, fun controller member area => ?_,
      fun entry member waiting present => ?_⟩
    · have bound := anchored.owners entry (Ledger.mem_close.mp member).1
      exact Nat.lt_of_lt_of_le bound Window.next_le_present
    · exact Nat.lt_of_lt_of_le (anchored.callers controller member) Window.next_le_present
    · rcases Window.mem_present member with old | ⟨_, same⟩
      · exact anchored.inside controller old area
      · exact front same
    · have old := (Ledger.mem_close.mp member).1
      obtain ⟨controller, listed, same⟩ := present
      rcases Window.mem_present listed with kept | ⟨_, presenting⟩
      · exact anchored.awaited entry old waiting ⟨controller, kept, same⟩
      · exact front presenting
  | reported id pending reply window found replied refused alert =>
    have keeps : device.window.Keeps window := by
      rcases alert with rfl | rfl
      · exact Window.Keeps.refl _
      · exact Window.keeps_present_alert
    have moved := anchored.moved keeps
    exact ⟨fun entry member => moved.owners entry (Ledger.mem_close.mp member).1, moved.callers,
      moved.inside, fun entry member => moved.awaited entry (Ledger.mem_close.mp member).1⟩

theorem Anchored.user_of_shows (anchored : Anchored device) (shows : Shows device) :
    device.currentUser ≠ none := by
  obtain ⟨controller, member, same⟩ := device.window.exists_of_shown
  exact anchored.inside controller member (by rw [same]; exact shows)

/-- A step that meets the condition keeps track of a signed-in user. -/
theorem tracked_step (tracked : Tracked device) (lands : Lands device event)
    (step : device.step? event = some target) : Tracked target := by
  cases step?_change step with
  | launched => exact fun user => .inl ((signedInArea_chooseStoryboardToOpen device.currentUser).mpr user)
  | moved _ _ window keeps => exact fun user => (tracked user).imp_left keeps.area
  | tapped => exact tracked
  | sent _ _ request source named =>
    intro user
    refine (tracked user).imp_right ?_
    rintro ⟨entry, member, account⟩
    exact ⟨entry, List.mem_append_left _ member, account⟩
  | facebookCalled controller outcome caller requests issued =>
    intro user
    refine (tracked user).imp_right ?_
    rintro ⟨entry, member, account⟩
    exact ⟨entry, (entries_facebookCalled issued).1 entry member, account⟩
  | facebookLeft => exact tracked
  | signedOut => exact fun user => absurd rfl user
  | answered id pending reply found unanswered admits =>
    intro user
    cases account : reply.user with
    | some other =>
      refine .inr ⟨(id, _), (Ledger.mem_revise found).mpr (.inl ⟨rfl, rfl⟩), ?_⟩
      simp [Pending.user, Pending.settled, account]
    | none =>
      have same : device.currentUser ≠ none := by simpa [answer, account] using user
      refine (tracked same).imp_right ?_
      rintro ⟨⟨number, other⟩, member, waiting⟩
      refine ⟨(number, other), (Ledger.mem_revise found).mpr (.inr ⟨?_, member⟩), waiting⟩
      rintro rfl
      obtain rfl := Ledger.eq_of_mem found member
      simp [Pending.user, unanswered] at waiting
  | arrived id pending reply user found replied signedIn =>
    intro current
    have account : pending.user ≠ none := by simp [Pending.user, replied, signedIn]
    by_cases front : device.window.frontmost.id = pending.owner
    · have shown : (device.window.present pending.owner .tabBar).shown = .tabBar :=
        Window.shown_present front (by decide) fun detail => absurd detail (by decide)
      exact .inl (by simp only [Shows, shown]; rfl)
    · rcases lands _ found rfl account current with shows | same | ⟨other, member, different, waiting⟩
      · exact .inl (by rwa [Shows, Window.present_of_ne front])
      · exact absurd same front
      · exact .inr ⟨other, Ledger.mem_close.mpr ⟨member, different⟩, waiting⟩
  | reported id pending reply window found replied refused alert =>
    intro current
    rcases tracked current with shows | ⟨⟨number, other⟩, member, waiting⟩
    · left
      rcases alert with rfl | rfl
      · exact shows
      · rwa [Shows, Window.shown_present_alert]
    · refine .inr ⟨(number, other), Ledger.mem_close.mpr ⟨member, ?_⟩, waiting⟩
      rintro rfl
      obtain rfl := Ledger.eq_of_mem found member
      simp [Pending.user, replied, refused] at waiting

/-- A step that breaks the condition leaves a signed-in user outside the area, with no completion to
come that could help. -/
theorem stranded_step (breaks : ¬ Lands device event) (step : device.step? event = some target) :
    target.currentUser ≠ none ∧ ¬ Shows target ∧ ¬ Awaits target := by
  cases event with
  | completed id =>
    simp only [Lands, not_forall, not_or, not_exists, not_and, exists_prop] at breaks
    obtain ⟨⟨number, pending⟩, found, rfl, account, user, outside, front, alone⟩ := breaks
    obtain ⟨reply, replied, answered⟩ : ∃ reply, pending.reply = some reply ∧ reply.user ≠ none := by
      cases replied : pending.reply with
      | none => simp [Pending.user, replied] at account
      | some reply => exact ⟨reply, rfl, by simpa [Pending.user, replied] using account⟩
    obtain ⟨other, signedIn⟩ := Option.ne_none_iff_exists'.mp answered
    obtain rfl := Option.some.inj ((step?_completed found replied).symm.trans step)
    rw [perform_callback_user pending.owner number _ (pending.fits reply replied) signedIn]
    refine ⟨user, ?_, ?_⟩
    · simpa only [Shows, Window.present_of_ne front] using outside
    · rintro ⟨⟨other, waiting⟩, member, unsettled⟩
      obtain ⟨old, different⟩ := Ledger.mem_close.mp member
      exact alone (other, waiting) old different unsettled
  | _ => exact absurd trivial breaks

/-- In every run whose successful completions all land, the screen shown and the current user agree
whenever nothing is in flight. The condition cannot be weakened: after any step that breaks it,
answers and completions alone lead to a state where they disagree. -/
theorem screen_follows_session (events : List AppEvent) (device : Device)
    (reached : machine.Reaches events device) (lands : machine.Along Lands machine.initial events) :
    (device.requests.entries = [] → Agrees device) ∧
      ∀ event target, machine.step? device event = some target → ¬ Lands device event →
        ∃ more final, (∀ event ∈ more, event.settles = true) ∧ machine.run? target more = some final ∧
          final.requests.entries = [] ∧ ¬ Agrees final := by
  have anchored : Anchored device := reached.invariant anchored_initial fun _ _ _ => anchored_step
  have tracked : Tracked device :=
    reached.invariant_along (fun user => absurd rfl user) (fun _ _ _ => tracked_step) lands
  refine ⟨fun idle => ⟨anchored.user_of_shows, fun user => ?_⟩, fun event target step breaks => ?_⟩
  · rcases tracked user with shows | ⟨entry, member, _⟩
    · exact shows
    · rw [idle] at member
      contradiction
  · obtain ⟨user, outside, alone⟩ := stranded_step breaks step
    have strangers : ∀ entry ∈ target.requests.entries, entry.2.user = none := by
      intro entry member
      by_contra waiting
      exact alone ⟨entry, member, waiting⟩
    obtain ⟨more, final, answers, run, idle, same⟩ := exists_settled target
    refine ⟨more, final, answers, run, idle, fun agrees => outside ?_⟩
    have shows := agrees.mpr (by rw [same.currentUser]; exact user)
    rwa [Shows, same.shown strangers] at shows

/-- An email sign-in that is answered while its screen is in front opens the tab bar. -/
theorem screen_follows_sign_in : ∃ device, machine.Reaches
    [.signInSubmitted "ana@mail.com" "123456", .answered 0 (.signedIn ⟨"ana", none⟩), .completed 0] device ∧
      device.requests.entries = [] ∧ Agrees device := by
  refine ⟨_, rfl, rfl, ?_⟩
  exact (screen_follows_session
    [.signInSubmitted "ana@mail.com" "123456", .answered 0 (.signedIn ⟨"ana", none⟩), .completed 0]
    _ rfl (by decide +kernel)).1 rfl

/-- A user who opens the sign-up screen before the answer arrives is signed in and stays there. -/
theorem signed_in_behind_sign_up : ∃ device, machine.Reaches
    [.signInSubmitted "ana@mail.com" "123456", .showSignUp, .answered 0 (.signedIn ⟨"ana", none⟩),
      .completed 0] device ∧ device.requests.entries = [] ∧ ¬ Agrees device :=
  ⟨_, rfl, rfl, by decide +kernel⟩

end LoginDN.ScreenArea
