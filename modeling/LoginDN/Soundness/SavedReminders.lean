import LoginDN.Model.NewsHistory

/-! # What is reported as saved

`showAlert` reports a reminder as saved when its request has been handed to the centre, before the centre
has answered, and the answer is only printed. So a swipe reported so has its request on the way or
answered. The reports are true exactly as long as no request is answered with an error.
-/

namespace LoginDN.SavedReminders

open Machine NewsApp

variable {foundation : Foundation} {app target : NewsApp} {event : NewsEvent} {events : List NewsEvent} {id : ℕ}

/-- `showAlert` has been called for the swipe with the text of success, whether or not UIKit presented it. -/
def Saved (app : NewsApp) (id : ℕ) : Prop := (id, saved) ∈ app.alerts

/-- The centre has accepted the reminder of the swipe. -/
def Accepted (app : NewsApp) (id : ℕ) : Prop := ∃ request, (id, request) ∈ app.accepted

/-- All answers to the swipe have arrived. -/
def Settled (app : NewsApp) (id : ℕ) : Prop :=
  id < app.swipes.next ∧ ∀ stage, (id, stage) ∉ app.swipes.entries

/-- A settled swipe was reported as saved if and only if its reminder was accepted, and once all swipes
are settled the identifiers ever accepted are the addresses of the articles reported as saved. -/
def Truthful (app : NewsApp) : Prop :=
  (∀ id, Settled app id → (Saved app id ↔ Accepted app id)) ∧
    (app.swipes.entries = [] → ∀ identifier,
      (∃ id request, (id, request) ∈ app.accepted ∧ request.identifier = identifier) ↔
        ∃ id news, (id, news) ∈ app.swiped ∧ Saved app id ∧ news.url = identifier)

/-- The centre answers no request with an error. -/
def AddSucceeds (_ : NewsApp) : NewsEvent → Prop
  | .addAnswer _ error => error = none
  | _ => True

instance (app : NewsApp) : ∀ event, Decidable (AddSucceeds app event)
  | .addAnswer _ error => inferInstanceAs (Decidable (error = none))
  | .feedResponse _ _ | .numberOfRows | .cellForRow _ | .didSelectRow _ | .shareSwipe _ | .scheduleSwipe _
  | .authorizationAnswer _ _ _ | .deliver _ | .didReceive _ _ | .dismiss | .signedOut | .signedIn => .isTrue trivial

/-- `showAlert` is called for answered swipes, and with each request, so also for each accepted one. -/
structure Reported (app : NewsApp) : Prop where
  alerts : ∀ id alert, (id, alert) ∈ app.alerts → id < app.swipes.next
  authorizing : ∀ id screen row, (id, .authorizing screen row) ∈ app.swipes.entries →
    ∀ alert, (id, alert) ∉ app.alerts
  adding : ∀ id request, (id, .adding request) ∈ app.swipes.entries → Saved app id
  accepted : ∀ id, Accepted app id → Saved app id ∧ Settled app id

theorem reported_initial : Reported (machine foundation).initial := by
  refine ⟨fun _ _ => nofun, fun _ _ _ => nofun, fun _ _ => nofun, ?_⟩
  rintro id ⟨request, accepted⟩
  contradiction

/-- No number comes back into flight. -/
theorem settled_step (settled : Settled app id) (change : Change foundation app event target) :
    Settled target id := by
  obtain ⟨below, absent⟩ := settled
  have later := change.next_le
  refine ⟨by omega, fun stage flight => ?_⟩
  rcases change.stages flight with ⟨before, old⟩ | new
  · exact absent before old
  · omega

theorem reported_step (reported : Reported app) (change : Change foundation app event target) :
    Reported target where
  alerts id alert shown := by
    have later := change.next_le
    rcases change.alerted shown with old | ⟨⟨screen, row, flight⟩, _⟩
    · have below := reported.alerts id alert old
      omega
    · have below := app.swipes.number_below flight
      omega
  authorizing id screen row flight alert shown := by
    rcases change.alerted shown with old | ⟨⟨owner, other, before⟩, ⟨_, request, adding⟩ | ⟨_, absent⟩⟩
    · rcases change.captures flight with earlier | ⟨rfl, _⟩
      · exact reported.authorizing id screen row earlier alert old
      · have below := reported.alerts _ alert old
        omega
    · cases Ledger.eq_of_mem flight adding
    · exact absent _ flight
  adding id request flight := by
    rcases change.adds flight with old | ⟨shown, _⟩
    · exact change.alerts_subset (reported.adding id request old)
    · exact shown
  accepted id accepted := by
    obtain ⟨request, member⟩ := accepted
    rcases change.accepts member with old | ⟨flight, _, closed⟩
    · obtain ⟨shown, settled⟩ := reported.accepted id ⟨request, old⟩
      exact ⟨change.alerts_subset shown, settled_step settled change⟩
    · have below := app.swipes.number_below flight
      refine ⟨change.alerts_subset (reported.adding id request flight), ?_, fun stage still => ?_⟩
      · have later := change.next_le
        omega
      · rw [closed] at still
        exact (Ledger.mem_close.mp still).2 rfl

/-- What was reported as saved is accepted or still on its way. -/
def Kept (app : NewsApp) : Prop :=
  ∀ id, Saved app id → Accepted app id ∨ ∃ request, (id, .adding request) ∈ app.swipes.entries

/-- Some reminder was reported as saved, and no answer to come can make that true. -/
def Lost (app : NewsApp) : Prop := ∃ id, Settled app id ∧ Saved app id ∧ ¬ Accepted app id

theorem kept_step (kept : Kept app) (succeeds : AddSucceeds app event)
    (change : Change foundation app event target) : Kept target := by
  intro id shown
  rcases change.alerted shown with old | ⟨_, ⟨_, onItsWay⟩ | ⟨other, _⟩⟩
  · rcases kept id old with ⟨request, accepted⟩ | ⟨request, flight⟩
    · exact .inl ⟨request, change.accepted_subset accepted⟩
    · rcases change.awaits flight with still | ⟨error, rfl, quiet⟩
      · exact .inr ⟨request, still⟩
      · exact .inl ⟨request, quiet succeeds⟩
  · exact .inr onItsWay
  · exact absurd other (by decide)

/-- A request that is answered with an error was reported as saved before. -/
theorem lost_step (reported : Reported app) (fails : ¬ AddSucceeds app event)
    (change : Change foundation app event target) : Lost target := by
  cases change with
  | answered swipe request error flight =>
    have failed : error ≠ none := fails
    refine ⟨swipe, ⟨app.swipes.number_below flight, fun stage still => ?_⟩, reported.adding swipe request flight, ?_⟩
    · exact (Ledger.mem_close.mp still).2 rfl
    · rintro ⟨other, accepted⟩
      have before : (swipe, other) ∈ app.accepted := by simpa only [if_neg failed] using accepted
      exact (reported.accepted swipe ⟨other, before⟩).2.2 _ flight
  | _ => exact absurd trivial fails

theorem lost_lasts (lost : Lost app) (change : Change foundation app event target) : Lost target := by
  obtain ⟨id, settled, shown, missing⟩ := lost
  refine ⟨id, settled_step settled change, change.alerts_subset shown, ?_⟩
  rintro ⟨request, accepted⟩
  rcases change.accepts accepted with old | ⟨flight, _⟩
  · exact missing ⟨request, old⟩
  · exact settled.2 _ flight

/-- Reports are true where nothing is lost. -/
theorem truthful_of_kept (recorded : app.Recorded) (reported : Reported app) (kept : Kept app) : Truthful app := by
  have settled (id : ℕ) (finished : Settled app id) : Saved app id ↔ Accepted app id := by
    constructor
    · intro shown
      rcases kept id shown with accepted | ⟨request, flight⟩
      · exact accepted
      · exact absurd flight (finished.2 _)
    · exact fun accepted => (reported.accepted id accepted).1
  refine ⟨settled, fun idle identifier => ⟨?_, ?_⟩⟩
  · rintro ⟨id, request, accepted, rfl⟩
    obtain ⟨news, swiped, rfl⟩ := recorded.accepted id request accepted
    exact ⟨id, news, swiped, (reported.accepted id ⟨_, accepted⟩).1, rfl⟩
  · rintro ⟨id, news, swiped, shown, rfl⟩
    have finished : Settled app id := ⟨recorded.below id news swiped, by simp [idle]⟩
    obtain ⟨request, accepted⟩ := (settled id finished).mp shown
    obtain ⟨article, same, rfl⟩ := recorded.accepted id request accepted
    obtain rfl := recorded.once id news article swiped same
    exact ⟨id, _, accepted, rfl⟩

theorem not_truthful_of_lost (lost : Lost app) : ¬ Truthful app := by
  obtain ⟨id, settled, shown, missing⟩ := lost
  exact fun truthful => missing ((truthful.1 id settled).mp shown)

/-- Nothing is lost so far. -/
structure Intact (app : NewsApp) : Prop where
  sound : app.Sound
  reported : Reported app
  kept : Kept app

theorem intact_initial : Intact (machine foundation).initial := ⟨sound_initial, reported_initial, fun _ => nofun⟩

theorem intact_step (intact : Intact app) (succeeds : AddSucceeds app event)
    (step : app.step? foundation event = some target) : Intact target := by
  have change := (step?_change intact.sound step).2
  exact ⟨change.sound intact.sound, reported_step intact.reported change, kept_step intact.kept succeeds change⟩

theorem broken_step (intact : Intact app) (fails : ¬ AddSucceeds app event)
    (step : app.step? foundation event = some target) : target.Sound ∧ Lost target := by
  have change := (step?_change intact.sound step).2
  exact ⟨change.sound intact.sound, lost_step intact.reported fails change⟩

theorem broken_lasts (broken : app.Sound ∧ Lost app) (step : app.step? foundation event = some target) :
    target.Sound ∧ Lost target := by
  have change := (step?_change broken.1 step).2
  exact ⟨change.sound broken.1, lost_lasts broken.2 change⟩

/-- In every run, the reports are true exactly when the centre answered no request with an error. -/
theorem reports_true_iff (reached : (machine foundation).Reaches events app) :
    Truthful app ↔ (machine foundation).Along AddSucceeds (machine foundation).initial events := by
  rcases reached.along_or_fault intact_initial (fun _ _ _ => intact_step) (fun _ _ _ => broken_step)
    (fun _ _ _ => broken_lasts) with ⟨along, intact⟩ | ⟨failed, _, lost⟩
  · have recorded := recorded_of_reaches reached
    exact iff_of_true (truthful_of_kept recorded intact.reported intact.kept) along
  · exact iff_of_false (not_truthful_of_lost lost) failed

/-- Two swipes of one row, one of which the user refuses. -/
def oneRefused : List NewsEvent := sampleFed ++ [.scheduleSwipe 0, .scheduleSwipe 0, .authorizationAnswer 1 false none,
  .dismiss, .authorizationAnswer 0 true none, .addAnswer 0 none]

theorem reports_true_after_refusal : ∃ app, (machine sample).Reaches oneRefused app ∧ app.swipes.entries = [] ∧
    Truthful app := by
  have run : ((machine sample).run? (machine sample).initial oneRefused).map (fun app => app.swipes.entries) =
      some [] := by decide +kernel
  obtain ⟨app, reached, idle⟩ := Option.map_eq_some_iff.mp run
  exact ⟨app, reached, idle, (reports_true_iff reached).mpr (by decide +kernel)⟩

/-- The centre answers the request with an error. -/
def addFails : List NewsEvent := sampleFed ++ [.scheduleSwipe 0, .authorizationAnswer 0 true none,
  .addAnswer 0 (some ⟨"refused"⟩)]

/-- The reminder has been reported as saved, and it is in no list of the centre. -/
theorem lost_reminder_reported : ∃ app, (machine sample).Reaches addFails app ∧ app.alerts = [(0, saved)] ∧
    app.accepted = [] ∧ app.pending = [] ∧ ¬ Truthful app := by
  have run : ((machine sample).run? (machine sample).initial addFails).map (fun app =>
      decide (app.swipes.next = 1 ∧ app.swipes.entries = [] ∧ app.alerts = [(0, saved)] ∧
        app.accepted = [] ∧ app.pending = [])) = some true := by decide +kernel
  obtain ⟨app, reached, outcome⟩ := Option.map_eq_some_iff.mp run
  obtain ⟨next, idle, alerts, accepted, pending⟩ := of_decide_eq_true outcome
  refine ⟨app, reached, alerts, accepted, pending, not_truthful_of_lost ⟨0, ⟨?_, ?_⟩, ?_, ?_⟩⟩
  · rw [next]
    exact Nat.zero_lt_one
  · rw [idle]
    exact fun _ => List.not_mem_nil
  · rw [Saved, alerts]
    exact List.mem_singleton_self _
  · rw [Accepted, accepted]
    exact fun ⟨_, member⟩ => List.not_mem_nil member

end LoginDN.SavedReminders
