import LoginDN.Model.NewsHistory

/-! # Which article a reminder opens

The identifier of a reminder is the address of its article, but the screen that is told of the tap
opens whatever row it has stored. The stored row is a function of the gestures alone: the row last
opened, shared, or scheduled with the user's leave on this screen, and the first row before that.
-/

namespace LoginDN.ReminderTarget

open Machine NewsApp

variable {foundation : Foundation} {app target : NewsApp} {event : NewsEvent} {events : List NewsEvent}

/-- What the gestures of a run leave behind: the number of the screen in use, the screen and row of
each schedule swipe, and the row that was acted on last. -/
structure Gestures where
  screen : ℕ
  scheduled : List (ℕ × ℕ)
  row : ℕ

namespace Gestures

def after (gestures : Gestures) : NewsEvent → Gestures
  | .didSelectRow row | .shareSwipe row => { gestures with row := row }
  | .scheduleSwipe row => { gestures with scheduled := gestures.scheduled ++ [(gestures.screen, row)] }
  | .authorizationAnswer swipe didAllow error =>
      match gestures.scheduled[swipe]? with
      | some (screen, row) =>
          if screen = gestures.screen ∧ Grants didAllow error then { gestures with row := row } else gestures
      | none => gestures
  | .signedIn => { gestures with screen := gestures.screen + 1, row := 0 }
  | _ => gestures

/-- The gestures of a run. No state is looked at. -/
def of (events : List NewsEvent) : Gestures := events.foldl after ⟨0, [], 0⟩

theorem of_concat : of (events ++ [event]) = (of events).after event := by
  rw [of, List.foldl_append]
  rfl

/-- A swipe stays on the list under its number. -/
theorem scheduled_after {gestures : Gestures} {swipe : ℕ} {entry : ℕ × ℕ}
    (begun : gestures.scheduled[swipe]? = some entry) : (gestures.after event).scheduled[swipe]? = some entry := by
  cases event with
  | scheduleSwipe row => exact List.getElem?_append_left (List.getElem?_eq_some_iff.mp begun).choose ▸ begun
  | authorizationAnswer answered didAllow error =>
    simp only [after]
    split
    · split
      · exact begun
      · exact begun
    · exact begun
  | _ => exact begun

variable {gestures : Gestures} {swipe screen row : ℕ} {didAllow : Bool} {error : Option NSError}

theorem after_granted (begun : gestures.scheduled[swipe]? = some (screen, row)) (own : screen = gestures.screen)
    (grants : Grants didAllow error) :
    gestures.after (.authorizationAnswer swipe didAllow error) = { gestures with row := row } := by
  simp only [after, begun]
  exact if_pos ⟨own, grants⟩

/-- An answer changes nothing for a swipe of another screen or where the user refuses. -/
theorem after_ungranted (begun : gestures.scheduled[swipe]? = some (screen, row))
    (unused : ¬ (screen = gestures.screen ∧ Grants didAllow error)) :
    gestures.after (.authorizationAnswer swipe didAllow error) = gestures := by
  simp only [after, begun]
  exact if_neg unused

end Gestures

/-- The gestures determine the screen in use, its stored row, and what the swipes in flight captured. -/
structure Follows (gestures : Gestures) (app : NewsApp) : Prop where
  screen : gestures.screen = app.current
  scheduled : gestures.scheduled.length = app.swipes.next
  flights : ∀ id screen row, (id, .authorizing screen row) ∈ app.swipes.entries →
    gestures.scheduled[id]? = some (screen, row)
  row : gestures.row = app.screen.selected

theorem follows_initial : Follows (Gestures.of []) (machine foundation).initial :=
  ⟨rfl, rfl, fun _ _ _ => nofun, rfl⟩

/-- A callback that leaves the stored row of its screen alone leaves it alone on all screens. -/
private theorem selected_withScreen {screen : ℕ} {after : NewsScreen}
    (same : after.selected = (app.screens screen).selected) :
    (app.withScreen screen after).screen.selected = app.screen.selected := by
  change (Function.update app.screens screen after app.current).selected = (app.screens app.current).selected
  by_cases own : app.current = screen
  · rw [own, Function.update_self]
    exact same
  · rw [Function.update_of_ne own]

/-- A callback of the screen in use that stores a row. -/
private theorem selected_own (app : NewsApp) (after : NewsScreen) :
    (app.withScreen app.current after).screen.selected = after.selected := by
  change (Function.update app.screens app.current after app.current).selected = after.selected
  rw [Function.update_self]

variable {gestures : Gestures}

theorem flights_step (follows : Follows gestures app) (change : Change foundation app event target) :
    ∀ id screen row, (id, .authorizing screen row) ∈ target.swipes.entries →
      (gestures.after event).scheduled[id]? = some (screen, row) := by
  intro id screen row flight
  rcases change.captures flight with old | ⟨rfl, rfl, rfl, _⟩
  · exact Gestures.scheduled_after (follows.flights id screen row old)
  · simp only [Gestures.after, follows.screen, ← follows.scheduled]
    rw [List.getElem?_concat_length]

theorem follows_step (follows : Follows gestures app) (change : Change foundation app event target) :
    Follows (gestures.after event) target := by
  have flights := flights_step follows change
  obtain ⟨screen, scheduled, captured, row⟩ := follows
  cases change with
  | fed updated answer arrayNews loading =>
    exact ⟨screen, scheduled, flights, row.trans (Eq.symm (selected_withScreen rfl))⟩
  | counted => exact ⟨screen, scheduled, flights, row.trans (Eq.symm (selected_withScreen rfl))⟩
  | displayed => exact ⟨screen, scheduled, flights, row.trans (Eq.symm (selected_withScreen rfl))⟩
  | opened touched =>
    exact ⟨screen, scheduled, flights, (selected_own app { app.screen with selected := touched }).symm⟩
  | shared touched =>
    exact ⟨screen, scheduled, flights, (selected_own app { app.screen with selected := touched }).symm⟩
  | swiped touched news touchable found =>
    refine ⟨screen, ?_, flights, row⟩
    simp only [Gestures.after, List.length_append, List.length_singleton, Ledger.next_issue, scheduled]
  | granted swipe owner touched news didAllow error flight found grants =>
    have begun := captured swipe owner touched flight
    by_cases own : owner = gestures.screen
    · rw [Gestures.after_granted begun own grants] at flights ⊢
      refine ⟨screen, scheduled, flights, ?_⟩
      change touched = (Function.update app.screens owner _ app.current).selected
      rw [own, screen, Function.update_self]
    · have other : app.current ≠ owner := fun same => own (same.symm.trans screen.symm)
      rw [Gestures.after_ungranted begun fun both => own both.1] at flights ⊢
      refine ⟨screen, scheduled, flights, ?_⟩
      change gestures.row = (Function.update app.screens owner _ app.current).selected
      rw [Function.update_of_ne other]
      exact row
  | refused swipe owner touched didAllow error flight refuses =>
    rw [Gestures.after_ungranted (captured swipe owner touched flight) fun both => refuses both.2] at flights ⊢
    exact ⟨screen, scheduled, flights, row⟩
  | signedIn =>
    refine ⟨?_, scheduled, flights, ?_⟩
    · change gestures.screen + 1 = app.current + 1
      omega
    · change 0 = (Function.update app.screens (app.current + 1) .opened (app.current + 1)).selected
      rw [Function.update_self]
      rfl
  | answered | delivered | tapped | failed | ignored | dismissed | signedOut =>
    exact ⟨screen, scheduled, flights, row⟩

theorem follows_of_reaches (reached : (machine foundation).Reaches events app) :
    Follows (Gestures.of events) app := by
  induction events using List.reverseRecOn generalizing app with
  | nil =>
    cases reached
    exact follows_initial
  | append_singleton before event ih =>
    obtain ⟨middle, start, step⟩ := System.reaches_concat_iff.mp reached
    rw [Gestures.of_concat]
    exact follows_step (ih start) (step?_change (sound_of_reaches start) step).2

/-- A reminder that opens the detail screen opens the address it carries. -/
def OpensOwn (foundation : Foundation) (_ : List NewsEvent) (app : NewsApp) (event : NewsEvent) : Prop :=
  ∀ identifier newsURL target, event = .didReceive identifier .defaultAction →
    app.step? foundation event = some target → app.presented = none →
      target.presented = some (.detail newsURL) → newsURL = identifier

/-- The row last acted on has, if any, the article of a named reminder that is opened on a free screen. -/
def Aimed (before : List NewsEvent) (app : NewsApp) (event : NewsEvent) : Prop :=
  ∀ identifier, event = .didReceive identifier .defaultAction → identifier ≠ "" → app.CanPresent app.current →
    ∀ news ∈ app.screen.arrayNews[(Gestures.of before).row]?, news.url = identifier

/-- One step shows what its reminder was scheduled for exactly when the last gesture aimed at it. -/
theorem opensOwn_iff_aimed (reached : (machine foundation).Reaches events app)
    (step : app.step? foundation event = some target) :
    OpensOwn foundation events app event ↔ Aimed events app event := by
  have change := (step?_change (sound_of_reaches reached) step).2
  have row := (follows_of_reaches reached).row
  constructor
  · rintro opens identifier rfl named free news found
    rw [row] at found
    cases change with
    | tapped _ article _ _ delegate present =>
      obtain rfl := Option.some.inj (present.symm.trans found)
      have shown : app.inFront app.current (.detail article.url) = some (.detail article.url) := if_pos free
      exact opens identifier article.url _ rfl step free.2.2 shown
    | failed _ _ _ delegate empty =>
      rw [empty] at found
      contradiction
    | ignored _ _ _ unused =>
      rcases unused rfl with empty | absent
      · exact absurd empty named
      · exact absurd (.inl free.2.1) absent
  · rintro aimed identifier newsURL after rfl stepped quiet shown
    obtain rfl := Option.some.inj (step.symm.trans stepped)
    cases change with
    | tapped _ article _ named delegate present =>
      by_cases free : app.CanPresent app.current
      · have opened : app.inFront app.current (.detail article.url) = some (.detail newsURL) := shown
        rw [inFront, if_pos free] at opened
        obtain rfl := Presented.detail.inj (Option.some.inj opened)
        apply aimed identifier rfl named free
        rw [row]
        exact present
      · have kept : app.inFront app.current (.detail article.url) = some (.detail newsURL) := shown
        rw [inFront, if_neg free, quiet] at kept
        contradiction
    | failed =>
      have kept : app.presented = some (.detail newsURL) := shown
      rw [quiet] at kept
      contradiction
    | ignored =>
      have kept : app.presented = some (.detail newsURL) := shown
      rw [quiet] at kept
      contradiction

/-- In every run the identifier of a delivered reminder is the address of an article that was swiped,
and each reminder that opens the detail screen opens that address exactly when each was opened with
the row last acted on carrying it. -/
theorem reminders_open_own_iff (reached : (machine foundation).Reaches events app) :
    (∀ reminder ∈ app.delivered, ∃ id news, (id, news) ∈ app.swiped ∧ reminder = .ofNews news) ∧
      ((machine foundation).Throughout (OpensOwn foundation) events ↔
        (machine foundation).Throughout Aimed events) := by
  constructor
  · exact fun _ delivered => delivered_made reached delivered
  · exact reached.throughout_congr fun _ _ _ _ start step => opensOwn_iff_aimed start step

/-- The second article is scheduled, and its reminder is delivered. -/
def scheduledSecond : List NewsEvent := sampleFed ++ [.scheduleSwipe 1, .authorizationAnswer 0 true none,
  .addAnswer 0 none, .dismiss, .deliver "b"]

private theorem aimed_scheduledSecond :
    (machine sample).Throughout Aimed (scheduledSecond ++ [.didReceive "b" .defaultAction]) := by
  apply System.Throughout.concat
  · apply System.throughout_of_forall_mem
    intro event member before app identifier same
    subst same
    simp [scheduledSecond, sampleFed] at member
  · rintro app reached _ ⟨⟩ _ _ news found
    have run : ((machine sample).run? (machine sample).initial scheduledSecond).map (fun app =>
        app.screen.arrayNews[(Gestures.of scheduledSecond).row]?.map News.url) = some (some "b") := by decide +kernel
    rw [reached, Option.map_some, found] at run
    exact Option.some.inj (Option.some.inj run)

/-- A reminder that is opened with nothing in between. -/
theorem reminder_opens_own : ∃ app,
    (machine sample).Reaches (scheduledSecond ++ [.didReceive "b" .defaultAction]) app ∧
      app.presented = some (.detail "b") ∧
      (machine sample).Throughout (OpensOwn sample) (scheduledSecond ++ [.didReceive "b" .defaultAction]) := by
  have run : ((machine sample).run? (machine sample).initial
      (scheduledSecond ++ [.didReceive "b" .defaultAction])).map presented = some (some (.detail "b")) := by
    decide +kernel
  obtain ⟨app, reached, opened⟩ := Option.map_eq_some_iff.mp run
  exact ⟨app, reached, opened, (reminders_open_own_iff reached).2.mpr aimed_scheduledSecond⟩

/-- The first article is shared in between, and the reminder of the second one opens the first. -/
theorem other_article_opened : ∃ before after,
    (machine sample).Reaches (scheduledSecond ++ [.shareSwipe 0, .dismiss]) before ∧
      before.step? sample (.didReceive "b" .defaultAction) = some after ∧
      before.presented = none ∧ after.presented = some (.detail "a") ∧
      ¬ (machine sample).Throughout (OpensOwn sample)
        (scheduledSecond ++ [.shareSwipe 0, .dismiss] ++ [.didReceive "b" .defaultAction]) := by
  have run : ((machine sample).run? (machine sample).initial
      (scheduledSecond ++ [.shareSwipe 0, .dismiss])).bind (fun before =>
        (before.step? sample (.didReceive "b" .defaultAction)).map fun after =>
          (before.presented, after.presented)) = some (none, some (.detail "a")) := by decide +kernel
  obtain ⟨before, reached, stepped⟩ := Option.bind_eq_some_iff.mp run
  obtain ⟨after, step, outcome⟩ := Option.map_eq_some_iff.mp stepped
  obtain ⟨quiet, opened⟩ := Prod.mk.inj outcome
  refine ⟨before, after, reached, step, quiet, opened, fun holds => ?_⟩
  have own := holds _ _ [] rfl before reached "b" "a" after rfl step quiet opened
  exact absurd own (by decide)

end LoginDN.ReminderTarget
