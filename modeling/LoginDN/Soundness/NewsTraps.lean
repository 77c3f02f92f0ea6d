import LoginDN.Model.NewsSteps

/-! # When the news screens trap

A row of the table, a swiped row and a captured row always have an article. Two accesses are left that
nothing checks: a reminder is opened at the stored row of a screen that has no articles, because the
feed is pending or has failed there, and an address that is no URL is unwrapped by the detail screen.
-/

namespace LoginDN.NewsTraps

open Machine NewsApp

variable {foundation : Foundation} {app target : NewsApp} {event : NewsEvent} {events : List NewsEvent}

/-- The detail screen can be shown for the article, if there is one. -/
def Shown (foundation : Foundation) (article : Option News) : Prop :=
  ∀ news ∈ article, foundation.isURL news.url = true

/-- A tapped row has an article with a URL, and a named reminder that reaches a screen finds articles
there, the stored one with a URL if its detail screen is going to be presented. -/
def Safe (foundation : Foundation) (app : NewsApp) : NewsEvent → Prop
  | .didSelectRow row => Shown foundation app.screen.arrayNews[row]?
  | .didReceive identifier .defaultAction => identifier ≠ "" → app.HasDelegate →
      app.screen.arrayNews ≠ [] ∧
        (app.CanPresent app.current → Shown foundation app.screen.arrayNews[app.screen.selected]?)
  | _ => True

instance (article : Option News) : Decidable (Shown foundation article) :=
  inferInstanceAs (Decidable (∀ news ∈ article, foundation.isURL news.url = true))

instance (app : NewsApp) : ∀ event, Decidable (Safe foundation app event)
  | .didSelectRow _ => inferInstanceAs (Decidable (Shown foundation _))
  | .didReceive _ .defaultAction => inferInstanceAs (Decidable (_ → _ → _ ∧ _))
  | .didReceive _ .dismissAction | .didReceive _ (.other _) => .isTrue trivial
  | .feedResponse _ _ | .numberOfRows | .cellForRow _ | .shareSwipe _ | .scheduleSwipe _
  | .authorizationAnswer _ _ _ | .addAnswer _ _ | .deliver _ | .dismiss | .signedOut | .signedIn =>
    .isTrue trivial

private theorem shown_some {news : News} : Shown foundation (some news) ↔ foundation.isURL news.url = true := by
  simp [Shown]

/-- The detail screen unwraps what is a URL. -/
theorem viewDidLoad_eq_none_iff {news : News} :
    DetailsViewController.viewDidLoad foundation news.url = none ↔ Shown foundation (some news) := by
  rw [shown_some, DetailsViewController.viewDidLoad, ite_eq_left_iff]
  simp

/-- A step traps exactly when it is not safe. -/
theorem trapped_eq_none_iff (running : app.trapped = none) (change : Change foundation app event target) :
    target.trapped = none ↔ Safe foundation app event := by
  cases change with
  | opened row news touchable found =>
    simp only [Safe, found]
    exact viewDidLoad_eq_none_iff
  | tapped identifier news received named delegate found =>
    have fed : app.screen.arrayNews ≠ [] := by
      intro empty
      rw [empty] at found
      contradiction
    simp only [Safe, found, ← viewDidLoad_eq_none_iff]
    constructor
    · intro quiet _ _
      refine ⟨fed, fun free => ?_⟩
      rwa [if_pos free] at quiet
    · intro safe
      obtain ⟨_, shown⟩ := safe named delegate
      by_cases free : app.CanPresent app.current
      · rw [if_pos free]
        exact shown free
      · rw [if_neg free]
  | failed identifier received named delegate empty =>
    apply iff_of_false
    · exact nofun
    · exact fun safe => (safe named delegate).1 empty
  | ignored identifier action received unused =>
    refine iff_of_true running ?_
    cases action with
    | defaultAction =>
      intro named delegate
      rcases unused rfl with empty | absent
      · exact absurd empty named
      · exact absurd delegate absent
    | dismissAction => trivial
    | other identifier => trivial
  | fed | counted | displayed | shared | swiped | granted | refused | answered | delivered | dismissed
  | signedOut | signedIn => exact iff_of_true running trivial

/-- The run has not trapped. -/
def Running (app : NewsApp) : Prop := app.Sound ∧ app.trapped = none

/-- The run has ended in a trap. -/
def Ended (app : NewsApp) : Prop := app.trapped ≠ none

theorem running_initial : Running (machine foundation).initial := ⟨sound_initial, rfl⟩

theorem running_step (running : Running app) (safe : Safe foundation app event)
    (step : app.step? foundation event = some target) : Running target := by
  obtain ⟨sound, quiet⟩ := running
  have change := (step?_change sound step).2
  exact ⟨change.sound sound, (trapped_eq_none_iff quiet change).mpr safe⟩

theorem ended_step (running : Running app) (trapping : ¬ Safe foundation app event)
    (step : app.step? foundation event = some target) : Ended target := by
  obtain ⟨sound, quiet⟩ := running
  have change := (step?_change sound step).2
  exact fun still => trapping ((trapped_eq_none_iff quiet change).mp still)

theorem ended_lasts (ended : Ended app) (step : app.step? foundation event = some target) : Ended target := by
  rw [step?, if_neg ended] at step
  contradiction

/-- No access of a run traps exactly when every step of the run was safe. -/
theorem no_trap_iff_safe (reached : (machine foundation).Reaches events app) :
    app.trapped = none ↔ (machine foundation).Along (Safe foundation) (machine foundation).initial events := by
  rcases reached.along_or_fault running_initial (fun _ _ _ => running_step) (fun _ _ _ => ended_step)
    (fun _ _ _ => ended_lasts) with ⟨along, _, quiet⟩ | ⟨broken, ended⟩
  · exact iff_of_true quiet along
  · exact iff_of_false ended broken

/-- A reminder is made of the first article and delivered. -/
def remindedOfFirst : List NewsEvent := sampleFed ++ [.scheduleSwipe 0, .authorizationAnswer 0 true none,
  .addAnswer 0 none, .dismiss, .deliver "a"]

/-- The reminder is opened on the screen that has the feed. -/
theorem no_trap_after_feed : ∃ app,
    (machine sample).Reaches (remindedOfFirst ++ [.didReceive "a" .defaultAction]) app ∧ app.trapped = none := by
  have run : ((machine sample).run? (machine sample).initial
      (remindedOfFirst ++ [.didReceive "a" .defaultAction])).isSome := by decide +kernel
  obtain ⟨app, reached⟩ := Option.isSome_iff_exists.mp run
  exact ⟨app, reached, (no_trap_iff_safe reached).mpr (by decide +kernel)⟩

/-- The reminder is opened while the feed of the next user is awaited, or an article without an
address is. -/
theorem reminder_traps_before_feed :
    (∃ app, (machine sample).Reaches (remindedOfFirst ++ [.signedOut, .signedIn, .didReceive "a" .defaultAction]) app ∧
      app.trapped = some (.indexOutOfRange 0)) ∧
    ∃ app, (machine sample).Reaches (sampleFed ++ [.didSelectRow 2]) app ∧
      app.trapped = some (.unwrappedNil "") := by
  constructor
  · apply Option.map_eq_some_iff.mp
    decide +kernel
  · apply Option.map_eq_some_iff.mp
    decide +kernel

end LoginDN.NewsTraps
