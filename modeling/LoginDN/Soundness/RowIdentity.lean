import LoginDN.Model.NewsHistory

/-! # What a row displays is what its gestures act on

Gestures name rows and a screen may get its articles late, so the article of a row is looked up again
each time. A row that a cell displays has its article already, and no step takes it away: neither the
callbacks of the same screen nor anything that happens before the user's answer to a schedule swipe.
-/

namespace LoginDN.RowIdentity

open Machine NewsApp

variable {foundation : Foundation} {app target : NewsApp} {event : NewsEvent} {events : List NewsEvent}

/-- Opening the row opens the address of the article. -/
def Opens (foundation : Foundation) (app : NewsApp) (row : ℕ) (news : News) : Prop :=
  ∀ target, app.step? foundation (.didSelectRow row) = some target → target.presented = some (.detail news.url)

/-- Sharing the row shares the address of the article. -/
def Shares (foundation : Foundation) (app : NewsApp) (row : ℕ) (news : News) : Prop :=
  ∀ target, app.step? foundation (.shareSwipe row) = some target → target.presented = some (.activity news.url)

/-- Whenever the user answers the swipe of the row, a request is added if he allows it without an error,
and it is the reminder of the article. -/
def Schedules (foundation : Foundation) (app : NewsApp) (row : ℕ) (news : News) : Prop :=
  ∀ begun, app.step? foundation (.scheduleSwipe row) = some begun →
    ∀ later final, (machine foundation).run? begun later = some final → ∀ didAllow error target,
      final.step? foundation (.authorizationAnswer app.swipes.next didAllow error) = some target →
        ∀ request, (app.swipes.next, .adding request) ∈ target.swipes.entries ↔
          (didAllow = true ∧ error = none) ∧ request = .ofNews news

/-- A swipe that is awaited after a run, and had begun before it, was awaited for the same row then. -/
theorem flight_of_run {id screen row : ℕ} (sound : app.Sound)
    (run : (machine foundation).run? app events = some target) (begun : id < app.swipes.next)
    (flight : (id, .authorizing screen row) ∈ target.swipes.entries) :
    (id, .authorizing screen row) ∈ app.swipes.entries := by
  induction events generalizing app with
  | nil =>
    cases run
    exact flight
  | cons event rest ih =>
    obtain ⟨next, step, tail⟩ := System.run?_cons_iff.mp run
    have change := (step?_change sound step).2
    have earlier := change.next_le
    have flying := ih (change.sound sound) tail (by omega)
    rcases change.captures flying with old | ⟨new, _⟩
    · exact old
    · omega

theorem opens_of_article {row : ℕ} {news : News} (sound : app.Sound)
    (found : app.screen.arrayNews[row]? = some news) : Opens foundation app row news := by
  intro target step
  cases (step?_change sound step).2 with
  | opened _ article touchable present =>
    obtain rfl := Option.some.inj (found.symm.trans present)
    rfl

theorem shares_of_article {row : ℕ} {news : News} (sound : app.Sound)
    (found : app.screen.arrayNews[row]? = some news) : Shares foundation app row news := by
  intro target step
  cases (step?_change sound step).2 with
  | shared _ article touchable present =>
    obtain rfl := Option.some.inj (found.symm.trans present)
    rfl

/-- The answer to a swipe finds the article that was in its row when the user swiped. -/
theorem schedules_of_article {row : ℕ} {news : News} (sound : app.Sound)
    (found : app.screen.arrayNews[row]? = some news) : Schedules foundation app row news := by
  intro begun step later final run didAllow error target answered request
  have change := (step?_change sound step).2
  have soundBegun := change.sound sound
  have soundFinal := System.run?_preserves (fun _ _ _ => sound_step) soundBegun run
  have own : (app.swipes.next, .authorizing app.current row) ∈ begun.swipes.entries ∧
      app.swipes.next < begun.swipes.next := by
    cases change with
    | swiped =>
      rw [Ledger.next_issue]
      exact ⟨Ledger.mem_issue.mpr (.inr ⟨rfl, rfl⟩), Nat.lt_succ_self _⟩
  obtain ⟨waiting, earlier⟩ := own
  have kept := (change.keeps sound).trans (keeps_of_run soundBegun run)
  have still := kept.articles app.current (Nat.le_refl _) row news found
  cases (step?_change soundFinal answered).2 with
  | granted _ screen other article _ _ flight present grants =>
    have same := Ledger.eq_of_mem (flight_of_run soundBegun run earlier flight) waiting
    cases same
    obtain rfl := Option.some.inj (still.symm.trans present)
    rw [Ledger.mem_revise flight]
    constructor
    · rintro (⟨_, made⟩ | ⟨other, _⟩)
      · exact ⟨grants, SwipeStage.adding.inj made⟩
      · exact absurd rfl other
    · rintro ⟨_, rfl⟩
      exact .inl ⟨rfl, rfl⟩
  | refused _ screen other _ _ flight refuses =>
    apply iff_of_false
    · exact fun flying => absurd rfl (Ledger.mem_close.mp flying).2
    · exact fun made => refuses made.1

/-- In every state reached, the gestures on a row that a cell displays act on the displayed article:
at once, and for a schedule swipe also when the user's answer comes arbitrarily later. -/
theorem gestures_act_on_displayed (reached : (machine foundation).Reaches events app) {row : ℕ} {news : News}
    (displayed : app.screen.displayed row = some news) :
    Opens foundation app row news ∧ Shares foundation app row news ∧ Schedules foundation app row news := by
  have sound := sound_of_reaches reached
  have found := sound.current.displayed row news displayed
  exact ⟨opens_of_article sound found, shares_of_article sound found, schedules_of_article sound found⟩

/-- The second of three rows is displayed. It is opened with its own address, and its reminder is made. -/
theorem gestures_act_on_second_row : ∃ app news, (machine sample).Reaches (sampleFed ++ [.cellForRow 1]) app ∧
    app.screen.displayed 1 = some news ∧ news.url = "b" ∧
    (Opens sample app 1 news ∧ Shares sample app 1 news ∧ Schedules sample app 1 news) ∧
    (∃ target, app.step? sample (.didSelectRow 1) = some target ∧ target.presented = some (.detail news.url)) ∧
    ∃ begun target, app.step? sample (.scheduleSwipe 1) = some begun ∧
      begun.step? sample (.authorizationAnswer app.swipes.next true none) = some target ∧
      (app.swipes.next, .adding (.ofNews news)) ∈ target.swipes.entries := by
  have run : ((machine sample).run? (machine sample).initial (sampleFed ++ [.cellForRow 1])).map (fun app =>
      (app.screen.displayed 1, (app.step? sample (.didSelectRow 1)).isSome,
        ((app.step? sample (.scheduleSwipe 1)).bind fun begun =>
          begun.step? sample (.authorizationAnswer app.swipes.next true none)).isSome)) =
      some (some ⟨"h", "b", "i", "p", "f"⟩, true, true) := by decide +kernel
  obtain ⟨app, reached, observed⟩ := Option.map_eq_some_iff.mp run
  simp only [Prod.mk.injEq, Option.isSome_iff_exists, Option.bind_eq_some_iff] at observed
  obtain ⟨displayed, ⟨opened, tapped⟩, target, begun, swiped, answered⟩ := observed
  obtain ⟨opens, shares, schedules⟩ := gestures_act_on_displayed reached displayed
  refine ⟨app, _, reached, displayed, rfl, ⟨opens, shares, schedules⟩, ⟨opened, tapped, opens opened tapped⟩,
    begun, target, swiped, answered, ?_⟩
  exact (schedules begun swiped [] begun rfl true none target answered _).mpr ⟨⟨rfl, rfl⟩, rfl⟩

end LoginDN.RowIdentity
