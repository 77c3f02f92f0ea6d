import LoginDN.Model.NewsApp

/-! # What a step of the news screens can do

A feed comes only to a screen that has shown and reported nothing yet, and no other callback writes
the articles. So every row that a table was told of, that a cell shows, that a gesture has stored, or
that a closure has captured stays the row of one article. Under this invariant a callback traps in
two ways only: a reminder is opened on a screen without articles, or an address is no URL.
-/

namespace LoginDN

open Machine

/-- Rows known to a screen are rows of its articles, and there are none before the feed. -/
structure NewsScreen.Sound (screen : NewsScreen) : Prop where
  loading : screen.loading = true → screen.arrayNews = []
  reported : screen.reported ≤ screen.arrayNews.length
  displayed : ∀ row news, screen.displayed row = some news → screen.arrayNews[row]? = some news
  selected : screen.selected = 0 ∨ screen.selected < screen.arrayNews.length

namespace NewsScreen.Sound

variable {screen : NewsScreen} {row : ℕ} {news : News}

theorem opened : NewsScreen.opened.Sound := ⟨fun _ => rfl, Nat.le_refl _, fun _ _ => nofun, .inl rfl⟩

/-- A reported row is the row of an article. -/
theorem exists_article (sound : screen.Sound) (reported : row < screen.reported) :
    ∃ news, screen.arrayNews[row]? = some news := by
  have below := sound.reported
  exact ⟨_, List.getElem?_eq_getElem (by omega)⟩

/-- The stored row is that of an article as soon as there is one. -/
theorem exists_selected (sound : screen.Sound) (fed : screen.arrayNews ≠ []) :
    ∃ news, screen.arrayNews[screen.selected]? = some news := by
  have positive := List.length_pos_iff.mpr fed
  have below : screen.selected < screen.arrayNews.length := by
    rcases sound.selected with first | below
    · omega
    · exact below
  exact ⟨_, List.getElem?_eq_getElem below⟩

/-- The feed comes to a screen that knows of no row. -/
theorem fed (sound : screen.Sound) (loading : screen.loading = true) (arrayNews : List News) :
    { screen with loading := false, arrayNews := arrayNews : NewsScreen }.Sound := by
  have empty := sound.loading loading
  refine ⟨nofun, ?_, fun row news shown => ?_, ?_⟩
  · have reported := sound.reported
    rw [empty, List.length_nil] at reported
    exact Nat.le_trans reported (Nat.zero_le _)
  · have found := sound.displayed row news shown
    rw [empty] at found
    contradiction
  · have selected := sound.selected
    rw [empty, List.length_nil] at selected
    exact .inl (by change screen.selected = 0; omega)

theorem counted (sound : screen.Sound) : { screen with reported := screen.arrayNews.length : NewsScreen }.Sound :=
  ⟨sound.loading, Nat.le_refl _, sound.displayed, sound.selected⟩

theorem shown (sound : screen.Sound) (found : screen.arrayNews[row]? = some news) :
    { screen with displayed := Function.update screen.displayed row (some news) : NewsScreen }.Sound := by
  refine ⟨sound.loading, sound.reported, fun other article shown => ?_, sound.selected⟩
  change Function.update screen.displayed row (some news) other = some article at shown
  by_cases same : other = row
  · subst same
    rw [Function.update_self] at shown
    exact found.trans shown
  · rw [Function.update_of_ne same] at shown
    exact sound.displayed other article shown

theorem select (sound : screen.Sound) (found : screen.arrayNews[row]? = some news) :
    { screen with selected := row : NewsScreen }.Sound :=
  ⟨sound.loading, sound.reported, sound.displayed, .inr (List.getElem?_eq_some_iff.mp found).choose⟩

end NewsScreen.Sound

namespace NewsApp

variable {foundation : Foundation} {app target : NewsApp} {event : NewsEvent}

/-- Every screen is sound, and a swipe in flight has captured the row of an article of a screen that
there has been. -/
structure Sound (app : NewsApp) : Prop where
  screens : ∀ screen, (app.screens screen).Sound
  swipes : ∀ id screen row, (id, .authorizing screen row) ∈ app.swipes.entries →
    screen ≤ app.current ∧ row < (app.screens screen).arrayNews.length

theorem sound_initial : (machine foundation).initial.Sound := by
  refine ⟨fun screen => ?_, fun _ _ _ => nofun⟩
  by_cases first : screen = 0
  · subst first
    exact .opened
  · have unopened : (machine foundation).initial.screens screen = { NewsScreen.opened with loading := false } := by
      change Function.update (fun _ => { NewsScreen.opened with loading := false }) 0 _ screen = _
      rw [Function.update_of_ne first]
    rw [unopened]
    exact ⟨fun _ => rfl, Nat.le_refl _, fun _ _ => nofun, .inl rfl⟩

theorem Sound.current (sound : app.Sound) : app.screen.Sound := sound.screens app.current

/-- A swipe in flight will find its article. -/
theorem Sound.captured (sound : app.Sound) {id screen row : ℕ}
    (flight : (id, .authorizing screen row) ∈ app.swipes.entries) :
    ∃ news, (app.screens screen).arrayNews[row]? = some news :=
  ⟨_, List.getElem?_eq_getElem (sound.swipes id screen row flight).2⟩

/-- What is in front of the screen in use after a screen has presented something. -/
def inFront (app : NewsApp) (screen : ℕ) (above : Presented) : Option Presented :=
  if app.CanPresent screen then some above else app.presented

/-- One screen is replaced by what a callback has made of it. -/
def withScreen (app : NewsApp) (screen : ℕ) (after : NewsScreen) : NewsApp :=
  { app with screens := Function.update app.screens screen after }

/-- The alerts of a schedule swipe. -/
def saved : String × String := ("Alert", "Lembrete salvo com sucesso")
def refused : String × String := ("Alert", "Você precisa autorizar as notificações do 4andMusic.")

/-- The user's answer that lets a reminder be made. -/
abbrev Grants (didAllow : Bool) (error : Option NSError) : Prop := didAllow = true ∧ error = none

theorem closure_iff_grants {didAllow : Bool} {error : Option NSError} :
    NewsController.requestAuthorization.closure didAllow error = true ↔ Grants didAllow error := by
  cases error <;> cases didAllow <;> simp [Grants, NewsController.requestAuthorization.closure]

/-- Everything a step of a sound app can do. -/
inductive Change (foundation : Foundation) (app : NewsApp) : NewsEvent → NewsApp → Prop where
  | fed (screen : ℕ) (answer : Answer) (arrayNews : List News)
      (loading : (app.screens screen).loading = true) :
      Change foundation app (.feedResponse screen answer)
        (app.withScreen screen { app.screens screen with loading := false, arrayNews := arrayNews })
  | counted : Change foundation app .numberOfRows
      (app.withScreen app.current { app.screen with reported := app.screen.arrayNews.length })
  | displayed (row : ℕ) (news : News) (reported : row < app.screen.reported)
      (found : app.screen.arrayNews[row]? = some news) :
      Change foundation app (.cellForRow row)
        (app.withScreen app.current
          { app.screen with displayed := Function.update app.screen.displayed row (some news) })
  | opened (row : ℕ) (news : News) (touchable : app.Touchable row)
      (found : app.screen.arrayNews[row]? = some news) :
      Change foundation app (.didSelectRow row)
        { app.withScreen app.current { app.screen with selected := row } with
          presented := some (.detail news.url)
          trapped := DetailsViewController.viewDidLoad foundation news.url }
  | shared (row : ℕ) (news : News) (touchable : app.Touchable row)
      (found : app.screen.arrayNews[row]? = some news) :
      Change foundation app (.shareSwipe row)
        { app.withScreen app.current { app.screen with selected := row } with
          presented := some (.activity news.url) }
  | swiped (row : ℕ) (news : News) (touchable : app.Touchable row)
      (found : app.screen.arrayNews[row]? = some news) :
      Change foundation app (.scheduleSwipe row)
        { app with
          swipes := app.swipes.issue (.authorizing app.current row)
          swiped := (app.swipes.next, news) :: app.swiped }
  | granted (swipe screen row : ℕ) (news : News) (didAllow : Bool) (error : Option NSError)
      (flight : (swipe, .authorizing screen row) ∈ app.swipes.entries)
      (found : (app.screens screen).arrayNews[row]? = some news) (grants : Grants didAllow error) :
      Change foundation app (.authorizationAnswer swipe didAllow error)
        { app.withScreen screen { app.screens screen with selected := row } with
          swipes := app.swipes.revise swipe (.adding (.ofNews news))
          presented := app.inFront screen (.alert saved.1 saved.2)
          alerts := (swipe, saved) :: app.alerts }
  | refused (swipe screen row : ℕ) (didAllow : Bool) (error : Option NSError)
      (flight : (swipe, .authorizing screen row) ∈ app.swipes.entries) (refuses : ¬ Grants didAllow error) :
      Change foundation app (.authorizationAnswer swipe didAllow error)
        { app with
          swipes := app.swipes.close swipe
          presented := app.inFront screen (.alert NewsApp.refused.1 NewsApp.refused.2)
          alerts := (swipe, NewsApp.refused) :: app.alerts }
  | answered (swipe : ℕ) (request : Reminder) (error : Option NSError)
      (flight : (swipe, .adding request) ∈ app.swipes.entries) :
      Change foundation app (.addAnswer swipe error)
        { app with
          swipes := app.swipes.close swipe
          pending := if error = none then request :: without request.identifier app.pending else app.pending
          accepted := if error = none then (swipe, request) :: app.accepted else app.accepted }
  | delivered (identifier : String) (reminder : Reminder) (waiting : reminder ∈ app.pending)
      (named : reminder.identifier = identifier) :
      Change foundation app (.deliver identifier)
        { app with
          pending := without identifier app.pending
          delivered := reminder :: without identifier app.delivered }
  | tapped (identifier : String) (news : News) (received : identifier ∈ app.delivered.map Reminder.identifier)
      (named : identifier ≠ "") (delegate : app.HasDelegate)
      (found : app.screen.arrayNews[app.screen.selected]? = some news) :
      Change foundation app (.didReceive identifier .defaultAction)
        { app with
          delivered := without identifier app.delivered
          presented := app.inFront app.current (.detail news.url)
          trapped := if app.CanPresent app.current then DetailsViewController.viewDidLoad foundation news.url
            else none }
  | failed (identifier : String) (received : identifier ∈ app.delivered.map Reminder.identifier)
      (named : identifier ≠ "") (delegate : app.HasDelegate) (empty : app.screen.arrayNews = []) :
      Change foundation app (.didReceive identifier .defaultAction)
        { app with
          delivered := without identifier app.delivered
          trapped := some (.indexOutOfRange app.screen.selected) }
  | ignored (identifier : String) (action : ActionIdentifier)
      (received : identifier ∈ app.delivered.map Reminder.identifier)
      (unused : action = .defaultAction → identifier = "" ∨ ¬ app.HasDelegate) :
      Change foundation app (.didReceive identifier action)
        { app with delivered := without identifier app.delivered }
  | dismissed (front : app.presented ≠ none) : Change foundation app .dismiss { app with presented := none }
  | signedOut (free : app.CanPresent app.current) : Change foundation app .signedOut { app with onScreen := false }
  | signedIn (outside : app.onScreen = false) : Change foundation app .signedIn
      { app.withScreen (app.current + 1) .opened with current := app.current + 1, onScreen := true }

section Responses

variable (screen swipe : ℕ) (after : NewsScreen)

private theorem respond_nothing :
    app.respond foundation screen swipe (.ok (after, [])) = app.withScreen screen after := rfl

private theorem respond_showDetail (newsURL : String) :
    app.respond foundation screen swipe (.ok (after, [.showDetail newsURL])) =
      { app.withScreen screen after with
        presented := app.inFront screen (.detail newsURL)
        trapped := if app.CanPresent screen then DetailsViewController.viewDidLoad foundation newsURL
          else app.trapped } := by
  unfold inFront
  by_cases free : app.CanPresent screen
  · rw [if_pos free, if_pos free]
    exact if_pos free
  · rw [if_neg free, if_neg free]
    exact if_neg free

private theorem respond_presentActivity (url : String) :
    app.respond foundation screen swipe (.ok (after, [.presentActivity url])) =
      { app.withScreen screen after with presented := app.inFront screen (.activity url) } := by
  unfold inFront
  by_cases free : app.CanPresent screen
  · rw [if_pos free]
    exact if_pos free
  · rw [if_neg free]
    exact if_neg free

private theorem respond_presentAlert (message : String × String) :
    app.respond foundation screen swipe (.ok (after, [.presentAlert message.1 message.2])) =
      { app.withScreen screen after with
        presented := app.inFront screen (.alert message.1 message.2)
        alerts := (swipe, message) :: app.alerts } := rfl

variable {screen after}

/-- A screen that is written back as it was leaves the app as it was. -/
theorem withScreen_eq_self (same : app.screens screen = after) : app.withScreen screen after = app := by
  unfold withScreen
  rw [← same, Function.update_eq_self]

private theorem respond_requestAuthorization (same : app.screens screen = after) (row : ℕ) :
    app.respond foundation screen swipe (.ok (after, [.requestAuthorization row])) =
      { app with swipes := app.swipes.issue (.authorizing screen row) } := by
  change { app.withScreen screen after with swipes := app.swipes.issue (.authorizing screen row) } = _
  rw [withScreen_eq_self same]

end Responses

/-- No call of a completion of the feed does more than reload the table. -/
private theorem respond_fed (screen swipe : ℕ) (before : NewsScreen) (answer : Answer) :
    app.respond foundation screen swipe (.ok (NewsViewController.loadData foundation before answer)) =
      app.withScreen screen { before with
        arrayNews := (NewsController.getNewsApi foundation before.arrayNews answer).1 } := by
  unfold respond NewsViewController.loadData
  simp only
  induction (NewsController.getNewsApi foundation before.arrayNews answer).2 with
  | nil => rfl
  | cons success rest ih =>
    rw [List.flatMap_cons, List.foldl_append]
    cases success with
    | true => exact ih
    | false => exact ih

/-- The answer to a swipe finds the article of the captured row. -/
private theorem change_authorizationAnswer (sound : app.Sound) {swipe : ℕ} {didAllow : Bool}
    {error : Option NSError} {received : NewsApp}
    (accepted : app.received? (.authorizationAnswer swipe didAllow error) = some received) :
    ∃ screen outcome, app.callback foundation (.authorizationAnswer swipe didAllow error) = some (screen, outcome) ∧
      Change foundation app (.authorizationAnswer swipe didAllow error)
        (received.respond foundation screen swipe outcome) := by
  simp only [received?] at accepted
  split at accepted
  · next screen row captured =>
    have flight := Ledger.mem_of_find? captured
    obtain ⟨news, found⟩ := sound.captured flight
    refine ⟨screen, NewsViewController.swipeIndex.closure (app.screens screen) row
      (NewsController.requestAuthorization.closure didAllow error), by simp only [callback, captured], ?_⟩
    split at accepted
    · next grants =>
      obtain rfl := Option.some.inj accepted
      rw [grants, NewsScreen.closure_of_some found]
      exact .granted swipe screen row news didAllow error flight found (closure_iff_grants.mp grants)
    · next refuses =>
      obtain rfl := Option.some.inj accepted
      have outcome : NewsViewController.swipeIndex.closure (app.screens screen) row
          (NewsController.requestAuthorization.closure didAllow error) =
          .ok (app.screens screen, [.presentAlert NewsApp.refused.1 NewsApp.refused.2]) := if_neg refuses
      rw [outcome, respond_presentAlert, withScreen_eq_self rfl]
      exact .refused swipe screen row didAllow error flight fun grants => refuses (closure_iff_grants.mpr grants)
  · contradiction

/-- A reminder that reaches a screen is opened there at the stored row, if it is opened at all. -/
private theorem change_didReceive (sound : app.Sound) (running : app.trapped = none) {identifier : String}
    {action : ActionIdentifier} (received : identifier ∈ app.delivered.map Reminder.identifier)
    (delegate : app.HasDelegate) (swipe : ℕ) :
    Change foundation app (.didReceive identifier action)
      (respond foundation { app with delivered := without identifier app.delivered } app.current swipe
        (NewsViewController.didReceive app.screen identifier action)) := by
  by_cases used : action = .defaultAction ∧ identifier ≠ ""
  · obtain ⟨rfl, named⟩ := used
    cases found : app.screen.arrayNews[app.screen.selected]? with
    | some news =>
      rw [NewsScreen.didReceive_of_some named found, respond_showDetail, withScreen_eq_self]
      · simp only [running]
        exact .tapped identifier news received named delegate found
      · rfl
    | none =>
      rw [NewsScreen.didReceive_of_none named found]
      refine .failed identifier received named delegate ?_
      by_contra fed
      obtain ⟨news, present⟩ := sound.current.exists_selected fed
      rw [found] at present
      contradiction
  · have unused : action = .defaultAction → identifier = "" := by
      intro default
      by_contra named
      exact used ⟨default, named⟩
    rw [NewsScreen.didReceive_of_unused unused, respond_nothing, withScreen_eq_self]
    · exact .ignored identifier action received fun default => .inl (unused default)
    · rfl

/-- A step of a sound app is one of its changes. -/
theorem step?_change (sound : app.Sound) (step : app.step? foundation event = some target) :
    app.trapped = none ∧ Change foundation app event target := by
  unfold step? at step
  split at step
  · next running =>
    refine ⟨running, ?_⟩
    obtain ⟨received, accepted, rfl⟩ := Option.map_eq_some_iff.mp step
    clear step
    cases event with
    | feedResponse screen answer =>
      obtain ⟨loading, same⟩ := Option.ite_none_right_eq_some.mp accepted
      obtain rfl := Option.some.inj same
      change Change _ _ _ (app.respond foundation screen _ (.ok (NewsViewController.loadData _ _ _)))
      rw [respond_fed]
      exact .fed screen answer _ loading
    | numberOfRows =>
      obtain rfl := Option.some.inj accepted
      exact .counted
    | cellForRow row =>
      obtain ⟨reported, same⟩ := Option.ite_none_right_eq_some.mp accepted
      obtain rfl := Option.some.inj same
      obtain ⟨news, found⟩ := sound.current.exists_article reported
      simp only [callback, NewsScreen.cellForRowAt_of_some found]
      exact .displayed row news reported found
    | didSelectRow row =>
      obtain ⟨touchable, same⟩ := Option.ite_none_right_eq_some.mp accepted
      obtain rfl := Option.some.inj same
      obtain ⟨news, found⟩ := sound.current.exists_article touchable.1
      simp only [callback, NewsScreen.didSelectRowAt_of_some found, respond_showDetail, inFront, if_pos touchable.2]
      exact .opened row news touchable found
    | shareSwipe row =>
      obtain ⟨touchable, same⟩ := Option.ite_none_right_eq_some.mp accepted
      obtain rfl := Option.some.inj same
      obtain ⟨news, found⟩ := sound.current.exists_article touchable.1
      simp only [callback, NewsScreen.leftSwipeIndex_of_some found, respond_presentActivity, inFront,
        if_pos touchable.2]
      exact .shared row news touchable found
    | scheduleSwipe row =>
      obtain ⟨touchable, same⟩ := Option.ite_none_right_eq_some.mp accepted
      obtain rfl := Option.some.inj same
      obtain ⟨news, found⟩ := sound.current.exists_article touchable.1
      simp only [callback, NewsViewController.swipeIndex]
      rw [respond_requestAuthorization, found]
      · exact .swiped row news touchable found
      · rfl
    | authorizationAnswer swipe didAllow error =>
      obtain ⟨screen, outcome, called, change⟩ := change_authorizationAnswer sound accepted
      rw [called]
      exact change
    | addAnswer swipe error =>
      simp only [received?] at accepted
      split at accepted
      · next request handled =>
        obtain rfl := Option.some.inj accepted
        exact .answered swipe request error (Ledger.mem_of_find? handled)
      · contradiction
    | deliver identifier =>
      obtain ⟨reminder, found, rfl⟩ := Option.map_eq_some_iff.mp accepted
      have named : reminder.identifier = identifier := by simpa using List.find?_some found
      exact .delivered identifier reminder (List.mem_of_find?_eq_some found) named
    | didReceive identifier action =>
      obtain ⟨received, same⟩ := Option.ite_none_right_eq_some.mp accepted
      obtain rfl := Option.some.inj same
      by_cases delegate : app.HasDelegate
      · simp only [callback, if_pos delegate]
        exact change_didReceive sound running received delegate _
      · simp only [callback, if_neg delegate]
        exact .ignored identifier action received fun _ => .inr delegate
    | dismiss =>
      obtain ⟨front, same⟩ := Option.ite_none_right_eq_some.mp accepted
      obtain rfl := Option.some.inj same
      exact .dismissed front
    | signedOut =>
      obtain ⟨free, same⟩ := Option.ite_none_right_eq_some.mp accepted
      obtain rfl := Option.some.inj same
      exact .signedOut free
    | signedIn =>
      obtain ⟨outside, same⟩ := Option.ite_none_right_eq_some.mp accepted
      obtain rfl := Option.some.inj same
      exact .signedIn outside
  · contradiction

/-- No screen there has been loses an article, and screens are numbered in their order. -/
structure Keeps (app target : NewsApp) : Prop where
  current : app.current ≤ target.current
  articles : ∀ screen ≤ app.current, ∀ (row : ℕ) (news : News), (app.screens screen).arrayNews[row]? = some news →
    (target.screens screen).arrayNews[row]? = some news

namespace Keeps

variable {middle : NewsApp}

theorem refl : app.Keeps app := ⟨Nat.le_refl _, fun _ _ _ _ found => found⟩

theorem trans (first : app.Keeps middle) (second : middle.Keeps target) : app.Keeps target := by
  refine ⟨Nat.le_trans first.current second.current, fun screen opened row news found => ?_⟩
  apply second.articles screen (Nat.le_trans opened first.current)
  exact first.articles screen opened row news found

theorem of_screens (current : target.current = app.current) (screens : target.screens = app.screens) :
    app.Keeps target := by
  refine ⟨Nat.le_of_eq current.symm, fun screen _ row news found => ?_⟩
  rw [screens]
  exact found

/-- Nothing but the articles of one screen has to be looked at when that screen is replaced. -/
theorem of_update {screen : ℕ} {after : NewsScreen} (current : target.current = app.current)
    (screens : target.screens = Function.update app.screens screen after)
    (kept : ∀ (row : ℕ) (news : News), (app.screens screen).arrayNews[row]? = some news →
      after.arrayNews[row]? = some news) : app.Keeps target := by
  refine ⟨Nat.le_of_eq current.symm, fun other _ row news found => ?_⟩
  rw [screens]
  by_cases same : other = screen
  · subst same
    rw [Function.update_self]
    exact kept row news found
  · rw [Function.update_of_ne same]
    exact found

/-- A captured row is still the row of an article. -/
theorem captured (keeps : app.Keeps target) {screen row : ℕ}
    (before : screen ≤ app.current ∧ row < (app.screens screen).arrayNews.length) :
    screen ≤ target.current ∧ row < (target.screens screen).arrayNews.length := by
  obtain ⟨opened, below⟩ := before
  have found := keeps.articles screen opened row _ (List.getElem?_eq_getElem below)
  exact ⟨Nat.le_trans opened keeps.current, (List.getElem?_eq_some_iff.mp found).choose⟩

end Keeps

theorem Change.keeps (sound : app.Sound) (change : Change foundation app event target) : app.Keeps target := by
  cases change with
  | fed screen answer arrayNews loading =>
    refine .of_update rfl rfl fun row news found => ?_
    rw [(sound.screens screen).loading loading] at found
    contradiction
  | counted => exact .of_update rfl rfl fun _ _ found => found
  | displayed => exact .of_update rfl rfl fun _ _ found => found
  | opened => exact .of_update rfl rfl fun _ _ found => found
  | shared => exact .of_update rfl rfl fun _ _ found => found
  | granted => exact .of_update rfl rfl fun _ _ found => found
  | signedIn =>
    refine ⟨Nat.le_succ _, fun screen opened row news found => ?_⟩
    change (Function.update app.screens (app.current + 1) .opened screen).arrayNews[row]? = some news
    rw [Function.update_of_ne (by omega)]
    exact found
  | swiped | refused | answered | delivered | tapped | failed | ignored | dismissed | signedOut =>
    exact .of_screens rfl rfl

/-- A swipe in flight was there before or is the one that was just begun. -/
theorem Change.captures (change : Change foundation app event target) {id screen row : ℕ}
    (flight : (id, .authorizing screen row) ∈ target.swipes.entries) :
    (id, .authorizing screen row) ∈ app.swipes.entries ∨
      id = app.swipes.next ∧ screen = app.current ∧ event = .scheduleSwipe row ∧
        ∃ news, app.screen.arrayNews[row]? = some news := by
  cases change with
  | swiped row news touchable found =>
    rcases Ledger.mem_issue.mp flight with old | ⟨rfl, new⟩
    · exact .inl old
    · cases new
      exact .inr ⟨rfl, rfl, rfl, news, found⟩
  | granted swipe screen row news didAllow error before found grants =>
    rcases (Ledger.mem_revise before).mp flight with ⟨_, new⟩ | ⟨_, old⟩
    · contradiction
    · exact .inl old
  | refused => exact .inl (Ledger.mem_close.mp flight).1
  | answered => exact .inl (Ledger.mem_close.mp flight).1
  | fed | counted | displayed | opened | shared | delivered | tapped | failed | ignored | dismissed
  | signedOut | signedIn => exact .inl flight

private theorem sound_update {screens : ℕ → NewsScreen} {screen : ℕ} {after : NewsScreen}
    (sound : ∀ screen, (screens screen).Sound) (new : after.Sound) :
    ∀ other, (Function.update screens screen after other).Sound := by
  intro other
  by_cases same : other = screen
  · subst same
    rw [Function.update_self]
    exact new
  · rw [Function.update_of_ne same]
    exact sound other

theorem Change.sound (sound : app.Sound) (change : Change foundation app event target) : target.Sound := by
  refine ⟨?_, fun id screen row flight => ?_⟩
  · have screens := sound.screens
    cases change with
    | fed screen answer arrayNews loading => exact sound_update screens ((screens screen).fed loading arrayNews)
    | counted => exact sound_update screens sound.current.counted
    | displayed row news reported found => exact sound_update screens (sound.current.shown found)
    | opened row news touchable found => exact sound_update screens (sound.current.select found)
    | shared row news touchable found => exact sound_update screens (sound.current.select found)
    | granted swipe screen row news didAllow error flight found grants =>
      exact sound_update screens ((screens screen).select found)
    | signedIn => exact sound_update screens .opened
    | swiped | refused | answered | delivered | tapped | failed | ignored | dismissed | signedOut => exact screens
  · apply (change.keeps sound).captured
    rcases change.captures flight with old | ⟨_, rfl, _, news, found⟩
    · exact sound.swipes id screen row old
    · exact ⟨Nat.le_refl _, (List.getElem?_eq_some_iff.mp found).choose⟩

theorem sound_step (sound : app.Sound) (step : app.step? foundation event = some target) : target.Sound :=
  (step?_change sound step).2.sound sound

/-- The answer of the feed is taken by a screen that waits for it. -/
theorem step?_feedResponse (running : app.trapped = none) {screen : ℕ} (loading : (app.screens screen).loading = true)
    (answer : Answer) : app.step? foundation (.feedResponse screen answer) =
      some (app.withScreen screen { app.screens screen with
        loading := false
        arrayNews := (NewsController.getNewsApi foundation (app.screens screen).arrayNews answer).1 }) := by
  have received : app.received? (.feedResponse screen answer) = some app := if_pos loading
  have called : app.callback foundation (.feedResponse screen answer) = some (screen, .ok
    (NewsViewController.loadData foundation { app.screens screen with loading := false } answer)) := rfl
  simp only [step?, if_pos running, received, called, Option.map_some]
  rw [respond_fed]

/-- What each event that is not an answer of the feed leaves of the screens: the articles and whether
the feed is awaited. A sign-in adds a screen. -/
theorem Change.feeds (change : Change foundation app event target)
    (other : ∀ screen answer, event ≠ .feedResponse screen answer) :
    (∀ screen, screen ≤ app.current → (target.screens screen).loading = (app.screens screen).loading ∧
      (target.screens screen).arrayNews = (app.screens screen).arrayNews) ∧
    ((event ≠ .signedIn ∧ target.current = app.current) ∨
      (event = .signedIn ∧ target.current = app.current + 1 ∧ target.screens target.current = .opened)) := by
  have replaced (owner : ℕ) (after : NewsScreen) (loading : after.loading = (app.screens owner).loading)
      (articles : after.arrayNews = (app.screens owner).arrayNews) (screen : ℕ) :
      (Function.update app.screens owner after screen).loading = (app.screens screen).loading ∧
        (Function.update app.screens owner after screen).arrayNews = (app.screens screen).arrayNews := by
    by_cases same : screen = owner
    · subst same
      rw [Function.update_self]
      exact ⟨loading, articles⟩
    · rw [Function.update_of_ne same]
      exact ⟨rfl, rfl⟩
  cases change with
  | fed screen answer arrayNews loading => exact absurd rfl (other screen answer)
  | counted => exact ⟨fun screen _ => replaced app.current _ (by rfl) (by rfl) screen, .inl ⟨nofun, rfl⟩⟩
  | displayed row news reported found =>
    exact ⟨fun screen _ => replaced app.current _ (by rfl) (by rfl) screen, .inl ⟨nofun, rfl⟩⟩
  | opened row news touchable found =>
    exact ⟨fun screen _ => replaced app.current _ (by rfl) (by rfl) screen, .inl ⟨nofun, rfl⟩⟩
  | shared row news touchable found =>
    exact ⟨fun screen _ => replaced app.current _ (by rfl) (by rfl) screen, .inl ⟨nofun, rfl⟩⟩
  | granted swipe owner row news didAllow error flight found grants =>
    exact ⟨fun screen _ => replaced owner _ (by rfl) (by rfl) screen, .inl ⟨nofun, rfl⟩⟩
  | signedIn outside =>
    refine ⟨fun screen below => ?_, .inr ⟨rfl, rfl, Function.update_self ..⟩⟩
    have kept : (app.withScreen (app.current + 1) .opened).screens screen = app.screens screen :=
      Function.update_of_ne (by omega) ..
    exact ⟨congrArg NewsScreen.loading kept, congrArg NewsScreen.arrayNews kept⟩
  | _ => exact ⟨fun _ _ => ⟨rfl, rfl⟩, .inl ⟨nofun, rfl⟩⟩

/-- Every app that is reached is sound. -/
theorem sound_of_reaches {events : List NewsEvent} (reached : (machine foundation).Reaches events app) :
    app.Sound := reached.invariant sound_initial fun _ _ _ => sound_step

/-- What a step keeps a run keeps. -/
theorem keeps_of_run {events : List NewsEvent} (sound : app.Sound)
    (run : (machine foundation).run? app events = some target) : app.Keeps target := by
  induction events generalizing app with
  | nil =>
    cases run
    exact .refl
  | cons event rest ih =>
    obtain ⟨next, step, tail⟩ := System.run?_cons_iff.mp run
    have change := (step?_change sound step).2
    exact (change.keeps sound).trans (ih (change.sound sound) tail)

end NewsApp

end LoginDN
