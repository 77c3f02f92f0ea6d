import LoginDN.Machine.Ledger
import LoginDN.Machine.Run
import LoginDN.Model.NewsScreen

/-! # News screens, reminders and the notification centre

The signed-in part of the app over any number of sign-outs: each sign-in opens a fresh news screen,
while answers to what an old screen asked for may still come. The centre keeps one pending and one
delivered reminder for each identifier. A trap ends the run.
-/

namespace LoginDN

open Machine

/-- What is presented above the news screen. -/
inductive Presented where
  | detail (newsURL : String)
  | activity (url : String)
  | alert (title message : String)
deriving DecidableEq

/-- A schedule swipe whose answer is awaited: the one of the user, or the one of the centre. -/
inductive SwipeStage where
  | authorizing (screen row : ℕ)
  | adding (request : Reminder)
deriving DecidableEq

/-- All screens there have been, the one in use and what is in front of it, the swipes and reminders
on their way, and three histories no code reads: the article of each swipe, the calls of `showAlert` for
each swipe, which UIKit may not present, and the reminders the centre has accepted. -/
structure NewsApp where
  screens : ℕ → NewsScreen
  current : ℕ
  onScreen : Bool
  presented : Option Presented
  swipes : Ledger SwipeStage
  pending : List Reminder
  delivered : List Reminder
  trapped : Option Trap
  swiped : List (ℕ × News)
  alerts : List (ℕ × String × String)
  accepted : List (ℕ × Reminder)

inductive NewsEvent where
  | feedResponse (screen : ℕ) (answer : Answer)
  | numberOfRows
  | cellForRow (row : ℕ)
  | didSelectRow (row : ℕ)
  | shareSwipe (row : ℕ)
  | scheduleSwipe (row : ℕ)
  | authorizationAnswer (swipe : ℕ) (didAllow : Bool) (error : Option NSError)
  | addAnswer (swipe : ℕ) (error : Option NSError)
  | deliver (identifier : String)
  | didReceive (identifier : String) (action : ActionIdentifier)
  | dismiss
  | signedOut
  | signedIn

/-- The closure that waits for the user's answer retains its screen, the handler of `add` does not. -/
def SwipeStage.retains (screen : ℕ) : SwipeStage → Bool
  | .authorizing owner _ => owner == screen
  | .adding _ => false

namespace NewsApp

/-- The screen in use. -/
def screen (app : NewsApp) : NewsScreen := app.screens app.current

/-- UIKit presents for a screen in the window that presents nothing yet. -/
def CanPresent (app : NewsApp) (screen : ℕ) : Prop :=
  screen = app.current ∧ app.onScreen = true ∧ app.presented = none

instance (app : NewsApp) (screen : ℕ) : Decidable (app.CanPresent screen) :=
  inferInstanceAs (Decidable (_ ∧ _))

/-- The user can act on a row the table has been told of, with nothing in front of it. -/
def Touchable (app : NewsApp) (row : ℕ) : Prop :=
  row < app.screen.reported ∧ app.CanPresent app.current

instance (app : NewsApp) (row : ℕ) : Decidable (app.Touchable row) := inferInstanceAs (Decidable (_ ∧ _))

/-- The centre refers to its delegate weakly: off screen the last screen is there only as long as a
closure retains it. -/
def HasDelegate (app : NewsApp) : Prop :=
  app.onScreen = true ∨ app.screen.loading = true ∨
    ∃ entry ∈ app.swipes.entries, entry.2.retains app.current = true

instance (app : NewsApp) : Decidable app.HasDelegate := inferInstanceAs (Decidable (_ ∨ _))

/-- The app before the first feed has arrived. -/
def initial : NewsApp where
  screens := Function.update (fun _ => { NewsScreen.opened with loading := false }) 0 .opened
  current := 0
  onScreen := true
  presented := none
  swipes := .empty
  pending := []
  delivered := []
  trapped := none
  swiped := []
  alerts := []
  accepted := []

/-- Drop the reminders with an identifier. -/
def without (identifier : String) (reminders : List Reminder) : List Reminder :=
  reminders.filter fun reminder => reminder.identifier != identifier

variable (foundation : Foundation)

/-- A call made by the callback of a screen, for a swipe if it is the closure of one. -/
def apply (screen swipe : ℕ) (app : NewsApp) : NewsEffect → NewsApp
  | .reloadData => app
  | .showDetail newsURL =>
      if app.CanPresent screen then
        { app with
          presented := some (.detail newsURL)
          trapped := DetailsViewController.viewDidLoad foundation newsURL }
      else app
  | .presentActivity url =>
      if app.CanPresent screen then { app with presented := some (.activity url) } else app
  | .presentAlert title message =>
      { app with
        presented := if app.CanPresent screen then some (.alert title message) else app.presented
        alerts := (swipe, title, message) :: app.alerts }
  | .requestAuthorization row => { app with swipes := app.swipes.issue (.authorizing screen row) }
  | .add request => { app with swipes := app.swipes.revise swipe (.adding request) }

/-- What becomes of the app when a callback of a screen has run. -/
def respond (app : NewsApp) (screen swipe : ℕ) : Except Trap (NewsScreen × List NewsEffect) → NewsApp
  | .ok (after, effects) =>
      effects.foldl (apply foundation screen swipe) { app with screens := Function.update app.screens screen after }
  | .error trap => { app with trapped := some trap }

/-- What the event itself changes before a callback runs, if it can happen. -/
def received? (app : NewsApp) : NewsEvent → Option NewsApp
  | .feedResponse screen _ => if (app.screens screen).loading = true then some app else none
  | .numberOfRows => some app
  | .cellForRow row => if row < app.screen.reported then some app else none
  | .didSelectRow row | .shareSwipe row => if app.Touchable row then some app else none
  | .scheduleSwipe row =>
      if app.Touchable row then
        some { app with
          swiped := (app.screen.arrayNews[row]?.map fun news => (app.swipes.next, news)).toList ++ app.swiped }
      else none
  | .authorizationAnswer swipe didAllow error =>
      match app.swipes.find? swipe with
      | some (.authorizing _ _) =>
          if NewsController.requestAuthorization.closure didAllow error then some app
          else some { app with swipes := app.swipes.close swipe }
      | _ => none
  | .addAnswer swipe error =>
      match app.swipes.find? swipe with
      | some (.adding request) =>
          some { app with
            swipes := app.swipes.close swipe
            pending := if error = none then request :: without request.identifier app.pending else app.pending
            accepted := if error = none then (swipe, request) :: app.accepted else app.accepted }
      | _ => none
  | .deliver identifier =>
      (app.pending.find? fun reminder => reminder.identifier = identifier).map fun reminder =>
        { app with
          pending := without identifier app.pending
          delivered := reminder :: without identifier app.delivered }
  | .didReceive identifier _ =>
      if identifier ∈ app.delivered.map Reminder.identifier then
        some { app with delivered := without identifier app.delivered }
      else none
  | .dismiss => if app.presented ≠ none then some { app with presented := none } else none
  | .signedOut => if app.CanPresent app.current then some { app with onScreen := false } else none
  | .signedIn =>
      if app.onScreen = false then
        some { app with
          screens := Function.update app.screens (app.current + 1) .opened
          current := app.current + 1
          onScreen := true }
      else none

/-- The callback an event leads to, with the screen whose callback it is. The handler passed to `add`
only prints. -/
def callback (app : NewsApp) : NewsEvent → Option (ℕ × Except Trap (NewsScreen × List NewsEffect))
  | .feedResponse screen answer =>
      some (screen, .ok
        (NewsViewController.loadData foundation { app.screens screen with loading := false } answer))
  | .numberOfRows =>
      some (app.current, .ok
        ({ app.screen with reported := NewsViewController.numberOfRowsInSection app.screen }, []))
  | .cellForRow row =>
      some (app.current, (NewsViewController.cellForRowAt app.screen row).map fun news =>
        ({ app.screen with displayed := Function.update app.screen.displayed row (some news) }, []))
  | .didSelectRow row => some (app.current, NewsViewController.didSelectRowAt app.screen row)
  | .shareSwipe row => some (app.current, NewsViewController.leftSwipeIndex app.screen row)
  | .scheduleSwipe row => some (app.current, NewsViewController.swipeIndex app.screen row)
  | .authorizationAnswer swipe didAllow error =>
      match app.swipes.find? swipe with
      | some (.authorizing screen row) =>
          some (screen, NewsViewController.swipeIndex.closure (app.screens screen) row
            (NewsController.requestAuthorization.closure didAllow error))
      | _ => none
  | .didReceive identifier action =>
      if app.HasDelegate then some (app.current, NewsViewController.didReceive app.screen identifier action)
      else none
  | .addAnswer _ _ | .deliver _ | .dismiss | .signedOut | .signedIn => none

/-- The swipe whose closure the event calls. -/
def swipe (app : NewsApp) : NewsEvent → ℕ
  | .authorizationAnswer swipe _ _ => swipe
  | _ => app.swipes.next

def step? (app : NewsApp) (event : NewsEvent) : Option NewsApp :=
  if app.trapped = none then
    (app.received? event).map fun received =>
      match app.callback foundation event with
      | some (screen, outcome) => received.respond foundation screen (app.swipe event) outcome
      | none => received
  else none

/-- The app as a machine over its events. -/
def machine : Machine.System NewsApp NewsEvent := ⟨initial, step? foundation⟩

/-- A body with three articles, the last of them without an address. -/
def sampleBody : List UInt8 :=
  ("\x7b\"news\":[" ++
    "\x7b\"headline\":\"h\",\"url\":\"a\",\"inserted\":\"i\",\"picSrc\":\"p\",\"featured\":\"f\"\x7d," ++
    "\x7b\"headline\":\"h\",\"url\":\"b\",\"inserted\":\"i\",\"picSrc\":\"p\",\"featured\":\"f\"\x7d," ++
    "\x7b\"headline\":\"h\",\"url\":\"\",\"inserted\":\"i\",\"picSrc\":\"p\",\"featured\":\"f\"\x7d" ++
    "]\x7d").toUTF8.data.toList

/-- Foundation on that body. -/
def sample : Foundation :=
  .ofBody sampleBody (.object [("news", .array (["a", "b", ""].map fun url =>
    .object [("headline", .string "h"), ("url", .string url), ("inserted", .string "i"),
      ("picSrc", .string "p"), ("featured", .string "f")]))])

/-- Its feed arrives on the first screen, and the table is told of its rows. -/
def sampleFed : List NewsEvent := [.feedResponse 0 ⟨some 200, some sampleBody, none⟩, .numberOfRows]

end NewsApp

end LoginDN
