import LoginDN.Model.Feed
import Mathlib.Logic.Function.Basic

/-! # One news screen and its callbacks

Rows reach the callbacks as indices and are resolved against the articles the screen has at that
moment. Every access to an article may trap. A callback that does not trap gives the screen it
leaves and the calls it makes into UIKit and the notification centre, in program order.
-/

namespace LoginDN

/-- A run-time failure that ends the process. -/
inductive Trap where
  | indexOutOfRange (index : ℕ)
  | unwrappedNil (string : String)
deriving DecidableEq, Repr

/-- A notification request. Sound and trigger are the same for all. -/
structure Reminder where
  identifier : String
  title : String
  subtitle : String
  body : String
  categoryIdentifier : String
deriving DecidableEq, Repr

/-- A `NewsViewController` with its `NewsController`. The table keeps the row count it was told last
and the article each cell was given last. -/
structure NewsScreen where
  arrayNews : List News
  selected : ℕ
  loading : Bool
  reported : ℕ
  displayed : ℕ → Option News

/-- The calls of the callbacks. A request for authorization carries the row its closure captured,
and `showDetail` the address that `prepare(for:sender:)` gave to the detail screen. -/
inductive NewsEffect where
  | reloadData
  | showDetail (newsURL : String)
  | presentActivity (url : String)
  | presentAlert (title message : String)
  | requestAuthorization (row : ℕ)
  | add (request : Reminder)
deriving DecidableEq

/-- The buttons a user can answer a delivered reminder with. -/
inductive ActionIdentifier where
  | defaultAction
  | dismissAction
  | other (identifier : String)
deriving DecidableEq

namespace NewsController

/-- What the completion of `requestAuthorization` is told. -/
def requestAuthorization.closure (didAllow : Bool) (error : Option NSError) : Bool :=
  if error ≠ none ∨ didAllow = false then false else true

end NewsController

namespace NewsScreen

/-- `newsController.getElementAt(index:)`, with the trap of the subscript. -/
def getElementAt (screen : NewsScreen) (index : ℕ) : Except Trap News :=
  match NewsController.getElementAt screen.arrayNews index with
  | some news => .ok news
  | none => .error (.indexOutOfRange index)

/-- The screen right after `viewDidLoad`: the request for the feed is under way. -/
def opened : NewsScreen := ⟨[], 0, true, 0, fun _ => none⟩

end NewsScreen

namespace NewsViewController

/-- The closure of `loadData`, called by that of `getNewsApi` when the feed request is answered. -/
def loadData (foundation : Foundation) (screen : NewsScreen) (answer : Answer) : NewsScreen × List NewsEffect :=
  let (arrayNews, completions) := NewsController.getNewsApi foundation screen.arrayNews answer
  ({ screen with arrayNews := arrayNews },
    completions.flatMap fun success => if success then [.reloadData] else [])

def numberOfRowsInSection (screen : NewsScreen) : ℕ := NewsController.getArraySize screen.arrayNews

/-- The article the cell is given. -/
def cellForRowAt (screen : NewsScreen) (row : ℕ) : Except Trap News := screen.getElementAt row

/-- The address handed to the detail screen. The sender is not looked at. -/
def prepare (screen : NewsScreen) : Except Trap String := do
  let news ← screen.getElementAt screen.selected
  return news.url

def didSelectRowAt (screen : NewsScreen) (row : ℕ) : Except Trap (NewsScreen × List NewsEffect) := do
  let screen := { screen with selected := row }
  let newsURL ← prepare screen
  return (screen, [.showDetail newsURL])

def leftSwipeIndex (screen : NewsScreen) (row : ℕ) : Except Trap (NewsScreen × List NewsEffect) := do
  let screen := { screen with selected := row }
  let news ← screen.getElementAt screen.selected
  return (screen, [.presentActivity news.url])

/-- The action of a schedule swipe. -/
def swipeIndex (screen : NewsScreen) (row : ℕ) : Except Trap (NewsScreen × List NewsEffect) :=
  .ok (screen, [.requestAuthorization row])

def identifierURL (object : News) : String := object.url

/-- The request that `createNotification` adds. It reads the article once for every field. -/
def createNotification (screen : NewsScreen) (row : ℕ) : Except Trap Reminder := do
  let url := identifierURL (← screen.getElementAt row)
  let feature := (← screen.getElementAt row).featured
  let subtitle := (← screen.getElementAt row).headline
  let body := (← screen.getElementAt row).inserted
  return ⟨url, feature, subtitle, body, url⟩

/-- The closure of a schedule swipe, called with the answer to its request for authorization. The
alert does not wait for the answer of the notification centre. -/
def swipeIndex.closure (screen : NewsScreen) (row : ℕ) (sucesso : Bool) :
    Except Trap (NewsScreen × List NewsEffect) :=
  if sucesso then do
    let request ← createNotification screen row
    return ({ screen with selected := row },
      [.add request, .presentAlert "Alert" "Lembrete salvo com sucesso"])
  else .ok (screen,
    [.presentAlert "Alert" "Você precisa autorizar as notificações do 4andMusic."])

/-- The answer to a delivered reminder. The nested `prepare` is never called. -/
def didReceive (screen : NewsScreen) (identifier : String) (actionIdentifier : ActionIdentifier) :
    Except Trap (NewsScreen × List NewsEffect) :=
  if identifier ≠ "" then
    match actionIdentifier with
    | .defaultAction => do
        let newsURL ← prepare screen
        return (screen, [.showDetail newsURL])
    | .dismissAction => .ok (screen, [])
    | .other _ => .ok (screen, [])
  else .ok (screen, [])

end NewsViewController

/-- The trap of `viewDidLoad`, which unwraps the URL of the address it was given. -/
def DetailsViewController.viewDidLoad (foundation : Foundation) (newsURL : String) : Option Trap :=
  if foundation.isURL newsURL then none else some (.unwrappedNil newsURL)

/-- The reminder of an article. -/
def Reminder.ofNews (news : News) : Reminder :=
  ⟨news.url, news.featured, news.headline, news.inserted, news.url⟩

namespace NewsScreen

variable {screen : NewsScreen} {row : ℕ} {news : News}

theorem getElementAt_of_some (found : screen.arrayNews[row]? = some news) : screen.getElementAt row = .ok news := by
  simp only [getElementAt, NewsController.getElementAt, found]

theorem getElementAt_of_none (missing : screen.arrayNews[row]? = none) :
    screen.getElementAt row = .error (.indexOutOfRange row) := by
  simp only [getElementAt, NewsController.getElementAt, missing]

theorem cellForRowAt_of_some (found : screen.arrayNews[row]? = some news) :
    NewsViewController.cellForRowAt screen row = .ok news := getElementAt_of_some found

theorem prepare_of_some (found : screen.arrayNews[screen.selected]? = some news) :
    NewsViewController.prepare screen = .ok news.url := by
  simp only [NewsViewController.prepare, getElementAt_of_some found]
  rfl

theorem prepare_of_none (missing : screen.arrayNews[screen.selected]? = none) :
    NewsViewController.prepare screen = .error (.indexOutOfRange screen.selected) := by
  simp only [NewsViewController.prepare, getElementAt_of_none missing]
  rfl

/-- The row is stored before `prepare` reads it. -/
theorem didSelectRowAt_of_some (found : screen.arrayNews[row]? = some news) :
    NewsViewController.didSelectRowAt screen row =
      .ok ({ screen with selected := row }, [.showDetail news.url]) := by
  have prepared : NewsViewController.prepare { screen with selected := row } = .ok news.url :=
    prepare_of_some found
  simp only [NewsViewController.didSelectRowAt, prepared]
  rfl

theorem leftSwipeIndex_of_some (found : screen.arrayNews[row]? = some news) :
    NewsViewController.leftSwipeIndex screen row =
      .ok ({ screen with selected := row }, [.presentActivity news.url]) := by
  have read : getElementAt { screen with selected := row } row = .ok news := getElementAt_of_some found
  simp only [NewsViewController.leftSwipeIndex, read]
  rfl

/-- The four reads of one row see one article. -/
theorem createNotification_of_some (found : screen.arrayNews[row]? = some news) :
    NewsViewController.createNotification screen row = .ok (.ofNews news) := by
  simp only [NewsViewController.createNotification, getElementAt_of_some found]
  rfl

theorem closure_of_some (found : screen.arrayNews[row]? = some news) :
    NewsViewController.swipeIndex.closure screen row true =
      .ok ({ screen with selected := row },
        [.add (.ofNews news), .presentAlert "Alert" "Lembrete salvo com sucesso"]) := by
  simp only [NewsViewController.swipeIndex.closure, createNotification_of_some found]
  rfl

/-- A reminder opens what `prepare` finds, whatever its identifier is. -/
theorem didReceive_of_some {identifier : String} (named : identifier ≠ "")
    (found : screen.arrayNews[screen.selected]? = some news) :
    NewsViewController.didReceive screen identifier .defaultAction = .ok (screen, [.showDetail news.url]) := by
  simp only [NewsViewController.didReceive, if_pos named, prepare_of_some found]
  rfl

theorem didReceive_of_none {identifier : String} (named : identifier ≠ "")
    (missing : screen.arrayNews[screen.selected]? = none) :
    NewsViewController.didReceive screen identifier .defaultAction =
      .error (.indexOutOfRange screen.selected) := by
  simp only [NewsViewController.didReceive, if_pos named, prepare_of_none missing]
  rfl

/-- The other actions, and a reminder without an identifier, do nothing. -/
theorem didReceive_of_unused {identifier : String} {action : ActionIdentifier}
    (unused : action = .defaultAction → identifier = "") :
    NewsViewController.didReceive screen identifier action = .ok (screen, []) := by
  unfold NewsViewController.didReceive
  split
  · next named =>
    cases action with
    | defaultAction => exact absurd (unused rfl) named
    | dismissAction => rfl
    | other identifier => rfl
  · rfl

end NewsScreen

end LoginDN
