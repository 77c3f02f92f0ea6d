import LoginDN.Model.NewsSteps
import LoginDN.Model.WebImageStays

/-! # The cells of the news tables

A table gives each of its cells an article when a row comes up: three labels at once, and the picture as
SDWebImage brings it. A cell that is used again may still wait for the picture of an earlier article.
-/

namespace LoginDN

open Machine SDWebImage

/-- A `NewsCell` with the screen whose table has made it. Its picture is the image view of its number. The
last field is history: the article the cell was given last. -/
structure NewsCell where
  screen : ℕ
  headlineNewsLb : String
  insertedNewsLb : String
  featuredLb : String
  news : News
deriving DecidableEq

namespace NewsCell

/-- `URL(string:)` of the picture of an article. -/
def pictureURL (foundation : Foundation) (news : News) : Option String :=
  let string := "https://www.vagalume.com.br/" ++ news.picSrc
  if foundation.isURL string then some string else none

/-- The labels `setCellNews` leaves. -/
def ofNews (screen : ℕ) (news : News) : NewsCell where
  screen := screen
  headlineNewsLb := news.headline
  insertedNewsLb := "Última Atualização: " ++ news.inserted
  featuredLb := news.featured
  news := news

end NewsCell

/-- The news app with the cells of its tables and the pictures they load. -/
structure NewsTable (Image : Type) where
  app : NewsApp
  cells : ℕ → Option NewsCell
  pictures : SDWebImageManager Image

inductive NewsTableEvent where
  | app (event : NewsEvent)
  | cellForRow (row cell : ℕ)
  | pictures (event : ImageEvent)

namespace NewsTable

variable {Image : Type}

def initial (disk : String → Option (List UInt8)) : NewsTable Image := ⟨NewsApp.initial, fun _ => none, .initial disk⟩

variable (foundation : Foundation) (coders : Coders Image)

def setCellNews (table : NewsTable Image) (cell : ℕ) (news : News) : NewsTable Image :=
  { table with
    pictures := table.pictures.setImage cell (NewsCell.pictureURL foundation news)
    cells := Function.update table.cells cell (some (.ofNews table.app.current news)) }

/-- A table takes a cell it has made before, or a new one. -/
def CanDequeue (table : NewsTable Image) (cell : ℕ) : Prop :=
  (table.cells cell).all (fun known => known.screen = table.app.current) = true

instance (table : NewsTable Image) (cell : ℕ) : Decidable (table.CanDequeue cell) :=
  inferInstanceAs (Decidable (_ = true))

def step? (table : NewsTable Image) : NewsTableEvent → Option (NewsTable Image)
  | .app (.cellForRow _) => none
  | .app event => (table.app.step? foundation event).map fun app => { table with app := app }
  | .cellForRow row cell =>
      if table.CanDequeue cell then
        (table.app.step? foundation (.cellForRow row)).map fun app =>
          match NewsViewController.cellForRowAt table.app.screen row with
          | .ok news => { table.setCellNews foundation cell news with app := app }
          | .error _ => { table with app := app }
      else none
  | .pictures (.setImage _ _) => none
  | .pictures event =>
      (table.pictures.step? coders event).map fun pictures => { table with pictures := pictures }

def machine (disk : String → Option (List UInt8)) : Machine.System (NewsTable Image) NewsTableEvent :=
  ⟨initial disk, step? foundation coders⟩

variable {foundation} {coders} {table target : NewsTable Image} {event : NewsTableEvent}

/-- What a step of the tables is made of. -/
inductive Moved (foundation : Foundation) (coders : Coders Image) (table : NewsTable Image) : NewsTable Image → Prop
  | app (event : NewsEvent) (app : NewsApp) (step : table.app.step? foundation event = some app) :
      Moved foundation coders table { table with app := app }
  | given (row cell : ℕ) (news : News) (app : NewsApp) (free : table.CanDequeue cell)
      (step : table.app.step? foundation (.cellForRow row) = some app)
      (found : table.app.screen.arrayNews[row]? = some news) :
      Moved foundation coders table { table.setCellNews foundation cell news with app := app }
  | pictures (event : ImageEvent) (pictures : SDWebImageManager Image)
      (unasked : ∀ view address, event ≠ .setImage view address)
      (step : table.pictures.step? coders event = some pictures) :
      Moved foundation coders table { table with pictures := pictures }

theorem step?_moved (step : table.step? foundation coders event = some target) :
    Moved foundation coders table target := by
  unfold step? at step
  split at step
  · contradiction
  · next event other =>
    obtain ⟨app, moved, rfl⟩ := Option.map_eq_some_iff.mp step
    exact .app event app moved
  · next row cell =>
    obtain ⟨free, same⟩ := Option.ite_none_right_eq_some.mp step
    obtain ⟨app, moved, same⟩ := Option.map_eq_some_iff.mp same
    subst same
    split
    · next news read =>
      refine .given row cell news app free moved ?_
      cases found : table.app.screen.arrayNews[row]? with
      | some article =>
        rw [NewsScreen.cellForRowAt_of_some found] at read
        exact congrArg some (Except.ok.inj read)
      | none =>
        have missing : NewsViewController.cellForRowAt table.app.screen row = .error (.indexOutOfRange row) :=
          NewsScreen.getElementAt_of_none found
        rw [missing] at read
        contradiction
    · exact .app _ app moved
  · contradiction
  · next event other =>
    obtain ⟨pictures, moved, rfl⟩ := Option.map_eq_some_iff.mp step
    exact .pictures event pictures (fun view address same => other view address same) moved

end NewsTable

end LoginDN
