import LoginDN.Machine.Simulation
import LoginDN.Model.NewsTable
import LoginDN.Soundness.PictureLoads

/-! # A cell shows the picture of its own article

Cells are used again for other rows while pictures of earlier articles are still on their way. Whatever the
order in which rows come up and pictures arrive, a cell shows the labels of one article of its own screen
and no picture but one decoded from data of that article's picture.
-/

namespace LoginDN.NewsTable

open Machine SDWebImage

variable {Image : Type} {foundation : Foundation} {coders : Coders Image} {disk : String → Option (List UInt8)}
  {table target : NewsTable Image} {event : NewsTableEvent} {events : List NewsTableEvent} {cell : ℕ}

/-- The pictures move as the events of SDWebImage let them. -/
theorem pictures_of_reaches (reached : (machine foundation coders disk).Reaches events table) :
    ∃ steps, (SDWebImageManager.machine coders disk).Reaches steps table.pictures := by
  have start : ∃ before, (SDWebImageManager.machine coders disk).Reaches before
      (machine foundation coders disk).initial.pictures := ⟨[], rfl⟩
  refine reached.project NewsTable.pictures start fun source event next step => ?_
  cases step?_moved step with
  | app => exact ⟨[], rfl⟩
  | given row cell news app free moved found =>
    exact ⟨[.setImage cell (NewsCell.pictureURL foundation news)], rfl⟩
  | pictures event pictures unasked moved => exact ⟨[event], (System.run?_singleton ..).trans moved⟩

theorem app_of_reaches (reached : (machine foundation coders disk).Reaches events table) :
    ∃ steps, (NewsApp.machine foundation).Reaches steps table.app := by
  have start : ∃ before, (NewsApp.machine foundation).Reaches before (machine foundation coders disk).initial.app :=
    ⟨[], rfl⟩
  refine reached.project NewsTable.app start fun source event next step => ?_
  cases step?_moved step with
  | app event app moved => exact ⟨[event], (System.run?_singleton ..).trans moved⟩
  | given row cell news app free moved found => exact ⟨[.cellForRow row], (System.run?_singleton ..).trans moved⟩
  | pictures => exact ⟨[], rfl⟩

/-- A cell has the labels and the address of an article of its screen, and the view of a number that is no
cell has no address. -/
structure Labelled (foundation : Foundation) (table : NewsTable Image) : Prop where
  unused : ∀ cell, table.cells cell = none → (table.pictures.views cell).imageURL = none
  labels : ∀ cell known, table.cells cell = some known → known = .ofNews known.screen known.news
  address : ∀ cell known, table.cells cell = some known →
    (table.pictures.views cell).imageURL = NewsCell.pictureURL foundation known.news
  article : ∀ cell known, table.cells cell = some known →
    known.screen ≤ table.app.current ∧ known.news ∈ (table.app.screens known.screen).arrayNews

theorem labelled_initial : Labelled foundation (initial disk : NewsTable Image) := ⟨fun _ _ => rfl, nofun, nofun, nofun⟩

/-- The articles of the screens stay. -/
theorem Labelled.app (labelled : Labelled foundation table) {app : NewsApp} (keeps : table.app.Keeps app) :
    Labelled foundation { table with app := app } where
  unused := labelled.unused
  labels := labelled.labels
  address := labelled.address
  article cell known found := by
    obtain ⟨below, member⟩ := labelled.article cell known found
    obtain ⟨row, bound, same⟩ := List.mem_iff_getElem.mp member
    have kept := keeps.articles known.screen below row known.news (List.getElem?_eq_some_iff.mpr ⟨bound, same⟩)
    exact ⟨Nat.le_trans below keeps.current, List.mem_of_getElem? kept⟩

theorem Labelled.setCellNews (labelled : Labelled foundation table) (viewed : table.pictures.Viewed) {news : News}
    (member : news ∈ table.app.screen.arrayNews) : Labelled foundation (table.setCellNews foundation cell news) := by
  have address (other : ℕ) := SDWebImageManager.imageURL_setImage viewed cell other (NewsCell.pictureURL foundation news)
  have own : (table.setCellNews foundation cell news).cells cell = some (.ofNews table.app.current news) :=
    Function.update_self ..
  have others {other : ℕ} (different : other ≠ cell) :
      (table.setCellNews foundation cell news).cells other = table.cells other := Function.update_of_ne different ..
  refine ⟨fun other unused => ?_, fun other known found => ?_, fun other known found => ?_, fun other known found => ?_⟩
  all_goals by_cases mine : other = cell
  · rw [mine, own] at unused
    contradiction
  · rw [others mine] at unused
    exact (address other).trans ((if_neg mine).trans (labelled.unused other unused))
  · rw [mine, own] at found
    obtain rfl := Option.some.inj found
    rfl
  · rw [others mine] at found
    exact labelled.labels other known found
  · rw [mine, own] at found
    obtain rfl := Option.some.inj found
    exact (address other).trans (if_pos mine)
  · rw [others mine] at found
    exact (address other).trans ((if_neg mine).trans (labelled.address other known found))
  · rw [mine, own] at found
    obtain rfl := Option.some.inj found
    exact ⟨Nat.le_refl _, member⟩
  · rw [others mine] at found
    exact labelled.article other known found

theorem Labelled.step (labelled : Labelled foundation table) (sound : table.app.Sound)
    (viewed : table.pictures.Viewed) (step : table.step? foundation coders event = some target) :
    Labelled foundation target := by
  have keeps {event : NewsEvent} {app : NewsApp} (step : table.app.step? foundation event = some app) :
      table.app.Keeps app := (NewsApp.step?_change sound step).2.keeps sound
  cases step?_moved step with
  | app event app moved => exact labelled.app (keeps moved)
  | given row cell news app free moved found =>
    have given : Labelled foundation (table.setCellNews foundation cell news) :=
      labelled.setCellNews viewed (List.mem_of_getElem? found)
    exact given.app (keeps moved)
  | pictures event pictures unasked moved =>
    have address (cell : ℕ) : (pictures.views cell).imageURL = (table.pictures.views cell).imageURL :=
      SDWebImageManager.imageURL_step viewed unasked moved
    refine ⟨fun cell unused => ?_, labelled.labels, fun cell known found => ?_, labelled.article⟩
    · exact (address cell).trans (labelled.unused cell unused)
    · exact (address cell).trans (labelled.address cell known found)

/-- The labels follow the run, with what the runs of the app and of the pictures give. -/
theorem labelled_of_reaches (reached : (machine foundation coders disk).Reaches events table) :
    Labelled foundation table := by
  induction events using List.reverseRecOn generalizing table with
  | nil =>
    cases reached
    exact labelled_initial
  | append_singleton events event ih =>
    obtain ⟨before, reaches, step⟩ := System.reaches_concat_iff.mp reached
    obtain ⟨_, app⟩ := app_of_reaches reaches
    obtain ⟨_, pictures⟩ := pictures_of_reaches reaches
    exact (ih reaches).step (NewsApp.sound_of_reaches app) (SDWebImageManager.kept_of_reaches pictures).viewed step

/-- A picture in a view was decoded from data of the address the view has. -/
theorem genuine_of_shown {manager : SDWebImageManager Image} (kept : SDWebImageManager.Kept coders disk manager)
    {view : ℕ} {image : Image} (shown : (manager.views view).image = some image) :
    ∃ url, (manager.views view).imageURL = some url ∧ SDWebImageManager.Genuine coders disk manager url image := by
  cases kept.viewed.display view with
  | blank entry unset empty =>
    rw [empty] at shown
    contradiction
  | loading operation entry owner address running empty =>
    rw [empty] at shown
    contradiction
  | completed operation result entry owner address released called brought =>
    rw [brought] at shown
    cases result with
    | error error => contradiction
    | ok found =>
      obtain rfl := Option.some.inj shown
      exact ⟨_, address, (kept.sound.completed operation found called).2⟩

/-- A cell of a table has the labels of one article of its screen, and shows no picture but one decoded from
data that was fetched for the picture of that article, or that the disk had for it at launch. A view that is
no cell shows none. -/
theorem cell_shows_own_article (reached : (machine foundation coders disk).Reaches events table) (cell : ℕ) :
    match table.cells cell with
    | none => (table.pictures.views cell).image = none
    | some known =>
        (known.screen ≤ table.app.current ∧ known.news ∈ (table.app.screens known.screen).arrayNews) ∧
        (known.headlineNewsLb = known.news.headline ∧
          known.insertedNewsLb = "Última Atualização: " ++ known.news.inserted ∧
          known.featuredLb = known.news.featured) ∧
        ∀ image, (table.pictures.views cell).image = some image →
          foundation.isURL ("https://www.vagalume.com.br/" ++ known.news.picSrc) = true ∧
          SDWebImageManager.Genuine coders disk table.pictures
            ("https://www.vagalume.com.br/" ++ known.news.picSrc) image := by
  have labelled := labelled_of_reaches reached
  obtain ⟨_, pictures⟩ := pictures_of_reaches reached
  have kept := SDWebImageManager.kept_of_reaches pictures
  split
  · next unused =>
    by_contra shown
    obtain ⟨image, shown⟩ := Option.ne_none_iff_exists'.mp shown
    obtain ⟨url, address, _⟩ := genuine_of_shown kept shown
    rw [labelled.unused cell unused] at address
    contradiction
  · next known found =>
    have labels := labelled.labels cell known found
    refine ⟨labelled.article cell known found, ⟨?_, ?_, ?_⟩, fun image shown => ?_⟩
    · exact congrArg NewsCell.headlineNewsLb labels
    · exact congrArg NewsCell.insertedNewsLb labels
    · exact congrArg NewsCell.featuredLb labels
    · obtain ⟨url, address, genuine⟩ := genuine_of_shown kept shown
      rw [labelled.address cell known found] at address
      obtain ⟨valid, same⟩ := Option.ite_none_right_eq_some.mp address
      rw [← Option.some.inj same] at genuine
      exact ⟨valid, genuine⟩

/-- A cell is given its first article, and a second one while the picture of the first is on its way. -/
def cellReused : List NewsTableEvent :=
  NewsApp.sampleFed.map .app ++ [.cellForRow 0 7, .pictures .io, .pictures .main, .cellForRow 1 7, .pictures .io,
    .pictures .main, .pictures (.start 0 true), .pictures (.start 1 true), .pictures (.didReceiveData 1 [1]),
    .pictures (.didComplete 1 none), .pictures (.decoded 1), .pictures .main, .pictures .main]

/-- It shows the labels and the picture of the second one. -/
theorem cell_shows_second_article : ∃ table : NewsTable (List UInt8), ∃ known,
    (machine NewsApp.sample SDWebImageManager.sampleCoders fun _ => none).Reaches cellReused table ∧
    table.cells 7 = some known ∧ known.news.url = "b" ∧ (table.pictures.views 7).image = some [1] ∧
    SDWebImageManager.Genuine SDWebImageManager.sampleCoders (fun _ => none) table.pictures
      ("https://www.vagalume.com.br/" ++ known.news.picSrc) [1] := by
  have run : ((machine NewsApp.sample SDWebImageManager.sampleCoders fun _ => none).run?
      (initial fun _ => none) cellReused).map (fun table =>
        decide ((table.cells 7).map (fun known => known.news.url) = some "b" ∧
          (table.pictures.views 7).image = some [1])) = some true := by decide +kernel
  obtain ⟨table, reached, observed⟩ := Option.map_eq_some_iff.mp run
  obtain ⟨given, shown⟩ := of_decide_eq_true observed
  obtain ⟨known, found, second⟩ := Option.map_eq_some_iff.mp given
  have own := cell_shows_own_article reached 7
  rw [found] at own
  exact ⟨table, known, reached, found, second, shown, (own.2.2 [1] shown).2⟩

end LoginDN.NewsTable
