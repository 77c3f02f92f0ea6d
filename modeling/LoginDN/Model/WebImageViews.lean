import LoginDN.Machine.History
import LoginDN.Model.WebImageSteps

/-! # What an image view refers to

A view refers to the load it asked for last, and only that load may still run for it. A load runs until
its completed block is called or it is cancelled, whichever comes first, and a picture is set by the
completed block of a load that runs.
-/

namespace LoginDN.SDWebImage

/-- The loads whose query of the disk waits there. -/
def IOBlock.query? : IOBlock → Option ℕ
  | .query operation => some operation
  | .store _ _ => none

section Downloads

variable {operation : ℕ}

/-- Where a download stands. Once it is cancelled no load waits for it. -/
inductive DownloaderOperation.Phase (known : DownloaderOperation) : Prop where
  | queued (started : known.started = false) (dataTask : known.dataTask = false) (coderQueue : known.coderQueue = none)
      (completing : known.completing = false) (isFinished : known.isFinished = false)
      (quiet : known.isCancelled = true → known.callbackBlocks = [])
  | running (started : known.started = true) (dataTask : known.dataTask = true) (coderQueue : known.coderQueue = none)
      (completing : known.completing = false) (isFinished : known.isFinished = false)
      (quiet : known.isCancelled = true → known.callbackBlocks = [])
  | decoding (data : List UInt8) (started : known.started = true) (dataTask : known.dataTask = false)
      (coderQueue : known.coderQueue = some data) (completing : known.completing = false)
      (isFinished : known.isFinished = false) (quiet : known.isCancelled = true → known.callbackBlocks = [])
  | completing (started : known.started = true) (dataTask : known.dataTask = false)
      (coderQueue : known.coderQueue = none) (completing : known.completing = true)
      (isFinished : known.isFinished = false) (quiet : known.isCancelled = true → known.callbackBlocks = [])
  | ended (started : known.started = true) (dataTask : known.dataTask = false) (coderQueue : known.coderQueue = none)
      (completing : known.completing = false) (isFinished : known.isFinished = true)
      (quiet : known.callbackBlocks = [])

/-- What the cancellation of a load does to a download: no other load leaves it. -/
structure Drops (operation : ℕ) (before after : DownloaderOperation) : Prop where
  members : ∀ other, other ≠ operation → (other ∈ after.callbackBlocks ↔ other ∈ before.callbackBlocks)
  empty : before.callbackBlocks = [] → after.callbackBlocks = []
  started : after.started = before.started
  completing : after.completing = before.completing
  phase : before.Phase → after.Phase

theorem Drops.refl (known : DownloaderOperation) : Drops operation known known := ⟨fun _ _ => Iff.rfl, id, rfl, rfl, id⟩

theorem Drops.trans {first second third : DownloaderOperation} (left : Drops operation first second)
    (right : Drops operation second third) : Drops operation first third where
  members other different := (right.members other different).trans (left.members other different)
  empty start := right.empty (left.empty start)
  started := right.started.trans left.started
  completing := right.completing.trans left.completing
  phase start := right.phase (left.phase start)

theorem drops_cancelled {known : DownloaderOperation} (only : ∀ other ∈ known.callbackBlocks, other = operation)
    (unfinished : known.isFinished = false) :
    Drops operation known { known with
      isCancelled := true, isFinished := known.dataTask, callbackBlocks := [], dataTask := false } := by
  refine ⟨fun other different => ?_, fun _ => rfl, rfl, rfl, fun phase => ?_⟩
  · refine ⟨fun member => absurd member List.not_mem_nil, fun member => absurd (only other member) different⟩
  · cases phase with
    | queued started dataTask coderQueue completing isFinished quiet =>
      exact .queued started rfl coderQueue completing dataTask fun _ => rfl
    | running started dataTask coderQueue completing isFinished quiet =>
      exact .ended started rfl coderQueue completing dataTask rfl
    | decoding data started dataTask coderQueue completing isFinished quiet =>
      exact .decoding data started rfl coderQueue completing dataTask fun _ => rfl
    | completing started dataTask coderQueue completing isFinished quiet =>
      exact .completing started rfl coderQueue completing dataTask fun _ => rfl
    | ended started dataTask coderQueue completing isFinished quiet =>
      rw [unfinished] at isFinished
      contradiction

theorem drops_filtered (known : DownloaderOperation) :
    Drops operation known { known with callbackBlocks := known.callbackBlocks.filter (· ≠ operation) } := by
  have empty (none : known.callbackBlocks = []) : known.callbackBlocks.filter (· ≠ operation) = [] := by
    rw [none]
    rfl
  refine ⟨fun other different => ?_, empty, rfl, rfl, fun phase => ?_⟩
  · rw [List.mem_filter, decide_eq_true different]
    exact and_iff_left rfl
  · cases phase with
    | queued started dataTask coderQueue completing isFinished quiet =>
      exact .queued started dataTask coderQueue completing isFinished fun cancelled => empty (quiet cancelled)
    | running started dataTask coderQueue completing isFinished quiet =>
      exact .running started dataTask coderQueue completing isFinished fun cancelled => empty (quiet cancelled)
    | decoding data started dataTask coderQueue completing isFinished quiet =>
      exact .decoding data started dataTask coderQueue completing isFinished fun cancelled => empty (quiet cancelled)
    | completing started dataTask coderQueue completing isFinished quiet =>
      exact .completing started dataTask coderQueue completing isFinished fun cancelled => empty (quiet cancelled)
    | ended started dataTask coderQueue completing isFinished quiet =>
      exact .ended started dataTask coderQueue completing isFinished (empty quiet)

end Downloads

namespace SDWebImageManager

variable {Image : Type} {coders : Coders Image} {disk : String → Option (List UInt8)}
  {manager changed target : SDWebImageManager Image} {view operation download : ℕ} {url key : String}
  {result : Except ImageError Image} {answer : Except ImageError (Image × List UInt8)}

/-- A view before its first address or after a nil one, one that waits for its load, and one whose load
has completed: it shows the picture of that load, if the load had one. -/
inductive Display (manager : SDWebImageManager Image) (view : ℕ) : Prop where
  | blank (entry : (manager.views view).imageLoadOperation = none) (unset : (manager.views view).imageURL = none)
      (empty : (manager.views view).image = none)
  | loading (operation : ℕ) (entry : (manager.views view).imageLoadOperation = some operation)
      (owner : (manager.operations operation).view = view)
      (address : (manager.views view).imageURL = some (manager.operations operation).url)
      (running : (manager.operations operation).running = true) (empty : (manager.views view).image = none)
  | completed (operation : ℕ) (result : Except ImageError Image)
      (entry : (manager.views view).imageLoadOperation = some operation)
      (owner : (manager.operations operation).view = view)
      (address : (manager.views view).imageURL = some (manager.operations operation).url)
      (released : (manager.operations operation).running = false) (called : (operation, result) ∈ manager.completed)
      (shown : (manager.views view).image = result.toOption)

theorem Display.owner (display : manager.Display view)
    (entry : (manager.views view).imageLoadOperation = some operation) :
    (manager.operations operation).view = view := by
  cases display with
  | blank missing unset empty =>
    rw [entry] at missing
    contradiction
  | loading known entered owner address running empty =>
    obtain rfl := Option.some.inj (entered.symm.trans entry)
    exact owner
  | completed known result entered owner address released called shown =>
    obtain rfl := Option.some.inj (entered.symm.trans entry)
    exact owner

/-- Every view is in one of these states, and only the load it refers to runs. -/
structure Viewed (manager : SDWebImageManager Image) : Prop where
  display : ∀ view, manager.Display view
  made : ∀ view operation, (manager.views view).imageLoadOperation = some operation → operation < manager.nextOperation
  current : ∀ operation, (manager.operations operation).running = true →
    (manager.views (manager.operations operation).view).imageLoadOperation = some operation
  halted : ∀ operation, (manager.operations operation).isCancelled = true ∨
    (manager.operations operation).cacheCancelled = true → (manager.operations operation).running = false
  known : ∀ operation, (manager.operations operation).running = true → operation < manager.nextOperation
  uncalled : ∀ operation result, (operation, result) ∈ manager.completed →
    operation < manager.nextOperation ∧ (manager.operations operation).running = false

/-- The views, the calls, and what the loads say about themselves stay as they are. -/
structure SameViews (manager target : SDWebImageManager Image) : Prop where
  views : target.views = manager.views
  completed : target.completed = manager.completed
  nextOperation : target.nextOperation = manager.nextOperation
  view : ∀ operation, (target.operations operation).view = (manager.operations operation).view
  url : ∀ operation, (target.operations operation).url = (manager.operations operation).url
  running : ∀ operation, (target.operations operation).running = (manager.operations operation).running
  isCancelled : ∀ operation, (target.operations operation).isCancelled = (manager.operations operation).isCancelled
  cacheCancelled : ∀ operation,
    (target.operations operation).cacheCancelled = (manager.operations operation).cacheCancelled

namespace SameViews

theorem of_same (views : target.views = manager.views) (completed : target.completed = manager.completed)
    (nextOperation : target.nextOperation = manager.nextOperation)
    (operations : target.operations = manager.operations) : SameViews manager target := by
  refine ⟨views, completed, nextOperation, ?_, ?_, ?_, ?_, ?_⟩
  all_goals
    intro operation
    rw [operations]

theorem trans (first : SameViews manager changed) (second : SameViews changed target) : SameViews manager target where
  views := second.views.trans first.views
  completed := second.completed.trans first.completed
  nextOperation := second.nextOperation.trans first.nextOperation
  view operation := (second.view operation).trans (first.view operation)
  url operation := (second.url operation).trans (first.url operation)
  running operation := (second.running operation).trans (first.running operation)
  isCancelled operation := (second.isCancelled operation).trans (first.isCancelled operation)
  cacheCancelled operation := (second.cacheCancelled operation).trans (first.cacheCancelled operation)

/-- One load is changed in what the views do not see of it. -/
theorem of_modify {change : CombinedOperation → CombinedOperation}
    (view : (change (manager.operations operation)).view = (manager.operations operation).view)
    (url : (change (manager.operations operation)).url = (manager.operations operation).url)
    (running : (change (manager.operations operation)).running = (manager.operations operation).running)
    (isCancelled : (change (manager.operations operation)).isCancelled = (manager.operations operation).isCancelled)
    (cacheCancelled :
      (change (manager.operations operation)).cacheCancelled = (manager.operations operation).cacheCancelled) :
    SameViews manager (manager.modifyOperation operation change) := by
  refine ⟨rfl, rfl, rfl, fun other => ?_, fun other => ?_, fun other => ?_, fun other => ?_, fun other => ?_⟩
  all_goals
    by_cases same : other = operation
    · subst same
      simp only [operations_modifyOperation_self, view, url, running, isCancelled, cacheCancelled]
    · rw [operations_modifyOperation_of_ne same]

theorem display (same : SameViews manager target) (display : manager.Display view) : target.Display view := by
  cases display with
  | blank entry unset empty => exact .blank (same.views ▸ entry) (same.views ▸ unset) (same.views ▸ empty)
  | loading operation entry owner address running empty =>
    refine .loading operation (same.views ▸ entry) ((same.view operation).trans owner) ?_
      ((same.running operation).trans running) (same.views ▸ empty)
    rw [same.views, same.url, address]
  | completed operation result entry owner address released called shown =>
    refine .completed operation result (same.views ▸ entry) ((same.view operation).trans owner) ?_
      ((same.running operation).trans released) (same.completed ▸ called) (same.views ▸ shown)
    rw [same.views, same.url, address]

theorem viewed (same : SameViews manager target) (viewed : manager.Viewed) : target.Viewed where
  display view := same.display (viewed.display view)
  made view operation entry := by
    rw [same.nextOperation]
    exact viewed.made view operation (same.views ▸ entry)
  current operation running := by
    rw [same.views, same.view]
    exact viewed.current operation ((same.running operation).symm.trans running)
  halted operation halted := by
    rw [same.running]
    apply viewed.halted operation
    rwa [same.isCancelled, same.cacheCancelled] at halted
  known operation running := by
    rw [same.nextOperation]
    exact viewed.known operation ((same.running operation).symm.trans running)
  uncalled operation result called := by
    rw [same.running, same.nextOperation]
    exact viewed.uncalled operation result (same.completed ▸ called)

end SameViews

theorem Viewed.of_same (viewed : manager.Viewed) (views : target.views = manager.views)
    (completed : target.completed = manager.completed) (nextOperation : target.nextOperation = manager.nextOperation)
    (operations : target.operations = manager.operations) : target.Viewed :=
  (SameViews.of_same views completed nextOperation operations).viewed viewed

/-! ## A load completes -/

/-- What the completion of a load changes: the load is released, and unless it was alive it is told only
that it was cancelled. -/
structure Completes (operation : ℕ) (result : Except ImageError Image) (manager target : SDWebImageManager Image) :
    Prop where
  alive : result ≠ .error .cancelled → manager.Alive operation
  views : target.views = (manager.callCompletionBlock operation result).views
  completed : target.completed = manager.completed ++ [(operation, result)]
  operations : target.operations = (manager.safelyRemoveOperationFromRunning operation).operations
  nextOperation : target.nextOperation = manager.nextOperation
  downloads : target.downloads = manager.downloads
  nextDownload : target.nextDownload = manager.nextDownload
  entries : target.URLOperations = manager.URLOperations
  mainQueue : target.mainQueue = manager.mainQueue
  queries : target.ioQueue.filterMap IOBlock.query? = manager.ioQueue.filterMap IOBlock.query?

theorem views_callCompletionBlock_error {error : ImageError} :
    (manager.callCompletionBlock operation (.error error)).views = manager.views := Function.update_eq_self ..

theorem completes_end (alive : result ≠ .error .cancelled → manager.Alive operation) :
    Completes operation result manager
      ((manager.callCompletionBlock operation result).safelyRemoveOperationFromRunning operation) :=
  ⟨alive, rfl, rfl, rfl, rfl, rfl, rfl, rfl, rfl, rfl⟩

/-- What else is done on the way to the completion does not matter. -/
theorem Completes.before (completes : Completes operation result changed target)
    (views : changed.views = manager.views) (completed : changed.completed = manager.completed)
    (operations : changed.operations = manager.operations) (nextOperation : changed.nextOperation = manager.nextOperation)
    (downloads : changed.downloads = manager.downloads) (nextDownload : changed.nextDownload = manager.nextDownload)
    (entries : changed.URLOperations = manager.URLOperations) (mainQueue : changed.mainQueue = manager.mainQueue)
    (queries : changed.ioQueue.filterMap IOBlock.query? = manager.ioQueue.filterMap IOBlock.query?) :
    Completes operation result manager target where
  alive own := by
    have alive := completes.alive own
    rwa [Alive, operations] at alive
  views := by
    rw [completes.views]
    simp only [callCompletionBlock, modifyView, views, operations]
  completed := by rw [completes.completed, completed]
  operations := by
    rw [completes.operations]
    simp only [safelyRemoveOperationFromRunning, modifyOperation, operations]
  nextOperation := completes.nextOperation.trans nextOperation
  downloads := completes.downloads.trans downloads
  nextDownload := completes.nextDownload.trans nextDownload
  entries := completes.entries.trans entries
  mainQueue := completes.mainQueue.trans mainQueue
  queries := completes.queries.trans queries

theorem loaderCompleted_of_error {error : ImageError} (alive : manager.Alive operation) :
    ∃ failed, loaderCompleted (.error error) manager operation =
      ({ manager with failedURLs := failed }.callCompletionBlock operation
        (.error error)).safelyRemoveOperationFromRunning operation := by
  unfold loaderCompleted
  dsimp only
  rw [if_pos alive]
  cases error with
  | cancelled => exact ⟨_, rfl⟩
  | _ => exact ⟨_, rfl⟩

theorem completes_loaderCompleted (answer : Except ImageError (Image × List UInt8)) :
    ∃ result, Completes operation result manager (loaderCompleted answer manager operation) := by
  by_cases alive : manager.Alive operation
  · cases answer with
    | error error =>
      obtain ⟨failed, same⟩ := @loaderCompleted_of_error _ manager operation error alive
      have ended := @completes_end _ { manager with failedURLs := failed } operation (.error error) fun _ => alive
      rw [same]
      exact ⟨_, ended.before rfl rfl rfl rfl rfl rfl rfl rfl rfl⟩
    | ok found =>
      unfold loaderCompleted
      dsimp only
      rw [if_pos alive]
      have ended := @completes_end _ (manager.storeImage (manager.operations operation).url found.1 found.2) operation
        (.ok found.1) fun _ => alive
      refine ⟨.ok found.1, ended.before rfl rfl rfl rfl rfl rfl rfl rfl ?_⟩
      exact (List.filterMap_append ..).trans (List.append_nil _)
  · unfold loaderCompleted
    dsimp only
    rw [if_neg alive]
    exact ⟨_, completes_end fun own => absurd rfl own⟩

namespace Completes

theorem of_ne (completes : Completes operation result manager target) {other : ℕ} (different : other ≠ operation) :
    target.operations other = manager.operations other := by
  rw [completes.operations]
  exact operations_modifyOperation_of_ne different _

theorem self (completes : Completes operation result manager target) :
    target.operations operation = { manager.operations operation with running := false } := by
  rw [completes.operations]
  exact operations_modifyOperation_self _

theorem running (completes : Completes operation result manager target) {other : ℕ}
    (running : (target.operations other).running = true) :
    other ≠ operation ∧ target.operations other = manager.operations other := by
  by_cases same : other = operation
  · subst same
    rw [completes.self] at running
    contradiction
  · exact ⟨same, completes.of_ne same⟩

theorem sameURL (completes : Completes operation result manager target) (other : ℕ) :
    (target.operations other).url = (manager.operations other).url := by
  by_cases same : other = operation
  · subst same
    rw [completes.self]
  · rw [completes.of_ne same]

theorem sameView (completes : Completes operation result manager target) (other : ℕ) :
    (target.operations other).view = (manager.operations other).view := by
  by_cases same : other = operation
  · subst same
    rw [completes.self]
  · rw [completes.of_ne same]

/-- A picture changes only in the view of the load. -/
theorem views_of_ne (completes : Completes operation result manager target)
    (different : view ≠ (manager.operations operation).view) : target.views view = manager.views view := by
  rw [completes.views]
  exact Function.update_of_ne different ..

theorem views_self (completes : Completes operation result manager target) :
    target.views (manager.operations operation).view =
      { manager.views (manager.operations operation).view with
        image := result.toOption.or (manager.views (manager.operations operation).view).image } := by
  rw [completes.views]
  exact Function.update_self ..

theorem entry (completes : Completes operation result manager target) (view : ℕ) :
    (target.views view).imageLoadOperation = (manager.views view).imageLoadOperation ∧
      (target.views view).imageURL = (manager.views view).imageURL := by
  by_cases same : view = (manager.operations operation).view
  · subst same
    rw [completes.views_self]
    exact ⟨rfl, rfl⟩
  · rw [completes.views_of_ne same]
    exact ⟨rfl, rfl⟩

/-- The view shows what it showed, unless it gets a picture of the load it refers to. -/
theorem image (completes : Completes operation result manager target)
    (current : (manager.operations operation).running = true →
      (manager.views (manager.operations operation).view).imageLoadOperation = some operation)
    (other : (manager.views view).imageLoadOperation ≠ some operation) :
    (target.views view).image = (manager.views view).image := by
  by_cases same : view = (manager.operations operation).view
  · subst same
    rw [completes.views_self]
    cases result with
    | error error => rfl
    | ok image => exact absurd (current (completes.alive nofun).1) other
  · rw [completes.views_of_ne same]

theorem display (completes : Completes operation result manager target)
    (current : (manager.operations operation).running = true →
      (manager.views (manager.operations operation).view).imageLoadOperation = some operation)
    (display : manager.Display view) : target.Display view := by
  obtain ⟨entered, addressed⟩ := completes.entry view
  cases display with
  | blank entry unset empty =>
    refine .blank (entered.trans entry) (addressed.trans unset) ((completes.image current ?_).trans empty)
    rw [entry]
    exact (Option.some_ne_none operation).symm
  | loading other entry owner address running empty =>
    by_cases same : other = operation
    · subst same
      refine .completed other result (entered.trans entry) ((completes.sameView other).trans owner) ?_ ?_ ?_ ?_
      · rw [addressed, completes.sameURL, address]
      · rw [completes.self]
      · rw [completes.completed]
        exact List.mem_append_right _ (List.mem_singleton_self _)
      · have self := completes.views_self
        rw [owner] at self
        rw [self, empty]
        exact Option.or_none
    · refine .loading other (entered.trans entry) ((completes.sameView other).trans owner) ?_ ?_ ?_
      · rw [addressed, completes.sameURL, address]
      · rw [completes.of_ne same, running]
      · refine (completes.image current ?_).trans empty
        rw [entry]
        exact fun equal => same (Option.some.inj equal)
  | completed other earlier entry owner address released called shown =>
    refine .completed other earlier (entered.trans entry) ((completes.sameView other).trans owner) ?_ ?_ ?_ ?_
    · rw [addressed, completes.sameURL, address]
    · by_cases same : other = operation
      · subst same
        rw [completes.self]
      · rw [completes.of_ne same, released]
    · rw [completes.completed]
      exact List.mem_append_left _ called
    · rw [← shown]
      by_cases same : other = operation
      · subst same
        cases result with
        | error error => rw [completes.views, views_callCompletionBlock_error]
        | ok image =>
          have running := (completes.alive nofun).1
          rw [released] at running
          contradiction
      · refine completes.image current ?_
        rw [entry]
        exact fun equal => same (Option.some.inj equal)

theorem viewed (completes : Completes operation result manager target) (known : operation < manager.nextOperation)
    (viewed : manager.Viewed) : target.Viewed where
  display view := completes.display (viewed.current operation) (viewed.display view)
  made view other entry := by
    rw [completes.nextOperation]
    exact viewed.made view other ((completes.entry view).1 ▸ entry)
  current other running := by
    obtain ⟨_, same⟩ := completes.running running
    rw [same, (completes.entry _).1]
    rw [same] at running
    exact viewed.current other running
  halted other halted := by
    by_cases same : other = operation
    · subst same
      rw [completes.self]
    · rw [completes.of_ne same] at halted ⊢
      exact viewed.halted other halted
  known other running := by
    obtain ⟨_, same⟩ := completes.running running
    rw [completes.nextOperation]
    rw [same] at running
    exact viewed.known other running
  uncalled other earlier called := by
    rw [completes.nextOperation]
    by_cases same : other = operation
    · subst same
      rw [completes.self]
      exact ⟨known, rfl⟩
    · rw [completes.completed] at called
      rw [completes.of_ne same]
      obtain before | new := List.mem_append.mp called
      · exact viewed.uncalled other earlier before
      · exact absurd (Prod.mk.inj (List.mem_singleton.mp new)).1 same

end Completes

/-- What every completion keeps, the answer of a download to its loads keeps. -/
theorem completeAll_induction {Inv : SDWebImageManager Image → Prop} {operations : List ℕ}
    (keep : ∀ {manager target : SDWebImageManager Image} {operation : ℕ} {result : Except ImageError Image},
      Completes operation result manager target → Inv manager → Inv target)
    (start : Inv manager) : Inv (operations.foldl (loaderCompleted answer) manager) := by
  induction operations generalizing manager with
  | nil => exact start
  | cons operation rest ih =>
    obtain ⟨result, completes⟩ := @completes_loaderCompleted _ manager operation answer
    exact ih (keep completes start)

theorem downloads_completeAll {operations : List ℕ} :
    (operations.foldl (loaderCompleted answer) manager).downloads = manager.downloads :=
  completeAll_induction (fun completes start => completes.downloads.trans start) rfl

/-! ## A load is cancelled -/

/-- What the cancellation of a load changes. Nobody is told anything but the load that it was cancelled. -/
structure Cancels (operation : ℕ) (manager target : SDWebImageManager Image) : Prop where
  views : target.views = manager.views
  nextOperation : target.nextOperation = manager.nextOperation
  nextDownload : target.nextDownload = manager.nextDownload
  mainQueue : target.mainQueue = manager.mainQueue
  ioQueue : target.ioQueue = manager.ioQueue
  failedURLs : target.failedURLs = manager.failedURLs
  others : ∀ other, other ≠ operation → target.operations other = manager.operations other
  view : (target.operations operation).view = (manager.operations operation).view
  url : (target.operations operation).url = (manager.operations operation).url
  told : Machine.Appends (· = (operation, .error .cancelled)) manager.completed target.completed
  downloads : ∀ download, Drops operation (manager.downloads download) (target.downloads download)

namespace Cancels

theorem refl (manager : SDWebImageManager Image) : Cancels operation manager manager :=
  ⟨rfl, rfl, rfl, rfl, rfl, rfl, fun _ _ => rfl, rfl, rfl, .refl _, fun _ => .refl _⟩

theorem trans (first : Cancels operation manager changed) (second : Cancels operation changed target) :
    Cancels operation manager target where
  views := second.views.trans first.views
  nextOperation := second.nextOperation.trans first.nextOperation
  nextDownload := second.nextDownload.trans first.nextDownload
  mainQueue := second.mainQueue.trans first.mainQueue
  ioQueue := second.ioQueue.trans first.ioQueue
  failedURLs := second.failedURLs.trans first.failedURLs
  others other different := (second.others other different).trans (first.others other different)
  view := second.view.trans first.view
  url := second.url.trans first.url
  told := first.told.trans second.told
  downloads download := (first.downloads download).trans (second.downloads download)

/-- The load itself is changed. -/
theorem of_modify {change : CombinedOperation → CombinedOperation}
    (view : (change (manager.operations operation)).view = (manager.operations operation).view)
    (url : (change (manager.operations operation)).url = (manager.operations operation).url) :
    Cancels operation manager (manager.modifyOperation operation change) := by
  refine ⟨rfl, rfl, rfl, rfl, rfl, rfl, fun _ different => operations_modifyOperation_of_ne different _, ?_, ?_,
    .refl _, fun _ => .refl _⟩
  · rw [operations_modifyOperation_self, view]
  · rw [operations_modifyOperation_self, url]

/-- It is told that it was cancelled. -/
theorem of_call : Cancels operation manager (manager.callCompletionBlock operation (.error .cancelled)) :=
  ⟨views_callCompletionBlock_error, rfl, rfl, rfl, rfl, rfl, fun _ _ => rfl, rfl, rfl,
    .single rfl, fun _ => .refl _⟩

/-- It leaves a download. -/
theorem of_modifyDownload {change : DownloaderOperation → DownloaderOperation}
    (drops : Drops operation (manager.downloads download) (change (manager.downloads download))) :
    Cancels operation manager (manager.modifyDownload download change) := by
  refine ⟨rfl, rfl, rfl, rfl, rfl, rfl, fun _ _ => rfl, rfl, rfl, .refl _, fun other => ?_⟩
  by_cases same : other = download
  · subst same
    rw [downloads_modifyDownload_self]
    exact drops
  · rw [downloads_modifyDownload_of_ne same]
    exact .refl _

theorem called (cancels : Cancels operation manager target) {entry : ℕ × Except ImageError Image}
    (member : entry ∈ target.completed) : entry ∈ manager.completed ∨ entry.1 = operation :=
  (cancels.told.mem member).imp_right (congrArg Prod.fst)

end Cancels

theorem loaderCompleted_of_dead (dead : ¬ manager.Alive operation) :
    loaderCompleted answer manager operation =
      (manager.callCompletionBlock operation (.error .cancelled)).safelyRemoveOperationFromRunning operation := by
  unfold loaderCompleted
  dsimp only
  rw [if_neg dead]

theorem cancels_loaderCompleted (cancelled : (manager.operations operation).isCancelled = true) :
    Cancels operation manager (loaderCompleted answer manager operation) ∧
      ((loaderCompleted answer manager operation).operations operation).isCancelled = true := by
  have dead : ¬ manager.Alive operation := by
    intro alive
    have running := alive.2
    rw [cancelled] at running
    contradiction
  rw [loaderCompleted_of_dead dead]
  refine ⟨Cancels.of_call.trans (.of_modify rfl rfl), ?_⟩
  rw [safelyRemoveOperationFromRunning, operations_modifyOperation_self]
  exact cancelled

/-- The loads told by the cancellation are this one only. -/
theorem cancels_completeAll {operations : List ℕ} (only : ∀ other ∈ operations, other = operation)
    (cancelled : (manager.operations operation).isCancelled = true) :
    Cancels operation manager (operations.foldl (loaderCompleted answer) manager) := by
  induction operations generalizing manager with
  | nil => exact .refl manager
  | cons other rest ih =>
    obtain rfl := only other (List.mem_cons_self ..)
    obtain ⟨first, still⟩ := @cancels_loaderCompleted _ manager other answer cancelled
    exact first.trans (ih (fun other member => only other (List.mem_cons_of_mem _ member)) still)

theorem cancels_cancelDownload (only : ∀ other ∈ (manager.downloads download).callbackBlocks, other = operation)
    (cancelled : (manager.operations operation).isCancelled = true) :
    Cancels operation manager (manager.cancelDownload download) := by
  unfold cancelDownload
  dsimp only
  split
  · exact .refl manager
  · next unfinished =>
    have told := @cancels_completeAll _ manager operation (.error .cancelled) _ only cancelled
    have same := @downloads_completeAll _ manager (.error .cancelled) (manager.downloads download).callbackBlocks
    refine told.trans (.of_modifyDownload (drops_cancelled (fun other member => ?_) ?_))
    · rw [same] at member
      exact only other member
    · rw [same]
      exact Bool.eq_false_iff.mpr unfinished

theorem cancels_cancelToken (cancelled : (manager.operations operation).isCancelled = true) :
    Cancels operation manager (manager.cancelToken operation) := by
  unfold cancelToken
  dsimp only
  split
  · exact .refl manager
  · next download entered =>
    split
    · next nobody =>
      have only : ∀ other ∈ (manager.downloads download).callbackBlocks, other = operation := by
        intro other member
        by_contra different
        have kept : other ∈ (manager.downloads download).callbackBlocks.filter (· ≠ operation) :=
          List.mem_filter.mpr ⟨member, decide_eq_true different⟩
        rw [nobody] at kept
        contradiction
      have dropped := cancels_cancelDownload only cancelled
      exact ⟨dropped.views, dropped.nextOperation, dropped.nextDownload, dropped.mainQueue, dropped.ioQueue,
        dropped.failedURLs, dropped.others, dropped.view, dropped.url, dropped.told, dropped.downloads⟩
    · have left : Cancels operation manager (manager.modifyDownload download fun known =>
          { known with callbackBlocks := (manager.downloads download).callbackBlocks.filter (· ≠ operation) }) :=
        .of_modifyDownload (drops_filtered _)
      refine left.trans (cancels_loaderCompleted ?_).1
      exact cancelled

theorem cancels_cancel (active : (manager.operations operation).isCancelled = false) :
    Cancels operation manager (manager.cancel operation) ∧
      ((manager.cancel operation).operations operation).running = false := by
  have marked : Cancels operation manager (manager.markCancelled operation) := .of_modify rfl rfl
  have cancelled : ((manager.markCancelled operation).operations operation).isCancelled = true := by
    rw [markCancelled, operations_modifyOperation_self]
  unfold cancel
  rw [active, if_neg Bool.false_ne_true]
  refine ⟨Cancels.trans ?_ (.of_modify rfl rfl), ?_⟩
  · split
    · exact (marked.trans (cancels_cancelToken cancelled)).trans (.of_modify rfl rfl)
    · exact marked
  · rw [safelyRemoveOperationFromRunning, operations_modifyOperation_self]

/-- All views but one are as they should be, and no load runs for that one. -/
structure ViewedBut (manager : SDWebImageManager Image) (view : ℕ) : Prop where
  display : ∀ other, other ≠ view → manager.Display other
  made : ∀ view operation, (manager.views view).imageLoadOperation = some operation → operation < manager.nextOperation
  current : ∀ operation, (manager.operations operation).running = true →
    (manager.operations operation).view ≠ view ∧
      (manager.views (manager.operations operation).view).imageLoadOperation = some operation
  halted : ∀ operation, (manager.operations operation).isCancelled = true ∨
    (manager.operations operation).cacheCancelled = true → (manager.operations operation).running = false
  known : ∀ operation, (manager.operations operation).running = true → operation < manager.nextOperation
  uncalled : ∀ operation result, (operation, result) ∈ manager.completed →
    operation < manager.nextOperation ∧ (manager.operations operation).running = false
  entry : (manager.views view).imageLoadOperation = none

/-- The load of a view, if it runs, is cancelled, and no load runs for the view any more. -/
theorem cancelImageLoadOperation_cases (viewed : manager.Viewed) (view : ℕ) :
    ∃ operation cancelled, Cancels operation manager cancelled ∧
      (cancelled.operations operation).running = false ∧
      (∀ other, (manager.operations other).running = true →
        ((manager.operations other).view = view ↔ other = operation)) ∧
      (cancelled = manager ∨ operation < manager.nextOperation) ∧
      manager.cancelImageLoadOperation view =
        cancelled.modifyView view fun known => { known with imageLoadOperation := none } := by
  have mine {other : ℕ} (running : (manager.operations other).running = true)
      (own : (manager.operations other).view = view) : (manager.views view).imageLoadOperation = some other := by
    rw [← own]
    exact viewed.current other running
  unfold cancelImageLoadOperation
  cases entry : (manager.views view).imageLoadOperation with
  | none =>
    have unknown {other : ℕ} (running : (manager.operations other).running = true) : other ≠ manager.nextOperation :=
      Nat.ne_of_lt (viewed.known other running)
    refine ⟨manager.nextOperation, manager, .refl manager, Bool.eq_false_iff.mpr fun running => unknown running rfl,
      fun other running => ⟨fun own => ?_, fun same => absurd same (unknown running)⟩, .inl rfl, rfl⟩
    have entered := mine running own
    rw [entry] at entered
    contradiction
  | some operation =>
    have only (other : ℕ) (running : (manager.operations other).running = true) :
        (manager.operations other).view = view ↔ other = operation := by
      refine ⟨fun own => ?_, fun same => ?_⟩
      · have entered := mine running own
        rw [entry] at entered
        exact (Option.some.inj entered).symm
      · subst same
        exact (viewed.display view).owner entry
    cases running : (manager.operations operation).running with
    | false => exact ⟨operation, manager, .refl manager, running, only, .inl rfl, by simp only [running]; rfl⟩
    | true =>
      have active : (manager.operations operation).isCancelled = false := by
        refine Bool.eq_false_iff.mpr fun cancelled => ?_
        rw [viewed.halted operation (.inl cancelled)] at running
        contradiction
      obtain ⟨cancels, released⟩ := cancels_cancel active
      exact ⟨operation, _, cancels, released, only, .inr (viewed.made view operation entry), by simp only [running]; rfl⟩

theorem Cancels.running (cancels : Cancels operation manager target)
    (released : (target.operations operation).running = false) {other : ℕ}
    (running : (target.operations other).running = true) :
    other ≠ operation ∧ target.operations other = manager.operations other := by
  have different : other ≠ operation := by
    intro same
    rw [same, released] at running
    contradiction
  exact ⟨different, cancels.others other different⟩

theorem Cancels.display (cancels : Cancels operation manager target)
    (released : (target.operations operation).running = false) {other : ℕ} 
    (elsewhere : (manager.views other).imageLoadOperation = some operation → (manager.operations operation).running = false)
    (display : manager.Display other) : target.Display other := by
  have entry : target.views other = manager.views other := by rw [cancels.views]
  have url (known : ℕ) : (target.operations known).url = (manager.operations known).url := by
    by_cases same : known = operation
    · rw [same, cancels.url]
    · rw [cancels.others known same]
  have owned (known : ℕ) : (target.operations known).view = (manager.operations known).view := by
    by_cases same : known = operation
    · rw [same, cancels.view]
    · rw [cancels.others known same]
  cases display with
  | blank empty unset nothing => exact .blank (entry ▸ empty) (entry ▸ unset) (entry ▸ nothing)
  | loading known entered owner address running empty =>
    have different : known ≠ operation := by
      intro same
      subst same
      rw [elsewhere entered] at running
      contradiction
    refine .loading known (entry ▸ entered) ((owned known).trans owner) ?_ ?_ (entry ▸ empty)
    · rw [entry, address, url]
    · rw [cancels.others known different, running]
  | completed known result entered owner address ended called shown =>
    refine .completed known result (entry ▸ entered) ((owned known).trans owner) ?_ ?_ (cancels.told.subset called)
      (entry ▸ shown)
    · rw [entry, address, url]
    · by_cases same : known = operation
      · rw [same, released]
      · rw [cancels.others known same, ended]

/-- Two managers whose views differ in one place only show the same elsewhere. -/
theorem display_modifyView {other : ℕ} (different : other ≠ view)
    (change : UIImageView Image → UIImageView Image) (display : manager.Display other) :
    (manager.modifyView view change).Display other := by
  have same := @views_modifyView_of_ne _ manager view other different change
  cases display with
  | blank entry unset empty => exact .blank (same ▸ entry) (same ▸ unset) (same ▸ empty)
  | loading known entry owner address running empty =>
    exact .loading known (same ▸ entry) owner (same ▸ address) running (same ▸ empty)
  | completed known result entry owner address released called shown =>
    exact .completed known result (same ▸ entry) owner (same ▸ address) released called (same ▸ shown)

theorem viewedBut_cancelled (viewed : manager.Viewed) (view : ℕ) :
    (manager.cancelImageLoadOperation view).ViewedBut view := by
  obtain ⟨operation, cancelled, cancels, released, only, known, same⟩ := cancelImageLoadOperation_cases viewed view
  rw [same]
  have running {other : ℕ} (runs : (cancelled.operations other).running = true) :
      (manager.operations other).running = true ∧ (manager.operations other).view ≠ view ∧
        cancelled.operations other = manager.operations other := by
    obtain ⟨different, kept⟩ := cancels.running released runs
    rw [kept] at runs
    exact ⟨runs, fun own => different ((only other runs).mp own), kept⟩
  refine ⟨fun other different => ?_, fun other known entered => ?_, fun other runs => ?_, fun other halted => ?_,
    fun other runs => ?_, fun other result called => ?_, ?_⟩
  · refine display_modifyView different _ (cancels.display released (fun entered => ?_) (viewed.display other))
    refine Bool.eq_false_iff.mpr fun runs => different ?_
    exact ((viewed.display other).owner entered).symm.trans ((only operation runs).mpr rfl)
  · change known < cancelled.nextOperation
    rw [cancels.nextOperation]
    by_cases same : other = view
    · subst same
      rw [views_modifyView_self] at entered
      contradiction
    · rw [views_modifyView_of_ne same, cancels.views] at entered
      exact viewed.made other known entered
  · obtain ⟨before, elsewhere, kept⟩ := running runs
    change (cancelled.operations other).view ≠ view ∧
      ((cancelled.modifyView view _).views (cancelled.operations other).view).imageLoadOperation = some other
    rw [kept, views_modifyView_of_ne elsewhere, cancels.views]
    exact ⟨elsewhere, viewed.current other before⟩
  · by_cases same : other = operation
    · rw [same]
      exact released
    · change (cancelled.operations other).isCancelled = true ∨ (cancelled.operations other).cacheCancelled = true at halted
      change (cancelled.operations other).running = false
      rw [cancels.others other same] at halted ⊢
      exact viewed.halted other halted
  · change other < cancelled.nextOperation
    rw [cancels.nextOperation]
    exact viewed.known other (running runs).1
  · refine ⟨?_, Bool.eq_false_iff.mpr fun runs => ?_⟩
    · change other < cancelled.nextOperation
      rw [cancels.nextOperation]
      obtain rfl | below := known
      · exact (viewed.uncalled other result called).1
      · obtain before | mine := cancels.called called
        · exact (viewed.uncalled other result before).1
        · obtain rfl := mine
          exact below
    · obtain ⟨different, _⟩ := cancels.running released runs
      obtain before | mine := cancels.called called
      · have idle := (viewed.uncalled other result before).2
        rw [(running runs).1] at idle
        contradiction
      · exact different mine
  · rw [views_modifyView_self]

/-! ## A load is started -/

/-- What the start of a load changes: it may complete at once, otherwise the disk is asked. -/
structure Loads (view : ℕ) (url : String) (outcome : Option (Except ImageError Image))
    (manager target : SDWebImageManager Image) : Prop where
  others : ∀ other, other ≠ view → target.views other = manager.views other
  self : target.views view =
    { manager.views view with image := (outcome.bind Except.toOption).or (manager.views view).image }
  completed : target.completed = manager.completed ++ (outcome.map fun result => (manager.nextOperation, result)).toList
  old : ∀ other, other ≠ manager.nextOperation → target.operations other = manager.operations other
  new : target.operations manager.nextOperation =
    ⟨view, url, outcome.isNone, false, outcome.isNone, false, false, false⟩
  nextOperation : target.nextOperation = manager.nextOperation + 1
  downloads : target.downloads = manager.downloads
  nextDownload : target.nextDownload = manager.nextDownload
  mainQueue : target.mainQueue = manager.mainQueue
  ioQueue : target.ioQueue = manager.ioQueue ++ (if outcome = none then [.query manager.nextOperation] else [])

theorem loads_refused : Loads view url (some (.error .invalidURL)) manager
    ((manager.makeOperation view url).callCompletionBlock manager.nextOperation (.error .invalidURL)) where
  others other _ := by rw [views_callCompletionBlock_error]; rfl
  self := by rw [views_callCompletionBlock_error]; rfl
  completed := rfl
  old other different := operations_makeOperation_of_ne different
  new := operations_makeOperation_self
  nextOperation := rfl
  downloads := rfl
  nextDownload := rfl
  mainQueue := rfl
  ioQueue := (List.append_nil _).symm

theorem imageFromMemoryCache_same (manager : SDWebImageManager Image) (key : String) :
    ∃ memoryCache, (manager.imageFromMemoryCache key).2 = { manager with memoryCache := memoryCache } := by
  unfold imageFromMemoryCache
  split
  · exact ⟨_, rfl⟩
  · exact ⟨_, rfl⟩
  · exact ⟨_, rfl⟩

theorem loads_remembered {image : Image} {memoryCache : String → Option Image} :
    Loads view url (some (.ok image)) manager
      ({ manager.begun view url with memoryCache := memoryCache }.cacheCompleted manager.nextOperation (some image)) := by
  have made := @operations_begun_self _ manager view url
  have alive : ({ manager.begun view url with memoryCache := memoryCache } : SDWebImageManager Image).Alive
      manager.nextOperation := by
    change ((manager.begun view url).operations _).running = true ∧ ((manager.begun view url).operations _).isCancelled = false
    rw [made]
    exact ⟨rfl, rfl⟩
  have owner : ((manager.begun view url).operations manager.nextOperation).view = view := by rw [made]
  rw [cacheCompleted, if_pos alive]
  have ended := @completes_end _ { manager.begun view url with memoryCache := memoryCache } manager.nextOperation
    (.ok image) fun _ => alive
  refine ⟨fun other different => ended.views_of_ne (owner.symm ▸ different), ?_, rfl, fun other old => ?_, ?_,
    rfl, rfl, rfl, rfl, (List.append_nil _).symm⟩
  · have self := ended.views_self
    rw [owner] at self
    exact self
  · exact (ended.of_ne old).trans (operations_begun_of_ne old)
  · refine ended.self.trans ?_
    change { (manager.begun view url).operations manager.nextOperation with running := false } = _
    rw [made]
    rfl

theorem loads_asked {memoryCache : String → Option Image} : Loads view url none manager
    { ({ manager.begun view url with memoryCache := memoryCache } : SDWebImageManager Image).modifyOperation
        manager.nextOperation (fun known => { known with cacheOperation := true }) with
      ioQueue := manager.ioQueue ++ [.query manager.nextOperation] } := by
  refine ⟨fun _ _ => rfl, rfl, (List.append_nil _).symm, fun other old => ?_, ?_, rfl, rfl, rfl, rfl, rfl⟩
  · exact (Function.update_of_ne old ..).trans (operations_begun_of_ne old)
  · refine (Function.update_self ..).trans ?_
    change { (manager.begun view url).operations manager.nextOperation with cacheOperation := true } = _
    rw [operations_begun_self]
    rfl

theorem loads_loadImage : ∃ outcome, Loads view url outcome manager (manager.loadImage view url) := by
  unfold loadImage
  dsimp only
  split
  · exact ⟨_, loads_refused⟩
  · change ∃ outcome, Loads view url outcome manager ((manager.begun view url).callCacheProcess manager.nextOperation)
    unfold callCacheProcess
    obtain ⟨memoryCache, same⟩ := imageFromMemoryCache_same (manager.begun view url)
      ((manager.begun view url).operations manager.nextOperation).url
    split
    · next image after found =>
      rw [found] at same
      obtain rfl := same
      exact ⟨_, loads_remembered⟩
    · next after missing =>
      rw [missing] at same
      obtain rfl := same
      exact ⟨_, loads_asked⟩

theorem ViewedBut.modifyView (viewed : manager.ViewedBut view) {change : UIImageView Image → UIImageView Image}
    (entry : ∀ known, (change known).imageLoadOperation = known.imageLoadOperation) :
    (manager.modifyView view change).ViewedBut view where
  display other different := display_modifyView different change (viewed.display other different)
  made other known entered := by
    by_cases same : other = view
    · subst same
      rw [views_modifyView_self, entry] at entered
      exact viewed.made other known entered
    · rw [views_modifyView_of_ne same] at entered
      exact viewed.made other known entered
  current known running := by
    obtain ⟨elsewhere, current⟩ := viewed.current known running
    refine ⟨elsewhere, ?_⟩
    change ((manager.modifyView view change).views (manager.operations known).view).imageLoadOperation = some known
    rwa [views_modifyView_of_ne elsewhere]
  halted := viewed.halted
  known := viewed.known
  uncalled := viewed.uncalled
  entry := by
    rw [views_modifyView_self, entry]
    exact viewed.entry

/-- A view without an address shows nothing. -/
theorem ViewedBut.blank (viewed : manager.ViewedBut view) (unset : (manager.views view).imageURL = none)
    (empty : (manager.views view).image = none) : manager.Viewed where
  display other := by
    by_cases same : other = view
    · subst same
      exact .blank viewed.entry unset empty
    · exact viewed.display other same
  made := viewed.made
  current known running := (viewed.current known running).2
  halted := viewed.halted
  known := viewed.known
  uncalled := viewed.uncalled

/-- The view refers to the load started for it. -/
theorem ViewedBut.loaded (viewed : manager.ViewedBut view) {outcome : Option (Except ImageError Image)}
    (address : (manager.views view).imageURL = some url) (empty : (manager.views view).image = none)
    (loads : Loads view url outcome manager changed) :
    (changed.setImageLoadOperation view manager.nextOperation).Viewed := by
  have entry : (changed.views view).imageLoadOperation = none := by
    rw [loads.self]
    exact viewed.entry
  have same : changed.setImageLoadOperation view manager.nextOperation =
      (changed.modifyView view fun known => { known with imageLoadOperation := none }).modifyView view fun known =>
        { known with imageLoadOperation := some manager.nextOperation } := by
    unfold setImageLoadOperation cancelImageLoadOperation
    rw [entry]
  have elsewhere {other : ℕ} (different : other ≠ view) :
      (changed.setImageLoadOperation view manager.nextOperation).views other = manager.views other := by
    rw [same, views_modifyView_of_ne different, views_modifyView_of_ne different, loads.others other different]
  have here : (changed.setImageLoadOperation view manager.nextOperation).views view =
      ⟨outcome.bind Except.toOption, some url, some manager.nextOperation⟩ := by
    rw [same, views_modifyView_self, views_modifyView_self, loads.self, address, empty, Option.or_none]
  have operations : (changed.setImageLoadOperation view manager.nextOperation).operations = changed.operations := by
    rw [same]
    rfl
  have completed : (changed.setImageLoadOperation view manager.nextOperation).completed = changed.completed := by
    rw [same]
    rfl
  have next : (changed.setImageLoadOperation view manager.nextOperation).nextOperation = manager.nextOperation + 1 := by
    rw [same]
    exact loads.nextOperation
  have runs {known : ℕ} (running : (changed.operations known).running = true) (old : known ≠ manager.nextOperation) :
      (manager.operations known).running = true := loads.old known old ▸ running
  refine ⟨fun other => ?_, fun other known entered => ?_, fun known running => ?_, fun known halted => ?_,
    fun known running => ?_, fun known result called => ?_⟩
  · by_cases mine : other = view
    · subst mine
      cases outcome with
      | none =>
        refine .loading manager.nextOperation ?_ ?_ ?_ ?_ ?_ <;> simp only [here, operations, loads.new] <;> rfl
      | some result =>
        refine .completed manager.nextOperation result ?_ ?_ ?_ ?_ ?_ ?_
        all_goals simp only [here, operations, completed, loads.new, loads.completed]
        · rfl
        · exact List.mem_append_right _ (List.mem_singleton_self _)
        · rfl
    · have views := elsewhere mine
      have old {known : ℕ} (entered : (manager.views other).imageLoadOperation = some known) :
          changed.operations known = manager.operations known :=
        loads.old known (Nat.ne_of_lt (viewed.made other known entered))
      cases viewed.display other mine with
      | blank entered unset nothing => exact .blank (views ▸ entered) (views ▸ unset) (views ▸ nothing)
      | loading known entered owner set running nothing =>
        refine .loading known (views ▸ entered) ?_ ?_ ?_ (views ▸ nothing)
        · rw [operations, old entered, owner]
        · rw [views, set, operations, old entered]
        · rw [operations, old entered, running]
      | completed known result entered owner set released called shown =>
        refine .completed known result (views ▸ entered) ?_ ?_ ?_ ?_ (views ▸ shown)
        · rw [operations, old entered, owner]
        · rw [views, set, operations, old entered]
        · rw [operations, old entered, released]
        · rw [completed, loads.completed]
          exact List.mem_append_left _ called
  · rw [next]
    by_cases mine : other = view
    · subst mine
      rw [here] at entered
      obtain rfl := Option.some.inj entered
      exact Nat.lt_succ_self _
    · rw [elsewhere mine] at entered
      exact Nat.lt_succ_of_lt (viewed.made other known entered)
  · rw [operations] at running ⊢
    by_cases new : known = manager.nextOperation
    · subst new
      rw [loads.new, here]
    · rw [loads.old known new]
      obtain ⟨different, current⟩ := viewed.current known (runs running new)
      rw [elsewhere different, current]
  · rw [operations] at halted ⊢
    by_cases new : known = manager.nextOperation
    · subst new
      rw [loads.new] at halted
      exact absurd halted (by simp)
    · rw [loads.old known new] at halted ⊢
      exact viewed.halted known halted
  · rw [operations] at running
    rw [next]
    by_cases new : known = manager.nextOperation
    · subst new
      exact Nat.lt_succ_self _
    · exact Nat.lt_succ_of_lt (viewed.known known (runs running new))
  · rw [completed, loads.completed] at called
    rw [operations, next]
    obtain before | started := List.mem_append.mp called
    · obtain ⟨below, idle⟩ := viewed.uncalled known result before
      refine ⟨Nat.lt_succ_of_lt below, ?_⟩
      rw [loads.old known (Nat.ne_of_lt below), idle]
    · cases outcome with
      | none => contradiction
      | some earlier =>
        obtain ⟨rfl, rfl⟩ := Prod.mk.inj (List.mem_singleton.mp started)
        refine ⟨Nat.lt_succ_self _, ?_⟩
        rw [loads.new]
        rfl

theorem viewedBut_prepared (viewed : manager.Viewed) (view : ℕ) (address : Option String) :
    (manager.prepareView view address).ViewedBut view :=
  (viewedBut_cancelled viewed view).modifyView fun _ => rfl

theorem views_prepared (viewed : manager.Viewed) (view : ℕ) (address : Option String) :
    (manager.prepareView view address).views view = ⟨none, address, none⟩ := by
  have entry := (viewedBut_cancelled viewed view).entry
  rw [prepareView, views_modifyView_self, entry]

theorem viewed_setImage (viewed : manager.Viewed) {address : Option String} :
    (manager.setImage view address).Viewed := by
  have prepared := viewedBut_prepared viewed view address
  have shown := views_prepared viewed view address
  unfold setImage
  cases address with
  | none => exact prepared.blank (by rw [shown]) (by rw [shown])
  | some url =>
    obtain ⟨outcome, loads⟩ := @loads_loadImage _ (manager.prepareView view (some url)) view url
    exact prepared.loaded (by rw [shown]) (by rw [shown]) loads

/-! ## What the views do not see -/

theorem sameViews_downloadImage : SameViews manager (manager.downloadImage url operation) := by
  unfold downloadImage
  refine SameViews.trans ?_ (.of_modify rfl rfl rfl rfl rfl)
  split
  · next download entered =>
    split
    · exact .of_same rfl rfl rfl rfl
    · have joined : SameViews manager (manager.modifyDownload download fun known =>
          { known with callbackBlocks := known.callbackBlocks ++ [operation] }) := .of_same rfl rfl rfl rfl
      exact joined.trans (.of_modify rfl rfl rfl rfl rfl)
  · exact .of_same rfl rfl rfl rfl

theorem cacheCompleted_cases {image : Option Image} :
    (∃ result, Completes operation result manager (manager.cacheCompleted operation image)) ∨
      manager.Alive operation ∧
        manager.cacheCompleted operation image = manager.downloadImage (manager.operations operation).url operation := by
  unfold cacheCompleted
  split
  · next alive =>
    cases image with
    | some image => exact .inl ⟨_, completes_end fun _ => alive⟩
    | none => exact .inr ⟨alive, rfl⟩
  · exact .inl ⟨_, completes_end fun own => absurd rfl own⟩

theorem sameViews_runDisk (viewed : manager.Viewed) (block : IOBlock) : SameViews manager (manager.runDisk coders block) := by
  cases block with
  | store key data => exact .of_same rfl rfl rfl rfl
  | query operation =>
    unfold runDisk
    dsimp only
    split
    · next cancelled =>
      have removed : SameViews manager (manager.safelyRemoveOperationFromRunning operation) :=
        .of_modify rfl rfl (viewed.halted operation (.inr cancelled)).symm rfl rfl
      exact removed.trans (.of_same rfl rfl rfl rfl)
    · split
      · exact .of_same rfl rfl rfl rfl
      · exact .of_same rfl rfl rfl rfl

theorem sameViews_start {made : Bool} : SameViews manager (manager.start download made) := by
  unfold start
  split
  · exact .of_same rfl rfl rfl rfl
  · split
    · exact .of_same rfl rfl rfl rfl
    · exact .of_same rfl rfl rfl rfl

theorem sameViews_didComplete {error : Option ImageError} : SameViews manager (manager.didComplete download error) := by
  unfold didComplete
  dsimp only
  split
  · exact .of_same rfl rfl rfl rfl
  · split
    · exact .of_same rfl rfl rfl rfl
    · split
      · exact .of_same rfl rfl rfl rfl
      · exact .of_same rfl rfl rfl rfl

theorem completes_released (released : (manager.operations operation).running = false) :
    Completes operation (.error .cancelled) manager (manager.callCompletionBlock operation (.error .cancelled)) where
  alive own := absurd rfl own
  views := rfl
  completed := rfl
  operations := by
    have same : { manager.operations operation with running := false } = manager.operations operation := by
      rw [← released]
    rw [safelyRemoveOperationFromRunning, modifyOperation, same, Function.update_eq_self]
    rfl
  nextOperation := rfl
  downloads := rfl
  nextDownload := rfl
  entries := rfl
  mainQueue := rfl
  queries := rfl

theorem viewed_runMain (viewed : manager.Viewed) {block : MainBlock Image}
    (carried : MainSound coders disk manager block) : (manager.runMain block).Viewed := by
  cases block with
  | queried operation image =>
    obtain ⟨result, completes⟩ | ⟨_, same⟩ := @cacheCompleted_cases _ manager operation image
    · exact completes.viewed carried.1 viewed
    · rw [runMain, same]
      exact sameViews_downloadImage.viewed viewed
  | downloaded operations result =>
    obtain ⟨url, -, asks⟩ := carried
    have known (operation : ℕ) (member : operation ∈ operations) : operation < manager.nextOperation :=
      (asks operation member).1
    clear asks
    change (operations.foldl (loaderCompleted result) manager).Viewed
    induction operations generalizing manager with
    | nil => exact viewed
    | cons operation rest ih =>
      obtain ⟨told, completes⟩ := @completes_loaderCompleted _ manager operation result
      refine ih (completes.viewed (known operation (List.mem_cons_self ..)) viewed) fun other member => ?_
      rw [completes.nextOperation]
      exact known other (List.mem_cons_of_mem _ member)
  | cancelled operation => exact (completes_released carried.2).viewed carried.1 viewed

/-- The views see an event only where the app gives an address or the main queue runs. -/
theorem sameViews_step {event : ImageEvent} (viewed : manager.Viewed) (app : ∀ view address, event ≠ .setImage view address)
    (main : event ≠ .main) (step : manager.step? coders event = some target) : SameViews manager target := by
  cases step?_stepped step with
  | setImage view address => exact absurd rfl (app view address)
  | main => exact absurd rfl main
  | io block rest =>
    have popped : SameViews manager { manager with ioQueue := rest } := .of_same rfl rfl rfl rfl
    exact popped.trans (sameViews_runDisk (popped.viewed viewed) block)
  | start => exact sameViews_start
  | didComplete => exact sameViews_didComplete
  | _ => exact .of_same rfl rfl rfl rfl

/-- Every event keeps the views as they should be. -/
theorem viewed_step {event : ImageEvent} (sound : Sound coders disk manager) (viewed : manager.Viewed)
    (step : manager.step? coders event = some target) : target.Viewed := by
  cases step?_stepped step with
  | setImage view address => exact viewed_setImage viewed
  | main block rest waiting =>
    obtain ⟨popped, carried⟩ := sound.popMain waiting
    have before : SameViews manager { manager with mainQueue := rest } := .of_same rfl rfl rfl rfl
    exact viewed_runMain (before.viewed viewed) (carried.mono popped.toGrows)
  | _ => exact (sameViews_step viewed (by simp) (by simp) step).viewed viewed

theorem viewed_initial : (initial disk : SDWebImageManager Image).Viewed where
  display _ := .blank rfl rfl rfl
  made := nofun
  current := nofun
  halted _ _ := rfl
  known := nofun
  uncalled := nofun

end SDWebImageManager

end LoginDN.SDWebImage
