import LoginDN.Machine.Progress
import LoginDN.Model.WebImageAnswers
import Mathlib.Algebra.BigOperators.Group.Finset.Basic
import Mathlib.Algebra.GroupWithZero.Nat

/-! # The work that loads of pictures bring about

Every block on a queue and every download stands for a bounded number of blocks that may follow. A query
of the disk is the longest of them: its answer may make a download, the download tells its loads, and each
of these writes its picture to the disk. What a download still has to do grows with the loads that join it.
-/

namespace LoginDN.SDWebImage

/-- What the cache, the downloads and the queues do by themselves. URLSession ends every task, so its end
is among them, but not the parts of a response before it. -/
def ImageEvent.own : ImageEvent → Bool
  | .main | .io | .start _ _ | .didComplete _ _ | .decoded _ | .done _ | .completionBlock _ => true
  | .setImage _ _ | .didReceiveResponse _ _ | .didReceiveData _ _ => false
  | .memoryEvicted _ | .released _ | .diskExpired _ => false

/-- Everything but a new address for a view. -/
def ImageEvent.unasked : ImageEvent → Bool
  | .setImage _ _ => false
  | _ => true

def IOBlock.effort : IOBlock → ℕ
  | .query _ => 9
  | .store _ _ => 1

def MainBlock.effort {Image : Type} : MainBlock Image → ℕ
  | .queried _ _ => 8
  | .downloaded operations _ => operations.length + 1
  | .cancelled _ => 1

namespace DownloaderOperation

/-- What a download has to do until it is done. Its loads count as long as they have not been told. -/
def stage (known : DownloaderOperation) : ℕ :=
  if known.started = false then known.callbackBlocks.length + 5
  else if known.dataTask then known.callbackBlocks.length + 4
  else if known.coderQueue.isSome then known.callbackBlocks.length + 3
  else if known.completing then 1
  else 0

def effort (known : DownloaderOperation) : ℕ := known.stage + if known.completionBlock then 0 else 1

variable {known : DownloaderOperation}

theorem stage_of_waiting (unstarted : known.started = false) : known.stage = known.callbackBlocks.length + 5 :=
  if_pos unstarted

theorem stage_of_dataTask (started : known.started = true) (task : known.dataTask = true) :
    known.stage = known.callbackBlocks.length + 4 := by
  simp [stage, started, task]

theorem stage_of_coderQueue (started : known.started = true) (idle : known.dataTask = false) {data : List UInt8}
    (held : known.coderQueue = some data) : known.stage = known.callbackBlocks.length + 3 := by
  simp [stage, started, idle, held]

theorem stage_of_completing (started : known.started = true) (idle : known.dataTask = false)
    (empty : known.coderQueue = none) (called : known.completing = true) : known.stage = 1 := by
  simp [stage, started, idle, empty, called]

theorem stage_of_ended (started : known.started = true) (idle : known.dataTask = false)
    (empty : known.coderQueue = none) (uncalled : known.completing = false) : known.stage = 0 := by
  simp [stage, started, idle, empty, uncalled]

/-- A load that joins a download is one more to tell. -/
theorem stage_joined (operation : ℕ) :
    ({ known with callbackBlocks := known.callbackBlocks ++ [operation] } : DownloaderOperation).stage ≤ known.stage + 1 := by
  unfold stage
  dsimp only
  split_ifs <;> simp

end DownloaderOperation

namespace SDWebImageManager

variable {Image : Type} {coders : Coders Image} {disk : String → Option (List UInt8)}
  {manager changed target : SDWebImageManager Image} {view operation download : ℕ} {url : String}
  {answer : Except ImageError (Image × List UInt8)}

/-! ## Downloads that have begun -/

/-- What happens to a download happens after it was made. -/
def Begun (manager : SDWebImageManager Image) : Prop :=
  ∀ download, (manager.downloads download).started = true → download < manager.nextDownload

theorem Begun.of_same (begun : manager.Begun) (downloads : target.downloads = manager.downloads)
    (made : target.nextDownload = manager.nextDownload) : target.Begun := by
  intro download started
  rw [made]
  rw [downloads] at started
  exact begun download started

/-- A download is changed, and begins only when it was made. -/
theorem Begun.modifyDownload (begun : manager.Begun) {change : DownloaderOperation → DownloaderOperation}
    (began : (change (manager.downloads download)).started = true → download < manager.nextDownload) :
    (manager.modifyDownload download change).Begun := by
  intro other started
  by_cases same : other = download
  · subst same
    rw [downloads_modifyDownload_self] at started
    exact began started
  · rw [downloads_modifyDownload_of_ne same] at started
    exact begun other started

theorem Begun.cancels (begun : manager.Begun) (cancels : Cancels operation manager target) : target.Begun := by
  intro download started
  rw [cancels.nextDownload]
  rw [(cancels.downloads download).started] at started
  exact begun download started

theorem Begun.setImageLoadOperation (begun : manager.Begun) (entry : (manager.views view).imageLoadOperation = none) :
    (manager.setImageLoadOperation view operation).Begun := by
  rw [setImageLoadOperation_of_none entry]
  exact begun.of_same rfl rfl

theorem Begun.setImage (begun : manager.Begun) (viewed : manager.Viewed) {address : Option String} :
    (manager.setImage view address).Begun := by
  obtain ⟨operation, cancelled, cancels, _, _, _, same⟩ := cancelImageLoadOperation_cases viewed view
  have blank : (manager.prepareView view address).Begun := by
    rw [prepareView, same]
    exact (begun.cancels cancels).of_same rfl rfl
  have shown := views_prepared viewed view address
  unfold SDWebImageManager.setImage
  cases address with
  | none => exact blank
  | some url =>
    obtain ⟨outcome, loads⟩ := @loads_loadImage _ (manager.prepareView view (some url)) view url
    refine (blank.of_same loads.downloads loads.nextDownload).setImageLoadOperation ?_
    rw [loads.self, shown]

theorem Begun.downloadImage (begun : manager.Begun) (sound : Sound coders disk manager) :
    (manager.downloadImage url operation).Begun := by
  obtain made | ⟨download, below, _, _, joined⟩ := downloadImage_cases sound url operation
  · rw [made]
    intro other started
    change (Function.update manager.downloads manager.nextDownload _ other).started = true at started
    by_cases same : other = manager.nextDownload
    · subst same
      exact Nat.lt_succ_self _
    · rw [Function.update_of_ne same] at started
      exact Nat.lt_succ_of_lt (begun other started)
  · rw [joined]
    have listed : (manager.modifyDownload download fun known =>
        { known with callbackBlocks := known.callbackBlocks ++ [operation] }).Begun :=
      begun.modifyDownload fun _ => below
    exact listed.of_same rfl rfl

theorem Begun.runMain (begun : manager.Begun) (sound : Sound coders disk manager) (block : MainBlock Image) :
    (manager.runMain block).Begun := by
  cases block with
  | queried operation image =>
    obtain ⟨result, completes⟩ | ⟨_, asked⟩ := @cacheCompleted_cases _ manager operation image
    · exact begun.of_same completes.downloads completes.nextDownload
    · change (manager.cacheCompleted operation image).Begun
      rw [asked]
      exact begun.downloadImage sound
  | downloaded operations result => exact begun.of_same downloads_completeAll nextDownload_completeAll
  | cancelled operation => exact begun.of_same rfl rfl

theorem Begun.runDisk (begun : manager.Begun) (block : IOBlock) : (manager.runDisk coders block).Begun := by
  cases block with
  | store key data => exact begun.of_same rfl rfl
  | query operation =>
    unfold SDWebImageManager.runDisk
    dsimp only
    split
    · exact begun.of_same rfl rfl
    · split
      · exact begun.of_same rfl rfl
      · exact begun.of_same rfl rfl

/-- What a download has before it is done, it has only after it was made. -/
theorem Begun.below (begun : manager.Begun) (placed : manager.Placed)
    (stands : (manager.downloads download).dataTask = true ∨ (manager.downloads download).coderQueue ≠ none ∨
      (manager.downloads download).completing = true ∨ (manager.downloads download).isFinished = true) :
    download < manager.nextDownload := by
  refine begun download ?_
  cases placed.phase download <;> simp_all

theorem Begun.didComplete (begun : manager.Begun) (below : download < manager.nextDownload)
    {error : Option ImageError} : (manager.didComplete download error).Begun := by
  have ended : (manager.modifyDownload download fun known => { known with dataTask := false }).Begun :=
    begun.modifyDownload fun _ => below
  have told (result : Except ImageError (Image × List UInt8)) :
      ((manager.modifyDownload download fun known => { known with dataTask := false }).callCompletionBlocks download
        result).Begun := ended.of_same rfl rfl
  unfold SDWebImageManager.didComplete
  dsimp only
  split
  · exact (told _).modifyDownload fun _ => below
  · split
    · exact ended.modifyDownload fun _ => below
    · split
      · exact (told _).modifyDownload fun _ => below
      · next data received =>
        have known : ({ manager.modifyDownload download fun known => { known with dataTask := false } with
            fetched := (manager.modifyDownload download fun known => { known with dataTask := false }).fetched ++
              [(((manager.modifyDownload download fun known => { known with dataTask := false }).downloads
                download).url, data)] } : SDWebImageManager Image).Begun := ended.of_same rfl rfl
        exact known.modifyDownload fun _ => below

theorem begun_step {event : ImageEvent} (sound : Sound coders disk manager) (viewed : manager.Viewed)
    (placed : manager.Placed) (begun : manager.Begun) (step : manager.step? coders event = some target) :
    target.Begun := by
  cases step?_stepped step with
  | setImage view address => exact begun.setImage viewed
  | main block rest waiting =>
    have popped : ({ manager with mainQueue := rest } : SDWebImageManager Image).Begun := begun.of_same rfl rfl
    exact popped.runMain (sound.keeps (sound.popMain waiting).1) block
  | io block rest waiting =>
    have popped : ({ manager with ioQueue := rest } : SDWebImageManager Image).Begun := begun.of_same rfl rfl
    exact popped.runDisk block
  | start download made unstarted below =>
    have told (result : Except ImageError (Image × List UInt8)) :
        (manager.callCompletionBlocks download result).Begun := begun.of_same rfl rfl
    unfold SDWebImageManager.start
    split
    · exact (told _).modifyDownload fun _ => below
    · split
      · exact begun.modifyDownload fun _ => below
      · exact (told _).modifyDownload fun _ => below
  | didReceiveResponse download statusCode task => exact begun.modifyDownload fun _ => begun.below placed (.inl task)
  | didReceiveData download data task => exact begun.modifyDownload fun _ => begun.below placed (.inl task)
  | didComplete download error task => exact begun.didComplete (begun.below placed (.inl task))
  | decoded download data held =>
    have below := begun.below placed (.inr (.inl (Option.ne_none_iff_exists'.mpr ⟨data, held⟩)))
    have told : (manager.callCompletionBlocks download
        (coders.decode data (manager.downloads download).url)).Begun := begun.of_same rfl rfl
    exact told.modifyDownload fun _ => below
  | done download completing =>
    exact begun.modifyDownload fun _ => begun.below placed (.inr (.inr (.inl completing)))
  | completionBlock download finished =>
    have marked : (manager.modifyDownload download fun known => { known with completionBlock := true }).Begun :=
      begun.modifyDownload fun _ => begun.below placed (.inr (.inr (.inr finished)))
    exact marked.of_same rfl rfl
  | _ => exact begun.of_same rfl rfl

theorem begun_initial : (initial disk : SDWebImageManager Image).Begun :=
  fun _ started => absurd started Bool.false_ne_true

/-! ## Effort -/

/-- The work that the downloads there are bring about. -/
def downloadEffort (manager : SDWebImageManager Image) : ℕ :=
  ∑ download ∈ Finset.range manager.nextDownload, (manager.downloads download).effort

/-- The work that is left when views get no new address: the blocks on both queues and the downloads, with
all that they bring about. -/
def effort (manager : SDWebImageManager Image) : ℕ :=
  (manager.mainQueue.map MainBlock.effort).sum + (manager.ioQueue.map IOBlock.effort).sum + manager.downloadEffort

theorem effort_of_same (main : target.mainQueue = manager.mainQueue) (io : target.ioQueue = manager.ioQueue)
    (downloads : target.downloads = manager.downloads) (made : target.nextDownload = manager.nextDownload) :
    target.effort = manager.effort := by
  rw [effort, downloadEffort, main, io, downloads, made, effort, downloadEffort]

theorem effort_popMain {block : MainBlock Image} {rest : List (MainBlock Image)}
    (waiting : manager.mainQueue = block :: rest) :
    manager.effort = ({ manager with mainQueue := rest } : SDWebImageManager Image).effort + block.effort := by
  change _ = (rest.map MainBlock.effort).sum + (manager.ioQueue.map IOBlock.effort).sum + manager.downloadEffort + _
  rw [effort, waiting, List.map_cons, List.sum_cons]
  omega

theorem effort_popDisk {block : IOBlock} {rest : List IOBlock} (waiting : manager.ioQueue = block :: rest) :
    manager.effort = ({ manager with ioQueue := rest } : SDWebImageManager Image).effort + block.effort := by
  change _ = (manager.mainQueue.map MainBlock.effort).sum + (rest.map IOBlock.effort).sum + manager.downloadEffort + _
  rw [effort, waiting, List.map_cons, List.sum_cons]
  omega

theorem effort_addMain (block : MainBlock Image) :
    ({ manager with mainQueue := manager.mainQueue ++ [block] } : SDWebImageManager Image).effort =
      manager.effort + block.effort := by
  change ((manager.mainQueue ++ [block]).map MainBlock.effort).sum + (manager.ioQueue.map IOBlock.effort).sum +
    manager.downloadEffort = _
  rw [effort, List.map_append, List.sum_append, List.map_singleton, List.sum_singleton]
  omega

theorem effort_addDisk (block : IOBlock) :
    ({ manager with ioQueue := manager.ioQueue ++ [block] } : SDWebImageManager Image).effort =
      manager.effort + block.effort := by
  change (manager.mainQueue.map MainBlock.effort).sum + ((manager.ioQueue ++ [block]).map IOBlock.effort).sum +
    manager.downloadEffort = _
  rw [effort, List.map_append, List.sum_append, List.map_singleton, List.sum_singleton]
  omega

/-- The effort of a download is replaced by that of the changed one. -/
theorem effort_modifyDownload (below : download < manager.nextDownload)
    (change : DownloaderOperation → DownloaderOperation) :
    (manager.modifyDownload download change).effort + (manager.downloads download).effort =
      manager.effort + (change (manager.downloads download)).effort := by
  have member : download ∈ Finset.range manager.nextDownload := Finset.mem_range.mpr below
  have others : ∑ other ∈ (Finset.range manager.nextDownload).erase download,
      ((manager.modifyDownload download change).downloads other).effort =
        ∑ other ∈ (Finset.range manager.nextDownload).erase download, (manager.downloads other).effort := by
    refine Finset.sum_congr rfl fun other kept => ?_
    rw [downloads_modifyDownload_of_ne (Finset.ne_of_mem_erase kept)]
  have before := Finset.add_sum_erase _ (fun other => (manager.downloads other).effort) member
  have after := Finset.add_sum_erase _ (fun other =>
    ((manager.modifyDownload download change).downloads other).effort) member
  rw [others] at after
  simp only [downloads_modifyDownload_self] at after
  change _ = manager.downloadEffort at before
  change _ = (manager.modifyDownload download change).downloadEffort at after
  change (manager.mainQueue.map MainBlock.effort).sum + (manager.ioQueue.map IOBlock.effort).sum +
    (manager.modifyDownload download change).downloadEffort + _ = _
  rw [SDWebImageManager.effort]
  omega

theorem effort_createDownload : (manager.createDownload url operation).effort = manager.effort + 7 := by
  have made : (manager.createDownload url operation).downloadEffort = manager.downloadEffort + 7 := by
    change ∑ download ∈ Finset.range (manager.nextDownload + 1),
      (Function.update manager.downloads manager.nextDownload (.new url operation) download).effort = _
    rw [Finset.sum_range_succ, Function.update_self]
    refine congrArg₂ _ (Finset.sum_congr rfl fun download member => ?_) rfl
    rw [Function.update_of_ne (Nat.ne_of_lt (Finset.mem_range.mp member))]
  change (manager.mainQueue.map MainBlock.effort).sum + (manager.ioQueue.map IOBlock.effort).sum +
    (manager.createDownload url operation).downloadEffort = _
  rw [made, SDWebImageManager.effort]
  omega

theorem effort_downloadImage (sound : Sound coders disk manager) :
    (manager.downloadImage url operation).effort ≤ manager.effort + 7 := by
  obtain made | ⟨download, below, _, _, joined⟩ := downloadImage_cases sound url operation
  · rw [made]
    have created := @effort_createDownload _ manager operation url
    exact Nat.le_of_eq created
  · rw [joined]
    change (manager.modifyDownload download fun known =>
      { known with callbackBlocks := known.callbackBlocks ++ [operation] }).effort ≤ _
    have replaced := effort_modifyDownload below fun known =>
      { known with callbackBlocks := known.callbackBlocks ++ [operation] }
    have longer := (manager.downloads download).stage_joined operation
    simp only [DownloaderOperation.effort] at replaced
    omega

theorem effort_completed {result : Except ImageError Image} :
    ((manager.callCompletionBlock operation result).safelyRemoveOperationFromRunning operation).effort =
      manager.effort := rfl

theorem effort_storeImage {image : Image} {data : List UInt8} :
    (manager.storeImage url image data).effort = manager.effort + 1 :=
  @effort_addDisk _ (manager.setMemory url image) (.store url data)

/-- The answer of a download to one of its loads may write a picture to the disk. -/
theorem effort_loaderCompleted : (manager.loaderCompleted answer operation).effort ≤ manager.effort + 1 := by
  unfold loaderCompleted
  dsimp only
  split
  · split
    · rw [effort_completed]
      exact Nat.le_succ _
    · next error _ =>
      change ((manager.callCompletionBlock operation (.error error)).safelyRemoveOperationFromRunning
        operation).effort ≤ _
      rw [effort_completed]
      exact Nat.le_succ _
    · rw [effort_completed, effort_storeImage]
  · rw [effort_completed]
    exact Nat.le_succ _

theorem effort_completeAll (operations : List ℕ) :
    (operations.foldl (loaderCompleted answer) manager).effort ≤ manager.effort + operations.length := by
  induction operations generalizing manager with
  | nil => exact Nat.le_refl _
  | cons operation rest ih =>
    have later := @ih (loaderCompleted answer manager operation)
    have told := @effort_loaderCompleted _ manager operation answer
    rw [List.foldl_cons, List.length_cons]
    omega

/-- A block of the main queue brings about less than it stands for. -/
theorem effort_runMain (sound : Sound coders disk manager) (block : MainBlock Image) :
    (manager.runMain block).effort < manager.effort + block.effort := by
  cases block with
  | queried operation image =>
    change (manager.cacheCompleted operation image).effort < manager.effort + 8
    unfold cacheCompleted
    split
    · cases image with
      | some image => exact Nat.lt_add_of_pos_right (by omega)
      | none => exact Nat.lt_succ_of_le (effort_downloadImage sound)
    · exact Nat.lt_add_of_pos_right (by omega)
  | downloaded operations result => exact Nat.lt_succ_of_le (effort_completeAll operations)
  | cancelled operation => exact Nat.lt_succ_self _

theorem effort_runDisk (block : IOBlock) : (manager.runDisk coders block).effort < manager.effort + block.effort := by
  cases block with
  | store key data => exact Nat.lt_succ_self _
  | query operation =>
    unfold SDWebImageManager.runDisk
    dsimp only
    split
    · calc
        _ = manager.effort + 1 := @effort_addMain _ manager (.cancelled operation)
        _ < manager.effort + 9 := by omega
    · split
      · next image found =>
        calc
          _ = manager.effort + 8 := @effort_addMain _ (manager.setMemory (manager.operations operation).url image)
            (.queried operation _)
          _ < manager.effort + 9 := by omega
      · calc
          _ = manager.effort + 8 := @effort_addMain _ manager (.queried operation _)
          _ < manager.effort + 9 := by omega

/-! ## Work uses up effort -/

variable {stage left : ℕ}

/-- A download goes on and has less to do. -/
theorem effort_goesOn {change : DownloaderOperation → DownloaderOperation} (below : download < manager.nextDownload)
    (same : (change (manager.downloads download)).completionBlock = (manager.downloads download).completionBlock)
    (before : (manager.downloads download).stage = stage) (after : (change (manager.downloads download)).stage = left)
    (less : left < stage) : (manager.modifyDownload download change).effort < manager.effort := by
  have replaced := effort_modifyDownload below change
  rw [DownloaderOperation.effort, DownloaderOperation.effort, same, before, after] at replaced
  omega

/-- A download hands its loads to the main queue. -/
theorem effort_told {change : DownloaderOperation → DownloaderOperation} (below : download < manager.nextDownload)
    (same : (change (manager.downloads download)).completionBlock = (manager.downloads download).completionBlock)
    (before : (manager.downloads download).stage = stage) (after : (change (manager.downloads download)).stage = left)
    (less : left + ((manager.downloads download).callbackBlocks.length + 1) < stage) :
    ((manager.callCompletionBlocks download answer).modifyDownload download change).effort < manager.effort := by
  have told : (manager.callCompletionBlocks download answer).effort =
      manager.effort + ((manager.downloads download).callbackBlocks.length + 1) := effort_addMain _
  have replaced := @effort_modifyDownload _ (manager.callCompletionBlocks download answer) download below change
  change _ + (manager.downloads download).effort = _ + (change (manager.downloads download)).effort at replaced
  rw [DownloaderOperation.effort, DownloaderOperation.effort, same, before, after] at replaced
  omega

theorem effort_start (placed : manager.Placed) {made : Bool} (unstarted : (manager.downloads download).started = false)
    (below : download < manager.nextDownload) : (manager.start download made).effort < manager.effort := by
  obtain ⟨idle, empty, uncalled, _, _⟩ := (placed.phase download).of_waiting unstarted
  have before := DownloaderOperation.stage_of_waiting unstarted
  unfold SDWebImageManager.start
  split
  · refine effort_told below rfl before (DownloaderOperation.stage_of_ended rfl idle empty uncalled) ?_
    omega
  · split
    · exact effort_goesOn below rfl before (DownloaderOperation.stage_of_dataTask rfl rfl) (Nat.lt_succ_self _)
    · refine effort_told below rfl before (DownloaderOperation.stage_of_completing rfl idle empty rfl) ?_
      omega

theorem effort_didComplete (placed : manager.Placed) {error : Option ImageError}
    (task : (manager.downloads download).dataTask = true) (below : download < manager.nextDownload) :
    (manager.didComplete download error).effort < manager.effort := by
  obtain ⟨started, empty, uncalled, _, _⟩ := (placed.phase download).of_dataTask task
  have before := DownloaderOperation.stage_of_dataTask started task
  have told (result : Except ImageError (Image × List UInt8)) :
      (((manager.modifyDownload download fun known => { known with dataTask := false }).callCompletionBlocks download
        result).modifyDownload download fun known => { known with completing := true }).effort < manager.effort := by
    rw [callCompletionBlocks_ended]
    refine effort_told below rfl before (DownloaderOperation.stage_of_completing started rfl empty rfl) ?_
    omega
  unfold SDWebImageManager.didComplete
  dsimp only
  split
  · exact told _
  · split
    · rw [modifyDownload_modifyDownload]
      refine effort_goesOn below rfl before (DownloaderOperation.stage_of_completing started rfl empty rfl) ?_
      omega
    · split
      · exact told _
      · next data received =>
        have decoding : (manager.modifyDownload download fun known =>
            { known with dataTask := false, imageData := none, coderQueue := some data }).effort < manager.effort :=
          effort_goesOn below rfl before (DownloaderOperation.stage_of_coderQueue started rfl rfl) (Nat.lt_succ_self _)
        refine lt_of_eq_of_lt (effort_of_same ?_ ?_ enqueueDecoding_ended ?_) decoding
        · rfl
        · rfl
        · rfl

theorem effort_removeDownload (below : download < manager.nextDownload)
    (uncalled : (manager.downloads download).completionBlock = false) :
    (manager.removeDownload download).effort < manager.effort := by
  have replaced := effort_modifyDownload below fun known => { known with completionBlock := true }
  rw [DownloaderOperation.effort, DownloaderOperation.effort, if_neg (by simp [uncalled]), if_pos rfl] at replaced
  change _ = _ + ((manager.downloads download).stage + 0) at replaced
  change (manager.modifyDownload download fun known => { known with completionBlock := true }).effort < _
  omega

/-- Work uses up effort. -/
theorem effort_work {event : ImageEvent} (sound : Sound coders disk manager) (placed : manager.Placed)
    (begun : manager.Begun) (own : event.own = true) (step : manager.step? coders event = some target) :
    target.effort < manager.effort := by
  cases step?_stepped step with
  | main block rest waiting =>
    rw [effort_popMain waiting]
    exact effort_runMain (sound.keeps (sound.popMain waiting).1) block
  | io block rest waiting =>
    rw [effort_popDisk waiting]
    exact effort_runDisk block
  | start download made unstarted below => exact effort_start placed unstarted below
  | didComplete download error task => exact effort_didComplete placed task (begun.below placed (.inl task))
  | decoded download data held =>
    obtain ⟨started, idle, uncalled, _, _⟩ := (placed.phase download).of_coderQueue held
    refine effort_told (begun.below placed (.inr (.inl (Option.ne_none_iff_exists'.mpr ⟨data, held⟩)))) rfl
      (DownloaderOperation.stage_of_coderQueue started idle held)
      (DownloaderOperation.stage_of_completing started idle rfl rfl) ?_
    omega
  | done download completing =>
    obtain ⟨started, empty, _, idle⟩ := (placed.phase download).of_completing completing
    exact effort_goesOn (begun.below placed (.inr (.inr (.inl completing)))) rfl
      (DownloaderOperation.stage_of_completing started idle empty completing)
      (DownloaderOperation.stage_of_ended started rfl empty rfl) Nat.zero_lt_one
  | completionBlock download finished uncalled =>
    exact effort_removeDownload (begun.below placed (.inr (.inr (.inr finished)))) uncalled
  | _ => contradiction

/-- What the network sends and what the caches forget brings about no work. -/
theorem effort_outside {event : ImageEvent} (placed : manager.Placed) (begun : manager.Begun)
    (unasked : event.unasked = true) (outside : event.own = false)
    (step : manager.step? coders event = some target) : target.effort ≤ manager.effort := by
  cases step?_stepped step with
  | didReceiveResponse download statusCode task =>
    have replaced := effort_modifyDownload (begun.below placed (.inl task)) fun known =>
      known.didReceiveResponse statusCode
    have same : ((manager.downloads download).didReceiveResponse statusCode).effort =
        (manager.downloads download).effort := by
      unfold DownloaderOperation.didReceiveResponse
      split_ifs <;> rfl
    rw [same] at replaced
    omega
  | didReceiveData download data task =>
    have replaced := effort_modifyDownload (begun.below placed (.inl task)) fun known => known.didReceiveData data
    change _ = manager.effort + (manager.downloads download).effort at replaced
    omega
  | memoryEvicted key => exact Nat.le_refl _
  | released key => exact Nat.le_refl _
  | diskExpired key => exact Nat.le_refl _
  | _ => contradiction

/-- All that comes of an address that has to be downloaded. -/
def sampleWork : List ImageEvent :=
  [.io, .main, .start 0 true, .didReceiveResponse 0 200, .didReceiveData 0 [1], .didComplete 0 none, .decoded 0, .main,
    .done 0, .completionBlock 0, .io]

end SDWebImageManager

end LoginDN.SDWebImage
