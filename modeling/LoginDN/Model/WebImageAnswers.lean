import LoginDN.Model.WebImageStays

/-! # What a load is told

The completed block of a load may be called more than once: a load that was cancelled is told so, and told
again by the download it waited for. Only the first call can say anything else. An address is blocked by
what one of its loads was told.
-/

namespace LoginDN.SDWebImage.SDWebImageManager

open Machine

variable {Image : Type} {coders : Coders Image} {disk : String → Option (List UInt8)}
  {manager changed target : SDWebImageManager Image} {view operation download : ℕ} {url : String}
  {event : ImageEvent} {result : Except ImageError Image} {answer : Except ImageError (Image × List UInt8)}

/-- What the completed block of a load has been called with, in order. -/
def calls (manager : SDWebImageManager Image) (operation : ℕ) : List (Except ImageError Image) :=
  manager.completed.filterMap fun entry => if entry.1 = operation then some entry.2 else none

theorem mem_calls : result ∈ manager.calls operation ↔ (operation, result) ∈ manager.completed := by
  rw [calls, List.mem_filterMap]
  constructor
  · rintro ⟨⟨told, answer⟩, member, same⟩
    obtain ⟨mine, equal⟩ := Option.ite_none_right_eq_some.mp same
    rw [← mine, ← Option.some.inj equal]
    exact member
  · intro member
    exact ⟨(operation, result), member, if_pos rfl⟩

/-- Loads that were told something have been released, and only the first call is not a cancellation. The
blocked addresses are those of loads that were told an error that does not pass. -/
structure Answers (manager : SDWebImageManager Image) : Prop where
  known : ∀ operation result, (operation, result) ∈ manager.completed → operation < manager.nextOperation
  released : ∀ operation result, (operation, result) ∈ manager.completed →
    (manager.operations operation).running = false
  later : ∀ operation, ∀ result ∈ (manager.calls operation).tail, result = .error .cancelled
  blocked : ∀ url ∈ manager.failedURLs, ∃ operation error, (operation, .error error) ∈ manager.completed ∧
    (manager.operations operation).url = url ∧ error.shouldBlockFailedURL = true
  blocks : ∀ operation error, (operation, .error error) ∈ manager.completed → error.shouldBlockFailedURL = true →
    (manager.operations operation).url ≠ "" → (manager.operations operation).url ∈ manager.failedURLs

namespace Answers

/-- Nobody is told anything. -/
theorem silent (answers : manager.Answers) (grows : Grows manager target)
    (completed : target.completed = manager.completed) (failedURLs : target.failedURLs = manager.failedURLs) :
    target.Answers where
  known operation result called := by
    rw [completed] at called
    exact Nat.lt_of_lt_of_le (answers.known operation result called) grows.next
  released operation result called := by
    rw [completed] at called
    exact grows.released operation (answers.known operation result called) (answers.released operation result called)
  later operation := by
    rw [calls, completed]
    exact answers.later operation
  blocked url listed := by
    rw [failedURLs] at listed
    obtain ⟨operation, error, called, same, blocks⟩ := answers.blocked url listed
    refine ⟨operation, error, completed ▸ called, ?_, blocks⟩
    rw [grows.url operation (answers.known operation _ called), same]
  blocks operation error called blocks := by
    rw [completed] at called
    rw [failedURLs, grows.url operation (answers.known operation _ called)]
    exact answers.blocks operation error called blocks

/-- A load is changed, and does not run again. -/
theorem modifyOperation (answers : manager.Answers) {change : CombinedOperation → CombinedOperation}
    (url : ∀ known, (change known).url = known.url) (view : ∀ known, (change known).view = known.view)
    (released : ∀ known, known.running = false → (change known).running = false) :
    (manager.modifyOperation operation change).Answers := answers.silent (.of_modify url view released) rfl rfl

theorem modifyDownload (answers : manager.Answers) {change : DownloaderOperation → DownloaderOperation}
    (url : ∀ known, (change known).url = known.url) : (manager.modifyDownload download change).Answers := by
  refine answers.silent ⟨Nat.le_refl _, fun _ _ => rfl, fun _ _ => rfl, fun _ _ => id, fun _ => .inl, Nat.le_refl _,
    fun other _ => ?_, List.Subset.refl _⟩ rfl rfl
  by_cases same : other = download
  · subst same
    rw [downloads_modifyDownload_self, url]
  · rw [downloads_modifyDownload_of_ne same]

/-- Neither the loads nor the downloads are changed. -/
theorem of_same (answers : manager.Answers) (next : target.nextOperation = manager.nextOperation)
    (operations : target.operations = manager.operations) (made : target.nextDownload = manager.nextDownload)
    (downloads : target.downloads = manager.downloads) (fetched : target.fetched = manager.fetched)
    (completed : target.completed = manager.completed) (failedURLs : target.failedURLs = manager.failedURLs) :
    target.Answers :=
  answers.silent (.of_same next operations made downloads (fetched ▸ List.Subset.refl _)) completed failedURLs

/-- One load is told something: for the first time, or that it was cancelled. -/
theorem tell (answers : manager.Answers) (grows : Grows manager target) (known : operation < target.nextOperation)
    (first : manager.calls operation = [] ∨ result = .error .cancelled)
    (completed : target.completed = manager.completed ++ [(operation, result)])
    (released : (target.operations operation).running = false) (kept : manager.failedURLs ⊆ target.failedURLs)
    (new : ∀ url ∈ target.failedURLs, url ∈ manager.failedURLs ∨ ∃ error, result = .error error ∧
      error.shouldBlockFailedURL = true ∧ (target.operations operation).url = url)
    (blocks : ∀ error, result = .error error → error.shouldBlockFailedURL = true →
      (target.operations operation).url ≠ "" → (target.operations operation).url ∈ target.failedURLs) :
    target.Answers where
  known other told called := by
    rw [completed] at called
    obtain before | last := List.mem_append.mp called
    · exact Nat.lt_of_lt_of_le (answers.known other told before) grows.next
    · rw [(Prod.mk.inj (List.mem_singleton.mp last)).1]
      exact known
  released other told called := by
    rw [completed] at called
    obtain before | last := List.mem_append.mp called
    · exact grows.released other (answers.known other told before) (answers.released other told before)
    · rw [(Prod.mk.inj (List.mem_singleton.mp last)).1]
      exact released
  later other told member := by
    rw [calls, completed, List.filterMap_append] at member
    by_cases same : operation = other
    · subst same
      have last : [(operation, result)].filterMap (fun entry => if entry.1 = operation then some entry.2 else none) =
          [result] := by simp
      rw [last] at member
      change told ∈ (manager.calls operation ++ [result]).tail at member
      cases before : manager.calls operation with
      | nil =>
        rw [before] at member
        contradiction
      | cons earliest others =>
        rw [before] at member
        obtain earlier | final := List.mem_append.mp member
        · refine answers.later operation told ?_
          rwa [before]
        · rw [List.mem_singleton.mp final]
          refine first.resolve_left ?_
          rw [before]
          exact List.cons_ne_nil _ _
    · have none : [(operation, result)].filterMap (fun entry => if entry.1 = other then some entry.2 else none) = [] := by
        simp [same]
      rw [none, List.append_nil] at member
      exact answers.later other told member
  blocked url listed := by
    rw [completed]
    obtain before | ⟨error, rfl, blocking, same⟩ := new url listed
    · obtain ⟨other, error, called, same, blocking⟩ := answers.blocked url before
      refine ⟨other, error, List.mem_append_left _ called, ?_, blocking⟩
      rw [grows.url other (answers.known other _ called), same]
    · exact ⟨operation, error, List.mem_append_right _ (List.mem_singleton_self _), same, blocking⟩
  blocks other error called blocking named := by
    rw [completed] at called
    obtain before | last := List.mem_append.mp called
    · have same := grows.url other (answers.known other _ before)
      rw [same] at named ⊢
      exact kept (answers.blocks other error before blocking named)
    · obtain ⟨rfl, equal⟩ := Prod.mk.inj (List.mem_singleton.mp last)
      exact blocks error equal.symm blocking named

theorem calls_of_running (answers : manager.Answers) (running : (manager.operations operation).running = true) :
    manager.calls operation = [] := by
  rw [List.eq_nil_iff_forall_not_mem]
  intro result called
  rw [answers.released operation result (mem_calls.mp called)] at running
  contradiction

/-- A load that ends. -/
theorem ended (answers : manager.Answers) (known : operation < manager.nextOperation)
    (first : (manager.operations operation).running = true ∨ result = .error .cancelled)
    (passes : ∀ error, result = .error error → error.shouldBlockFailedURL = false) :
    ((manager.callCompletionBlock operation result).safelyRemoveOperationFromRunning operation).Answers := by
  have told : Grows manager (manager.callCompletionBlock operation result) := .of_same rfl rfl rfl rfl (List.Subset.refl _)
  have grows := told.trans (@Grows.of_modify _ _ operation (fun known => { known with running := false })
    (fun _ => rfl) (fun _ => rfl) fun _ _ => rfl)
  refine answers.tell grows known (first.imp_left answers.calls_of_running) rfl ?_ (List.Subset.refl _) (fun _ => .inl)
    fun error same blocking => ?_
  · rw [safelyRemoveOperationFromRunning, operations_modifyOperation_self]
  · rw [passes error same] at blocking
    contradiction

theorem grows_loaderCompleted (answer : Except ImageError (Image × List UInt8)) :
    Grows manager (loaderCompleted answer manager operation) := by
  unfold loaderCompleted
  dsimp only
  refine Grows.trans ?_ (.of_modify (fun _ => rfl) (fun _ => rfl) fun _ _ => rfl)
  split
  · split
    · exact .of_same rfl rfl rfl rfl (List.Subset.refl _)
    · exact .of_same rfl rfl rfl rfl (List.Subset.refl _)
    · exact .of_same rfl rfl rfl rfl (List.Subset.refl _)
  · exact .of_same rfl rfl rfl rfl (List.Subset.refl _)

/-- An error is passed on, and blocks the address unless it may pass. -/
theorem loaderCompleted_error {error : ImageError} (alive : manager.Alive operation) :
    loaderCompleted (.error error) manager operation =
      ((manager.callCompletionBlock operation (.error error)).blockFailedURL (manager.operations operation).url
        error).safelyRemoveOperationFromRunning operation := by
  unfold loaderCompleted
  dsimp only
  rw [if_pos alive]
  cases error <;> rfl

theorem loaderCompleted_ok {image : Image} {data : List UInt8} (alive : manager.Alive operation) :
    loaderCompleted (.ok (image, data)) manager operation =
      ((manager.storeImage (manager.operations operation).url image data).callCompletionBlock operation
        (.ok image)).safelyRemoveOperationFromRunning operation := by
  unfold loaderCompleted
  dsimp only
  rw [if_pos alive]

theorem mem_blockFailedURL {error : ImageError} {other : String} :
    other ∈ (manager.blockFailedURL url error).failedURLs ↔
      other ∈ manager.failedURLs ∨ error.shouldBlockFailedURL = true ∧ other = url := by
  unfold blockFailedURL
  dsimp only
  split
  · next blocking => rw [List.mem_insert_iff, or_comm, and_iff_right blocking]
  · next passing => exact (or_iff_left fun both => passing both.1).symm

/-- The answer of a download. A load that is not alive is told that it was cancelled. -/
theorem loaderCompleted (answers : manager.Answers) (known : operation < manager.nextOperation)
    (answer : Except ImageError (Image × List UInt8)) :
    (SDWebImageManager.loaderCompleted answer manager operation).Answers := by
  have grows := @grows_loaderCompleted _ manager operation answer
  have released : ((SDWebImageManager.loaderCompleted answer manager operation).operations operation).running = false := by
    obtain ⟨told, completes⟩ := @completes_loaderCompleted _ manager operation answer
    rw [completes.self]
  have same := grows.url operation known
  have below := Nat.lt_of_lt_of_le known grows.next
  by_cases alive : manager.Alive operation
  · have first := answers.calls_of_running alive.1
    cases answer with
    | ok found =>
      refine answers.tell grows below (.inl first) (by rw [loaderCompleted_ok alive]; rfl) released ?_ ?_ ?_
      · rw [loaderCompleted_ok alive]
        exact List.Subset.refl _
      · rw [loaderCompleted_ok alive]
        exact fun _ => .inl
      · exact nofun
    | error error =>
      have listed (other : String) : other ∈ (SDWebImageManager.loaderCompleted (.error error) manager operation).failedURLs ↔
          other ∈ manager.failedURLs ∨
            error.shouldBlockFailedURL = true ∧ other = (manager.operations operation).url := by
        rw [loaderCompleted_error alive]
        exact mem_blockFailedURL
      refine answers.tell grows below (.inl first) (by rw [loaderCompleted_error alive]; rfl) released
        (fun other member => (listed other).mpr (.inl member)) (fun other member => ?_) fun told equal blocking _ => ?_
      · refine ((listed other).mp member).imp_right fun new => ⟨error, rfl, new.1, ?_⟩
        rw [same, new.2]
      · rw [same]
        obtain rfl := Except.error.inj equal
        exact (listed _).mpr (.inr ⟨blocking, rfl⟩)
  · rw [loaderCompleted_of_dead alive]
    refine answers.ended known (.inr rfl) fun error same => ?_
    rw [← Except.error.inj same]
    rfl

theorem failedURLs_downloadImage : (manager.downloadImage url operation).failedURLs = manager.failedURLs := by
  unfold downloadImage
  split
  · split <;> rfl
  · rfl

theorem completeAll (answers : manager.Answers) {operations : List ℕ}
    (known : ∀ operation ∈ operations, operation < manager.nextOperation) :
    (operations.foldl (SDWebImageManager.loaderCompleted answer) manager).Answers := by
  induction operations generalizing manager with
  | nil => exact answers
  | cons operation rest ih =>
    refine ih (answers.loaderCompleted (known operation (List.mem_cons_self ..)) answer) fun other member => ?_
    exact Nat.lt_of_lt_of_le (known other (List.mem_cons_of_mem _ member)) (grows_loaderCompleted answer).next

theorem cacheCompleted (answers : manager.Answers) (sound : Sound coders disk manager)
    (known : operation < manager.nextOperation) {image : Option Image} :
    (manager.cacheCompleted operation image).Answers := by
  unfold SDWebImageManager.cacheCompleted
  split
  · next alive =>
    cases image with
    | some image => exact answers.ended known (.inl alive.1) nofun
    | none =>
      refine answers.silent (Keeps.downloadImage sound ⟨known, rfl⟩).toGrows ?_ ?_
      · exact sameViews_downloadImage.completed
      · exact failedURLs_downloadImage
  · refine answers.ended known (.inr rfl) fun error same => ?_
    rw [← Except.error.inj same]
    rfl

/-! ## A view is given an address -/

theorem cancelDownload (answers : manager.Answers) (sound : Sound coders disk manager) :
    (manager.cancelDownload download).Answers := by
  unfold SDWebImageManager.cancelDownload
  dsimp only
  split
  · exact answers
  · exact (answers.completeAll fun operation member => (sound.callbacks download operation member).1).modifyDownload
      fun _ => rfl

theorem cancelToken (answers : manager.Answers) (sound : Sound coders disk manager)
    (known : operation < manager.nextOperation) : (manager.cancelToken operation).Answers := by
  unfold SDWebImageManager.cancelToken
  dsimp only
  split
  · exact answers
  · next download entered =>
    split
    · exact (answers.cancelDownload sound).of_same rfl rfl rfl rfl rfl rfl rfl
    · have dropped : (manager.modifyDownload download fun known =>
          { known with callbackBlocks := (manager.downloads download).callbackBlocks.filter (· ≠ operation) }).Answers :=
        answers.modifyDownload fun _ => rfl
      exact dropped.loaderCompleted known _

theorem cancel (answers : manager.Answers) (sound : Sound coders disk manager)
    (known : operation < manager.nextOperation) : (manager.cancel operation).Answers := by
  have marked : Keeps coders disk manager (manager.markCancelled operation) :=
    .of_modify (fun _ => rfl) (fun _ => rfl) fun _ => id
  have told : (manager.markCancelled operation).Answers := answers.silent marked.toGrows rfl rfl
  have removed {changed : SDWebImageManager Image} (answers : changed.Answers) :
      (changed.safelyRemoveOperationFromRunning operation).Answers :=
    answers.modifyOperation (fun _ => rfl) (fun _ => rfl) fun _ _ => rfl
  unfold SDWebImageManager.cancel
  split
  · exact answers
  · dsimp only
    split
    · refine removed ((told.cancelToken (sound.keeps marked) known).modifyOperation ?_ ?_ ?_)
      · exact fun _ => rfl
      · exact fun _ => rfl
      · exact fun _ => id
    · exact removed told

theorem cancelImageLoadOperation (answers : manager.Answers) (sound : Sound coders disk manager) :
    (manager.cancelImageLoadOperation view).Answers := by
  unfold SDWebImageManager.cancelImageLoadOperation
  dsimp only
  split
  · split
    · next running =>
      exact (answers.cancel sound (sound.known _ running)).of_same rfl rfl rfl rfl rfl rfl rfl
    · exact answers.of_same rfl rfl rfl rfl rfl rfl rfl
  · exact answers.of_same rfl rfl rfl rfl rfl rfl rfl

theorem calls_unknown (answers : manager.Answers) (unknown : manager.nextOperation ≤ operation) :
    manager.calls operation = [] := by
  rw [List.eq_nil_iff_forall_not_mem]
  intro result called
  exact Nat.not_lt.mpr unknown (answers.known operation result (mem_calls.mp called))

theorem callCacheProcess (answers : manager.Answers) (sound : Sound coders disk manager)
    (known : operation < manager.nextOperation) : (manager.callCacheProcess operation).Answers := by
  have looked : Keeps coders disk manager (manager.imageFromMemoryCache (manager.operations operation).url).2 :=
    .imageFromMemoryCache sound
  obtain ⟨memoryCache, same⟩ := imageFromMemoryCache_same manager (manager.operations operation).url
  have remembered : (manager.imageFromMemoryCache (manager.operations operation).url).2.Answers := by
    rw [same]
    exact answers.of_same rfl rfl rfl rfl rfl rfl rfl
  unfold SDWebImageManager.callCacheProcess
  split
  · next image after found =>
    rw [found] at looked remembered
    exact remembered.cacheCompleted (sound.keeps looked) (Nat.lt_of_lt_of_le known looked.next)
  · next after missing =>
    rw [missing] at remembered
    have asking : (after.modifyOperation operation fun known => { known with cacheOperation := true }).Answers :=
      remembered.modifyOperation (fun _ => rfl) (fun _ => rfl) fun _ => id
    exact asking.of_same rfl rfl rfl rfl rfl rfl rfl

/-- A load of a blocked address, or of none, is refused at once. -/
theorem loadImage (answers : manager.Answers) (sound : Sound coders disk manager) :
    (manager.loadImage view url).Answers := by
  unfold SDWebImageManager.loadImage
  dsimp only
  split
  · next refused =>
    have made : Grows manager ((manager.makeOperation view url).callCompletionBlock manager.nextOperation
        (.error .invalidURL)) := .of_new rfl (fun _ => operations_makeOperation_of_ne) rfl rfl rfl
    have new : ((manager.makeOperation view url).callCompletionBlock manager.nextOperation
        (.error .invalidURL)).operations manager.nextOperation =
          ⟨view, url, false, false, false, false, false, false⟩ := operations_makeOperation_self
    refine answers.tell made (Nat.lt_succ_self _) (.inl (answers.calls_unknown (Nat.le_refl _))) rfl (by rw [new])
      (List.Subset.refl _) (fun _ => .inl) fun error same blocking named => ?_
    rw [new] at named ⊢
    refine refused.resolve_left fun empty => named ?_
    exact String.length_eq_zero_iff.mp empty
  · have begun : (manager.begun view url).Answers :=
      answers.silent (.of_new rfl (fun _ => operations_begun_of_ne) rfl rfl rfl) rfl rfl
    exact begun.callCacheProcess (sound.keeps Keeps.begun) (Nat.lt_succ_self _)

theorem setImageLoadOperation (answers : manager.Answers) (sound : Sound coders disk manager) :
    (manager.setImageLoadOperation view operation).Answers :=
  (answers.cancelImageLoadOperation sound).of_same rfl rfl rfl rfl rfl rfl rfl

theorem setImage (answers : manager.Answers) (sound : Sound coders disk manager) {address : Option String} :
    (manager.setImage view address).Answers := by
  have blank : (manager.prepareView view address).Answers :=
    (answers.cancelImageLoadOperation sound).of_same rfl rfl rfl rfl rfl rfl rfl
  have prepared : Keeps coders disk manager (manager.prepareView view address) := .prepareView sound
  unfold SDWebImageManager.setImage
  cases address with
  | none => exact blank
  | some url =>
    have kept : Sound coders disk ((manager.prepareView view (some url)).loadImage view url) :=
      sound.keeps (prepared.trans (.loadImage (sound.keeps prepared)))
    exact (blank.loadImage (sound.keeps prepared)).setImageLoadOperation kept

end Answers

theorem failedURLs_runDisk (block : IOBlock) : (manager.runDisk coders block).failedURLs = manager.failedURLs := by
  cases block with
  | store key data => rfl
  | query operation =>
    unfold runDisk
    dsimp only
    split
    · rfl
    · split <;> rfl

theorem failedURLs_start {made : Bool} : (manager.start download made).failedURLs = manager.failedURLs := by
  unfold start
  split
  · rfl
  · split <;> rfl

theorem failedURLs_didComplete {error : Option ImageError} :
    (manager.didComplete download error).failedURLs = manager.failedURLs := by
  unfold didComplete
  dsimp only
  split
  · rfl
  · split
    · rfl
    · split <;> rfl

/-- An address is blocked only where the main queue tells a load of it. -/
theorem failedURLs_step (app : ∀ view address, event ≠ .setImage view address) (main : event ≠ .main)
    (step : manager.step? coders event = some target) : target.failedURLs = manager.failedURLs := by
  cases step?_stepped step with
  | setImage view address => exact absurd rfl (app view address)
  | main => exact absurd rfl main
  | io block => exact failedURLs_runDisk block
  | start => exact failedURLs_start
  | didComplete => exact failedURLs_didComplete
  | _ => rfl

/-- Every event keeps what the loads have been told in order. -/
theorem answers_step (sound : Sound coders disk manager) (viewed : manager.Viewed) (answers : manager.Answers)
    (step : manager.step? coders event = some target) : target.Answers := by
  have grows := (keeps_step sound step).toGrows
  cases step?_stepped step with
  | setImage view address => exact answers.setImage sound
  | main block rest waiting =>
    obtain ⟨popped, carried⟩ := sound.popMain waiting
    have before : ({ manager with mainQueue := rest } : SDWebImageManager Image).Answers :=
      answers.of_same rfl rfl rfl rfl rfl rfl rfl
    cases block with
    | queried operation image => exact before.cacheCompleted (sound.keeps popped) carried.1
    | downloaded operations result =>
      obtain ⟨url, _, asks⟩ := carried
      exact before.completeAll fun operation member => (asks operation member).1
    | cancelled operation =>
      have told : Grows { manager with mainQueue := rest }
          ({ manager with mainQueue := rest }.callCompletionBlock operation (.error .cancelled)) :=
        .of_same rfl rfl rfl rfl (List.Subset.refl _)
      refine before.tell told carried.1 (.inr rfl) rfl carried.2 (List.Subset.refl _) (fun _ => .inl) ?_
      intro error same blocking
      rw [← Except.error.inj same] at blocking
      contradiction
  | _ =>
    have same := sameViews_step viewed (by simp) (by simp) step
    exact answers.silent grows same.completed (failedURLs_step (by simp) (by simp) step)

/-! ## Which loads are told something of their own -/

/-- A call of a completed block that says no more than that the load was cancelled, or is one of some loads. -/
def CancelledOr (loads : ℕ → Prop) (entry : ℕ × Except ImageError Image) : Prop :=
  entry.2 = .error .cancelled ∨ loads entry.1

/-- Between two states a load is told at most that it was cancelled. -/
def ToldCancelled (operation : ℕ) (manager target : SDWebImageManager Image) : Prop :=
  Appends (· = .error .cancelled) (manager.calls operation) (target.calls operation)

theorem toldCancelled_of_told {loads : ℕ → Prop} (told : Appends (CancelledOr loads) manager.completed target.completed)
    (other : ¬ loads operation) : ToldCancelled operation manager target := by
  refine told.filterMap _ fun entry result own same => ?_
  obtain ⟨mine, called⟩ := Option.ite_none_right_eq_some.mp same
  rw [← Option.some.inj called]
  refine own.resolve_right ?_
  rwa [mine]

theorem Completes.told (completes : Completes operation result manager target) :
    Appends (CancelledOr manager.Alive) manager.completed target.completed := by
  rw [completes.completed]
  exact .single (or_iff_not_imp_left.mpr completes.alive)

/-- Of the loads told by a block those that are told more than their cancellation were alive before. -/
theorem told_runMain (block : MainBlock Image) :
    Appends (CancelledOr manager.Alive) manager.completed (manager.runMain block).completed := by
  cases block with
  | queried operation image =>
    obtain ⟨result, completes⟩ | ⟨_, same⟩ := @cacheCompleted_cases _ manager operation image
    · exact completes.told
    · rw [runMain, same, sameViews_downloadImage.completed]
      exact .refl _
  | downloaded operations result =>
    -- a load that is alive in the middle was alive before
    refine (@completeAll_induction _ manager result
      (fun target => Appends (CancelledOr manager.Alive) manager.completed target.completed ∧
        ∀ operation, target.Alive operation → manager.Alive operation)
      operations (fun completes start => ?_) ⟨.refl _, fun _ => id⟩).1
    obtain ⟨told, alive⟩ := start
    refine ⟨told.trans (completes.told.mono fun entry => Or.imp_right (alive entry.1)), fun operation still => ?_⟩
    apply alive operation
    obtain ⟨_, same⟩ := completes.running still.1
    rwa [Alive, same] at still
  | cancelled operation => exact .single (.inl rfl)

theorem completed_setImageLoadOperation (entry : (manager.views view).imageLoadOperation = none) :
    (manager.setImageLoadOperation view operation).completed = manager.completed := by
  rw [setImageLoadOperation_of_none entry]
  rfl

/-- A new address tells the load it makes, and the load it cancels of its cancellation. -/
theorem told_setImage (viewed : manager.Viewed) (address : Option String) :
    Appends (CancelledOr (· = manager.nextOperation)) manager.completed (manager.setImage view address).completed := by
  obtain ⟨_, cancelled, cancels, _, _, _, same⟩ := cancelImageLoadOperation_cases viewed view
  have blank : Appends (CancelledOr (· = manager.nextOperation)) manager.completed
      (manager.prepareView view address).completed := by
    rw [prepareView, same]
    exact cancels.told.mono fun entry equal => .inl (congrArg Prod.snd equal)
  have next : (manager.prepareView view address).nextOperation = manager.nextOperation := by
    rw [prepareView, same]
    exact cancels.nextOperation
  unfold setImage
  cases address with
  | none => exact blank
  | some url =>
    obtain ⟨outcome, loads⟩ := @loads_loadImage _ (manager.prepareView view (some url)) view url
    have entry : (((manager.prepareView view (some url)).loadImage view url).views view).imageLoadOperation = none := by
      rw [loads.self, views_prepared viewed]
    refine blank.trans ?_
    dsimp only
    rw [completed_setImageLoadOperation entry, loads.completed]
    cases outcome with
    | none => exact .of_eq (List.append_nil _)
    | some result => exact .single (.inr next)

/-- A load made before is told something of its own by the main queue only, and only while it is alive. -/
theorem told_step (viewed : manager.Viewed) (step : manager.step? coders event = some target) :
    Appends (CancelledOr fun operation => operation = manager.nextOperation ∨ event = .main ∧ manager.Alive operation)
      manager.completed target.completed := by
  cases step?_stepped step with
  | setImage view address => exact (told_setImage viewed address).mono fun _ => Or.imp_right .inl
  | main block rest =>
    have told := @told_runMain _ { manager with mainQueue := rest } block
    exact told.mono fun _ => Or.imp_right fun alive => .inr ⟨rfl, alive⟩
  | _ => exact .of_eq (sameViews_step viewed (by simp) (by simp) step).completed

/-- What a load has been told is not taken back. -/
theorem completed_step (viewed : manager.Viewed) (step : manager.step? coders event = some target) :
    manager.completed ⊆ target.completed := (told_step viewed step).subset

/-! ## Which loads are cancelled -/

theorem Completes.isCancelled (completes : Completes operation result manager target) (other : ℕ) :
    (target.operations other).isCancelled = (manager.operations other).isCancelled := by
  by_cases same : other = operation
  · subst same
    rw [completes.self]
  · rw [completes.of_ne same]

theorem isCancelled_runMain (block : MainBlock Image) (other : ℕ) :
    ((manager.runMain block).operations other).isCancelled = (manager.operations other).isCancelled := by
  cases block with
  | queried operation image =>
    obtain ⟨result, completes⟩ | ⟨_, same⟩ := @cacheCompleted_cases _ manager operation image
    · exact completes.isCancelled other
    · rw [runMain, same, sameViews_downloadImage.isCancelled]
  | downloaded operations result =>
    exact @completeAll_induction _ manager result
      (fun target => (target.operations other).isCancelled = (manager.operations other).isCancelled) operations
      (fun completes start => (completes.isCancelled other).trans start) rfl
  | cancelled operation => rfl

/-- A new address cancels a load that was made before. -/
theorem isCancelled_setImage (viewed : manager.Viewed) {address : Option String}
    (cancelled : ((manager.setImage view address).operations operation).isCancelled = true) :
    (manager.operations operation).isCancelled = true ∨ operation < manager.nextOperation := by
  obtain ⟨current, after, cancels, _, _, known, same⟩ := cancelImageLoadOperation_cases viewed view
  have blank (marked : ((manager.prepareView view address).operations operation).isCancelled = true) :
      (manager.operations operation).isCancelled = true ∨ operation < manager.nextOperation := by
    rw [prepareView, same] at marked
    obtain rfl | below := known
    · exact .inl marked
    · by_cases mine : operation = current
      · exact .inr (mine ▸ below)
      · rw [← cancels.others operation mine]
        exact .inl marked
  unfold setImage at cancelled
  cases address with
  | none => exact blank cancelled
  | some url =>
    obtain ⟨outcome, loads⟩ := @loads_loadImage _ (manager.prepareView view (some url)) view url
    dsimp only at cancelled
    rw [operations_setImageLoadOperation (by rw [loads.self, views_prepared viewed])] at cancelled
    by_cases new : operation = (manager.prepareView view (some url)).nextOperation
    · rw [new, loads.new] at cancelled
      contradiction
    · rw [loads.old operation new] at cancelled
      exact blank cancelled

/-- The main queue cancels no load. -/
theorem isCancelled_step (viewed : manager.Viewed) (step : manager.step? coders event = some target)
    (cancelled : (target.operations operation).isCancelled = true) :
    (manager.operations operation).isCancelled = true ∨ event ≠ .main ∧ operation < manager.nextOperation := by
  cases step?_stepped step with
  | setImage view address => exact (isCancelled_setImage viewed cancelled).imp_right fun below => ⟨nofun, below⟩
  | main block rest =>
    rw [isCancelled_runMain] at cancelled
    exact .inl cancelled
  | _ =>
    rw [(sameViews_step viewed (by simp) (by simp) step).isCancelled] at cancelled
    exact .inl cancelled

/-- A view that is given a blocked address shows nothing, and waits for nothing. -/
theorem setImage_blocked (viewed : manager.Viewed) (listed : url ∈ manager.failedURLs) :
    ((manager.setImage view (some url)).views view).image = none ∧ (manager.setImage view (some url)).Quiet view := by
  obtain ⟨_, cancelled, cancels, _, _, _, same⟩ := cancelImageLoadOperation_cases viewed view
  have prepared := views_prepared viewed view (some url)
  have blocked : url ∈ (manager.prepareView view (some url)).failedURLs := by
    rw [prepareView, same]
    exact cancels.failedURLs.symm ▸ listed
  have loads : Loads view url (some (.error .invalidURL)) (manager.prepareView view (some url))
      ((manager.prepareView view (some url)).loadImage view url) := by
    unfold loadImage
    dsimp only
    rw [if_pos (.inr blocked)]
    exact loads_refused
  have entry : (((manager.prepareView view (some url)).loadImage view url).views view).imageLoadOperation = none := by
    rw [loads.self, prepared]
  have after : manager.setImage view (some url) = ((manager.prepareView view (some url)).loadImage view
      url).setImageLoadOperation view (manager.prepareView view (some url)).nextOperation := rfl
  have shown : (manager.setImage view (some url)).views view =
      ⟨none, some url, some (manager.prepareView view (some url)).nextOperation⟩ := by
    rw [after, setImageLoadOperation_of_none entry, views_modifyView_self, views_modifyView_self, loads.self, prepared]
    rfl
  refine ⟨by rw [shown], (viewed_setImage viewed).quiet (by rw [shown]) ?_⟩
  rw [after, operations_setImageLoadOperation entry, loads.new]
  rfl

theorem answers_initial : (initial disk : SDWebImageManager Image).Answers where
  known := nofun
  released := nofun
  later _ := nofun
  blocked := nofun
  blocks := nofun

end LoginDN.SDWebImage.SDWebImageManager
