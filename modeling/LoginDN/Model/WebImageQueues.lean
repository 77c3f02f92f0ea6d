import LoginDN.Model.WebImageViews

/-! # Where a running load is

A load that runs is asked for at the disk, or waits for a download, or is about to be told on the main
queue, and it is in one of these places only. Or it is lost: it has joined a download after the loads that
waited for it were told. Such a download forgets its loads when it is done.
-/

namespace LoginDN.SDWebImage

/-- The loads the main queue will tell what the disk has. -/
def MainBlock.queried? {Image : Type} : MainBlock Image → Option ℕ
  | .queried operation _ => some operation
  | .downloaded _ _ | .cancelled _ => none

namespace DownloaderOperation.Phase

variable {known : DownloaderOperation}

theorem of_waiting (phase : known.Phase) (unstarted : known.started = false) :
    known.dataTask = false ∧ known.coderQueue = none ∧ known.completing = false ∧ known.isFinished = false ∧
      (known.isCancelled = true → known.callbackBlocks = []) := by
  cases phase <;> simp_all

theorem of_dataTask (phase : known.Phase) (task : known.dataTask = true) :
    known.started = true ∧ known.coderQueue = none ∧ known.completing = false ∧ known.isFinished = false ∧
      (known.isCancelled = true → known.callbackBlocks = []) := by
  cases phase <;> simp_all

theorem of_coderQueue (phase : known.Phase) {data : List UInt8} (held : known.coderQueue = some data) :
    known.started = true ∧ known.dataTask = false ∧ known.completing = false ∧ known.isFinished = false ∧
      (known.isCancelled = true → known.callbackBlocks = []) := by
  cases phase <;> simp_all

theorem of_completing (phase : known.Phase) (called : known.completing = true) :
    known.started = true ∧ known.coderQueue = none ∧ known.isFinished = false ∧ known.dataTask = false := by
  cases phase <;> simp_all

/-- A change that the phases do not speak of. -/
theorem of_same {changed : DownloaderOperation} (phase : known.Phase) (started : changed.started = known.started)
    (dataTask : changed.dataTask = known.dataTask) (coderQueue : changed.coderQueue = known.coderQueue)
    (completing : changed.completing = known.completing) (isFinished : changed.isFinished = known.isFinished)
    (isCancelled : changed.isCancelled = known.isCancelled)
    (callbackBlocks : changed.callbackBlocks = known.callbackBlocks) : changed.Phase := by
  cases phase with
  | queued unstarted idle empty uncalled unfinished quiet =>
    refine .queued (started.trans unstarted) (dataTask.trans idle) (coderQueue.trans empty)
      (completing.trans uncalled) (isFinished.trans unfinished) ?_
    rwa [callbackBlocks, isCancelled]
  | running begun task empty uncalled unfinished quiet =>
    refine .running (started.trans begun) (dataTask.trans task) (coderQueue.trans empty)
      (completing.trans uncalled) (isFinished.trans unfinished) ?_
    rwa [callbackBlocks, isCancelled]
  | decoding data begun task held uncalled unfinished quiet =>
    refine .decoding data (started.trans begun) (dataTask.trans task) (coderQueue.trans held)
      (completing.trans uncalled) (isFinished.trans unfinished) ?_
    rwa [callbackBlocks, isCancelled]
  | completing begun task empty called unfinished quiet =>
    refine .completing (started.trans begun) (dataTask.trans task) (coderQueue.trans empty)
      (completing.trans called) (isFinished.trans unfinished) ?_
    rwa [callbackBlocks, isCancelled]
  | ended begun task empty uncalled finished quiet =>
    exact .ended (started.trans begun) (dataTask.trans task) (coderQueue.trans empty) (completing.trans uncalled)
      (isFinished.trans finished) (callbackBlocks.trans quiet)

end DownloaderOperation.Phase

namespace SDWebImageManager

variable {Image : Type} {coders : Coders Image} {disk : String → Option (List UInt8)}
  {manager changed target : SDWebImageManager Image} {view operation download : ℕ} {url key : String}
  {result : Except ImageError Image} {answer : Except ImageError (Image × List UInt8)}

/-- The loads that the disk is asked for, up to the answer. -/
def queries (manager : SDWebImageManager Image) : List ℕ :=
  manager.ioQueue.filterMap IOBlock.query? ++ manager.mainQueue.filterMap MainBlock.queried?

/-- The main queue will tell the load what its download has brought. -/
def Told (manager : SDWebImageManager Image) (operation : ℕ) : Prop :=
  ∃ operations result, .downloaded operations result ∈ manager.mainQueue ∧ operation ∈ operations

inductive Place (manager : SDWebImageManager Image) (operation : ℕ) : Prop where
  | asking (asked : manager.queries.count operation = 1)
      (loader : (manager.operations operation).loaderOperation = false)
      (late : (manager.operations operation).late = false)
      (unlisted : ∀ download, operation ∉ (manager.downloads download).callbackBlocks) (untold : ¬ manager.Told operation)
  | waiting (download : ℕ) (unasked : operation ∉ manager.queries)
      (loader : (manager.operations operation).loaderOperation = true)
      (late : (manager.operations operation).late = false)
      (listed : operation ∈ (manager.downloads download).callbackBlocks)
      (completing : (manager.downloads download).completing = false)
  | told (unasked : operation ∉ manager.queries) (loader : (manager.operations operation).loaderOperation = true)
      (late : (manager.operations operation).late = false) (told : manager.Told operation)
  | lost (unasked : operation ∉ manager.queries) (loader : (manager.operations operation).loaderOperation = true)
      (late : (manager.operations operation).late = true)
      (listed : ∀ download, operation ∈ (manager.downloads download).callbackBlocks →
        (manager.downloads download).completing = true)
      (untold : ¬ manager.Told operation)

/-- Every running load has its place, and every download its phase. -/
structure Placed (manager : SDWebImageManager Image) : Prop where
  place : ∀ operation, (manager.operations operation).running = true → manager.Place operation
  phase : ∀ download, (manager.downloads download).Phase
  made : ∀ download, (manager.downloads download).callbackBlocks ≠ [] → download < manager.nextDownload

/-- A change that does not concern a load. -/
structure Unmoved (operation : ℕ) (manager target : SDWebImageManager Image) : Prop where
  asked : target.queries.count operation = manager.queries.count operation
  loader : (target.operations operation).loaderOperation = (manager.operations operation).loaderOperation
  late : (target.operations operation).late = (manager.operations operation).late
  members : ∀ download, operation ∈ (target.downloads download).callbackBlocks ↔
    operation ∈ (manager.downloads download).callbackBlocks
  completing : ∀ download, operation ∈ (manager.downloads download).callbackBlocks →
    (target.downloads download).completing = (manager.downloads download).completing
  told : target.Told operation ↔ manager.Told operation

namespace Unmoved

theorem refl (manager : SDWebImageManager Image) : Unmoved operation manager manager :=
  ⟨rfl, rfl, rfl, fun _ => Iff.rfl, fun _ _ => rfl, Iff.rfl⟩

theorem trans (first : Unmoved operation manager changed) (second : Unmoved operation changed target) :
    Unmoved operation manager target where
  asked := second.asked.trans first.asked
  loader := second.loader.trans first.loader
  late := second.late.trans first.late
  members download := (second.members download).trans (first.members download)
  completing download listed :=
    (second.completing download ((first.members download).mpr listed)).trans (first.completing download listed)
  told := second.told.trans first.told

theorem unasked (unmoved : Unmoved operation manager target) (unasked : operation ∉ manager.queries) :
    operation ∉ target.queries := by
  rw [← List.count_eq_zero] at unasked ⊢
  exact unmoved.asked.trans unasked

theorem place (unmoved : Unmoved operation manager target) (place : manager.Place operation) :
    target.Place operation := by
  cases place with
  | asking asked loader late unlisted untold =>
    exact .asking (unmoved.asked.trans asked) (unmoved.loader.trans loader) (unmoved.late.trans late)
      (fun download member => unlisted download ((unmoved.members download).mp member))
      fun told => untold (unmoved.told.mp told)
  | waiting download unasked loader late listed completing =>
    exact .waiting download (unmoved.unasked unasked) (unmoved.loader.trans loader) (unmoved.late.trans late)
      ((unmoved.members download).mpr listed) ((unmoved.completing download listed).trans completing)
  | told unasked loader late told =>
    exact .told (unmoved.unasked unasked) (unmoved.loader.trans loader) (unmoved.late.trans late)
      (unmoved.told.mpr told)
  | lost unasked loader late listed untold =>
    refine .lost (unmoved.unasked unasked) (unmoved.loader.trans loader) (unmoved.late.trans late)
      (fun download member => ?_) fun told => untold (unmoved.told.mp told)
    have before := (unmoved.members download).mp member
    exact (unmoved.completing download before).trans (listed download before)

/-- Nothing of a load is changed where its operation, the downloads and the queues are the same. -/
theorem of_same (queries : target.queries.count operation = manager.queries.count operation)
    (operations : target.operations operation = manager.operations operation)
    (downloads : target.downloads = manager.downloads) (told : target.Told operation ↔ manager.Told operation) :
    Unmoved operation manager target :=
  ⟨queries, by rw [operations], by rw [operations], fun _ => by rw [downloads], fun _ _ => by rw [downloads], told⟩

/-- A download is changed, but not in its loads. -/
theorem of_modifyDownload {change : DownloaderOperation → DownloaderOperation}
    (members : operation ∈ (change (manager.downloads download)).callbackBlocks ↔
      operation ∈ (manager.downloads download).callbackBlocks)
    (completing : operation ∈ (manager.downloads download).callbackBlocks →
      (change (manager.downloads download)).completing = (manager.downloads download).completing) :
    Unmoved operation manager (manager.modifyDownload download change) := by
  refine ⟨rfl, rfl, rfl, fun other => ?_, fun other listed => ?_, Iff.rfl⟩
  · by_cases same : other = download
    · subst same
      rw [downloads_modifyDownload_self]
      exact members
    · rw [downloads_modifyDownload_of_ne same]
  · by_cases same : other = download
    · subst same
      rw [downloads_modifyDownload_self]
      exact completing listed
    · rw [downloads_modifyDownload_of_ne same]

end Unmoved

theorem told_congr (main : target.mainQueue = manager.mainQueue) : target.Told operation ↔ manager.Told operation := by
  simp only [Told, main]

theorem Completes.unmoved (completes : Completes operation result manager target) {other : ℕ}
    (different : other ≠ operation) : Unmoved other manager target := by
  refine .of_same ?_ (completes.of_ne different) completes.downloads (told_congr completes.mainQueue)
  rw [SDWebImageManager.queries, completes.queries, completes.mainQueue, ← SDWebImageManager.queries]

theorem Cancels.unmoved (cancels : Cancels operation manager target) {other : ℕ} (different : other ≠ operation) :
    Unmoved other manager target where
  asked := by rw [queries, cancels.ioQueue, cancels.mainQueue, ← queries]
  loader := by rw [cancels.others other different]
  late := by rw [cancels.others other different]
  members download := (cancels.downloads download).members other different
  completing download _ := (cancels.downloads download).completing
  told := told_congr cancels.mainQueue

theorem Loads.unmoved {outcome : Option (Except ImageError Image)} (loads : Loads view url outcome manager target)
    (old : operation ≠ manager.nextOperation) : Unmoved operation manager target := by
  refine .of_same ?_ (loads.old operation old) loads.downloads (told_congr loads.mainQueue)
  have new : ¬ (manager.nextOperation == operation) = true := fun same => old (beq_iff_eq.mp same).symm
  rw [queries, loads.ioQueue, loads.mainQueue, queries]
  split
  · simp [IOBlock.query?, List.count_cons, new]
  · rw [List.append_nil]

/-! ## Loads come and go -/

theorem Placed.completes (placed : manager.Placed) (completes : Completes operation result manager target) :
    target.Placed where
  place other running := by
    obtain ⟨different, same⟩ := completes.running running
    rw [same] at running
    exact (completes.unmoved different).place (placed.place other running)
  phase download := by
    rw [completes.downloads]
    exact placed.phase download
  made download listed := by
    rw [completes.nextDownload]
    exact placed.made download (completes.downloads ▸ listed)

theorem Placed.cancels (placed : manager.Placed) (cancels : Cancels operation manager target)
    (released : (target.operations operation).running = false) : target.Placed where
  place other running := by
    obtain ⟨different, same⟩ := cancels.running released running
    rw [same] at running
    exact (cancels.unmoved different).place (placed.place other running)
  phase download := (cancels.downloads download).phase (placed.phase download)
  made download listed := by
    rw [cancels.nextDownload]
    exact placed.made download fun empty => listed ((cancels.downloads download).empty empty)

/-- Neither the views nor the histories say where a load is. -/
theorem Placed.of_same (placed : manager.Placed) (operations : target.operations = manager.operations)
    (downloads : target.downloads = manager.downloads) (made : target.nextDownload = manager.nextDownload)
    (queries : target.queries = manager.queries) (main : target.mainQueue = manager.mainQueue) : target.Placed where
  place other running := by
    rw [operations] at running
    have unmoved : Unmoved other manager target :=
      .of_same (by rw [queries]) (by rw [operations]) downloads (told_congr main)
    exact unmoved.place (placed.place other running)
  phase download := downloads ▸ placed.phase download
  made download listed := by
    rw [made]
    exact placed.made download (downloads ▸ listed)

theorem not_mem_queries (sound : Sound coders disk manager) (unknown : ¬ operation < manager.nextOperation) :
    operation ∉ manager.queries := by
  intro member
  obtain io | main := List.mem_append.mp member
  · obtain ⟨block, queued, asked⟩ := List.mem_filterMap.mp io
    cases block with
    | query known =>
      obtain rfl := Option.some.inj asked
      exact unknown (sound.io _ queued)
    | store key data => contradiction
  · obtain ⟨block, queued, asked⟩ := List.mem_filterMap.mp main
    cases block with
    | queried known image =>
      obtain rfl := Option.some.inj asked
      exact unknown (sound.main _ queued).1
    | downloaded operations result => contradiction
    | cancelled known => contradiction

theorem known_of_told (sound : Sound coders disk manager) (told : manager.Told operation) :
    operation < manager.nextOperation := by
  obtain ⟨operations, result, queued, member⟩ := told
  obtain ⟨url, _, asks⟩ := sound.main _ queued
  exact (asks operation member).1

theorem Placed.loads (placed : manager.Placed) (sound : Sound coders disk manager)
    {outcome : Option (Except ImageError Image)} (loads : Loads view url outcome manager target) : target.Placed where
  place other running := by
    by_cases new : other = manager.nextOperation
    · subst new
      have unknown : ¬ manager.nextOperation < manager.nextOperation := Nat.lt_irrefl _
      cases outcome with
      | some result =>
        rw [loads.new] at running
        contradiction
      | none =>
        refine .asking ?_ (by rw [loads.new]) (by rw [loads.new]) (fun download member => ?_) fun told => ?_
        · have absent := not_mem_queries sound unknown
          rw [queries, List.mem_append, not_or, ← List.count_eq_zero, ← List.count_eq_zero] at absent
          rw [queries, loads.ioQueue, loads.mainQueue, if_pos rfl, List.filterMap_append, List.count_append,
            List.count_append, absent.1, absent.2]
          change 0 + List.count _ [manager.nextOperation] + 0 = 1
          rw [List.count_singleton_self]
        · rw [loads.downloads] at member
          exact unknown (sound.callbacks download _ member).1
        · exact unknown (known_of_told sound ((told_congr loads.mainQueue).mp told))
    · rw [loads.old other new] at running
      exact (loads.unmoved new).place (placed.place other running)
  phase download := by
    rw [loads.downloads]
    exact placed.phase download
  made download listed := by
    rw [loads.nextDownload]
    exact placed.made download (loads.downloads ▸ listed)

/-- The view of a load is changed, and its load cancelled before. -/
theorem Placed.cancelImageLoadOperation (placed : manager.Placed) (viewed : manager.Viewed) :
    (manager.cancelImageLoadOperation view).Placed := by
  obtain ⟨operation, cancelled, cancels, released, _, _, same⟩ := cancelImageLoadOperation_cases viewed view
  rw [same]
  exact (placed.cancels cancels released).of_same rfl rfl rfl rfl rfl

theorem setImageLoadOperation_of_none (entry : (manager.views view).imageLoadOperation = none) :
    manager.setImageLoadOperation view operation =
      (manager.modifyView view fun known => { known with imageLoadOperation := none }).modifyView view fun known =>
        { known with imageLoadOperation := some operation } := by
  unfold setImageLoadOperation SDWebImageManager.cancelImageLoadOperation
  rw [entry]

theorem Placed.setImageLoadOperation (placed : manager.Placed)
    (entry : (manager.views view).imageLoadOperation = none) :
    (manager.setImageLoadOperation view operation).Placed := by
  rw [setImageLoadOperation_of_none entry]
  exact placed.of_same rfl rfl rfl rfl rfl

theorem Placed.setImage (placed : manager.Placed) (sound : Sound coders disk manager) (viewed : manager.Viewed)
    {address : Option String} : (manager.setImage view address).Placed := by
  have blank : (manager.prepareView view address).Placed :=
    (placed.cancelImageLoadOperation viewed).of_same rfl rfl rfl rfl rfl
  have shown := views_prepared viewed view address
  unfold SDWebImageManager.setImage
  cases address with
  | none => exact blank
  | some url =>
    obtain ⟨outcome, loads⟩ := @loads_loadImage _ (manager.prepareView view (some url)) view url
    refine (blank.loads (sound.keeps (.prepareView sound)) loads).setImageLoadOperation ?_
    rw [loads.self, shown]

/-! ## A block of a queue runs -/

theorem count_queries : manager.queries.count operation =
    (manager.ioQueue.filterMap IOBlock.query?).count operation +
      (manager.mainQueue.filterMap MainBlock.queried?).count operation := List.count_append

/-- The main queue runs a block that does not concern a load. -/
theorem unmoved_popMain {block : MainBlock Image} {rest : List (MainBlock Image)}
    (waiting : manager.mainQueue = block :: rest) (queried : block.queried? ≠ some operation)
    (untold : ∀ operations result, block = .downloaded operations result → operation ∉ operations) :
    Unmoved operation manager { manager with mainQueue := rest } := by
  refine .of_same ?_ rfl rfl ⟨?_, ?_⟩
  · rw [count_queries, count_queries, waiting, List.filterMap_cons]
    split
    · rfl
    · next asked same =>
      rw [same] at queried
      have different : ¬ (asked == operation) = true := fun equal => queried (congrArg some (beq_iff_eq.mp equal))
      rw [List.count_cons, if_neg different]
      rfl
  · rintro ⟨operations, result, queued, member⟩
    exact ⟨operations, result, waiting ▸ List.mem_cons_of_mem _ queued, member⟩
  · rintro ⟨operations, result, queued, member⟩
    rw [waiting] at queued
    obtain first | queued := List.mem_cons.mp queued
    · exact absurd member (untold operations result first.symm)
    · exact ⟨operations, result, queued, member⟩

/-- The loads told by a block do not run any more, and no other load is concerned. -/
theorem unmoved_completeAll {operations : List ℕ}
    (running : ((operations.foldl (loaderCompleted answer) manager).operations operation).running = true) :
    operation ∉ operations ∧ Unmoved operation manager (operations.foldl (loaderCompleted answer) manager) ∧
      (operations.foldl (loaderCompleted answer) manager).operations operation = manager.operations operation := by
  induction operations generalizing manager with
  | nil => exact ⟨List.not_mem_nil, .refl manager, rfl⟩
  | cons told rest ih =>
    obtain ⟨result, completes⟩ := @completes_loaderCompleted _ manager told answer
    obtain ⟨absent, unmoved, same⟩ := ih running
    have runs : ((loaderCompleted answer manager told).operations operation).running = true := by
      rw [← same]
      exact running
    obtain ⟨different, kept⟩ := completes.running runs
    refine ⟨fun member => ?_, (completes.unmoved different).trans unmoved, same.trans kept⟩
    obtain equal | later := List.mem_cons.mp member
    · exact different equal
    · exact absent later

theorem nextDownload_completeAll {operations : List ℕ} :
    (operations.foldl (loaderCompleted answer) manager).nextDownload = manager.nextDownload :=
  completeAll_induction (fun completes start => completes.nextDownload.trans start) rfl

/-- A load that the disk has answered for is asked for no more, and waits nowhere yet. -/
structure Answered (manager : SDWebImageManager Image) (operation : ℕ) : Prop where
  unasked : operation ∉ manager.queries
  late : (manager.operations operation).late = false
  unlisted : ∀ download, operation ∉ (manager.downloads download).callbackBlocks
  untold : ¬ manager.Told operation

theorem answered_popMain {image : Option Image} {rest : List (MainBlock Image)}
    (waiting : manager.mainQueue = .queried operation image :: rest) (place : manager.Place operation) :
    Answered { manager with mainQueue := rest } operation := by
  have asked : operation ∈ manager.queries := by
    rw [queries, waiting]
    exact List.mem_append_right _ (List.mem_cons_self ..)
  have untold (untold : ¬ manager.Told operation) :
      ¬ ({ manager with mainQueue := rest } : SDWebImageManager Image).Told operation := by
    rintro ⟨operations, result, queued, member⟩
    exact untold ⟨operations, result, waiting ▸ List.mem_cons_of_mem _ queued, member⟩
  cases place with
  | asking count loader late unlisted told =>
    refine ⟨?_, late, unlisted, untold told⟩
    rw [← List.count_eq_zero, count_queries]
    rw [count_queries, waiting] at count
    change _ + List.count operation (operation :: rest.filterMap MainBlock.queried?) = 1 at count
    rw [List.count_cons_self] at count
    change List.count operation (manager.ioQueue.filterMap IOBlock.query?) +
      List.count operation (rest.filterMap MainBlock.queried?) = 0
    omega
  | waiting download unasked => exact absurd asked unasked
  | told unasked => exact absurd asked unasked
  | lost unasked => exact absurd asked unasked

/-- What the request for a download changes: a new one is made, or one that goes on is joined. -/
theorem downloadImage_cases (sound : Sound coders disk manager) (url : String) (operation : ℕ) :
    (manager.downloadImage url operation = (manager.createDownload url operation).modifyOperation operation
        fun known => { known with loaderOperation := true }) ∨
      ∃ download < manager.nextDownload, (manager.downloads download).isFinished = false ∧
        (manager.downloads download).isCancelled = false ∧
        manager.downloadImage url operation = (manager.joinDownload download operation).modifyOperation operation
          fun known => { known with loaderOperation := true } := by
  unfold downloadImage
  split
  · next download entered =>
    split
    · exact .inl rfl
    · next active =>
      rw [Bool.not_eq_true, Bool.or_eq_false_iff] at active
      exact .inr ⟨download, (sound.entries url download entered).1, active.1, active.2, rfl⟩
  · exact .inl rfl

/-- A running load that has no place needs one for itself only. -/
structure PlacedBut (manager : SDWebImageManager Image) (operation : ℕ) : Prop where
  place : ∀ other, other ≠ operation → (manager.operations other).running = true → manager.Place other
  phase : ∀ download, (manager.downloads download).Phase
  made : ∀ download, (manager.downloads download).callbackBlocks ≠ [] → download < manager.nextDownload

theorem unmoved_modifyOperation {other : ℕ} (different : other ≠ operation)
    (change : CombinedOperation → CombinedOperation) :
    Unmoved other manager (manager.modifyOperation operation change) :=
  .of_same rfl (operations_modifyOperation_of_ne different change) rfl Iff.rfl

theorem PlacedBut.createDownload (placed : manager.PlacedBut operation) (answered : manager.Answered operation) :
    ((manager.createDownload url operation).modifyOperation operation
      fun known => { known with loaderOperation := true }).Placed where
  place other running := by
    by_cases mine : other = operation
    · subst mine
      refine .waiting manager.nextDownload answered.unasked ?_ ?_ ?_ ?_
      · rw [operations_modifyOperation_self]
      · rw [operations_modifyOperation_self]
        exact answered.late
      · change other ∈ ((manager.createDownload url other).downloads manager.nextDownload).callbackBlocks
        rw [downloads_createDownload_self]
        exact List.mem_singleton_self _
      · change ((manager.createDownload url other).downloads manager.nextDownload).completing = false
        rw [downloads_createDownload_self]
        rfl
    · rw [operations_modifyOperation_of_ne mine] at running
      have none : other ∉ (manager.downloads manager.nextDownload).callbackBlocks := fun member =>
        Nat.lt_irrefl _ (placed.made _ (List.ne_nil_of_mem member))
      have created : Unmoved other manager (manager.createDownload url operation) := by
        refine ⟨rfl, rfl, rfl, fun download => ?_, fun download listed => ?_, Iff.rfl⟩
        · by_cases new : download = manager.nextDownload
          · subst new
            rw [downloads_createDownload_self]
            exact iff_of_false (fun member => mine (List.mem_singleton.mp member)) none
          · rw [downloads_createDownload_of_ne new]
        · rw [downloads_createDownload_of_ne]
          rintro rfl
          exact none listed
      exact (created.trans (unmoved_modifyOperation mine _)).place (placed.place other mine running)
  phase download := by
    change ((manager.createDownload url operation).downloads download).Phase
    by_cases new : download = manager.nextDownload
    · subst new
      rw [downloads_createDownload_self]
      exact .queued rfl rfl rfl rfl rfl nofun
    · rw [downloads_createDownload_of_ne new]
      exact placed.phase download
  made download listed := by
    change ((manager.createDownload url operation).downloads download).callbackBlocks ≠ [] at listed
    change download < manager.nextDownload + 1
    by_cases new : download = manager.nextDownload
    · omega
    · rw [downloads_createDownload_of_ne new] at listed
      exact Nat.lt_succ_of_lt (placed.made download listed)

theorem phase_joined {known : DownloaderOperation} (phase : known.Phase) (unfinished : known.isFinished = false)
    (active : known.isCancelled = false) :
    DownloaderOperation.Phase { known with callbackBlocks := known.callbackBlocks ++ [operation] } := by
  have quiet (cancelled : known.isCancelled = true) : known.callbackBlocks ++ [operation] = [] := by
    rw [active] at cancelled
    contradiction
  cases phase with
  | queued started dataTask coderQueue completing isFinished _ =>
    exact .queued started dataTask coderQueue completing isFinished quiet
  | running started dataTask coderQueue completing isFinished _ =>
    exact .running started dataTask coderQueue completing isFinished quiet
  | decoding data started dataTask coderQueue completing isFinished _ =>
    exact .decoding data started dataTask coderQueue completing isFinished quiet
  | completing started dataTask coderQueue completing isFinished _ =>
    exact .completing started dataTask coderQueue completing isFinished quiet
  | ended started dataTask coderQueue completing isFinished _ =>
    rw [unfinished] at isFinished
    contradiction

theorem downloads_joinDownload_self : (manager.joinDownload download operation).downloads download =
    { manager.downloads download with
      callbackBlocks := (manager.downloads download).callbackBlocks ++ [operation] } := Function.update_self ..

theorem downloads_joinDownload_of_ne {other : ℕ} (different : other ≠ download) :
    (manager.joinDownload download operation).downloads other = manager.downloads other :=
  Function.update_of_ne different ..

/-- A load that joins a download after its loads have been told is lost. -/
theorem PlacedBut.joinDownload (placed : manager.PlacedBut operation) (answered : manager.Answered operation)
    (below : download < manager.nextDownload) (unfinished : (manager.downloads download).isFinished = false)
    (active : (manager.downloads download).isCancelled = false) :
    ((manager.joinDownload download operation).modifyOperation operation
      fun known => { known with loaderOperation := true }).Placed where
  place other running := by
    by_cases mine : other = operation
    · subst mine
      have late : (((manager.joinDownload download other).modifyOperation other
          fun known => { known with loaderOperation := true }).operations other).late =
            (manager.downloads download).completing := by
        rw [operations_modifyOperation_self, SDWebImageManager.joinDownload, operations_modifyOperation_self]
      have loader : (((manager.joinDownload download other).modifyOperation other
          fun known => { known with loaderOperation := true }).operations other).loaderOperation = true := by
        rw [operations_modifyOperation_self]
      cases called : (manager.downloads download).completing with
      | false =>
        refine .waiting download answered.unasked loader (late.trans called) ?_ ?_
        · change other ∈ ((manager.joinDownload download other).downloads download).callbackBlocks
          rw [downloads_joinDownload_self]
          exact List.mem_append_right _ (List.mem_singleton_self _)
        · change ((manager.joinDownload download other).downloads download).completing = false
          rw [downloads_joinDownload_self]
          exact called
      | true =>
        refine .lost answered.unasked loader (late.trans called) (fun elsewhere listed => ?_) answered.untold
        change other ∈ ((manager.joinDownload download other).downloads elsewhere).callbackBlocks at listed
        change ((manager.joinDownload download other).downloads elsewhere).completing = true
        by_cases same : elsewhere = download
        · subst same
          rw [downloads_joinDownload_self]
          exact called
        · rw [downloads_joinDownload_of_ne same] at listed
          exact absurd listed (answered.unlisted elsewhere)
    · have kept : ((manager.joinDownload download operation).modifyOperation operation
          fun known => { known with loaderOperation := true }).operations other = manager.operations other := by
        rw [operations_modifyOperation_of_ne mine, SDWebImageManager.joinDownload, operations_modifyOperation_of_ne mine]
        rfl
      rw [kept] at running
      have joined : Unmoved other manager (manager.modifyDownload download fun known =>
          { known with callbackBlocks := known.callbackBlocks ++ [operation] }) := by
        refine .of_modifyDownload ?_ fun _ => rfl
        rw [List.mem_append, List.mem_singleton]
        exact or_iff_left mine
      refine Unmoved.place ?_ (placed.place other mine running)
      exact (joined.trans (unmoved_modifyOperation mine _)).trans (unmoved_modifyOperation mine _)
  phase elsewhere := by
    change ((manager.joinDownload download operation).downloads elsewhere).Phase
    by_cases same : elsewhere = download
    · subst same
      rw [downloads_joinDownload_self]
      exact phase_joined (placed.phase elsewhere) unfinished active
    · rw [downloads_joinDownload_of_ne same]
      exact placed.phase elsewhere
  made elsewhere listed := by
    change ((manager.joinDownload download operation).downloads elsewhere).callbackBlocks ≠ [] at listed
    change elsewhere < manager.nextDownload
    by_cases same : elsewhere = download
    · rwa [same]
    · rw [downloads_joinDownload_of_ne same] at listed
      exact placed.made elsewhere listed

theorem PlacedBut.downloadImage (placed : manager.PlacedBut operation) (sound : Sound coders disk manager)
    (answered : manager.Answered operation) : (manager.downloadImage url operation).Placed := by
  obtain created | ⟨download, below, unfinished, active, joined⟩ := downloadImage_cases sound url operation
  · rw [created]
    exact placed.createDownload answered
  · rw [joined]
    exact placed.joinDownload answered below unfinished active

theorem PlacedBut.completes (placed : manager.PlacedBut operation)
    (completes : Completes operation result manager target) : target.Placed where
  place other running := by
    obtain ⟨different, same⟩ := completes.running running
    rw [same] at running
    exact (completes.unmoved different).place (placed.place other different running)
  phase download := by
    rw [completes.downloads]
    exact placed.phase download
  made download listed := by
    rw [completes.nextDownload]
    exact placed.made download (completes.downloads ▸ listed)

/-- The main queue runs its next block. -/
theorem Placed.main (placed : manager.Placed) (sound : Sound coders disk manager) {block : MainBlock Image}
    {rest : List (MainBlock Image)} (waiting : manager.mainQueue = block :: rest) :
    ({ manager with mainQueue := rest }.runMain block).Placed := by
  obtain ⟨popped, carried⟩ := sound.popMain waiting
  cases block with
  | queried operation image =>
    have others : ({ manager with mainQueue := rest } : SDWebImageManager Image).PlacedBut operation := by
      refine ⟨fun other different running => ?_, placed.phase, placed.made⟩
      refine (unmoved_popMain waiting (fun same => ?_) fun _ _ same => ?_).place (placed.place other running)
      · exact different (Option.some.inj same).symm
      · contradiction
    obtain ⟨result, completes⟩ | ⟨alive, same⟩ :=
      @cacheCompleted_cases _ { manager with mainQueue := rest } operation image
    · exact others.completes completes
    · rw [runMain, same]
      exact others.downloadImage (sound.keeps popped) (answered_popMain waiting (placed.place operation alive.1))
  | downloaded operations result =>
    refine ⟨fun other running => ?_, fun download => ?_, fun download listed => ?_⟩
    · obtain ⟨absent, unmoved, same⟩ := unmoved_completeAll running
      rw [runMain, same] at running
      have before : Unmoved other manager { manager with mainQueue := rest } := by
        refine unmoved_popMain waiting (Option.some_ne_none other).symm fun told answer equal => ?_
        rw [← (MainBlock.downloaded.inj equal).1]
        exact absent
      exact (before.trans unmoved).place (placed.place other running)
    · rw [runMain, downloads_completeAll]
      exact placed.phase download
    · rw [runMain, downloads_completeAll] at listed
      rw [runMain, nextDownload_completeAll]
      exact placed.made download listed
  | cancelled operation =>
    have before : ({ manager with mainQueue := rest } : SDWebImageManager Image).Placed := by
      refine ⟨fun other running => ?_, placed.phase, placed.made⟩
      refine (unmoved_popMain waiting (Option.some_ne_none other).symm fun _ _ same => ?_).place (placed.place other running)
      contradiction
    exact before.completes (completes_released carried.2)

/-- The disk queue runs a block, and may hand one to the main queue that tells no loads. -/
theorem told_handed {blocks : List (MainBlock Image)} (main : target.mainQueue = manager.mainQueue ++ blocks)
    (silent : ∀ operations result, .downloaded operations result ∉ blocks) :
    target.Told operation ↔ manager.Told operation := by
  refine exists_congr fun operations => exists_congr fun result => and_congr_left fun _ => ?_
  rw [main, List.mem_append]
  exact or_iff_left (silent operations result)

theorem count_handed {block : IOBlock} {rest : List IOBlock} {blocks : List (MainBlock Image)}
    (waiting : manager.ioQueue = block :: rest) (io : target.ioQueue = rest)
    (main : target.mainQueue = manager.mainQueue ++ blocks)
    (same : (blocks.filterMap MainBlock.queried?).count operation = block.query?.toList.count operation) :
    target.queries.count operation = manager.queries.count operation := by
  have first : (block :: rest).filterMap IOBlock.query? = block.query?.toList ++ rest.filterMap IOBlock.query? := by
    cases block with
    | query asked => rfl
    | store key data => rfl
  rw [count_queries, count_queries, waiting, io, main, first, List.filterMap_append, List.count_append, List.count_append,
    same]
  omega

/-- The disk queue runs its next block. A query that is answered moves on to the main queue. -/
theorem Placed.io (placed : manager.Placed) (viewed : manager.Viewed) {block : IOBlock} {rest : List IOBlock}
    (waiting : manager.ioQueue = block :: rest) :
    ({ manager with ioQueue := rest }.runDisk coders block).Placed := by
  have moves {target : SDWebImageManager Image} (operations : target.operations = manager.operations)
      (downloads : target.downloads = manager.downloads) (made : target.nextDownload = manager.nextDownload)
      (unmoved : ∀ other, Unmoved other manager target) : target.Placed := by
    refine ⟨fun other running => ?_, fun download => ?_, fun download listed => ?_⟩
    · rw [operations] at running
      exact (unmoved other).place (placed.place other running)
    · rw [downloads]
      exact placed.phase download
    · rw [made]
      rw [downloads] at listed
      exact placed.made download listed
  cases block with
  | store key data =>
    refine moves rfl rfl rfl fun other => ?_
    exact .of_same (count_handed waiting rfl (List.append_nil _).symm rfl) rfl rfl Iff.rfl
  | query operation =>
    unfold runDisk
    dsimp only
    split
    · next cancelled =>
      have released := viewed.halted operation (.inr cancelled)
      refine ⟨fun other running => ?_, placed.phase, placed.made⟩
      have different : other ≠ operation := by
        rintro rfl
        change ((manager.safelyRemoveOperationFromRunning other).operations other).running = true at running
        rw [safelyRemoveOperationFromRunning, operations_modifyOperation_self] at running
        contradiction
      have same : (manager.modifyOperation operation fun known => { known with running := false }).operations other =
          manager.operations other := operations_modifyOperation_of_ne different _
      change ((manager.safelyRemoveOperationFromRunning operation).operations other).running = true at running
      rw [safelyRemoveOperationFromRunning, same] at running
      refine Unmoved.place (.of_same ?_ same rfl (told_handed rfl ?_)) (placed.place other running)
      · refine count_handed waiting rfl rfl ?_
        change 0 = List.count other [operation]
        rw [List.count_singleton, if_neg]
        exact fun equal => different (beq_iff_eq.mp equal).symm
      · simp
    · split
      · refine moves rfl rfl rfl fun other => ?_
        refine .of_same (count_handed waiting rfl rfl rfl) rfl rfl (told_handed rfl ?_)
        simp
      · refine moves rfl rfl rfl fun other => ?_
        refine .of_same (count_handed waiting rfl rfl rfl) rfl rfl (told_handed rfl ?_)
        simp

/-! ## A download goes on -/

/-- A download goes on without a change of its loads, or of whether they have been told. -/
theorem Placed.modifyDownload (placed : manager.Placed) {change : DownloaderOperation → DownloaderOperation}
    (members : (change (manager.downloads download)).callbackBlocks = (manager.downloads download).callbackBlocks)
    (completing : (manager.downloads download).callbackBlocks ≠ [] →
      (change (manager.downloads download)).completing = (manager.downloads download).completing)
    (phase : (change (manager.downloads download)).Phase) : (manager.modifyDownload download change).Placed where
  place operation running := by
    have unmoved : Unmoved operation manager (manager.modifyDownload download change) :=
      .of_modifyDownload (by rw [members]) fun member => completing (List.ne_nil_of_mem member)
    exact unmoved.place (placed.place operation running)
  phase other := by
    by_cases same : other = download
    · subst same
      rw [downloads_modifyDownload_self]
      exact phase
    · rw [downloads_modifyDownload_of_ne same]
      exact placed.phase other
  made other listed := by
    by_cases same : other = download
    · subst same
      rw [downloads_modifyDownload_self, members] at listed
      exact placed.made other listed
    · rw [downloads_modifyDownload_of_ne same] at listed
      exact placed.made other listed

theorem queries_callCompletionBlocks : (manager.callCompletionBlocks download answer).queries = manager.queries := by
  change _ ++ List.filterMap _ (manager.mainQueue ++ _) = _ ++ _
  rw [List.filterMap_append]
  exact congrArg _ (List.append_nil _)

theorem told_callCompletionBlocks : (manager.callCompletionBlocks download answer).Told operation ↔
    manager.Told operation ∨ operation ∈ (manager.downloads download).callbackBlocks := by
  constructor
  · rintro ⟨operations, result, queued, member⟩
    obtain before | new := List.mem_append.mp queued
    · exact .inl ⟨operations, result, before, member⟩
    · rw [(MainBlock.downloaded.inj (List.mem_singleton.mp new)).1] at member
      exact .inr member
  · rintro (⟨operations, result, queued, member⟩ | listed)
    · exact ⟨operations, result, List.mem_append_left _ queued, member⟩
    · exact ⟨_, answer, List.mem_append_right _ (List.mem_singleton_self _), listed⟩

/-- The loads that wait for a download are told what it has brought, once. -/
theorem Placed.callCompletionBlocks (placed : manager.Placed) {change : DownloaderOperation → DownloaderOperation}
    (uncalled : (manager.downloads download).completing = false)
    (members : (change (manager.downloads download)).callbackBlocks = (manager.downloads download).callbackBlocks)
    (completing : (change (manager.downloads download)).completing = true)
    (phase : (change (manager.downloads download)).Phase) :
    ((manager.callCompletionBlocks download answer).modifyDownload download change).Placed where
  place operation running := by
    have here : (((manager.callCompletionBlocks download answer).modifyDownload download change).downloads download) =
        change (manager.downloads download) := downloads_modifyDownload_self _
    have elsewhere {other : ℕ} (different : other ≠ download) :
        ((manager.callCompletionBlocks download answer).modifyDownload download change).downloads other =
          manager.downloads other := downloads_modifyDownload_of_ne different _
    have listed (other : ℕ) :
        operation ∈ (((manager.callCompletionBlocks download answer).modifyDownload download
          change).downloads other).callbackBlocks ↔ operation ∈ (manager.downloads other).callbackBlocks := by
      by_cases same : other = download
      · rw [same, here, members]
      · rw [elsewhere same]
    have unasked (absent : operation ∉ manager.queries) :
        operation ∉ ((manager.callCompletionBlocks download answer).modifyDownload download change).queries := by
      change operation ∉ (manager.callCompletionBlocks download answer).queries
      rwa [queries_callCompletionBlocks]
    have untold (unlisted : operation ∉ (manager.downloads download).callbackBlocks) (untold : ¬ manager.Told operation) :
        ¬ ((manager.callCompletionBlocks download answer).modifyDownload download change).Told operation := by
      intro told
      exact (told_callCompletionBlocks.mp told).elim untold unlisted
    cases placed.place operation running with
    | asking asked loader late unlisted silent =>
      refine .asking ?_ loader late (fun other member => unlisted other ((listed other).mp member))
        (untold (unlisted download) silent)
      change (manager.callCompletionBlocks download answer).queries.count operation = 1
      rwa [queries_callCompletionBlocks]
    | waiting other absent loader late member idle =>
      by_cases mine : operation ∈ (manager.downloads download).callbackBlocks
      · exact .told (unasked absent) loader late (told_callCompletionBlocks.mpr (.inr mine))
      · have different : other ≠ download := fun same => mine (same ▸ member)
        refine .waiting other (unasked absent) loader late ((listed other).mpr member) ?_
        rw [elsewhere different]
        exact idle
    | told absent loader late told =>
      exact .told (unasked absent) loader late (told_callCompletionBlocks.mpr (.inl told))
    | lost absent loader late members silent =>
      refine .lost (unasked absent) loader late (fun other member => ?_) (untold (fun mine => ?_) silent)
      · by_cases same : other = download
        · rw [same, here]
          exact completing
        · rw [elsewhere same]
          exact members other ((listed other).mp member)
      · have called := members download mine
        rw [uncalled] at called
        contradiction
  phase other := by
    by_cases same : other = download
    · subst same
      rw [downloads_modifyDownload_self]
      exact phase
    · rw [downloads_modifyDownload_of_ne same]
      exact placed.phase other
  made other listed := by
    by_cases same : other = download
    · subst same
      rw [downloads_modifyDownload_self] at listed
      exact placed.made other fun empty => listed (members.trans empty)
    · rw [downloads_modifyDownload_of_ne same] at listed
      exact placed.made other listed

/-- A download that is done forgets its loads. Those that were told are told already. -/
theorem Placed.done (placed : manager.Placed) (completing : (manager.downloads download).completing = true) :
    (manager.done download).Placed where
  place operation running := by
    have elsewhere {other : ℕ} (different : other ≠ download) :
        (manager.done download).downloads other = manager.downloads other := downloads_modifyDownload_of_ne different _
    have listed {other : ℕ} (member : operation ∈ ((manager.done download).downloads other).callbackBlocks) :
        other ≠ download ∧ operation ∈ (manager.downloads other).callbackBlocks := by
      by_cases same : other = download
      · subst same
        rw [SDWebImageManager.done, downloads_modifyDownload_self] at member
        contradiction
      · rw [elsewhere same] at member
        exact ⟨same, member⟩
    cases placed.place operation running with
    | asking asked loader late unlisted untold =>
      exact .asking asked loader late (fun other member => unlisted other (listed member).2) untold
    | waiting other unasked loader late member idle =>
      have different : other ≠ download := by
        rintro rfl
        rw [completing] at idle
        contradiction
      refine .waiting other unasked loader late ?_ ?_
      · rw [elsewhere different]
        exact member
      · rw [elsewhere different]
        exact idle
    | told unasked loader late told => exact .told unasked loader late told
    | lost unasked loader late members untold =>
      refine .lost unasked loader late (fun other member => ?_) untold
      obtain ⟨different, before⟩ := listed member
      rw [elsewhere different]
      exact members other before
  phase other := by
    by_cases same : other = download
    · subst same
      rw [SDWebImageManager.done, downloads_modifyDownload_self]
      obtain ⟨started, coderQueue, _⟩ := (placed.phase other).of_completing completing
      exact .ended started rfl coderQueue rfl rfl rfl
    · rw [SDWebImageManager.done, downloads_modifyDownload_of_ne same]
      exact placed.phase other
  made other listed := by
    by_cases same : other = download
    · subst same
      rw [SDWebImageManager.done, downloads_modifyDownload_self] at listed
      contradiction
    · rw [SDWebImageManager.done, downloads_modifyDownload_of_ne same] at listed
      exact placed.made other listed

/-- A download that no load waits for tells nobody. -/
theorem Placed.callNobody (placed : manager.Placed) (nobody : (manager.downloads download).callbackBlocks = []) :
    (manager.callCompletionBlocks download answer).Placed where
  place operation running := by
    have unmoved : Unmoved operation manager (manager.callCompletionBlocks download answer) := by
      refine .of_same (by rw [queries_callCompletionBlocks]) rfl rfl (told_callCompletionBlocks.trans ?_)
      rw [nobody]
      exact or_iff_left List.not_mem_nil
    exact unmoved.place (placed.place operation running)
  phase := placed.phase
  made := placed.made

theorem modifyDownload_modifyDownload {first second : DownloaderOperation → DownloaderOperation} :
    (manager.modifyDownload download first).modifyDownload download second =
      manager.modifyDownload download (second ∘ first) := by
  simp [SDWebImageManager.modifyDownload]

theorem Placed.start (placed : manager.Placed) {made : Bool} (unstarted : (manager.downloads download).started = false) :
    (manager.start download made).Placed := by
  obtain ⟨idle, empty, uncalled, unfinished, quiet⟩ := (placed.phase download).of_waiting unstarted
  unfold SDWebImageManager.start
  split
  · next cancelled =>
    have nobody := quiet cancelled
    exact (placed.callNobody nobody).modifyDownload nobody.symm (fun _ => rfl) (.ended rfl idle empty uncalled rfl rfl)
  · split
    · exact placed.modifyDownload rfl (fun _ => rfl) (.running rfl rfl empty uncalled unfinished quiet)
    · exact placed.callCompletionBlocks uncalled rfl rfl (.completing rfl idle empty rfl unfinished quiet)

theorem callCompletionBlocks_ended :
    (((manager.modifyDownload download fun known => { known with dataTask := false }).callCompletionBlocks download
      answer).modifyDownload download fun known => { known with completing := true }) =
        (manager.callCompletionBlocks download answer).modifyDownload download fun known =>
          { known with dataTask := false, completing := true } := by
  simp [SDWebImageManager.callCompletionBlocks, SDWebImageManager.modifyDownload]

theorem enqueueDecoding_ended {data : List UInt8} :
    ((manager.modifyDownload download fun known => { known with dataTask := false }).enqueueDecoding download
      data).downloads = (manager.modifyDownload download fun known =>
        { known with dataTask := false, imageData := none, coderQueue := some data }).downloads := by
  simp [enqueueDecoding, SDWebImageManager.modifyDownload]

theorem Placed.didComplete (placed : manager.Placed) {error : Option ImageError}
    (task : (manager.downloads download).dataTask = true) : (manager.didComplete download error).Placed := by
  obtain ⟨started, empty, uncalled, unfinished, quiet⟩ := (placed.phase download).of_dataTask task
  have told (result : Except ImageError (Image × List UInt8)) :
      ((((manager.modifyDownload download fun known => { known with dataTask := false }).callCompletionBlocks download
        result).modifyDownload download fun known => { known with completing := true })).Placed := by
    rw [callCompletionBlocks_ended]
    exact placed.callCompletionBlocks uncalled rfl rfl (.completing started rfl empty rfl unfinished quiet)
  unfold SDWebImageManager.didComplete
  dsimp only
  split
  · exact told _
  · split
    · next nobody =>
      rw [modifyDownload_modifyDownload]
      refine placed.modifyDownload rfl (fun listed => absurd nobody listed) ?_
      exact .completing started rfl empty rfl unfinished quiet
    · split
      · exact told _
      · next data received =>
        have decoding : (manager.modifyDownload download fun known =>
            { known with dataTask := false, imageData := none, coderQueue := some data }).Placed :=
          placed.modifyDownload rfl (fun _ => rfl) (.decoding data started rfl rfl uncalled unfinished quiet)
        exact decoding.of_same rfl enqueueDecoding_ended rfl rfl rfl

theorem Placed.didReceiveResponse (placed : manager.Placed) (statusCode : ℤ) :
    (manager.modifyDownload download fun known => known.didReceiveResponse statusCode).Placed := by
  have phase := placed.phase download
  refine placed.modifyDownload ?_ (fun _ => ?_) ?_
  all_goals
    unfold DownloaderOperation.didReceiveResponse
    split_ifs
  · rfl
  · rfl
  · rfl
  · rfl
  · rfl
  · rfl
  · exact phase.of_same rfl rfl rfl rfl rfl rfl rfl
  · exact phase
  · exact phase.of_same rfl rfl rfl rfl rfl rfl rfl

/-- Every event keeps the places. -/
theorem placed_step {event : ImageEvent} (sound : Sound coders disk manager) (viewed : manager.Viewed)
    (placed : manager.Placed) (step : manager.step? coders event = some target) : target.Placed := by
  cases step?_stepped step with
  | setImage view address => exact placed.setImage sound viewed
  | main block rest waiting => exact placed.main sound waiting
  | io block rest waiting => exact placed.io viewed waiting
  | start download made unstarted => exact placed.start unstarted
  | didReceiveResponse download statusCode => exact placed.didReceiveResponse statusCode
  | didReceiveData download data =>
    refine placed.modifyDownload rfl (fun _ => rfl) ?_
    exact (placed.phase download).of_same rfl rfl rfl rfl rfl rfl rfl
  | didComplete download error task => exact placed.didComplete task
  | decoded download data held =>
    obtain ⟨started, idle, uncalled, unfinished, quiet⟩ := (placed.phase download).of_coderQueue held
    exact placed.callCompletionBlocks uncalled rfl rfl (.completing started idle rfl rfl unfinished quiet)
  | done download completing => exact placed.done completing
  | completionBlock download =>
    have marked : (manager.modifyDownload download fun known => { known with completionBlock := true }).Placed :=
      placed.modifyDownload rfl (fun _ => rfl) ((placed.phase download).of_same rfl rfl rfl rfl rfl rfl rfl)
    exact marked.of_same rfl rfl rfl rfl rfl
  | _ => exact placed.of_same rfl rfl rfl rfl rfl

theorem placed_initial : (initial disk : SDWebImageManager Image).Placed where
  place _ running := absurd running Bool.false_ne_true
  phase _ := .queued rfl rfl rfl rfl rfl fun _ => rfl
  made _ listed := absurd rfl listed

end SDWebImageManager

end LoginDN.SDWebImage
