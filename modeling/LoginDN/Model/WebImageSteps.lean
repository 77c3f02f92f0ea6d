import LoginDN.Model.WebImage
import Mathlib.Tactic.Common

/-! # What the loading of pictures keeps

Pictures travel by address: through both caches, through downloads that several loads share, and through
the blocks on their way to the main queue. Wherever one is found under an address it was decoded from
data of that address. A view refers to one load at most, and no other load of it runs.
-/

namespace LoginDN.SDWebImage.SDWebImageManager

variable {Image : Type} {coders : Coders Image} {disk : String → Option (List UInt8)}
  {manager changed target : SDWebImageManager Image} {view operation download : ℕ} {url key : String}
  {result : Except ImageError Image} {answer : Except ImageError (Image × List UInt8)}

/-! ## Reading after a change -/

theorem operations_modifyOperation_self (change : CombinedOperation → CombinedOperation) :
    (manager.modifyOperation operation change).operations operation = change (manager.operations operation) :=
  Function.update_self ..

theorem operations_modifyOperation_of_ne {other : ℕ} (different : other ≠ operation)
    (change : CombinedOperation → CombinedOperation) :
    (manager.modifyOperation operation change).operations other = manager.operations other :=
  Function.update_of_ne different ..

theorem downloads_modifyDownload_self (change : DownloaderOperation → DownloaderOperation) :
    (manager.modifyDownload download change).downloads download = change (manager.downloads download) :=
  Function.update_self ..

theorem downloads_modifyDownload_of_ne {other : ℕ} (different : other ≠ download)
    (change : DownloaderOperation → DownloaderOperation) :
    (manager.modifyDownload download change).downloads other = manager.downloads other :=
  Function.update_of_ne different ..

theorem views_modifyView_self (change : UIImageView Image → UIImageView Image) :
    (manager.modifyView view change).views view = change (manager.views view) := Function.update_self ..

theorem views_modifyView_of_ne {other : ℕ} (different : other ≠ view)
    (change : UIImageView Image → UIImageView Image) :
    (manager.modifyView view change).views other = manager.views other := Function.update_of_ne different ..

theorem update_some_cases {α : Type} {held : String → Option α} {new found : α} {other : String}
    (read : Function.update held key (some new) other = some found) :
    held other = some found ∨ other = key ∧ found = new := by
  by_cases same : other = key
  · subst same
    rw [Function.update_self] at read
    exact .inr ⟨rfl, (Option.some.inj read).symm⟩
  · rw [Function.update_of_ne same] at read
    exact .inl read

theorem of_update_none {α : Type} {held : String → Option α} {found : α} {other : String}
    (read : Function.update held key none other = some found) : held other = some found := by
  by_cases same : other = key
  · subst same
    rw [Function.update_self] at read
    contradiction
  · rwa [Function.update_of_ne same] at read

/-! ## Data and pictures of an address -/

/-- Data that a download of the address has brought, or that the disk had at launch. -/
def Fetched (disk : String → Option (List UInt8)) (manager : SDWebImageManager Image) (key : String)
    (data : List UInt8) : Prop :=
  (key, data) ∈ manager.fetched ∨ disk key = some data

/-- A picture decoded from such data. -/
def Genuine (coders : Coders Image) (disk : String → Option (List UInt8)) (manager : SDWebImageManager Image)
    (key : String) (image : Image) : Prop :=
  ∃ data, Fetched disk manager key data ∧
    (coders.loaderImage data key = some image ∨ coders.cacheImage data key = some image)

/-- A load there is, of this address. -/
def Asks (manager : SDWebImageManager Image) (operation : ℕ) (url : String) : Prop :=
  operation < manager.nextOperation ∧ (manager.operations operation).url = url

/-- A picture with its data on the way to a load of the address. -/
def Fits (coders : Coders Image) (disk : String → Option (List UInt8)) (manager : SDWebImageManager Image)
    (url : String) (answer : Except ImageError (Image × List UInt8)) : Prop :=
  ∀ image data, answer = .ok (image, data) → Genuine coders disk manager url image ∧ Fetched disk manager url data

/-- Loads keep their view and their address and do not run again, and what has been fetched stays known. -/
structure Grows (manager target : SDWebImageManager Image) : Prop where
  next : manager.nextOperation ≤ target.nextOperation
  url : ∀ operation < manager.nextOperation, (target.operations operation).url = (manager.operations operation).url
  view : ∀ operation < manager.nextOperation, (target.operations operation).view = (manager.operations operation).view
  released : ∀ operation < manager.nextOperation,
    (manager.operations operation).running = false → (target.operations operation).running = false
  running : ∀ operation, (target.operations operation).running = true →
    (manager.operations operation).running = true ∨ operation < target.nextOperation
  made : manager.nextDownload ≤ target.nextDownload
  downloads : ∀ download < manager.nextDownload,
    (target.downloads download).url = (manager.downloads download).url
  fetched : manager.fetched ⊆ target.fetched

namespace Grows

theorem of_same (next : target.nextOperation = manager.nextOperation) (operations : target.operations = manager.operations)
    (made : target.nextDownload = manager.nextDownload) (downloads : target.downloads = manager.downloads)
    (fetched : manager.fetched ⊆ target.fetched) : Grows manager target where
  next := Nat.le_of_eq next.symm
  url _ _ := by rw [operations]
  view _ _ := by rw [operations]
  released operation _ idle := operations ▸ idle
  running operation runs := .inl (operations ▸ runs)
  made := Nat.le_of_eq made.symm
  downloads _ _ := by rw [downloads]
  fetched := fetched

theorem refl (manager : SDWebImageManager Image) : Grows manager manager :=
  .of_same rfl rfl rfl rfl (List.Subset.refl _)

theorem trans (first : Grows manager changed) (second : Grows changed target) : Grows manager target where
  next := Nat.le_trans first.next second.next
  url operation below :=
    (second.url operation (Nat.lt_of_lt_of_le below first.next)).trans (first.url operation below)
  view operation below :=
    (second.view operation (Nat.lt_of_lt_of_le below first.next)).trans (first.view operation below)
  released operation below idle :=
    second.released operation (Nat.lt_of_lt_of_le below first.next) (first.released operation below idle)
  running operation runs := (second.running operation runs).elim
    (fun before => (first.running operation before).imp_right fun below => Nat.lt_of_lt_of_le below second.next) .inr
  made := Nat.le_trans first.made second.made
  downloads download below :=
    (second.downloads download (Nat.lt_of_lt_of_le below first.made)).trans (first.downloads download below)
  fetched := List.Subset.trans first.fetched second.fetched

/-- One load is changed, and keeps its view and its address. -/
theorem of_modify {change : CombinedOperation → CombinedOperation} (url : ∀ known, (change known).url = known.url)
    (view : ∀ known, (change known).view = known.view)
    (released : ∀ known, known.running = false → (change known).running = false) :
    Grows manager (manager.modifyOperation operation change) := by
  refine ⟨Nat.le_refl _, fun other _ => ?_, fun other _ => ?_, fun other _ idle => ?_, fun other runs => .inl ?_,
    Nat.le_refl _, fun _ _ => rfl, List.Subset.refl _⟩
  · by_cases same : other = operation
    · subst same
      rw [operations_modifyOperation_self, url]
    · rw [operations_modifyOperation_of_ne same]
  · by_cases same : other = operation
    · subst same
      rw [operations_modifyOperation_self, view]
    · rw [operations_modifyOperation_of_ne same]
  · by_cases same : other = operation
    · subst same
      rw [operations_modifyOperation_self]
      exact released _ idle
    · rw [operations_modifyOperation_of_ne same, idle]
  · by_cases same : other = operation
    · subst same
      rw [operations_modifyOperation_self] at runs
      by_contra idle
      rw [released _ (Bool.eq_false_iff.mpr idle)] at runs
      contradiction
    · rwa [operations_modifyOperation_of_ne same] at runs

theorem fetchedData (grows : Grows manager target) {data : List UInt8} (known : Fetched disk manager key data) : Fetched disk target key data :=
  known.imp_left fun member => grows.fetched member

theorem genuine (grows : Grows manager target) {image : Image} (known : Genuine coders disk manager key image) :
    Genuine coders disk target key image := by
  obtain ⟨data, fetched, decoded⟩ := known
  exact ⟨data, grows.fetchedData fetched, decoded⟩

theorem asks (grows : Grows manager target) (asks : manager.Asks operation url) : target.Asks operation url :=
  ⟨Nat.lt_of_lt_of_le asks.1 grows.next, (grows.url operation asks.1).trans asks.2⟩

theorem fits (grows : Grows manager target) (fits : Fits coders disk manager url answer) : Fits coders disk target url answer :=
  fun image data same => ⟨grows.genuine (fits image data same).1, grows.fetchedData (fits image data same).2⟩

end Grows

/-- What a block of the disk queue carries. -/
def IOSound (disk : String → Option (List UInt8)) (manager : SDWebImageManager Image) : IOBlock → Prop
  | .query operation => operation < manager.nextOperation
  | .store key data => Fetched disk manager key data

/-- What a block of the main queue carries. -/
def MainSound (coders : Coders Image) (disk : String → Option (List UInt8)) (manager : SDWebImageManager Image) :
    MainBlock Image → Prop
  | .queried operation image =>
      operation < manager.nextOperation ∧
        ∀ found ∈ image, Genuine coders disk manager (manager.operations operation).url found
  | .downloaded operations result =>
      ∃ url, Fits coders disk manager url result ∧ ∀ operation ∈ operations, manager.Asks operation url
  | .cancelled operation => operation < manager.nextOperation ∧ (manager.operations operation).running = false

theorem IOSound.mono (grows : Grows manager target) {block : IOBlock} (sound : IOSound disk manager block) :
    IOSound disk target block := by
  cases block with
  | query operation => exact Nat.lt_of_lt_of_le sound grows.next
  | store key data => exact grows.fetchedData sound

theorem MainSound.mono (grows : Grows manager target) {block : MainBlock Image}
    (sound : MainSound coders disk manager block) : MainSound coders disk target block := by
  cases block with
  | queried operation image =>
    refine ⟨Nat.lt_of_lt_of_le sound.1 grows.next, fun found member => ?_⟩
    rw [grows.url operation sound.1]
    exact grows.genuine (sound.2 found member)
  | downloaded operations result =>
    obtain ⟨url, fits, asks⟩ := sound
    exact ⟨url, grows.fits fits, fun operation member => grows.asks (asks operation member)⟩
  | cancelled operation => exact ⟨Nat.lt_of_lt_of_le sound.1 grows.next, grows.released operation sound.1 sound.2⟩

/-- Every picture and every piece of data is kept under its own address, and handed to loads of it. -/
structure Sound (coders : Coders Image) (disk : String → Option (List UInt8)) (manager : SDWebImageManager Image) :
    Prop where
  memory : ∀ key image, manager.memoryCache key = some image → Genuine coders disk manager key image
  weak : ∀ key image, manager.weakCache key = some image → Genuine coders disk manager key image
  stored : ∀ key data, manager.diskCache key = some data → Fetched disk manager key data
  decoding : ∀ download data, (manager.downloads download).coderQueue = some data →
    Fetched disk manager (manager.downloads download).url data
  entries : ∀ key download, manager.URLOperations key = some download →
    download < manager.nextDownload ∧ (manager.downloads download).url = key
  callbacks : ∀ download, ∀ operation ∈ (manager.downloads download).callbackBlocks,
    manager.Asks operation (manager.downloads download).url
  io : ∀ block ∈ manager.ioQueue, IOSound disk manager block
  main : ∀ block ∈ manager.mainQueue, MainSound coders disk manager block
  known : ∀ operation, (manager.operations operation).running = true → operation < manager.nextOperation
  completed : ∀ operation image, (operation, .ok image) ∈ manager.completed →
    operation < manager.nextOperation ∧ Genuine coders disk manager (manager.operations operation).url image

/-- What a change adds is sound. Everything else was there before. -/
structure Keeps (coders : Coders Image) (disk : String → Option (List UInt8))
    (manager target : SDWebImageManager Image) : Prop extends Grows manager target where
  memory : ∀ key image, target.memoryCache key = some image →
    manager.memoryCache key = some image ∨ Genuine coders disk target key image
  weak : ∀ key image, target.weakCache key = some image →
    manager.weakCache key = some image ∨ Genuine coders disk target key image
  stored : ∀ key data, target.diskCache key = some data →
    manager.diskCache key = some data ∨ Fetched disk target key data
  decoding : ∀ download data, (target.downloads download).coderQueue = some data →
    (manager.downloads download).coderQueue = some data ∧
        (target.downloads download).url = (manager.downloads download).url ∨
      Fetched disk target (target.downloads download).url data
  entries : ∀ key download, target.URLOperations key = some download →
    manager.URLOperations key = some download ∨
      download < target.nextDownload ∧ (target.downloads download).url = key
  callbacks : ∀ download, ∀ operation ∈ (target.downloads download).callbackBlocks,
    operation ∈ (manager.downloads download).callbackBlocks ∧
        (target.downloads download).url = (manager.downloads download).url ∨
      target.Asks operation (target.downloads download).url
  io : ∀ block ∈ target.ioQueue, block ∈ manager.ioQueue ∨ IOSound disk target block
  main : ∀ block ∈ target.mainQueue, block ∈ manager.mainQueue ∨ MainSound coders disk target block
  completed : ∀ operation image, (operation, .ok image) ∈ target.completed →
    (operation, .ok image) ∈ manager.completed ∨ operation < target.nextOperation ∧
      Genuine coders disk target (target.operations operation).url image

theorem Sound.keeps (sound : Sound coders disk manager) (keeps : Keeps coders disk manager target) :
    Sound coders disk target where
  memory key image held := (keeps.memory key image held).elim
    (fun before => keeps.genuine (sound.memory key image before)) id
  weak key image held := (keeps.weak key image held).elim
    (fun before => keeps.genuine (sound.weak key image before)) id
  stored key data held := (keeps.stored key data held).elim
    (fun before => keeps.fetchedData (sound.stored key data before)) id
  decoding download data held := (keeps.decoding download data held).elim
    (fun before => before.2 ▸ keeps.fetchedData (sound.decoding download data before.1)) id
  entries key download entered := by
    obtain before | named := keeps.entries key download entered
    · obtain ⟨below, named⟩ := sound.entries key download before
      exact ⟨Nat.lt_of_lt_of_le below keeps.made, (keeps.downloads download below).trans named⟩
    · exact named
  callbacks download operation member := (keeps.callbacks download operation member).elim
    (fun before => before.2 ▸ keeps.asks (sound.callbacks download operation before.1)) id
  io block member := (keeps.io block member).elim (fun before => (sound.io block before).mono keeps.toGrows) id
  main block member := (keeps.main block member).elim (fun before => (sound.main block before).mono keeps.toGrows) id
  known operation running := (keeps.running operation running).elim
    (fun before => Nat.lt_of_lt_of_le (sound.known operation before) keeps.next) id
  completed operation image member := by
    obtain before | new := keeps.completed operation image member
    · obtain ⟨below, genuine⟩ := sound.completed operation image before
      rw [keeps.url operation below]
      exact ⟨Nat.lt_of_lt_of_le below keeps.next, keeps.genuine genuine⟩
    · exact new

namespace Keeps

/-- A change that looks at neither caches, downloads nor queues. -/
theorem of_same (grows : Grows manager target) (memory : target.memoryCache = manager.memoryCache)
    (weak : target.weakCache = manager.weakCache) (stored : target.diskCache = manager.diskCache)
    (downloads : target.downloads = manager.downloads) (entries : target.URLOperations = manager.URLOperations)
    (io : target.ioQueue = manager.ioQueue) (main : target.mainQueue = manager.mainQueue)
    (completed : target.completed = manager.completed) : Keeps coders disk manager target where
  toGrows := grows
  memory key image held := .inl (memory ▸ held)
  weak key image held := .inl (weak ▸ held)
  stored key data held := .inl (stored ▸ held)
  decoding download data held := .inl ⟨downloads ▸ held, by rw [downloads]⟩
  entries key download entered := .inl (entries ▸ entered)
  callbacks download operation member := .inl ⟨downloads ▸ member, by rw [downloads]⟩
  io block member := .inl (io ▸ member)
  main block member := .inl (main ▸ member)
  completed operation image member := .inl (completed ▸ member)

theorem refl (manager : SDWebImageManager Image) : Keeps coders disk manager manager :=
  of_same (.refl manager) rfl rfl rfl rfl rfl rfl rfl rfl

theorem trans (first : Keeps coders disk manager changed) (second : Keeps coders disk changed target) :
    Keeps coders disk manager target where
  toGrows := first.toGrows.trans second.toGrows
  memory key image held := (second.memory key image held).elim
    (fun before => (first.memory key image before).imp_right second.genuine) .inr
  weak key image held := (second.weak key image held).elim
    (fun before => (first.weak key image before).imp_right second.genuine) .inr
  stored key data held := (second.stored key data held).elim
    (fun before => (first.stored key data before).imp_right second.fetchedData) .inr
  decoding download data held := by
    obtain ⟨before, same⟩ | fetched := second.decoding download data held
    · obtain ⟨start, unchanged⟩ | fetched := first.decoding download data before
      · exact .inl ⟨start, same.trans unchanged⟩
      · exact .inr (same ▸ second.fetchedData fetched)
    · exact .inr fetched
  entries key download entered := by
    obtain before | named := second.entries key download entered
    · refine (first.entries key download before).imp_right fun named => ?_
      exact ⟨Nat.lt_of_lt_of_le named.1 second.made, (second.downloads download named.1).trans named.2⟩
    · exact .inr named
  callbacks download operation member := by
    obtain ⟨before, same⟩ | asks := second.callbacks download operation member
    · obtain ⟨start, unchanged⟩ | asks := first.callbacks download operation before
      · exact .inl ⟨start, same.trans unchanged⟩
      · exact .inr (same ▸ second.asks asks)
    · exact .inr asks
  io block member := (second.io block member).elim
    (fun before => (first.io block before).imp_right (IOSound.mono second.toGrows)) .inr
  main block member := (second.main block member).elim
    (fun before => (first.main block before).imp_right (MainSound.mono second.toGrows)) .inr
  completed operation image member := by
    obtain before | new := second.completed operation image member
    · refine (first.completed operation image before).imp_right fun new => ?_
      rw [second.url operation new.1]
      exact ⟨Nat.lt_of_lt_of_le new.1 second.next, second.genuine new.2⟩
    · exact .inr new

theorem of_modify {change : CombinedOperation → CombinedOperation} (url : ∀ known, (change known).url = known.url)
    (view : ∀ known, (change known).view = known.view)
    (released : ∀ known, known.running = false → (change known).running = false) :
    Keeps coders disk manager (manager.modifyOperation operation change) :=
  of_same (.of_modify url view released) rfl rfl rfl rfl rfl rfl rfl rfl

theorem of_modifyView (change : UIImageView Image → UIImageView Image) :
    Keeps coders disk manager (manager.modifyView view change) :=
  of_same (.of_same rfl rfl rfl rfl (List.Subset.refl _)) rfl rfl rfl rfl rfl rfl rfl rfl

/-- A download is changed: it keeps its address, its loads are loads it had, and its data is known. -/
theorem of_modifyDownload {change : DownloaderOperation → DownloaderOperation}
    (url : (change (manager.downloads download)).url = (manager.downloads download).url)
    (decoding : ∀ data, (change (manager.downloads download)).coderQueue = some data →
      (manager.downloads download).coderQueue = some data ∨
        Fetched disk manager (manager.downloads download).url data)
    (callbacks : ∀ operation ∈ (change (manager.downloads download)).callbackBlocks,
      operation ∈ (manager.downloads download).callbackBlocks ∨
        manager.Asks operation (manager.downloads download).url) :
    Keeps coders disk manager (manager.modifyDownload download change) where
  next := Nat.le_refl _
  url _ _ := rfl
  view _ _ := rfl
  released _ _ := id
  running _ := .inl
  made := Nat.le_refl _
  downloads other _ := by
    by_cases same : other = download
    · subst same
      rw [downloads_modifyDownload_self, url]
    · rw [downloads_modifyDownload_of_ne same]
  fetched := List.Subset.refl _
  memory _ _ held := .inl held
  weak _ _ held := .inl held
  stored _ _ held := .inl held
  decoding other data held := by
    by_cases same : other = download
    · subst same
      rw [downloads_modifyDownload_self] at held ⊢
      obtain before | fetched := decoding data held
      · exact .inl ⟨before, url⟩
      · exact .inr (url.symm ▸ fetched)
    · rw [downloads_modifyDownload_of_ne same] at held ⊢
      exact .inl ⟨held, rfl⟩
  entries _ _ entered := .inl entered
  callbacks other operation member := by
    by_cases same : other = download
    · subst same
      rw [downloads_modifyDownload_self] at member ⊢
      obtain before | asks := callbacks operation member
      · exact .inl ⟨before, url⟩
      · exact .inr (url.symm ▸ asks)
    · rw [downloads_modifyDownload_of_ne same] at member ⊢
      exact .inl ⟨member, rfl⟩
  io _ member := .inl member
  main _ member := .inl member
  completed _ _ member := .inl member

/-- The queues, the caches and the entries of the downloader, changed one by one. -/
theorem of_queues {ioQueue : List IOBlock} {mainQueue : List (MainBlock Image)}
    (io : ∀ block ∈ ioQueue, block ∈ manager.ioQueue ∨ IOSound disk manager block)
    (main : ∀ block ∈ mainQueue, block ∈ manager.mainQueue ∨ MainSound coders disk manager block) :
    Keeps coders disk manager { manager with ioQueue := ioQueue, mainQueue := mainQueue } where
  toGrows := .of_same rfl rfl rfl rfl (List.Subset.refl _)
  memory _ _ held := .inl held
  weak _ _ held := .inl held
  stored _ _ held := .inl held
  decoding _ _ held := .inl ⟨held, rfl⟩
  entries _ _ entered := .inl entered
  callbacks _ _ member := .inl ⟨member, rfl⟩
  io block member := (io block member).imp_right (IOSound.mono (.refl manager))
  main block member := (main block member).imp_right (MainSound.mono (.refl manager))
  completed _ _ member := .inl member

theorem of_caches {memoryCache weakCache : String → Option Image} {diskCache : String → Option (List UInt8)}
    (memory : ∀ key image, memoryCache key = some image →
      manager.memoryCache key = some image ∨ Genuine coders disk manager key image)
    (weak : ∀ key image, weakCache key = some image →
      manager.weakCache key = some image ∨ Genuine coders disk manager key image)
    (stored : ∀ key data, diskCache key = some data →
      manager.diskCache key = some data ∨ Fetched disk manager key data) :
    Keeps coders disk manager
      { manager with memoryCache := memoryCache, weakCache := weakCache, diskCache := diskCache } where
  toGrows := .of_same rfl rfl rfl rfl (List.Subset.refl _)
  memory := memory
  weak := weak
  stored := stored
  decoding _ _ held := .inl ⟨held, rfl⟩
  entries _ _ entered := .inl entered
  callbacks _ _ member := .inl ⟨member, rfl⟩
  io _ member := .inl member
  main _ member := .inl member
  completed _ _ member := .inl member

theorem of_removed (key : String) : Keeps coders disk manager
    { manager with URLOperations := Function.update manager.URLOperations key none } where
  toGrows := .of_same rfl rfl rfl rfl (List.Subset.refl _)
  memory _ _ held := .inl held
  weak _ _ held := .inl held
  stored _ _ held := .inl held
  decoding _ _ held := .inl ⟨held, rfl⟩
  entries _ _ entered := .inl (of_update_none entered)
  callbacks _ _ member := .inl ⟨member, rfl⟩
  io _ member := .inl member
  main _ member := .inl member
  completed _ _ member := .inl member

end Keeps

/-! ## The functions one by one -/

section Functions

theorem Keeps.callCompletionBlock (known : operation < manager.nextOperation)
    (genuine : ∀ image, result = .ok image → Genuine coders disk manager (manager.operations operation).url image) :
    Keeps coders disk manager (manager.callCompletionBlock operation result) where
  toGrows := .of_same rfl rfl rfl rfl (List.Subset.refl _)
  memory _ _ held := .inl held
  weak _ _ held := .inl held
  stored _ _ held := .inl held
  decoding _ _ held := .inl ⟨held, rfl⟩
  entries _ _ entered := .inl entered
  callbacks _ _ member := .inl ⟨member, rfl⟩
  io _ member := .inl member
  main _ member := .inl member
  completed other image member := by
    refine (List.mem_append.mp member).imp_right fun new => ?_
    obtain ⟨rfl, same⟩ := Prod.mk.inj (List.mem_singleton.mp new)
    exact ⟨known, genuine image same.symm⟩

theorem Keeps.blockFailedURL {error : ImageError} : Keeps coders disk manager (manager.blockFailedURL url error) :=
  of_same (.of_same rfl rfl rfl rfl (List.Subset.refl _)) rfl rfl rfl rfl rfl rfl rfl rfl

theorem Keeps.safelyRemove : Keeps coders disk manager (manager.safelyRemoveOperationFromRunning operation) :=
  of_modify (fun _ => rfl) (fun _ => rfl) fun _ _ => rfl

theorem Keeps.setMemory {image : Image} (genuine : Genuine coders disk manager key image) :
    Keeps coders disk manager (manager.setMemory key image) := by
  refine of_caches (fun other found read => ?_) (fun other found read => ?_) fun _ _ held => .inl held
  · refine (update_some_cases read).imp_right fun same => ?_
    rwa [same.1, same.2]
  · refine (update_some_cases read).imp_right fun same => ?_
    rwa [same.1, same.2]

theorem Keeps.storeImage {image : Image} {data : List UInt8} (genuine : Genuine coders disk manager key image)
    (fetched : Fetched disk manager key data) : Keeps coders disk manager (manager.storeImage key image data) := by
  refine (Keeps.setMemory genuine).trans (of_queues (fun block member => ?_) fun _ member => .inl member)
  refine (List.mem_append.mp member).imp_right fun new => ?_
  obtain rfl := List.mem_singleton.mp new
  exact fetched

theorem Keeps.tellError (known : operation < manager.nextOperation) {error : ImageError} :
    Keeps coders disk manager (manager.callCompletionBlock operation (.error error)) :=
  callCompletionBlock known nofun

theorem Keeps.loaderCompleted (known : operation < manager.nextOperation)
    (fits : Fits coders disk manager (manager.operations operation).url answer) :
    Keeps coders disk manager (loaderCompleted answer manager operation) := by
  refine Keeps.trans ?_ Keeps.safelyRemove
  split
  · cases answer with
    | error error =>
      cases error with
      | cancelled => exact tellError known
      | _ => exact (tellError known).trans blockFailedURL
    | ok found =>
      obtain ⟨genuine, fetched⟩ := fits found.1 found.2 rfl
      have stored := storeImage genuine fetched
      refine stored.trans (callCompletionBlock known fun image same => ?_)
      obtain rfl := Except.ok.inj same
      exact stored.genuine genuine
  · exact tellError known

/-- One after the other, the loads of an address are told what fits it. -/
theorem Keeps.completeAll {operations : List ℕ} (fits : Fits coders disk manager url answer)
    (asks : ∀ operation ∈ operations, manager.Asks operation url) :
    Keeps coders disk manager (operations.foldl (SDWebImageManager.loaderCompleted answer) manager) := by
  induction operations generalizing manager with
  | nil => exact refl manager
  | cons operation rest ih =>
    obtain ⟨known, same⟩ := asks operation (List.mem_cons_self ..)
    have first : Keeps coders disk manager (SDWebImageManager.loaderCompleted answer manager operation) := by
      apply Keeps.loaderCompleted known
      rwa [same]
    exact first.trans (ih (first.fits fits) fun other member => first.asks (asks other (List.mem_cons_of_mem _ member)))

theorem fits_error {error : ImageError} : Fits coders disk manager url (.error error) := nofun

theorem downloads_createDownload_self :
    (manager.createDownload url operation).downloads manager.nextDownload = .new url operation :=
  Function.update_self ..

theorem downloads_createDownload_of_ne (old : download ≠ manager.nextDownload) :
    (manager.createDownload url operation).downloads download = manager.downloads download :=
  Function.update_of_ne old ..

theorem Keeps.createDownload (asks : manager.Asks operation url) :
    Keeps coders disk manager (manager.createDownload url operation) where
  next := Nat.le_refl _
  url _ _ := rfl
  view _ _ := rfl
  released _ _ := id
  running _ := .inl
  made := Nat.le_succ _
  downloads download below := by rw [downloads_createDownload_of_ne (Nat.ne_of_lt below)]
  fetched := List.Subset.refl _
  memory _ _ held := .inl held
  weak _ _ held := .inl held
  stored _ _ held := .inl held
  decoding download data held := by
    by_cases new : download = manager.nextDownload
    · subst new
      rw [downloads_createDownload_self] at held
      contradiction
    · rw [downloads_createDownload_of_ne new] at held ⊢
      exact .inl ⟨held, rfl⟩
  entries other download entered := by
    refine (update_some_cases entered).imp_right fun new => ?_
    obtain ⟨rfl, rfl⟩ := new
    rw [downloads_createDownload_self]
    exact ⟨Nat.lt_succ_self _, rfl⟩
  callbacks download other member := by
    by_cases new : download = manager.nextDownload
    · subst new
      rw [downloads_createDownload_self] at member ⊢
      obtain rfl := List.mem_singleton.mp member
      exact .inr asks
    · rw [downloads_createDownload_of_ne new] at member ⊢
      exact .inl ⟨member, rfl⟩
  io _ member := .inl member
  main _ member := .inl member
  completed _ _ member := .inl member

theorem Keeps.joinDownload (asks : manager.Asks operation (manager.downloads download).url) :
    Keeps coders disk manager (manager.joinDownload download operation) := by
  refine (of_modifyDownload rfl (fun _ held => .inl held) fun other member => ?_).trans
    (of_modify (fun _ => rfl) (fun _ => rfl) fun _ => id)
  refine (List.mem_append.mp member).imp_right fun new => ?_
  obtain rfl := List.mem_singleton.mp new
  exact asks

/-- A download that an address has is one of it. -/
theorem Keeps.downloadImage (sound : Sound coders disk manager) (asks : manager.Asks operation url) :
    Keeps coders disk manager (manager.downloadImage url operation) := by
  unfold SDWebImageManager.downloadImage
  refine Keeps.trans ?_ (of_modify ?_ ?_ ?_)
  · split
    · next download entered =>
      split
      · exact .createDownload asks
      · apply Keeps.joinDownload
        rwa [(sound.entries url download entered).2]
    · exact .createDownload asks
  · exact fun _ => rfl
  · exact fun _ => rfl
  · exact fun _ => id

theorem Keeps.cancelDownload (sound : Sound coders disk manager) :
    Keeps coders disk manager (manager.cancelDownload download) := by
  unfold SDWebImageManager.cancelDownload
  dsimp only
  split
  · exact refl manager
  · refine (completeAll fits_error (sound.callbacks download)).trans (of_modifyDownload rfl (fun _ held => .inl held) ?_)
    intro other member
    contradiction

theorem Keeps.cancelToken (sound : Sound coders disk manager) (known : operation < manager.nextOperation) :
    Keeps coders disk manager (manager.cancelToken operation) := by
  unfold SDWebImageManager.cancelToken
  dsimp only
  split
  · exact refl manager
  · next download entered =>
    split
    · exact (cancelDownload sound).trans (of_removed _)
    · refine (of_modifyDownload rfl (fun _ held => .inl held) fun other member => ?_).trans
        (loaderCompleted known fits_error)
      exact .inl (List.mem_of_mem_filter member)

theorem Keeps.cancel (sound : Sound coders disk manager) (known : operation < manager.nextOperation) :
    Keeps coders disk manager (manager.cancel operation) := by
  unfold SDWebImageManager.cancel
  split
  · exact refl manager
  · refine Keeps.trans ?_ safelyRemove
    have marked : Keeps coders disk manager (manager.markCancelled operation) :=
      of_modify (fun _ => rfl) (fun _ => rfl) fun _ => id
    split
    · refine marked.trans ((cancelToken (sound.keeps marked) known).trans (of_modify ?_ ?_ ?_))
      · exact fun _ => rfl
      · exact fun _ => rfl
      · exact fun _ => id
    · exact marked

theorem Keeps.cancelImageLoadOperation (sound : Sound coders disk manager) :
    Keeps coders disk manager (manager.cancelImageLoadOperation view) := by
  unfold SDWebImageManager.cancelImageLoadOperation
  refine Keeps.trans ?_ (of_modifyView _)
  split
  · split
    · next running => exact cancel sound (sound.known _ running)
    · exact refl manager
  · exact refl manager

theorem Keeps.callDownloadProcess (sound : Sound coders disk manager) {image : Option Image}
    (known : operation < manager.nextOperation)
    (genuine : ∀ found ∈ image, Genuine coders disk manager (manager.operations operation).url found) :
    Keeps coders disk manager (manager.callDownloadProcess operation image) := by
  unfold SDWebImageManager.callDownloadProcess
  split
  · next found =>
    refine (callCompletionBlock known fun image same => ?_).trans safelyRemove
    obtain rfl := Except.ok.inj same
    exact genuine found rfl
  · exact downloadImage sound ⟨known, rfl⟩

theorem Keeps.cacheCompleted (sound : Sound coders disk manager) {image : Option Image}
    (known : operation < manager.nextOperation)
    (genuine : ∀ found ∈ image, Genuine coders disk manager (manager.operations operation).url found) :
    Keeps coders disk manager (manager.cacheCompleted operation image) := by
  unfold SDWebImageManager.cacheCompleted
  split
  · exact callDownloadProcess sound known genuine
  · exact (tellError known).trans safelyRemove

theorem Keeps.imageFromMemoryCache (sound : Sound coders disk manager) :
    Keeps coders disk manager (manager.imageFromMemoryCache key).2 := by
  unfold SDWebImageManager.imageFromMemoryCache
  split
  · exact refl manager
  · next image missing found =>
    refine of_caches (fun other read held => ?_) (fun _ _ held => .inl held) fun _ _ held => .inl held
    refine (update_some_cases held).imp_right fun same => ?_
    rw [same.1, same.2]
    exact sound.weak key image found
  · exact refl manager

theorem genuine_of_memory (sound : Sound coders disk manager) {image : Image}
    (found : manager.imageFromMemoryCache key = (some image, changed)) : Genuine coders disk manager key image := by
  unfold SDWebImageManager.imageFromMemoryCache at found
  split at found
  · next held =>
    obtain ⟨same, _⟩ := Prod.mk.inj found
    obtain rfl := Option.some.inj same
    exact sound.memory key _ held
  · next held =>
    obtain ⟨same, _⟩ := Prod.mk.inj found
    obtain rfl := Option.some.inj same
    exact sound.weak key _ held
  · exact absurd (Prod.mk.inj found).1 (Option.some_ne_none image).symm

theorem Keeps.callCacheProcess (sound : Sound coders disk manager) (known : operation < manager.nextOperation) :
    Keeps coders disk manager (manager.callCacheProcess operation) := by
  have looked : Keeps coders disk manager (manager.imageFromMemoryCache (manager.operations operation).url).2 :=
    Keeps.imageFromMemoryCache sound
  unfold SDWebImageManager.callCacheProcess
  split
  · next image after found =>
    rw [found] at looked
    refine looked.trans (cacheCompleted (sound.keeps looked) (Nat.lt_of_lt_of_le known looked.next) fun other same => ?_)
    obtain rfl := Option.some.inj same
    rw [looked.url operation known]
    exact looked.genuine (genuine_of_memory sound found)
  · next after missing =>
    rw [missing] at looked
    have asked : Keeps coders disk after
        (after.modifyOperation operation fun known => { known with cacheOperation := true }) :=
      of_modify (fun _ => rfl) (fun _ => rfl) fun _ => id
    refine looked.trans (asked.trans (of_queues (fun block member => ?_) fun _ member => .inl member))
    refine (List.mem_append.mp member).imp_right fun new => ?_
    obtain rfl := List.mem_singleton.mp new
    exact Nat.lt_of_lt_of_le known looked.next

theorem operations_makeOperation_self :
    (manager.makeOperation view url).operations manager.nextOperation =
      ⟨view, url, false, false, false, false, false, false⟩ := Function.update_self ..

theorem operations_makeOperation_of_ne (old : operation ≠ manager.nextOperation) :
    (manager.makeOperation view url).operations operation = manager.operations operation :=
  Function.update_of_ne old ..

/-- The operation of a load right before its cache is asked. -/
def begun (manager : SDWebImageManager Image) (view : ℕ) (url : String) : SDWebImageManager Image :=
  (manager.makeOperation view url).modifyOperation manager.nextOperation fun known => { known with running := true }

theorem operations_begun_self : (manager.begun view url).operations manager.nextOperation =
    ⟨view, url, true, false, false, false, false, false⟩ := by
  rw [begun, operations_modifyOperation_self, operations_makeOperation_self]

theorem operations_begun_of_ne (old : operation ≠ manager.nextOperation) :
    (manager.begun view url).operations operation = manager.operations operation := by
  rw [begun, operations_modifyOperation_of_ne old, operations_makeOperation_of_ne old]

/-- Only a new operation is added. -/
theorem Grows.of_new (next : target.nextOperation = manager.nextOperation + 1)
    (old : ∀ operation, operation ≠ manager.nextOperation → target.operations operation = manager.operations operation)
    (made : target.nextDownload = manager.nextDownload) (downloads : target.downloads = manager.downloads)
    (fetched : target.fetched = manager.fetched) : Grows manager target where
  next := next ▸ Nat.le_succ _
  url operation below := by rw [old operation (Nat.ne_of_lt below)]
  view operation below := by rw [old operation (Nat.ne_of_lt below)]
  released operation below idle := by rw [old operation (Nat.ne_of_lt below), idle]
  running operation runs := by
    by_cases new : operation = manager.nextOperation
    · rw [new, next]
      exact .inr (Nat.lt_succ_self _)
    · exact .inl (old operation new ▸ runs)
  made := Nat.le_of_eq made.symm
  downloads _ _ := by rw [downloads]
  fetched := fetched ▸ List.Subset.refl _

theorem Keeps.makeOperation : Keeps coders disk manager (manager.makeOperation view url) :=
  of_same (.of_new rfl (fun _ => operations_makeOperation_of_ne) rfl rfl rfl) rfl rfl rfl rfl rfl rfl rfl rfl

theorem Keeps.begun : Keeps coders disk manager (manager.begun view url) :=
  of_same (.of_new rfl (fun _ => operations_begun_of_ne) rfl rfl rfl) rfl rfl rfl rfl rfl rfl rfl rfl

theorem Keeps.loadImage (sound : Sound coders disk manager) :
    Keeps coders disk manager (manager.loadImage view url) := by
  unfold SDWebImageManager.loadImage
  dsimp only
  split
  · exact makeOperation.trans (tellError (Nat.lt_succ_self _))
  · exact begun.trans (callCacheProcess (sound.keeps begun) (Nat.lt_succ_self _))

theorem Keeps.setImageLoadOperation (sound : Sound coders disk manager) :
    Keeps coders disk manager (manager.setImageLoadOperation view operation) :=
  (cancelImageLoadOperation sound).trans (of_modifyView _)

theorem Keeps.prepareView {address : Option String} (sound : Sound coders disk manager) :
    Keeps coders disk manager (manager.prepareView view address) :=
  (cancelImageLoadOperation sound).trans (of_modifyView _)

theorem Keeps.setImage {address : Option String} (sound : Sound coders disk manager) :
    Keeps coders disk manager (manager.setImage view address) := by
  have blank : Keeps coders disk manager (manager.prepareView view address) := prepareView sound
  unfold SDWebImageManager.setImage
  cases address with
  | none => exact blank
  | some url =>
    have loaded : Keeps coders disk manager ((manager.prepareView view (some url)).loadImage view url) :=
      blank.trans (loadImage (sound.keeps blank))
    exact loaded.trans (setImageLoadOperation (sound.keeps loaded))

theorem Keeps.runMain (sound : Sound coders disk manager) {block : MainBlock Image}
    (carried : MainSound coders disk manager block) : Keeps coders disk manager (manager.runMain block) := by
  cases block with
  | queried operation image => exact cacheCompleted sound carried.1 carried.2
  | downloaded operations result =>
    obtain ⟨url, fits, asks⟩ := carried
    exact completeAll fits asks
  | cancelled operation => exact tellError carried.1

theorem Keeps.addMain {block : MainBlock Image} (carried : MainSound coders disk manager block) :
    Keeps coders disk manager { manager with mainQueue := manager.mainQueue ++ [block] } := by
  refine of_queues (fun _ member => .inl member) fun other member => ?_
  refine (List.mem_append.mp member).imp_right fun new => ?_
  obtain rfl := List.mem_singleton.mp new
  exact carried

theorem Keeps.runDisk (sound : Sound coders disk manager) {block : IOBlock} (carried : IOSound disk manager block) :
    Keeps coders disk manager (manager.runDisk coders block) := by
  cases block with
  | store key data =>
    refine of_caches (fun _ _ held => .inl held) (fun _ _ held => .inl held) fun other found read => ?_
    refine (update_some_cases read).imp_right fun same => ?_
    rw [same.1, same.2]
    exact carried
  | query operation =>
    unfold SDWebImageManager.runDisk
    dsimp only
    split
    · refine safelyRemove.trans (addMain ⟨carried, ?_⟩)
      rw [safelyRemoveOperationFromRunning, operations_modifyOperation_self]
    · cases read : (manager.diskCache (manager.operations operation).url).bind
          fun data => coders.cacheImage data (manager.operations operation).url with
      | none => exact addMain ⟨carried, nofun⟩
      | some image =>
        obtain ⟨data, held, decoded⟩ := Option.bind_eq_some_iff.mp read
        have genuine : Genuine coders disk manager (manager.operations operation).url image :=
          ⟨data, sound.stored _ data held, .inr decoded⟩
        refine (setMemory genuine).trans (addMain ⟨carried, fun found member => ?_⟩)
        obtain rfl := Option.some.inj member
        exact genuine

theorem Keeps.callCompletionBlocks (sound : Sound coders disk manager)
    (fits : Fits coders disk manager (manager.downloads download).url answer) :
    Keeps coders disk manager (manager.callCompletionBlocks download answer) :=
  addMain ⟨_, fits, sound.callbacks download⟩

theorem decode_fits {data : List UInt8} (fetched : Fetched disk manager url data) :
    Fits coders disk manager url (coders.decode data url) := by
  intro image found same
  unfold Coders.decode at same
  split at same
  · next decoded success =>
    split at same
    · obtain ⟨rfl, rfl⟩ := Prod.mk.inj (Except.ok.inj same)
      exact ⟨⟨data, fetched, .inl success⟩, fetched⟩
    · contradiction
  · contradiction

theorem Keeps.start {made : Bool} (sound : Sound coders disk manager) :
    Keeps coders disk manager (manager.start download made) := by
  unfold SDWebImageManager.start
  split
  · refine (callCompletionBlocks sound fits_error).trans (of_modifyDownload rfl (fun _ held => .inl held) ?_)
    intro other member
    contradiction
  · split
    · exact of_modifyDownload rfl (fun _ held => .inl held) fun _ member => .inl member
    · exact (callCompletionBlocks sound fits_error).trans
        (of_modifyDownload rfl (fun _ held => .inl held) fun _ member => .inl member)

theorem Keeps.decoded (sound : Sound coders disk manager) {data : List UInt8}
    (held : (manager.downloads download).coderQueue = some data) :
    Keeps coders disk manager (manager.decoded coders download data) := by
  refine (callCompletionBlocks sound (decode_fits (sound.decoding download data held))).trans
    (of_modifyDownload rfl (fun _ held => ?_) fun _ member => .inl member)
  contradiction

theorem Keeps.done : Keeps coders disk manager (manager.done download) := by
  refine of_modifyDownload rfl (fun _ held => .inl held) fun other member => ?_
  contradiction

theorem Keeps.removeDownload : Keeps coders disk manager (manager.removeDownload download) :=
  (of_modifyDownload rfl (fun _ held => .inl held) fun _ member => .inl member).trans (of_removed _)

theorem Keeps.enqueueDecoding {data : List UInt8} : Keeps coders disk manager (manager.enqueueDecoding download data) := by
  have known : Keeps coders disk manager
      { manager with fetched := manager.fetched ++ [((manager.downloads download).url, data)] } :=
    of_same (.of_same rfl rfl rfl rfl (List.subset_append_left _ _)) rfl rfl rfl rfl rfl rfl rfl rfl
  refine known.trans (of_modifyDownload rfl (fun found held => ?_) fun _ member => .inl member)
  obtain rfl := Option.some.inj held
  exact .inr (.inl (List.mem_append_right _ (List.mem_singleton_self _)))

theorem Keeps.didComplete (sound : Sound coders disk manager) {error : Option ImageError} :
    Keeps coders disk manager (manager.didComplete download error) := by
  have ended : Keeps coders disk manager
      (manager.modifyDownload download fun known => { known with dataTask := false }) :=
    of_modifyDownload rfl (fun _ held => .inl held) fun _ member => .inl member
  have completing {manager : SDWebImageManager Image} : Keeps coders disk manager
      (manager.modifyDownload download fun known => { known with completing := true }) :=
    of_modifyDownload rfl (fun _ held => .inl held) fun _ member => .inl member
  unfold SDWebImageManager.didComplete
  cases error with
  | some error => exact (ended.trans (callCompletionBlocks (sound.keeps ended) fits_error)).trans completing
  | none =>
    dsimp only
    split
    · exact ended.trans completing
    · split
      · exact (ended.trans (callCompletionBlocks (sound.keeps ended) fits_error)).trans completing
      · next data received => exact ended.trans enqueueDecoding

end Functions

/-- What an event does, and when it can happen. -/
inductive Stepped (coders : Coders Image) (manager : SDWebImageManager Image) :
    ImageEvent → SDWebImageManager Image → Prop where
  | setImage (view : ℕ) (address : Option String) :
      Stepped coders manager (.setImage view address) (manager.setImage view address)
  | main (block : MainBlock Image) (rest : List (MainBlock Image)) (waiting : manager.mainQueue = block :: rest) :
      Stepped coders manager .main ({ manager with mainQueue := rest }.runMain block)
  | io (block : IOBlock) (rest : List IOBlock) (waiting : manager.ioQueue = block :: rest) :
      Stepped coders manager .io ({ manager with ioQueue := rest }.runDisk coders block)
  | start (download : ℕ) (made : Bool) (unstarted : (manager.downloads download).started = false)
      (below : download < manager.nextDownload) :
      Stepped coders manager (.start download made) (manager.start download made)
  | didReceiveResponse (download : ℕ) (statusCode : ℤ) (task : (manager.downloads download).dataTask = true) :
      Stepped coders manager (.didReceiveResponse download statusCode)
        (manager.modifyDownload download fun known => known.didReceiveResponse statusCode)
  | didReceiveData (download : ℕ) (data : List UInt8) (task : (manager.downloads download).dataTask = true) :
      Stepped coders manager (.didReceiveData download data)
        (manager.modifyDownload download fun known => known.didReceiveData data)
  | didComplete (download : ℕ) (error : Option ImageError) (task : (manager.downloads download).dataTask = true) :
      Stepped coders manager (.didComplete download error) (manager.didComplete download error)
  | decoded (download : ℕ) (data : List UInt8) (held : (manager.downloads download).coderQueue = some data) :
      Stepped coders manager (.decoded download) (manager.decoded coders download data)
  | done (download : ℕ) (completing : (manager.downloads download).completing = true) :
      Stepped coders manager (.done download) (manager.done download)
  | completionBlock (download : ℕ) (finished : (manager.downloads download).isFinished = true)
      (uncalled : (manager.downloads download).completionBlock = false) :
      Stepped coders manager (.completionBlock download) (manager.removeDownload download)
  | memoryEvicted (key : String) : Stepped coders manager (.memoryEvicted key)
      { manager with memoryCache := Function.update manager.memoryCache key none }
  | released (key : String) : Stepped coders manager (.released key)
      { manager with weakCache := Function.update manager.weakCache key none }
  | diskExpired (key : String) : Stepped coders manager (.diskExpired key)
      { manager with diskCache := Function.update manager.diskCache key none }

theorem step?_stepped {event : ImageEvent} (step : manager.step? coders event = some target) :
    Stepped coders manager event target := by
  cases event with
  | setImage view address =>
    obtain rfl := Option.some.inj step
    exact .setImage view address
  | main =>
    cases waiting : manager.mainQueue with
    | nil => simp [step?, waiting] at step
    | cons block rest =>
      simp only [step?, waiting, Option.some.injEq] at step
      obtain rfl := step
      exact .main block rest waiting
  | io =>
    cases waiting : manager.ioQueue with
    | nil => simp [step?, waiting] at step
    | cons block rest =>
      simp only [step?, waiting, Option.some.injEq] at step
      obtain rfl := step
      exact .io block rest waiting
  | start download made =>
    obtain ⟨guard, same⟩ := Option.ite_none_right_eq_some.mp step
    obtain rfl := Option.some.inj same
    exact .start download made guard.2 guard.1
  | didReceiveResponse download statusCode =>
    obtain ⟨task, same⟩ := Option.ite_none_right_eq_some.mp step
    obtain rfl := Option.some.inj same
    exact .didReceiveResponse download statusCode task
  | didReceiveData download data =>
    obtain ⟨task, same⟩ := Option.ite_none_right_eq_some.mp step
    obtain rfl := Option.some.inj same
    exact .didReceiveData download data task
  | didComplete download error =>
    obtain ⟨task, same⟩ := Option.ite_none_right_eq_some.mp step
    obtain rfl := Option.some.inj same
    exact .didComplete download error task
  | decoded download =>
    cases held : (manager.downloads download).coderQueue with
    | none => simp [step?, held] at step
    | some data =>
      simp only [step?, held, Option.some.injEq] at step
      obtain rfl := step
      exact .decoded download data held
  | done download =>
    obtain ⟨completing, same⟩ := Option.ite_none_right_eq_some.mp step
    obtain rfl := Option.some.inj same
    exact .done download completing
  | completionBlock download =>
    obtain ⟨guard, same⟩ := Option.ite_none_right_eq_some.mp step
    obtain rfl := Option.some.inj same
    exact .completionBlock download guard.1 guard.2
  | memoryEvicted key =>
    obtain rfl := Option.some.inj step
    exact .memoryEvicted key
  | released key =>
    obtain ⟨_, same⟩ := Option.ite_none_right_eq_some.mp step
    obtain rfl := Option.some.inj same
    exact .released key
  | diskExpired key =>
    obtain rfl := Option.some.inj step
    exact .diskExpired key

/-- What comes off a queue was sound there. -/
theorem Sound.popMain (sound : Sound coders disk manager) {block : MainBlock Image} {rest : List (MainBlock Image)}
    (waiting : manager.mainQueue = block :: rest) :
    Keeps coders disk manager { manager with mainQueue := rest } ∧ MainSound coders disk manager block := by
  refine ⟨.of_queues (fun _ member => .inl member) fun _ member => .inl ?_, sound.main block ?_⟩
  · rw [waiting]
    exact List.mem_cons_of_mem _ member
  · rw [waiting]
    exact List.mem_cons_self ..

theorem Sound.popDisk (sound : Sound coders disk manager) {block : IOBlock} {rest : List IOBlock}
    (waiting : manager.ioQueue = block :: rest) :
    Keeps coders disk manager { manager with ioQueue := rest } ∧ IOSound disk manager block := by
  refine ⟨.of_queues (fun _ member => .inl ?_) fun _ member => .inl member, sound.io block ?_⟩
  · rw [waiting]
    exact List.mem_cons_of_mem _ member
  · rw [waiting]
    exact List.mem_cons_self ..

/-- Every event keeps all pictures and data under their own addresses. -/
theorem keeps_step {event : ImageEvent} (sound : Sound coders disk manager)
    (step : manager.step? coders event = some target) : Keeps coders disk manager target := by
  cases step?_stepped step with
  | setImage view address => exact .setImage sound
  | main block rest waiting =>
    obtain ⟨popped, carried⟩ := sound.popMain waiting
    exact popped.trans (.runMain (sound.keeps popped) (carried.mono popped.toGrows))
  | io block rest waiting =>
    obtain ⟨popped, carried⟩ := sound.popDisk waiting
    exact popped.trans (.runDisk (sound.keeps popped) (carried.mono popped.toGrows))
  | start download made => exact .start sound
  | didReceiveResponse download statusCode =>
    refine .of_modifyDownload ?_ (fun _ held => .inl ?_) fun _ member => .inl ?_
    · unfold DownloaderOperation.didReceiveResponse
      split_ifs <;> rfl
    · unfold DownloaderOperation.didReceiveResponse at held
      split_ifs at held <;> exact held
    · unfold DownloaderOperation.didReceiveResponse at member
      split_ifs at member <;> exact member
  | didReceiveData download data =>
    exact .of_modifyDownload rfl (fun _ held => .inl held) fun _ member => .inl member
  | didComplete download error => exact .didComplete sound
  | decoded download data held => exact .decoded sound held
  | done download => exact .done
  | completionBlock download => exact .removeDownload
  | memoryEvicted key =>
    exact .of_caches (fun _ _ held => .inl (of_update_none held)) (fun _ _ held => .inl held) fun _ _ held => .inl held
  | released key =>
    exact .of_caches (fun _ _ held => .inl held) (fun _ _ held => .inl (of_update_none held)) fun _ _ held => .inl held
  | diskExpired key =>
    exact .of_caches (fun _ _ held => .inl held) (fun _ _ held => .inl held) fun _ _ held => .inl (of_update_none held)

theorem sound_initial : Sound coders disk (initial disk) where
  memory := nofun
  weak := nofun
  stored _ _ held := .inr held
  decoding := nofun
  entries := nofun
  callbacks := nofun
  io := nofun
  main := nofun
  known := nofun
  completed := nofun

end LoginDN.SDWebImage.SDWebImageManager
