import LoginDN.Machine.Run
import Mathlib.Data.Int.Notation
import Mathlib.Data.List.Basic
import Mathlib.Logic.Function.Basic

/-! # Pictures of image views

An image view that is given an address cancels the load it waits for and starts another one: memory,
disk, then a download that it may share with other views. Queries of the disk, downloads and decoding
run elsewhere and hand their results to the main queue. A combined operation is kept by the set of
running operations alone; all others refer to it weakly.
-/

namespace LoginDN.SDWebImage

/-- The codes of `NSURLErrorDomain` that are told apart. -/
inductive NSURLErrorCode where
  | notConnectedToInternet
  | cancelled
  | timedOut
  | internationalRoamingOff
  | dataNotAllowed
  | cannotFindHost
  | cannotConnectToHost
  | networkConnectionLost
  | other (code : ℤ)
deriving DecidableEq, Repr

/-- The errors of SDWebImage, those of URLSession, and any other. -/
inductive ImageError where
  | invalidURL
  | badImageData
  | cacheNotModified
  | invalidDownloadOperation
  | invalidDownloadStatusCode (statusCode : ℤ)
  | cancelled
  | session (code : NSURLErrorCode)
  | other (domain : String)
deriving DecidableEq, Repr

/-- The decoders of pictures: for downloaded data, for data from the disk, and whether a decoded picture
has any pixels. -/
structure Coders (Image : Type) where
  loaderImage : List UInt8 → String → Option Image
  cacheImage : List UInt8 → String → Option Image
  hasPixels : Image → Bool

/-- A `UIImageView` with what SDWebImage associates with it. The entry of its operation is weak. -/
structure UIImageView (Image : Type) where
  image : Option Image
  imageURL : Option String
  imageLoadOperation : Option ℕ

/-- A load on behalf of one view. `running` is its membership in `runningOperations`. The last field is
history: the load has joined a download whose callbacks had been called. -/
structure CombinedOperation where
  view : ℕ
  url : String
  running : Bool
  isCancelled : Bool
  cacheOperation : Bool
  cacheCancelled : Bool
  loaderOperation : Bool
  late : Bool

/-- A download with the loads that wait for it. `coderQueue` is data that waits to be decoded there, and
`completing` says that the callbacks have been called and `done` comes next. -/
structure DownloaderOperation where
  url : String
  callbackBlocks : List ℕ
  started : Bool
  isFinished : Bool
  isCancelled : Bool
  dataTask : Bool
  imageData : Option (List UInt8)
  responseError : Option ImageError
  coderQueue : Option (List UInt8)
  completing : Bool
  completionBlock : Bool

/-- The blocks of the serial queue of the disk. -/
inductive IOBlock where
  | query (operation : ℕ)
  | store (key : String) (data : List UInt8)

/-- The blocks that reach the main queue: what the disk has, the answer of a download to its loads, and
the completion of a load that was cancelled before its query. -/
inductive MainBlock (Image : Type) where
  | queried (operation : ℕ) (image : Option Image)
  | downloaded (operations : List ℕ) (result : Except ImageError (Image × List UInt8))
  | cancelled (operation : ℕ)

/-- The shared manager with its cache and its downloader, the image views and the two queues, and two
histories: the data of complete downloads and the calls of completed blocks, oldest first. -/
structure SDWebImageManager (Image : Type) where
  memoryCache : String → Option Image
  weakCache : String → Option Image
  diskCache : String → Option (List UInt8)
  ioQueue : List IOBlock
  URLOperations : String → Option ℕ
  downloads : ℕ → DownloaderOperation
  nextDownload : ℕ
  failedURLs : List String
  operations : ℕ → CombinedOperation
  nextOperation : ℕ
  views : ℕ → UIImageView Image
  mainQueue : List (MainBlock Image)
  fetched : List (String × List UInt8)
  completed : List (ℕ × Except ImageError Image)

inductive ImageEvent where
  | setImage (view : ℕ) (url : Option String)
  | main
  | io
  | start (download : ℕ) (made : Bool)
  | didReceiveResponse (download : ℕ) (statusCode : ℤ)
  | didReceiveData (download : ℕ) (data : List UInt8)
  | didComplete (download : ℕ) (error : Option ImageError)
  | decoded (download : ℕ)
  | done (download : ℕ)
  | completionBlock (download : ℕ)
  | memoryEvicted (key : String)
  | released (key : String)
  | diskExpired (key : String)

/-- A failure that may pass does not block an address. -/
def ImageError.shouldBlockFailedURL : ImageError → Bool
  | .invalidURL | .badImageData => true
  | .cacheNotModified | .invalidDownloadOperation | .invalidDownloadStatusCode _ | .cancelled => false
  | .session (.other _) => true
  | .session _ => false
  | .other _ => false

/-- A new download with its first load. -/
def DownloaderOperation.new (url : String) (operation : ℕ) : DownloaderOperation :=
  ⟨url, [operation], false, false, false, false, none, none, none, false, false⟩

/-- The error a response leads to. A 304 is one, as no earlier response is kept to compare with. -/
def DownloaderOperation.didReceiveResponse (download : DownloaderOperation) (statusCode : ℤ) : DownloaderOperation :=
  if statusCode = 304 then { download with responseError := some .cacheNotModified }
  else if 200 ≤ statusCode ∧ statusCode < 400 then download
  else { download with responseError := some (.invalidDownloadStatusCode statusCode) }

def DownloaderOperation.didReceiveData (download : DownloaderOperation) (data : List UInt8) : DownloaderOperation :=
  { download with imageData := some (download.imageData.getD [] ++ data) }

/-- Downloaded data as a picture. One without pixels is no picture. -/
def Coders.decode {Image : Type} (coders : Coders Image) (data : List UInt8) (url : String) :
    Except ImageError (Image × List UInt8) :=
  match coders.loaderImage data url with
  | some image => if coders.hasPixels image then .ok (image, data) else .error .badImageData
  | none => .error .badImageData

namespace SDWebImageManager

variable {Image : Type}

/-- The manager before the first load, on a disk that may keep data of earlier launches. -/
def initial (disk : String → Option (List UInt8)) : SDWebImageManager Image where
  memoryCache _ := none
  weakCache _ := none
  diskCache := disk
  ioQueue := []
  URLOperations _ := none
  downloads _ := ⟨"", [], false, false, false, false, none, none, none, false, false⟩
  nextDownload := 0
  failedURLs := []
  operations _ := ⟨0, "", false, false, false, false, false, false⟩
  nextOperation := 0
  views _ := ⟨none, none, none⟩
  mainQueue := []
  fetched := []
  completed := []

def modifyView (manager : SDWebImageManager Image) (view : ℕ) (change : UIImageView Image → UIImageView Image) :
    SDWebImageManager Image :=
  { manager with views := Function.update manager.views view (change (manager.views view)) }

def modifyOperation (manager : SDWebImageManager Image) (operation : ℕ)
    (change : CombinedOperation → CombinedOperation) : SDWebImageManager Image :=
  { manager with operations := Function.update manager.operations operation (change (manager.operations operation)) }

def modifyDownload (manager : SDWebImageManager Image) (download : ℕ)
    (change : DownloaderOperation → DownloaderOperation) : SDWebImageManager Image :=
  { manager with downloads := Function.update manager.downloads download (change (manager.downloads download)) }

/-! ## The cache -/

/-- `setObject:forKey:cost:` of the memory cache. -/
def setMemory (manager : SDWebImageManager Image) (key : String) (image : Image) : SDWebImageManager Image :=
  { manager with
    memoryCache := Function.update manager.memoryCache key (some image)
    weakCache := Function.update manager.weakCache key (some image) }

/-- A picture that is still in use is found even after the memory cache has dropped it. -/
def imageFromMemoryCache (manager : SDWebImageManager Image) (key : String) : Option Image × SDWebImageManager Image :=
  match manager.memoryCache key, manager.weakCache key with
  | some image, _ => (some image, manager)
  | none, some image =>
      (some image, { manager with memoryCache := Function.update manager.memoryCache key (some image) })
  | none, none => (none, manager)

/-- `storeImage`: the memory at once, the disk later. -/
def storeImage (manager : SDWebImageManager Image) (key : String) (image : Image) (data : List UInt8) :
    SDWebImageManager Image :=
  let manager := manager.setMemory key image
  { manager with ioQueue := manager.ioQueue ++ [.store key data] }

/-! ## Completion of a load -/

/-- The completed block of a view. Without an image it sets none. -/
def callCompletionBlock (manager : SDWebImageManager Image) (operation : ℕ) (result : Except ImageError Image) :
    SDWebImageManager Image :=
  { manager.modifyView (manager.operations operation).view fun view =>
      { view with image := result.toOption.or view.image } with
    completed := manager.completed ++ [(operation, result)] }

def safelyRemoveOperationFromRunning (manager : SDWebImageManager Image) (operation : ℕ) : SDWebImageManager Image :=
  manager.modifyOperation operation fun known => { known with running := false }

/-- What a weak reference finds: an operation that has not been released, and is not cancelled. -/
def Alive (manager : SDWebImageManager Image) (operation : ℕ) : Prop :=
  (manager.operations operation).running = true ∧ (manager.operations operation).isCancelled = false

instance (manager : SDWebImageManager Image) (operation : ℕ) : Decidable (manager.Alive operation) :=
  inferInstanceAs (Decidable (_ ∧ _))

/-- A URL whose load has failed for good is not loaded any more. -/
def blockFailedURL (manager : SDWebImageManager Image) (url : String) (error : ImageError) : SDWebImageManager Image :=
  { manager with
    failedURLs := if error.shouldBlockFailedURL then manager.failedURLs.insert url else manager.failedURLs }

/-- The closure passed to `requestImageWithURL`, the answer of a download to one of its loads. -/
def loaderCompleted (result : Except ImageError (Image × List UInt8)) (manager : SDWebImageManager Image)
    (operation : ℕ) : SDWebImageManager Image :=
  let url := (manager.operations operation).url
  let completed :=
    if manager.Alive operation then
      match result with
      | .error .cancelled => manager.callCompletionBlock operation (.error .cancelled)
      | .error error => (manager.callCompletionBlock operation (.error error)).blockFailedURL url error
      | .ok (image, data) => (manager.storeImage url image data).callCompletionBlock operation (.ok image)
    else manager.callCompletionBlock operation (.error .cancelled)
  completed.safelyRemoveOperationFromRunning operation

/-! ## Downloads -/

/-- A download is made and queued for its first load. -/
def createDownload (manager : SDWebImageManager Image) (url : String) (operation : ℕ) : SDWebImageManager Image :=
  { manager with
    downloads := Function.update manager.downloads manager.nextDownload (.new url operation)
    nextDownload := manager.nextDownload + 1
    URLOperations := Function.update manager.URLOperations url (some manager.nextDownload) }

/-- A load is added to those that wait for a download. -/
def joinDownload (manager : SDWebImageManager Image) (download operation : ℕ) : SDWebImageManager Image :=
  (manager.modifyDownload download fun known =>
      { known with callbackBlocks := known.callbackBlocks ++ [operation] }).modifyOperation operation fun known =>
    { known with late := (manager.downloads download).completing }

/-- `downloadImageWithURL`: a download that goes on is joined, otherwise one is made. -/
def downloadImage (manager : SDWebImageManager Image) (url : String) (operation : ℕ) : SDWebImageManager Image :=
  let requested := match manager.URLOperations url with
    | some download =>
        if (manager.downloads download).isFinished || (manager.downloads download).isCancelled then
          manager.createDownload url operation
        else manager.joinDownload download operation
    | none => manager.createDownload url operation
  requested.modifyOperation operation fun known => { known with loaderOperation := true }

/-- `cancelInternal` of a download. On the main thread its loads are told at once. -/
def cancelDownload (manager : SDWebImageManager Image) (download : ℕ) : SDWebImageManager Image :=
  let known := manager.downloads download
  if known.isFinished then manager
  else
    (known.callbackBlocks.foldl (loaderCompleted (.error .cancelled)) manager).modifyDownload download fun known =>
      { known with
        isCancelled := true
        isFinished := known.dataTask
        callbackBlocks := []
        dataTask := false }

/-- `cancel:` of the downloader. It takes the download that the address has now, whichever download the
token was made for. -/
def cancelToken (manager : SDWebImageManager Image) (operation : ℕ) : SDWebImageManager Image :=
  let url := (manager.operations operation).url
  match manager.URLOperations url with
  | none => manager
  | some download =>
      let rest := (manager.downloads download).callbackBlocks.filter (· ≠ operation)
      if rest = [] then
        let manager := manager.cancelDownload download
        { manager with URLOperations := Function.update manager.URLOperations url none }
      else
        (manager.modifyDownload download fun known => { known with callbackBlocks := rest }).loaderCompleted
          (.error .cancelled) operation

/-! ## Loads -/

/-- An operation is marked as cancelled, and its query of the disk with it. -/
def markCancelled (manager : SDWebImageManager Image) (operation : ℕ) : SDWebImageManager Image :=
  manager.modifyOperation operation fun known =>
    { known with isCancelled := true, cacheCancelled := known.cacheOperation, cacheOperation := false }

/-- `cancel` of a combined operation. -/
def cancel (manager : SDWebImageManager Image) (operation : ℕ) : SDWebImageManager Image :=
  if (manager.operations operation).isCancelled then manager
  else
    let cancelled := manager.markCancelled operation
    let cancelled :=
      if (cancelled.operations operation).loaderOperation then
        (cancelled.cancelToken operation).modifyOperation operation fun known => { known with loaderOperation := false }
      else cancelled
    cancelled.safelyRemoveOperationFromRunning operation

/-- `sd_cancelImageLoadOperationWithKey:`. The entry of a released operation reads as nil. -/
def cancelImageLoadOperation (manager : SDWebImageManager Image) (view : ℕ) : SDWebImageManager Image :=
  let cancelled := match (manager.views view).imageLoadOperation with
    | some operation => if (manager.operations operation).running then manager.cancel operation else manager
    | none => manager
  cancelled.modifyView view fun known => { known with imageLoadOperation := none }

def setImageLoadOperation (manager : SDWebImageManager Image) (view operation : ℕ) : SDWebImageManager Image :=
  (manager.cancelImageLoadOperation view).modifyView view fun known =>
    { known with imageLoadOperation := some operation }

/-- The download process: a cached picture completes the load, otherwise there is a download. -/
def callDownloadProcess (manager : SDWebImageManager Image) (operation : ℕ) (cachedImage : Option Image) :
    SDWebImageManager Image :=
  match cachedImage with
  | some image => (manager.callCompletionBlock operation (.ok image)).safelyRemoveOperationFromRunning operation
  | none => manager.downloadImage (manager.operations operation).url operation

/-- The closure passed to `queryImageForKey`. -/
def cacheCompleted (manager : SDWebImageManager Image) (operation : ℕ) (cachedImage : Option Image) :
    SDWebImageManager Image :=
  if manager.Alive operation then manager.callDownloadProcess operation cachedImage
  else (manager.callCompletionBlock operation (.error .cancelled)).safelyRemoveOperationFromRunning operation

/-- `queryCacheOperationForKey`: a picture in memory answers at once, the disk later. -/
def callCacheProcess (manager : SDWebImageManager Image) (operation : ℕ) : SDWebImageManager Image :=
  match manager.imageFromMemoryCache (manager.operations operation).url with
  | (some image, manager) => manager.cacheCompleted operation (some image)
  | (none, manager) =>
      { manager.modifyOperation operation fun known => { known with cacheOperation := true } with
        ioQueue := manager.ioQueue ++ [.query operation] }

/-- An operation is made for a view. -/
def makeOperation (manager : SDWebImageManager Image) (view : ℕ) (url : String) : SDWebImageManager Image :=
  { manager with
    operations := Function.update manager.operations manager.nextOperation
      ⟨view, url, false, false, false, false, false, false⟩
    nextOperation := manager.nextOperation + 1 }

/-- `loadImageWithURL`, for the operation that is made next. -/
def loadImage (manager : SDWebImageManager Image) (view : ℕ) (url : String) : SDWebImageManager Image :=
  let operation := manager.nextOperation
  let made := manager.makeOperation view url
  if url.length = 0 ∨ url ∈ manager.failedURLs then made.callCompletionBlock operation (.error .invalidURL)
  else (made.modifyOperation operation fun known => { known with running := true }).callCacheProcess operation

/-- A view that is given an address forgets its load and its picture. -/
def prepareView (manager : SDWebImageManager Image) (view : ℕ) (url : Option String) : SDWebImageManager Image :=
  (manager.cancelImageLoadOperation view).modifyView view fun known => { known with imageURL := url, image := none }

/-- `sd_internalSetImageWithURL` as the app calls it: no placeholder, no options, no completed block of
its own. -/
def setImage (manager : SDWebImageManager Image) (view : ℕ) (url : Option String) : SDWebImageManager Image :=
  let blank := manager.prepareView view url
  match url with
  | none => blank
  | some url => (blank.loadImage view url).setImageLoadOperation view blank.nextOperation

/-! ## What happens by itself -/

variable (coders : Coders Image)

/-- A block of the disk queue. A cancelled query completes its load there and then. -/
def runDisk (manager : SDWebImageManager Image) : IOBlock → SDWebImageManager Image
  | .store key data => { manager with diskCache := Function.update manager.diskCache key (some data) }
  | .query operation =>
      let known := manager.operations operation
      if known.cacheCancelled then
        { manager.safelyRemoveOperationFromRunning operation with
          mainQueue := manager.mainQueue ++ [.cancelled operation] }
      else
        let image := (manager.diskCache known.url).bind fun data => coders.cacheImage data known.url
        let manager := match image with
          | some image => manager.setMemory known.url image
          | none => manager
        { manager with mainQueue := manager.mainQueue ++ [.queried operation image] }

def runMain (manager : SDWebImageManager Image) : MainBlock Image → SDWebImageManager Image
  | .queried operation image => manager.cacheCompleted operation image
  | .downloaded operations result => operations.foldl (loaderCompleted result) manager
  | .cancelled operation => manager.callCompletionBlock operation (.error .cancelled)

/-- `callCompletionBlocksWithImage` off the main thread: the loads that wait now are told there. -/
def callCompletionBlocks (manager : SDWebImageManager Image) (download : ℕ)
    (result : Except ImageError (Image × List UInt8)) : SDWebImageManager Image :=
  { manager with
    mainQueue := manager.mainQueue ++ [.downloaded (manager.downloads download).callbackBlocks result] }

/-- `start`. A download cancelled before has no loads any more. -/
def start (manager : SDWebImageManager Image) (download : ℕ) (made : Bool) : SDWebImageManager Image :=
  if (manager.downloads download).isCancelled then
    (manager.callCompletionBlocks download (.error .cancelled)).modifyDownload download fun known =>
      { known with started := true, isFinished := true, callbackBlocks := [] }
  else if made then
    manager.modifyDownload download fun known => { known with started := true, dataTask := true }
  else
    (manager.callCompletionBlocks download (.error .invalidDownloadOperation)).modifyDownload download fun known =>
      { known with started := true, completing := true }

/-- The data of a complete download goes to its coder queue. -/
def enqueueDecoding (manager : SDWebImageManager Image) (download : ℕ) (data : List UInt8) : SDWebImageManager Image :=
  { manager with fetched := manager.fetched ++ [((manager.downloads download).url, data)] }.modifyDownload download
    fun known => { known with imageData := none, coderQueue := some data }

/-- `URLSession:task:didCompleteWithError:` of a download. -/
def didComplete (manager : SDWebImageManager Image) (download : ℕ) (error : Option ImageError) :
    SDWebImageManager Image :=
  let known := manager.downloads download
  let ended := manager.modifyDownload download fun known => { known with dataTask := false }
  let completing (manager : SDWebImageManager Image) :=
    manager.modifyDownload download fun known => { known with completing := true }
  match error with
  | some error => completing (ended.callCompletionBlocks download (.error (known.responseError.getD error)))
  | none =>
      if known.callbackBlocks = [] then completing ended
      else match known.imageData with
        | none => completing (ended.callCompletionBlocks download (.error .badImageData))
        | some data => ended.enqueueDecoding download data

/-- The decoded data of a download is handed to its loads. -/
def decoded (manager : SDWebImageManager Image) (download : ℕ) (data : List UInt8) : SDWebImageManager Image :=
  (manager.callCompletionBlocks download (coders.decode data (manager.downloads download).url)).modifyDownload download
    fun known => { known with coderQueue := none, completing := true }

def done (manager : SDWebImageManager Image) (download : ℕ) : SDWebImageManager Image :=
  manager.modifyDownload download fun known =>
    { known with isFinished := true, completing := false, callbackBlocks := [], dataTask := false }

/-- The completion block of a download removes what the address has now. -/
def removeDownload (manager : SDWebImageManager Image) (download : ℕ) : SDWebImageManager Image :=
  let manager := manager.modifyDownload download fun known => { known with completionBlock := true }
  { manager with
    URLOperations := Function.update manager.URLOperations (manager.downloads download).url none }

def step? (manager : SDWebImageManager Image) : ImageEvent → Option (SDWebImageManager Image)
  | .setImage view url => some (manager.setImage view url)
  | .main =>
      match manager.mainQueue with
      | block :: rest => some ({ manager with mainQueue := rest }.runMain block)
      | [] => none
  | .io =>
      match manager.ioQueue with
      | block :: rest => some ({ manager with ioQueue := rest }.runDisk coders block)
      | [] => none
  | .start download made =>
      if download < manager.nextDownload ∧ (manager.downloads download).started = false then
        some (manager.start download made)
      else none
  | .didReceiveResponse download statusCode =>
      if (manager.downloads download).dataTask then
        some (manager.modifyDownload download fun known => known.didReceiveResponse statusCode)
      else none
  | .didReceiveData download data =>
      if (manager.downloads download).dataTask then
        some (manager.modifyDownload download fun known => known.didReceiveData data)
      else none
  | .didComplete download error =>
      if (manager.downloads download).dataTask then some (manager.didComplete download error) else none
  | .decoded download =>
      match (manager.downloads download).coderQueue with
      | some data => some (manager.decoded coders download data)
      | none => none
  | .done download => if (manager.downloads download).completing then some (manager.done download) else none
  | .completionBlock download =>
      if (manager.downloads download).isFinished ∧ (manager.downloads download).completionBlock = false then
        some (manager.removeDownload download)
      else none
  | .memoryEvicted key => some { manager with memoryCache := Function.update manager.memoryCache key none }
  | .released key =>
      if manager.memoryCache key = none then
        some { manager with weakCache := Function.update manager.weakCache key none }
      else none
  | .diskExpired key => some { manager with diskCache := Function.update manager.diskCache key none }

/-- The manager as a machine over its events. -/
def machine (disk : String → Option (List UInt8)) : Machine.System (SDWebImageManager Image) ImageEvent :=
  ⟨initial disk, step? coders⟩

/-- Pictures that are their own data. -/
def sampleCoders : Coders (List UInt8) := ⟨fun data _ => some data, fun data _ => some data, fun image => image ≠ []⟩

/-- A view asks for a picture, the disk has none, and its data is decoded. The load is not told yet. -/
def sampleDecoded : List ImageEvent :=
  [.setImage 0 (some "u"), .io, .main, .start 0 true, .didReceiveData 0 [1], .didComplete 0 none, .decoded 0]

/-- Another view asks for it, and the first one is told before the second one finds the download, which is
about to end. -/
def sampleLate : List ImageEvent :=
  sampleDecoded ++ [.setImage 1 (some "u"), .io, .main, .main, .done 0, .completionBlock 0, .io]

/-- A view asks for a picture, and the server sends no data for it. -/
def sampleFailed : List ImageEvent :=
  [.setImage 0 (some "u"), .io, .main, .start 0 true, .didReceiveResponse 0 200, .didComplete 0 none, .done 0,
    .completionBlock 0, .main]

end SDWebImageManager

end LoginDN.SDWebImage
