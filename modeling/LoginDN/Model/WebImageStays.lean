import LoginDN.Model.WebImageQueues

/-! # What other loads leave alone

A load that runs is changed only by its own answer and by a new address of its view. A view whose load
has been answered is changed only by a new address. So a load that is lost stays lost.
-/

namespace LoginDN.SDWebImage.SDWebImageManager

variable {Image : Type} {coders : Coders Image} {disk : String → Option (List UInt8)}
  {manager target : SDWebImageManager Image} {view operation : ℕ} {url : String} {event : ImageEvent}
  {answer : Except ImageError (Image × List UInt8)}

/-! ## Running loads -/

theorem operations_downloadImage_of_ne {other : ℕ} (different : operation ≠ other) :
    (manager.downloadImage url other).operations operation = manager.operations operation := by
  unfold downloadImage
  refine (operations_modifyOperation_of_ne different _).trans ?_
  split
  · split
    · rfl
    · exact operations_modifyOperation_of_ne different _
  · rfl

theorem operations_completeAll_of_not_mem {operations : List ℕ} (absent : operation ∉ operations) :
    (operations.foldl (loaderCompleted answer) manager).operations operation = manager.operations operation := by
  induction operations generalizing manager with
  | nil => rfl
  | cons told rest ih =>
    obtain ⟨result, completes⟩ := @completes_loaderCompleted _ manager told answer
    rw [List.mem_cons, not_or] at absent
    exact (ih absent.2).trans (completes.of_ne absent.1)

theorem operations_runMain {block : MainBlock Image} (unasked : block.queried? ≠ some operation)
    (untold : ∀ operations result, block = .downloaded operations result → operation ∉ operations) :
    (manager.runMain block).operations operation = manager.operations operation := by
  cases block with
  | queried other image =>
    have different : operation ≠ other := fun same => unasked (congrArg some same.symm)
    obtain ⟨result, completes⟩ | ⟨_, same⟩ := @cacheCompleted_cases _ manager other image
    · exact completes.of_ne different
    · rw [runMain, same]
      exact operations_downloadImage_of_ne different
  | downloaded operations result => exact operations_completeAll_of_not_mem (untold operations result rfl)
  | cancelled other => rfl

theorem operations_runDisk (viewed : manager.Viewed) (running : (manager.operations operation).running = true)
    (block : IOBlock) : (manager.runDisk coders block).operations operation = manager.operations operation := by
  cases block with
  | store key data => rfl
  | query other =>
    unfold runDisk
    dsimp only
    split
    · next cancelled =>
      have different : operation ≠ other := by
        rintro rfl
        rw [viewed.halted operation (.inr cancelled)] at running
        contradiction
      exact Function.update_of_ne different ..
    · split
      · rfl
      · rfl

theorem operations_setImageLoadOperation (entry : (manager.views view).imageLoadOperation = none) {other : ℕ} :
    (manager.setImageLoadOperation view other).operations = manager.operations := by
  rw [setImageLoadOperation_of_none entry]
  rfl

/-- A view that is given an address cancels its own load only. -/
theorem operations_setImage (viewed : manager.Viewed) (running : (manager.operations operation).running = true)
    (elsewhere : (manager.operations operation).view ≠ view) (address : Option String) :
    (manager.setImage view address).operations operation = manager.operations operation := by
  obtain ⟨cancelled, changed, cancels, _, only, _, same⟩ := cancelImageLoadOperation_cases viewed view
  have kept : (manager.prepareView view address).operations operation = manager.operations operation := by
    rw [prepareView, same]
    exact cancels.others operation fun mine => elsewhere ((only operation running).mpr mine)
  unfold setImage
  cases address with
  | none => exact kept
  | some url =>
    have prepared := views_prepared viewed view (some url)
    obtain ⟨outcome, loads⟩ := @loads_loadImage _ (manager.prepareView view (some url)) view url
    have next : (manager.prepareView view (some url)).nextOperation = manager.nextOperation := by
      rw [prepareView, same]
      exact cancels.nextOperation
    dsimp only
    rw [operations_setImageLoadOperation (by rw [loads.self, prepared]), loads.old, kept]
    rw [next]
    exact Nat.ne_of_lt (viewed.known operation running)

theorem operations_start {download : ℕ} {made : Bool} : (manager.start download made).operations = manager.operations := by
  unfold start
  split
  · rfl
  · split <;> rfl

theorem operations_didComplete {download : ℕ} {error : Option ImageError} :
    (manager.didComplete download error).operations = manager.operations := by
  unfold didComplete
  dsimp only
  split
  · rfl
  · split
    · rfl
    · split <;> rfl

/-- What becomes of a running load in a step. -/
theorem operations_step (viewed : manager.Viewed) (running : (manager.operations operation).running = true)
    (step : manager.step? coders event = some target) :
    target.operations operation = manager.operations operation ∨ operation ∈ manager.queries ∨
      manager.Told operation ∨ ∃ address, event = .setImage (manager.operations operation).view address := by
  cases step?_stepped step with
  | setImage view address =>
    by_cases mine : (manager.operations operation).view = view
    · exact .inr (.inr (.inr ⟨address, by rw [mine]⟩))
    · exact .inl (operations_setImage viewed running mine address)
  | main block rest waiting =>
    have member : block ∈ manager.mainQueue := by
      rw [waiting]
      exact List.mem_cons_self ..
    by_cases asked : block.queried? = some operation
    · exact .inr (.inl (List.mem_append_right _ (List.mem_filterMap.mpr ⟨block, member, asked⟩)))
    · by_cases told : ∃ operations result, block = .downloaded operations result ∧ operation ∈ operations
      · obtain ⟨operations, result, rfl, mine⟩ := told
        exact .inr (.inr (.inl ⟨operations, result, member, mine⟩))
      · exact .inl (operations_runMain asked fun operations result same mine => told ⟨operations, result, same, mine⟩)
  | io block rest =>
    have popped : ({ manager with ioQueue := rest } : SDWebImageManager Image).Viewed := viewed.of_same rfl rfl rfl rfl
    exact .inl (operations_runDisk popped running block)
  | start => exact .inl (by rw [operations_start])
  | didComplete => exact .inl (by rw [operations_didComplete])
  | _ => exact .inl rfl

/-- A load that has joined a download too late is changed by a new address of its view only. -/
theorem late_step (viewed : manager.Viewed) (placed : manager.Placed)
    (running : (manager.operations operation).running = true) (late : (manager.operations operation).late = true)
    (elsewhere : ∀ address, event ≠ .setImage (manager.operations operation).view address)
    (step : manager.step? coders event = some target) :
    target.operations operation = manager.operations operation := by
  cases placed.place operation running with
  | lost unasked loader _ listed untold =>
    obtain same | asked | told | ⟨address, mine⟩ := operations_step viewed running step
    · exact same
    · exact absurd asked unasked
    · exact absurd told untold
    · exact absurd mine (elsewhere address)
  | asking _ _ early => simp [early] at late
  | waiting _ _ _ early => simp [early] at late
  | told _ _ early => simp [early] at late

/-- A view shows nothing as long as its load runs. -/
theorem Display.blank_of_running (display : manager.Display view)
    (entry : (manager.views view).imageLoadOperation = some operation)
    (running : (manager.operations operation).running = true) : (manager.views view).image = none := by
  cases display with
  | blank missing unset empty => exact empty
  | loading other entered owner address runs empty => exact empty
  | completed other result entered owner address released called shown =>
    obtain rfl := Option.some.inj (entered.symm.trans entry)
    rw [released] at running
    contradiction

/-! ## Answered views -/

/-- No load runs for the view. -/
def Quiet (manager : SDWebImageManager Image) (view : ℕ) : Prop :=
  ∀ operation, (manager.operations operation).running = true → (manager.operations operation).view ≠ view

theorem Viewed.quiet (viewed : manager.Viewed) (entry : (manager.views view).imageLoadOperation = some operation)
    (released : (manager.operations operation).running = false) : manager.Quiet view := by
  intro other running mine
  have entered := viewed.current other running
  rw [mine, entry] at entered
  obtain rfl := Option.some.inj entered
  rw [released] at running
  contradiction

theorem Completes.quiet {result : Except ImageError Image} (completes : Completes operation result manager target)
    (quiet : manager.Quiet view) : target.Quiet view ∧ target.views view = manager.views view := by
  refine ⟨fun other running => ?_, ?_⟩
  · obtain ⟨_, same⟩ := completes.running running
    rw [same] at running ⊢
    exact quiet other running
  · cases result with
    | error error => rw [completes.views, views_callCompletionBlock_error]
    | ok image => exact completes.views_of_ne (quiet operation (completes.alive nofun).1).symm

theorem SameViews.quiet (same : SameViews manager target) (quiet : manager.Quiet view) :
    target.Quiet view ∧ target.views view = manager.views view := by
  refine ⟨fun other running => ?_, by rw [same.views]⟩
  rw [same.view]
  exact quiet other ((same.running other).symm.trans running)

theorem quiet_runMain (quiet : manager.Quiet view) (block : MainBlock Image)
    (released : ∀ operation, block = .cancelled operation → (manager.operations operation).running = false) :
    (manager.runMain block).Quiet view ∧ (manager.runMain block).views view = manager.views view := by
  cases block with
  | queried operation image =>
    obtain ⟨result, completes⟩ | ⟨_, same⟩ := @cacheCompleted_cases _ manager operation image
    · exact completes.quiet quiet
    · rw [runMain, same]
      exact sameViews_downloadImage.quiet quiet
  | downloaded operations result =>
    refine @completeAll_induction _ manager result
      (fun target => target.Quiet view ∧ target.views view = manager.views view) operations (fun completes start => ?_)
      ⟨quiet, rfl⟩
    obtain ⟨still, same⟩ := completes.quiet start.1
    exact ⟨still, same.trans start.2⟩
  | cancelled operation => exact (completes_released (released operation rfl)).quiet quiet

theorem quiet_setImage (viewed : manager.Viewed) (quiet : manager.Quiet view) {other : ℕ} (different : view ≠ other)
    (address : Option String) : (manager.setImage other address).Quiet view ∧
      (manager.setImage other address).views view = manager.views view := by
  obtain ⟨cancelled, changed, cancels, released, _, _, same⟩ := cancelImageLoadOperation_cases viewed other
  have blank : (manager.prepareView other address).Quiet view := by
    rw [prepareView, same]
    intro known running
    obtain ⟨_, kept⟩ := cancels.running released running
    change (changed.operations known).view ≠ view
    change (changed.operations known).running = true at running
    rw [kept] at running ⊢
    exact quiet known running
  have shown : (manager.prepareView other address).views view = manager.views view := by
    rw [prepareView, same, views_modifyView_of_ne different, views_modifyView_of_ne different, cancels.views]
  unfold setImage
  cases address with
  | none => exact ⟨blank, shown⟩
  | some url =>
    have prepared := views_prepared viewed other (some url)
    obtain ⟨outcome, loads⟩ := @loads_loadImage _ (manager.prepareView other (some url)) other url
    have entry : (((manager.prepareView other (some url)).loadImage other url).views other).imageLoadOperation = none := by
      rw [loads.self, prepared]
    refine ⟨fun known running => ?_, ?_⟩
    · dsimp only at running ⊢
      rw [operations_setImageLoadOperation entry] at running ⊢
      by_cases new : known = (manager.prepareView other (some url)).nextOperation
      · subst new
        rw [loads.new]
        exact different.symm
      · rw [loads.old known new] at running ⊢
        exact blank known running
    · dsimp only
      rw [setImageLoadOperation_of_none entry, views_modifyView_of_ne different, views_modifyView_of_ne different,
        loads.others view different, shown]

/-- A view for which no load runs is changed by a new address only. -/
theorem quiet_step (sound : Sound coders disk manager) (viewed : manager.Viewed) (quiet : manager.Quiet view)
    (elsewhere : ∀ address, event ≠ .setImage view address) (step : manager.step? coders event = some target) :
    target.Quiet view ∧ target.views view = manager.views view := by
  cases step?_stepped step with
  | setImage other address =>
    refine quiet_setImage viewed quiet (fun same => ?_) address
    exact elsewhere address (by rw [same])
  | main block rest waiting =>
    refine @quiet_runMain _ { manager with mainQueue := rest } view quiet block fun operation same => ?_
    obtain ⟨_, carried⟩ := sound.popMain waiting
    rw [same] at carried
    exact carried.2
  | _ => exact (sameViews_step viewed (by simp) (by simp) step).quiet quiet

/-! ## Addresses -/

theorem imageURL_setImage (viewed : manager.Viewed) (view other : ℕ) (address : Option String) :
    ((manager.setImage view address).views other).imageURL =
      if other = view then address else (manager.views other).imageURL := by
  obtain ⟨_, cancelled, cancels, _, _, _, same⟩ := cancelImageLoadOperation_cases viewed view
  have prepared := views_prepared viewed view address
  have elsewhere (different : other ≠ view) : (manager.prepareView view address).views other = manager.views other := by
    rw [prepareView, same, views_modifyView_of_ne different, views_modifyView_of_ne different, cancels.views]
  have blank : ((manager.prepareView view address).views other).imageURL =
      if other = view then address else (manager.views other).imageURL := by
    split
    · next mine => rw [mine, prepared]
    · next different => rw [elsewhere different]
  unfold setImage
  cases address with
  | none => exact blank
  | some url =>
    obtain ⟨outcome, loads⟩ := @loads_loadImage _ (manager.prepareView view (some url)) view url
    have entry : (((manager.prepareView view (some url)).loadImage view url).views view).imageLoadOperation = none := by
      rw [loads.self, prepared]
    dsimp only
    rw [setImageLoadOperation_of_none entry, ← blank]
    by_cases mine : other = view
    · rw [mine, views_modifyView_self, views_modifyView_self, loads.self]
    · rw [views_modifyView_of_ne mine, views_modifyView_of_ne mine, loads.others other mine]

theorem imageURL_runMain (block : MainBlock Image) :
    ((manager.runMain block).views view).imageURL = (manager.views view).imageURL := by
  cases block with
  | queried operation image =>
    obtain ⟨result, completes⟩ | ⟨_, same⟩ := @cacheCompleted_cases _ manager operation image
    · exact (completes.entry view).2
    · rw [runMain, same, sameViews_downloadImage.views]
  | downloaded operations result =>
    exact @completeAll_induction _ manager result
      (fun target => (target.views view).imageURL = (manager.views view).imageURL) operations
      (fun completes start => (completes.entry view).2.trans start) rfl
  | cancelled operation =>
    change ((manager.callCompletionBlock operation (.error .cancelled)).views view).imageURL = _
    rw [views_callCompletionBlock_error]

/-- Only the app gives an address to a view. -/
theorem imageURL_step (viewed : manager.Viewed) (unasked : ∀ view address, event ≠ .setImage view address)
    (step : manager.step? coders event = some target) :
    (target.views view).imageURL = (manager.views view).imageURL := by
  cases step?_stepped step with
  | setImage view address => exact absurd rfl (unasked view address)
  | main block rest => exact @imageURL_runMain _ { manager with mainQueue := rest } view block
  | _ => rw [(sameViews_step viewed (by simp) (by simp) step).views]

end LoginDN.SDWebImage.SDWebImageManager
