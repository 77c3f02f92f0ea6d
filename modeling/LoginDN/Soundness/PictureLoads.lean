import LoginDN.Model.WebImageAnswers

/-! # What becomes of the load of a picture

A view shows what its last load brought, and keeps it until it is given another address. Once nothing goes
on by itself any more every load has been answered, but for those that joined a download after its loads
were told: these are never answered. An address that failed for good is refused from then on.
-/

namespace LoginDN.SDWebImage.SDWebImageManager

open Machine

variable {Image : Type} {coders : Coders Image} {disk : String → Option (List UInt8)}
  {manager target : SDWebImageManager Image} {view operation : ℕ} {url : String} {event : ImageEvent}
  {events after : List ImageEvent}

/-- What every reachable state satisfies. -/
structure Kept (coders : Coders Image) (disk : String → Option (List UInt8)) (manager : SDWebImageManager Image) : Prop where
  sound : Sound coders disk manager
  viewed : manager.Viewed
  placed : manager.Placed
  answers : manager.Answers
  cancelled : ∀ operation, (manager.operations operation).isCancelled = true → operation < manager.nextOperation

theorem kept_initial : Kept coders disk (initial disk) :=
  ⟨sound_initial, viewed_initial, placed_initial, answers_initial, nofun⟩

theorem Kept.step (kept : Kept coders disk manager) (step : manager.step? coders event = some target) :
    Kept coders disk target where
  sound := kept.sound.keeps (keeps_step kept.sound step)
  viewed := viewed_step kept.sound kept.viewed step
  placed := placed_step kept.sound kept.viewed kept.placed step
  answers := answers_step kept.sound kept.viewed kept.answers step
  cancelled operation cancelled := by
    refine Nat.lt_of_lt_of_le ?_ (keeps_step kept.sound step).next
    exact (isCancelled_step kept.viewed step cancelled).elim (kept.cancelled operation) And.right

theorem kept_of_reaches (reached : (machine coders disk).Reaches events manager) : Kept coders disk manager :=
  reached.invariant kept_initial fun _ _ _ kept step => kept.step step

/-! ## At rest -/

/-- Nothing goes on by itself: the queues are empty, and every download there is has come to its end. -/
structure AtRest (manager : SDWebImageManager Image) : Prop where
  mainQueue : manager.mainQueue = []
  ioQueue : manager.ioQueue = []
  started : ∀ download < manager.nextDownload, (manager.downloads download).started = true
  dataTask : ∀ download < manager.nextDownload, (manager.downloads download).dataTask = false
  coderQueue : ∀ download < manager.nextDownload, (manager.downloads download).coderQueue = none
  completing : ∀ download < manager.nextDownload, (manager.downloads download).completing = false

namespace AtRest

/-- No load waits for a download any more. -/
theorem callbackBlocks (rest : manager.AtRest) (placed : manager.Placed) (download : ℕ) :
    (manager.downloads download).callbackBlocks = [] := by
  by_contra listed
  have below := placed.made download listed
  cases placed.phase download with
  | queued started => simp [rest.started download below] at started
  | running _ dataTask => simp [rest.dataTask download below] at dataTask
  | decoding data _ _ coderQueue => simp [rest.coderQueue download below] at coderQueue
  | completing _ _ _ completing => simp [rest.completing download below] at completing
  | ended _ _ _ _ _ quiet => exact listed quiet

/-- A load that still runs is lost. -/
theorem late (rest : manager.AtRest) (placed : manager.Placed)
    (running : (manager.operations operation).running = true) : (manager.operations operation).late = true := by
  cases placed.place operation running with
  | asking asked =>
    rw [count_queries, rest.ioQueue, rest.mainQueue] at asked
    contradiction
  | waiting download _ _ _ listed =>
    rw [rest.callbackBlocks placed] at listed
    contradiction
  | told _ _ _ told =>
    obtain ⟨operations, result, queued, _⟩ := told
    rw [rest.mainQueue] at queued
    contradiction
  | lost _ _ late => exact late

end AtRest

/-- At rest the load of a view has been answered or is lost. -/
theorem Kept.settled (kept : Kept coders disk manager) (rest : manager.AtRest)
    (addressed : (manager.views view).imageURL = some url) :
    ∃ operation, (manager.views view).imageLoadOperation = some operation ∧ (manager.operations operation).url = url ∧
      ((∃ result, (operation, result) ∈ manager.completed ∧ (manager.views view).image = result.toOption) ∨
        (manager.operations operation).late = true ∧ (manager.views view).image = none) := by
  cases kept.viewed.display view with
  | blank entry unset empty =>
    rw [addressed] at unset
    contradiction
  | loading operation entry owner address running empty =>
    exact ⟨operation, entry, Option.some.inj (address.symm.trans addressed), .inr ⟨rest.late kept.placed running, empty⟩⟩
  | completed operation result entry owner address released called shown =>
    exact ⟨operation, entry, Option.some.inj (address.symm.trans addressed), .inl ⟨result, called, shown⟩⟩

/-- At rest every view with an address refers to a load of it. That load has been answered and the view
shows the picture of the answer, if there is one, or it joined a download too late and the view is blank. -/
theorem view_at_rest (reached : (machine coders disk).Reaches events manager) (rest : manager.AtRest)
    (addressed : (manager.views view).imageURL = some url) :
    ∃ operation, (manager.views view).imageLoadOperation = some operation ∧ (manager.operations operation).url = url ∧
      ((∃ result, (operation, result) ∈ manager.completed ∧ (manager.views view).image = result.toOption) ∨
        (manager.operations operation).late = true ∧ (manager.views view).image = none) :=
  (kept_of_reaches reached).settled rest addressed

/-- One of two views for the same address shows its picture, the other one came too late. -/
theorem views_at_rest_after_late : ∃ manager, (machine sampleCoders fun _ => none).Reaches sampleLate manager ∧
    (manager.views 0).image = some [1] ∧ (manager.views 1).image = none ∧
    ∃ operation, (manager.views 1).imageLoadOperation = some operation ∧ (manager.operations operation).url = "u" ∧
      ((∃ result, (operation, result) ∈ manager.completed ∧ (manager.views 1).image = result.toOption) ∨
        (manager.operations operation).late = true ∧ (manager.views 1).image = none) := by
  have run : ((machine sampleCoders fun _ => none).run? (initial fun _ => none) sampleLate).map (fun manager =>
      decide ((manager.views 0).image = some [1] ∧ (manager.views 1).image = none ∧
        (manager.views 1).imageURL = some "u" ∧ manager.mainQueue.length = 0 ∧ manager.ioQueue.length = 0 ∧
        manager.nextDownload = 1 ∧ (manager.downloads 0).started = true ∧ (manager.downloads 0).dataTask = false ∧
        (manager.downloads 0).coderQueue = none ∧ (manager.downloads 0).completing = false)) = some true := by
    decide +kernel
  obtain ⟨manager, reached, observed⟩ := Option.map_eq_some_iff.mp run
  simp only [decide_eq_true_eq, List.length_eq_zero_iff] at observed
  obtain ⟨first, second, address, main, io, made, started, dataTask, coderQueue, completing⟩ := observed
  have only (download : ℕ) (below : download < manager.nextDownload) : download = 0 := by omega
  refine ⟨manager, reached, first, second, view_at_rest reached ⟨main, io, ?_, ?_, ?_, ?_⟩ address⟩
  all_goals
    intro download below
    rw [only download below]
    assumption

/-! ## Lost loads -/

/-- A load that joined a download too late runs for ever: whatever happens, until its view is given another
address it is not answered and the view stays blank. -/
theorem late_load_unanswered (reached : (machine coders disk).Reaches events manager)
    (running : (manager.operations operation).running = true) (late : (manager.operations operation).late = true)
    (run : (machine coders disk).run? manager after = some target)
    (elsewhere : ∀ address, .setImage (manager.operations operation).view address ∉ after) :
    target.operations operation = manager.operations operation ∧ (∀ result, (operation, result) ∉ target.completed) ∧
      (target.views (manager.operations operation).view).image = none := by
  have every : Kept coders disk target ∧ target.operations operation = manager.operations operation := by
    refine @System.run?_preserves_mem _ _ (machine coders disk) manager target after
      (fun state => Kept coders disk state ∧ state.operations operation = manager.operations operation)
      (fun state next event member inv step => ?_) ⟨kept_of_reaches reached, rfl⟩ run
    obtain ⟨kept, same⟩ := inv
    refine ⟨kept.step step, (late_step kept.viewed kept.placed ?_ ?_ (fun address equal => ?_) step).trans same⟩
    · rw [same, running]
    · rw [same, late]
    · rw [same] at equal
      rw [equal] at member
      exact elsewhere address member
  obtain ⟨kept, same⟩ := every
  have runs : (target.operations operation).running = true := by rw [same, running]
  refine ⟨same, fun result called => ?_, ?_⟩
  · rw [(kept.viewed.uncalled operation result called).2] at runs
    contradiction
  · rw [← same]
    exact (kept.viewed.display _).blank_of_running (kept.viewed.current operation runs) runs

/-- A third view asks for the address in vain to hurry the second one. -/
theorem late_load_unanswered_next : ∃ manager target, (machine sampleCoders fun _ => none).Reaches sampleLate manager ∧
    (machine sampleCoders fun _ => none).run? manager [.setImage 2 (some "u"), .memoryEvicted "u"] = some target ∧
    (target.operations 1 = manager.operations 1 ∧ (∀ result, (1, result) ∉ target.completed) ∧
      (target.views (manager.operations 1).view).image = none) := by
  have run : ((machine sampleCoders fun _ => none).run? (initial fun _ => none) sampleLate).map (fun manager =>
      (((machine sampleCoders fun _ => none).run? manager [.setImage 2 (some "u"), .memoryEvicted "u"]).isSome,
        (manager.operations 1).view, (manager.operations 1).running, (manager.operations 1).late)) =
        some (true, 1, true, true) := by decide +kernel
  obtain ⟨manager, reached, observed⟩ := Option.map_eq_some_iff.mp run
  simp only [Prod.mk.injEq, Option.isSome_iff_exists] at observed
  obtain ⟨⟨target, later⟩, own, running, late⟩ := observed
  refine ⟨manager, target, reached, later, late_load_unanswered reached running late later fun address member => ?_⟩
  rw [own] at member
  simp at member

/-! ## Answered loads -/

/-- A load that does not run any more is told only that it was cancelled, whatever happens. -/
theorem Kept.toldCancelled (kept : Kept coders disk manager) (known : operation < manager.nextOperation)
    (released : (manager.operations operation).running = false)
    (run : (machine coders disk).run? manager after = some target) : ToldCancelled operation manager target := by
  have every : Kept coders disk target ∧ operation < target.nextOperation ∧
      (target.operations operation).running = false ∧ ToldCancelled operation manager target := by
    refine @System.run?_preserves _ _ (machine coders disk) manager target after
      (fun state => Kept coders disk state ∧ operation < state.nextOperation ∧
        (state.operations operation).running = false ∧ ToldCancelled operation manager state)
      (fun state event next inv step => ?_) ⟨kept, known, released, Appends.refl _⟩ run
    obtain ⟨kept, known, released, told⟩ := inv
    have grows := (keeps_step kept.sound step).toGrows
    refine ⟨kept.step step, Nat.lt_of_lt_of_le known grows.next, grows.released operation known released,
      Appends.trans told (toldCancelled_of_told (told_step kept.viewed step) ?_)⟩
    rintro (new | ⟨_, alive⟩)
    · omega
    · rw [alive.1] at released
      contradiction
  exact every.2.2.2

/-- A load that runs has been told nothing, one that has been told something is told at most that it was
cancelled, and from the event on that cancels it a load is told nothing but this. -/
theorem load_answered_once (reached : (machine coders disk).Reaches events manager) (operation : ℕ) :
    ((manager.operations operation).running = true → manager.calls operation = []) ∧
      (∀ result ∈ (manager.calls operation).tail, result = .error .cancelled) ∧
      ∀ event next after target, manager.step? coders event = some next →
        (next.operations operation).isCancelled = true → (machine coders disk).run? next after = some target →
        ToldCancelled operation manager target := by
  have kept := kept_of_reaches reached
  refine ⟨kept.answers.calls_of_running, kept.answers.later operation, fun event next after target step cancelled run => ?_⟩
  have later := kept.step step
  have halted := later.viewed.halted operation (.inl cancelled)
  refine Appends.trans ?_ (later.toldCancelled (later.cancelled operation cancelled) halted run)
  refine toldCancelled_of_told (told_step kept.viewed step) ?_
  obtain before | ⟨other, known⟩ := isCancelled_step kept.viewed step cancelled
  · rintro (new | ⟨_, alive⟩)
    · have known := kept.cancelled operation before
      omega
    · rw [alive.2] at before
      contradiction
  · rintro (new | ⟨main, _⟩)
    · omega
    · exact other main

/-- A load that was cancelled is told so twice, by its cancellation and by its download. -/
theorem load_answered_once_twice : ∃ manager next target,
    (machine sampleCoders fun _ => none).Reaches sampleDecoded manager ∧
    manager.step? sampleCoders (.setImage 0 none) = some next ∧
    (machine sampleCoders fun _ => none).run? next [.main] = some target ∧
    manager.calls 0 = [] ∧ (target.calls 0).length = 2 ∧ (next.operations 0).isCancelled = true ∧
    (((manager.operations 0).running = true → manager.calls 0 = []) ∧
      (∀ result ∈ (manager.calls 0).tail, result = .error .cancelled) ∧ ToldCancelled 0 manager target) := by
  have run : ((machine sampleCoders fun _ => none).run? (initial fun _ => none) sampleDecoded).bind (fun manager =>
      (manager.step? sampleCoders (.setImage 0 none)).bind fun next =>
        ((machine sampleCoders fun _ => none).run? next [.main]).map fun target =>
          decide (manager.calls 0 = [] ∧ (target.calls 0).length = 2 ∧ (next.operations 0).isCancelled = true)) =
      some true := by decide +kernel
  obtain ⟨manager, reached, rest⟩ := Option.bind_eq_some_iff.mp run
  obtain ⟨next, step, last⟩ := Option.bind_eq_some_iff.mp rest
  obtain ⟨target, later, observed⟩ := Option.map_eq_some_iff.mp last
  simp only [decide_eq_true_eq] at observed
  obtain ⟨untold, twice, cancelled⟩ := observed
  obtain ⟨silent, tail, told⟩ := load_answered_once reached 0
  exact ⟨manager, next, target, reached, step, later, untold, twice, cancelled, silent, tail,
    told _ next _ target step cancelled later⟩

/-- What the view shows changes only with its address, once no load runs for it. -/
theorem Quiet.run (kept : Kept coders disk manager) (quiet : manager.Quiet view)
    (run : (machine coders disk).run? manager after = some target)
    (elsewhere : ∀ address, .setImage view address ∉ after) : target.views view = manager.views view := by
  have every : Kept coders disk target ∧ target.Quiet view ∧ target.views view = manager.views view := by
    refine @System.run?_preserves_mem _ _ (machine coders disk) manager target after
      (fun state => Kept coders disk state ∧ state.Quiet view ∧ state.views view = manager.views view)
      (fun state next event member inv step => ?_) ⟨kept, quiet, rfl⟩ run
    obtain ⟨kept, quiet, same⟩ := inv
    have mine (address : Option String) : event ≠ .setImage view address := by
      rintro rfl
      exact elsewhere address member
    obtain ⟨still, kept'⟩ := quiet_step kept.sound kept.viewed quiet mine step
    exact ⟨kept.step step, still, kept'.trans same⟩
  exact every.2.2

/-- Once the load of a view has been answered the view stays as it is until it is given an address,
whatever becomes of all other loads, of the downloads and of the caches. -/
theorem answered_view_stays {result : Except ImageError Image}
    (reached : (machine coders disk).Reaches events manager)
    (entry : (manager.views view).imageLoadOperation = some operation)
    (answered : (operation, result) ∈ manager.completed)
    (run : (machine coders disk).run? manager after = some target)
    (elsewhere : ∀ address, .setImage view address ∉ after) : target.views view = manager.views view := by
  have kept := kept_of_reaches reached
  have released := (kept.viewed.uncalled operation result answered).2
  exact (kept.viewed.quiet entry released).run kept run elsewhere

/-- The answered view keeps its picture though its copies are dropped and another view asks for it. -/
theorem answered_view_stays_next : ∃ manager target, (machine sampleCoders fun _ => none).Reaches sampleLate manager ∧
    (machine sampleCoders fun _ => none).run? manager [.diskExpired "u", .memoryEvicted "u", .setImage 1 none] =
      some target ∧ (manager.views 0).image = some [1] ∧ target.views 0 = manager.views 0 := by
  have run : ((machine sampleCoders fun _ => none).run? (initial fun _ => none) sampleLate).map (fun manager =>
      decide (((machine sampleCoders fun _ => none).run? manager
        [.diskExpired "u", .memoryEvicted "u", .setImage 1 none]).isSome = true ∧
        (manager.views 0).imageLoadOperation = some 0 ∧ (manager.views 0).image = some [1] ∧
        manager.completed.map Prod.fst = [0])) = some true := by decide +kernel
  obtain ⟨manager, reached, observed⟩ := Option.map_eq_some_iff.mp run
  simp only [decide_eq_true_eq, Option.isSome_iff_exists] at observed
  obtain ⟨⟨target, later⟩, entry, shown, calls⟩ := observed
  obtain ⟨⟨told, result⟩, rest, completed, rfl, _⟩ := List.map_eq_cons_iff.mp calls
  have answered : (0, result) ∈ manager.completed := by
    rw [completed]
    exact List.mem_cons_self ..
  refine ⟨manager, target, reached, later, shown, answered_view_stays reached entry answered later fun address member => ?_⟩
  simp at member

/-- Once a load of an address has failed with an error that does not pass, a view that is given the address
later shows nothing until it is given another, whatever the caches and the network have by then. -/
theorem failed_address_stays_blank {error : ImageError} {between : List ImageEvent}
    (reached : (machine coders disk).Reaches events manager)
    (failed : (operation, .error error) ∈ manager.completed) (blocking : error.shouldBlockFailedURL = true)
    (named : (manager.operations operation).url ≠ "")
    (run : (machine coders disk).run? manager
      (between ++ .setImage view (some (manager.operations operation).url) :: after) = some target)
    (elsewhere : ∀ address, .setImage view address ∉ after) : (target.views view).image = none := by
  obtain ⟨middle, first, rest⟩ := System.run?_append_iff.mp run
  obtain ⟨given, step, last⟩ := System.run?_cons_iff.mp rest
  have before := kept_of_reaches reached
  have every : Kept coders disk middle ∧ (operation, .error error) ∈ middle.completed ∧
      (middle.operations operation).url = (manager.operations operation).url := by
    refine @System.run?_preserves _ _ (machine coders disk) manager middle between
      (fun state => Kept coders disk state ∧ (operation, .error error) ∈ state.completed ∧
        (state.operations operation).url = (manager.operations operation).url)
      (fun state event next inv step => ?_) ⟨before, failed, rfl⟩ first
    obtain ⟨kept, called, same⟩ := inv
    refine ⟨kept.step step, completed_step kept.viewed step called, ?_⟩
    rw [(keeps_step kept.sound step).url operation (kept.answers.known operation _ called), same]
  obtain ⟨kept, called, same⟩ := every
  have listed := kept.answers.blocks operation error called blocking (by rw [same]; exact named)
  rw [same] at listed
  change middle.step? coders (.setImage view (some (manager.operations operation).url)) = some given at step
  have later := kept.step step
  obtain rfl := Option.some.inj step
  obtain ⟨blank, quiet⟩ := @setImage_blocked _ middle view _ kept.viewed listed
  rw [quiet.run later last elsewhere, blank]

/-- The address is asked for again by another view, when the disk could be asked. -/
theorem failed_address_stays_blank_next : ∃ manager target,
    (machine sampleCoders fun _ => none).Reaches sampleFailed manager ∧
    (machine sampleCoders fun _ => none).run? manager ([] ++ .setImage 1 (some (manager.operations 0).url) ::
      [.memoryEvicted "u"]) = some target ∧ (target.views 1).image = none := by
  have run : ((machine sampleCoders fun _ => none).run? (initial fun _ => none) sampleFailed).map (fun manager =>
      decide (((machine sampleCoders fun _ => none).run? manager ([] ++ .setImage 1 (some (manager.operations 0).url) ::
        [.memoryEvicted "u"])).isSome = true ∧ (manager.operations 0).url = "u" ∧
        (0, .error .badImageData) ∈ manager.completed)) = some true := by decide +kernel
  obtain ⟨manager, reached, observed⟩ := Option.map_eq_some_iff.mp run
  simp only [decide_eq_true_eq, Option.isSome_iff_exists] at observed
  obtain ⟨⟨target, later⟩, url, failed⟩ := observed
  refine ⟨manager, target, reached, later, failed_address_stays_blank reached failed rfl ?_ later fun address member => ?_⟩
  · rw [url]
    decide
  · simp at member

end LoginDN.SDWebImage.SDWebImageManager
