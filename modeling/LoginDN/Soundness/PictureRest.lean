import LoginDN.Model.WebImageEffort
import LoginDN.Soundness.PictureLoads

/-! # The loading of pictures comes to rest

Loads share downloads, downloads tell loads, and loads write to the disk, but none of this goes on for
ever. Without new addresses a run does a bounded amount of work, whatever the network sends meanwhile, and
as long as there is no rest there is work that can be done.
-/

namespace LoginDN.SDWebImage.SDWebImageManager

open Machine

variable {Image : Type} {coders : Coders Image} {disk : String → Option (List UInt8)}
  {manager target : SDWebImageManager Image} {event : ImageEvent} {events after : List ImageEvent}

/-- What every reachable state satisfies, downloads that have begun included. -/
structure Working (coders : Coders Image) (disk : String → Option (List UInt8)) (manager : SDWebImageManager Image) :
    Prop extends Kept coders disk manager where
  begun : manager.Begun

theorem Working.step (working : Working coders disk manager) (step : manager.step? coders event = some target) :
    Working coders disk target :=
  ⟨working.toKept.step step, begun_step working.sound working.viewed working.placed working.begun step⟩

theorem working_of_reaches (reached : (machine coders disk).Reaches events manager) : Working coders disk manager :=
  reached.invariant ⟨kept_initial, begun_initial⟩ fun _ _ _ working step => working.step step

theorem spends : (machine coders disk).Spends ImageEvent.unasked ImageEvent.own effort (Working coders disk) where
  keep _ _ _ working step := working.step step
  work _ _ _ working own step := effort_work working.sound working.placed working.begun own step
  outside _ _ _ working unasked outside step := effort_outside working.placed working.begun unasked outside step

/-- Short of rest there is work that can be done. -/
theorem exists_work (restless : ¬ manager.AtRest) :
    ∃ event target, event.own = true ∧ manager.step? coders event = some target := by
  by_contra idle
  push Not at idle
  refine restless ⟨?_, ?_, fun download below => ?_, fun download below => ?_, fun download below => ?_,
    fun download below => ?_⟩
  · cases waiting : manager.mainQueue with
    | nil => rfl
    | cons block rest => exact absurd (by simp only [step?, waiting]; rfl) (idle .main _ rfl)
  · cases waiting : manager.ioQueue with
    | nil => rfl
    | cons block rest => exact absurd (by simp only [step?, waiting]; rfl) (idle .io _ rfl)
  · by_contra unstarted
    exact idle (.start download true) _ rfl (if_pos ⟨below, Bool.eq_false_iff.mpr unstarted⟩)
  · by_contra task
    exact idle (.didComplete download none) _ rfl (if_pos (Bool.not_eq_false _ ▸ task))
  · cases held : (manager.downloads download).coderQueue with
    | none => rfl
    | some data => exact absurd (by simp only [step?, held]; rfl) (idle (.decoded download) _ rfl)
  · by_contra completing
    exact idle (.done download) _ rfl (if_pos (Bool.not_eq_false _ ▸ completing))

/-- Without new addresses a run does no more work than there is effort, whatever the network sends and the
caches forget, and in its last state all is at rest or there is work that can be done. -/
theorem work_is_bounded (reached : (machine coders disk).Reaches events manager)
    (run : (machine coders disk).run? manager after = some target)
    (unasked : ∀ view address, .setImage view address ∉ after) :
    after.countP ImageEvent.own + target.effort ≤ manager.effort ∧
      (target.AtRest ∨ ∃ event next, event.own = true ∧ target.step? coders event = some next) := by
  refine ⟨spends.countP_le (working_of_reaches reached) run fun event member => ?_, ?_⟩
  · cases event with
    | setImage view address => exact absurd member (unasked view address)
    | _ => rfl
  · by_cases rest : target.AtRest
    · exact .inl rest
    · exact .inr (exists_work rest)

/-- A download with its decoding takes all the work there is effort for. -/
theorem work_is_bounded_download : ∃ manager target,
    (machine sampleCoders fun _ => none).Reaches [.setImage 0 (some "u")] manager ∧
    (machine sampleCoders fun _ => none).run? manager sampleWork = some target ∧
    sampleWork.countP ImageEvent.own = 9 ∧ manager.effort = 9 ∧
    (sampleWork.countP ImageEvent.own + target.effort ≤ manager.effort ∧
      (target.AtRest ∨ ∃ event next, event.own = true ∧ target.step? sampleCoders event = some next)) := by
  have run : ((machine sampleCoders fun _ => none).run? (initial fun _ => none) [.setImage 0 (some "u")]).map
      (fun manager => (((machine sampleCoders fun _ => none).run? manager sampleWork).isSome, manager.effort)) =
        some (true, 9) := by decide +kernel
  obtain ⟨manager, reached, observed⟩ := Option.map_eq_some_iff.mp run
  simp only [Prod.mk.injEq, Option.isSome_iff_exists] at observed
  obtain ⟨⟨target, later⟩, nine⟩ := observed
  refine ⟨manager, target, reached, later, rfl, nine, work_is_bounded reached later fun view address member => ?_⟩
  simp [sampleWork] at member

/-- From every state that is reached work alone leads to rest. There every view has the address it had, and
shows what its load was answered, or is blank as its load came too late. -/
theorem views_settle (reached : (machine coders disk).Reaches events manager) :
    ∃ after target, (∀ event ∈ after, event.own = true) ∧
      (machine coders disk).run? manager after = some target ∧ target.AtRest ∧
      ∀ view, (target.views view).imageURL = (manager.views view).imageURL ∧
        ∀ url, (manager.views view).imageURL = some url → ∃ operation,
          (target.views view).imageLoadOperation = some operation ∧ (target.operations operation).url = url ∧
          ((∃ result, (operation, result) ∈ target.completed ∧ (target.views view).image = result.toOption) ∨
            (target.operations operation).late = true ∧ (target.views view).image = none) := by
  obtain ⟨after, target, own, run, rest⟩ :=
    spends.exists_rest (fun _ _ restless => exists_work restless) (working_of_reaches reached)
  have every : Kept coders disk target ∧ ∀ view, (target.views view).imageURL = (manager.views view).imageURL := by
    refine @System.run?_preserves_mem _ _ (machine coders disk) manager target after
      (fun state => Kept coders disk state ∧ ∀ view, (state.views view).imageURL = (manager.views view).imageURL)
      (fun state next event member inv step => ?_) ⟨kept_of_reaches reached, fun _ => rfl⟩ run
    obtain ⟨kept, same⟩ := inv
    refine ⟨kept.step step, fun view => (imageURL_step kept.viewed (fun other address equal => ?_) step).trans (same view)⟩
    have mine := own event member
    rw [equal] at mine
    contradiction
  obtain ⟨kept, same⟩ := every
  exact ⟨after, target, own, run, rest, fun view => ⟨same view, fun url addressed =>
    kept.settled rest ((same view).trans addressed)⟩⟩

/-- Two views for the same address settle, though one of them comes when the download has been decoded. -/
theorem views_settle_decoded : ∃ manager,
    (machine sampleCoders fun _ => none).Reaches (sampleDecoded ++ [.setImage 1 (some "u")]) manager ∧
    ∃ after target, (∀ event ∈ after, event.own = true) ∧
      (machine sampleCoders fun _ => none).run? manager after = some target ∧ target.AtRest ∧
      ∀ view, (target.views view).imageURL = (manager.views view).imageURL ∧
        ∀ url, (manager.views view).imageURL = some url → ∃ operation,
          (target.views view).imageLoadOperation = some operation ∧ (target.operations operation).url = url ∧
          ((∃ result, (operation, result) ∈ target.completed ∧ (target.views view).image = result.toOption) ∨
            (target.operations operation).late = true ∧ (target.views view).image = none) := by
  have run : ((machine sampleCoders fun _ => none).run? (initial fun _ => none)
      (sampleDecoded ++ [.setImage 1 (some "u")])).isSome = true := by decide +kernel
  obtain ⟨manager, reached⟩ := Option.isSome_iff_exists.mp run
  exact ⟨manager, reached, views_settle reached⟩

end LoginDN.SDWebImage.SDWebImageManager
