import Mathlib.Data.Rat.Defs
import Mathlib.Data.List.Basic
import Mathlib.Tactic.Common

/-! # The loading overlay and its single slot

`FSnapChatLoadingView` remembers one overlay. Each show creates a new one and attaches it with the
frame the view has at that moment; a hide detaches the remembered overlay, whether it is still
attached or not. An overlay that is attached but no longer remembered can never be detached again.
-/

namespace LoginDN

/-- The slot `overlayView` and the overlays attached to the screen's view, each with the vertical
origin of its frame. Identities are never reused. -/
structure LoadingView where
  next : ℕ
  overlayView : Option ℕ
  subviews : List (ℕ × ℚ)
  below : ∀ overlay ∈ subviews, overlay.1 < next
  slot_below : ∀ id, overlayView = some id → id < next

namespace LoadingView

def initial : LoadingView := ⟨0, none, [], by simp, by simp⟩

/-- `show(view:color:)` for a view whose frame starts at `originY`. -/
def showOn (view : LoadingView) (originY : ℚ) : LoadingView where
  next := view.next + 1
  overlayView := some view.next
  subviews := view.subviews ++ [(view.next, originY)]
  below overlay member := by
    rcases List.mem_append.mp member with old | new
    · exact Nat.lt_succ_of_lt (view.below overlay old)
    · obtain rfl := List.mem_singleton.mp new
      exact Nat.lt_succ_self _
  slot_below id same := by
    obtain rfl := Option.some.inj same
    exact Nat.lt_succ_self _

def hide (view : LoadingView) : LoadingView :=
  match view.overlayView with
  | none => view
  | some id =>
      { view with
        subviews := view.subviews.filter fun overlay => overlay.1 != id
        below := fun overlay member => view.below overlay (List.mem_filter.mp member).1 }

@[simp] theorem overlayView_showOn (view : LoadingView) (y : ℚ) :
    (view.showOn y).overlayView = some view.next := rfl

@[simp] theorem subviews_showOn (view : LoadingView) (y : ℚ) :
    (view.showOn y).subviews = view.subviews ++ [(view.next, y)] := rfl

@[simp] theorem overlayView_hide (view : LoadingView) : view.hide.overlayView = view.overlayView := by
  unfold hide
  split <;> rfl

theorem mem_hide {view : LoadingView} {overlay : ℕ × ℚ} :
    overlay ∈ view.hide.subviews ↔ overlay ∈ view.subviews ∧ view.overlayView ≠ some overlay.1 := by
  unfold hide
  split
  · next empty => simp [empty]
  · next id current =>
    simp only [current, List.mem_filter, bne_iff_ne, ne_eq, Option.some.injEq, @eq_comm _ id]

/-- A hide right after a show detaches the new overlay and no other. -/
theorem mem_hide_showOn {view : LoadingView} {y : ℚ} {overlay : ℕ × ℚ} :
    overlay ∈ (view.showOn y).hide.subviews ↔ overlay ∈ view.subviews := by
  simp only [mem_hide, subviews_showOn, overlayView_showOn, List.mem_append, List.mem_singleton,
    ne_eq, Option.some.injEq]
  constructor
  · rintro ⟨old | rfl, other⟩
    · exact old
    · exact absurd rfl other
  · intro member
    have bound := view.below _ member
    exact ⟨.inl member, by omega⟩

/-- Some attached overlay is not the remembered one. -/
def Orphan (view : LoadingView) : Prop :=
  ∃ overlay ∈ view.subviews, view.overlayView ≠ some overlay.1

theorem Orphan.subviews_ne_nil {view : LoadingView} (orphan : view.Orphan) : view.subviews ≠ [] := by
  obtain ⟨overlay, member, _⟩ := orphan
  exact List.ne_nil_of_mem member

/-- A show over any attached overlay makes that overlay an orphan. -/
theorem orphan_showOn {view : LoadingView} (attached : view.subviews ≠ []) (y : ℚ) :
    (view.showOn y).Orphan := by
  obtain ⟨overlay, member⟩ := List.exists_mem_of_ne_nil _ attached
  have bound := view.below _ member
  refine ⟨overlay, List.mem_append_left _ member, ?_⟩
  simp only [overlayView_showOn, ne_eq, Option.some.injEq]
  omega

theorem Orphan.showOn {view : LoadingView} (orphan : view.Orphan) (y : ℚ) : (view.showOn y).Orphan :=
  orphan_showOn orphan.subviews_ne_nil y

/-- No hide ever reaches an orphan. -/
theorem Orphan.hide {view : LoadingView} (orphan : view.Orphan) : view.hide.Orphan := by
  obtain ⟨overlay, member, other⟩ := orphan
  exact ⟨overlay, mem_hide.mpr ⟨member, other⟩, by rwa [overlayView_hide]⟩

/-- Without an orphan a hide leaves the view free. -/
theorem subviews_hide_of_not_orphan {view : LoadingView} (clean : ¬ view.Orphan) :
    view.hide.subviews = [] := by
  apply List.eq_nil_iff_forall_not_mem.mpr
  intro overlay member
  obtain ⟨attached, other⟩ := mem_hide.mp member
  exact clean ⟨overlay, attached, other⟩

end LoadingView

end LoginDN
