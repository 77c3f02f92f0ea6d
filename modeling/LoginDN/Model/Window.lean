import LoginDN.Model.AuthFlows
import Mathlib.Data.List.Chain

/-! # The window and the controllers it shows

The window has a root controller and the controllers presented one above the other. A controller
presents another one, by a segue or as an alert, only while it is the frontmost one; UIKit drops
the call otherwise. Articles are opened from the tab bar alone, so every stack that can be built
has the tab bar directly below a detail screen: the order is a field of the structure.
-/

namespace LoginDN

inductive Screen where
  | signIn
  | signUp
  | reset
  | tabBar
  | detail
  | alert
deriving DecidableEq, Repr

structure Controller where
  id : ℕ
  screen : Screen
deriving DecidableEq, Repr

/-- What may lie directly below what: a detail screen has the tab bar below it. -/
def Controller.Above (upper lower : Controller) : Prop := upper.screen = .detail → lower.screen = .tabBar

/-- The root and the presented controllers, frontmost first. Identities are never reused. -/
structure Window where
  next : ℕ
  root : Controller
  presented : List Controller
  below : ∀ controller ∈ presented ++ [root], controller.id < next
  ordered : (presented ++ [root]).IsChain Controller.Above
  grounded : root.screen ≠ .detail

/-- The root controllers of the two storyboard branches. -/
def Storyboard.screen : Storyboard → Screen
  | .signInViewController => .signIn
  | .tabBar => .tabBar

/-- The tab bar and the article above it. -/
def Screen.signedInArea : Screen → Bool
  | .tabBar | .detail => true
  | _ => false

namespace Window

def controllers (window : Window) : List Controller := window.presented ++ [window.root]

def frontmost (window : Window) : Controller := window.presented.headD window.root

/-- The screen the user is on: an alert lies above it and does not replace it. -/
def shown (window : Window) : Screen :=
  ((window.presented.find? fun controller => controller.screen != .alert).getD window.root).screen

def opened (storyboard : Storyboard) (id : ℕ) : Window where
  next := id + 1
  root := ⟨id, storyboard.screen⟩
  presented := []
  below := by simp
  ordered := by simp
  grounded := by cases storyboard <;> simp [Storyboard.screen]

/-- `rootViewController` is replaced by a new controller; everything presented goes with the old one. -/
def setRoot (window : Window) (storyboard : Storyboard) : Window := opened storyboard window.next

theorem frontmost_mem (window : Window) : window.frontmost ∈ window.controllers := by
  unfold frontmost controllers
  cases window.presented with
  | nil => exact .head _
  | cons first rest => exact .head _

/-- A controller presents a new one, if it is the frontmost one and the new one may lie above it. -/
def present (window : Window) (owner : ℕ) (screen : Screen) : Window :=
  if allowed : window.frontmost.id = owner ∧ (screen = .detail → window.frontmost.screen = .tabBar) then
    { window with
      next := window.next + 1
      presented := ⟨window.next, screen⟩ :: window.presented
      below := by
        intro controller member
        rcases List.mem_cons.mp member with rfl | old
        · exact Nat.lt_succ_self _
        · exact Nat.lt_succ_of_lt (window.below controller old)
      ordered := by
        have chain := window.ordered
        have above := allowed.2
        unfold frontmost at above
        cases stack : window.presented with
        | nil => simpa [stack, Controller.Above] using above
        | cons first rest =>
          rw [stack] at chain above
          exact List.isChain_cons_cons.mpr ⟨above, chain⟩ }
  else window

/-- The frontmost presented controller is taken away. -/
def pop (window : Window) : Window :=
  { window with
    presented := window.presented.tail
    below := by
      intro controller member
      apply window.below
      rcases List.mem_append.mp member with kept | root
      · exact List.mem_append_left _ (List.mem_of_mem_tail kept)
      · exact List.mem_append_right _ root
    ordered := by
      have chain := window.ordered
      cases stack : window.presented with
      | nil => simp
      | cons first rest =>
        rw [stack] at chain
        exact chain.tail }

variable {window : Window} {owner : ℕ} {screen : Screen} {storyboard : Storyboard}

theorem id_lt_next {controller : Controller} (member : controller ∈ window.controllers) :
    controller.id < window.next := window.below controller member

theorem next_le_present : window.next ≤ (window.present owner screen).next := by
  unfold present
  split
  · exact Nat.le_succ _
  · exact Nat.le_refl _

/-- A presented controller is new; the others stay. -/
theorem mem_present {controller : Controller} (member : controller ∈ (window.present owner screen).controllers) :
    controller ∈ window.controllers ∨
      controller = ⟨window.next, screen⟩ ∧ window.frontmost.id = owner := by
  unfold present at member
  split at member
  · next allowed =>
    rcases List.mem_cons.mp member with rfl | old
    · exact .inr ⟨rfl, allowed.1⟩
    · exact .inl old
  · exact .inl member

theorem present_of_ne (other : window.frontmost.id ≠ owner) : window.present owner screen = window := by
  unfold present
  rw [dif_neg (fun allowed => other allowed.1)]

@[simp] theorem shown_present_alert : (window.present owner .alert).shown = window.shown := by
  unfold present
  split <;> rfl

/-- A screen that may be presented is the one shown afterwards. -/
theorem shown_present (front : window.frontmost.id = owner) (plain : screen ≠ .alert)
    (allowed : screen = .detail → window.frontmost.screen = .tabBar) :
    (window.present owner screen).shown = screen := by
  unfold present
  rw [dif_pos ⟨front, allowed⟩]
  simp [shown, plain]

theorem mem_pop {controller : Controller} (member : controller ∈ window.pop.controllers) :
    controller ∈ window.controllers := by
  rcases List.mem_append.mp member with kept | root
  · exact List.mem_append_left _ (List.mem_of_mem_tail kept)
  · exact List.mem_append_right _ root

@[simp] theorem root_pop : window.pop.root = window.root := rfl
@[simp] theorem presented_pop : window.pop.presented = window.presented.tail := rfl

/-- An alert that is taken away leaves the screen below it. -/
theorem shown_pop_alert (front : window.frontmost.screen = .alert) : window.pop.shown = window.shown := by
  unfold frontmost at front
  rw [shown, shown, presented_pop, root_pop]
  cases stack : window.presented with
  | nil => rfl
  | cons first rest =>
    have alert : first.screen = .alert := by simpa [stack] using front
    simp [alert]

/-- An article that is closed leaves the tab bar. -/
theorem shown_pop_detail (front : window.frontmost.screen = .detail) : window.pop.shown = .tabBar := by
  have chain := window.ordered
  unfold frontmost at front
  rw [shown, presented_pop, root_pop]
  cases stack : window.presented with
  | nil => exact absurd (by simpa [stack] using front) window.grounded
  | cons first rest =>
    have detail : first.screen = .detail := by simpa [stack] using front
    rw [stack] at chain
    cases rest with
    | nil =>
      have tabBar := (List.isChain_cons_cons.mp chain).1 detail
      simpa using tabBar
    | cons second others =>
      have tabBar := (List.isChain_cons_cons.mp chain).1 detail
      simp [tabBar]

/-- A frontmost controller that is no alert is the one shown. -/
theorem shown_of_frontmost (plain : window.frontmost.screen ≠ .alert) :
    window.shown = window.frontmost.screen := by
  unfold frontmost at plain ⊢
  unfold shown
  cases stack : window.presented with
  | nil => rfl
  | cons first rest =>
    have visible : first.screen ≠ .alert := by simpa [stack] using plain
    simp [visible]

theorem exists_of_shown : ∃ controller ∈ window.controllers, controller.screen = window.shown := by
  unfold shown
  cases found : window.presented.find? fun controller => controller.screen != .alert with
  | none => exact ⟨window.root, List.mem_append_right _ (.head _), rfl⟩
  | some controller =>
    exact ⟨controller, List.mem_append_left _ (List.mem_of_find?_eq_some found), rfl⟩

/-- What navigation does: new controllers are under new identities, the signed-in area is entered
only from inside, and it is not left. -/
structure Keeps (old new : Window) : Prop where
  next : old.next ≤ new.next
  member : ∀ controller ∈ new.controllers, controller ∈ old.controllers ∨ controller.id = old.next ∧
    (controller.screen.signedInArea = true → old.frontmost.screen.signedInArea = true)
  area : old.shown.signedInArea = true → new.shown.signedInArea = true

theorem Keeps.refl (window : Window) : window.Keeps window := ⟨Nat.le_refl _, fun _ => .inl, id⟩

/-- The sign-in screen presents the other auth screens. -/
theorem keeps_present_auth (front : window.frontmost.screen = .signIn)
    (outside : screen.signedInArea = false) : window.Keeps (window.present owner screen) := by
  refine ⟨next_le_present, fun controller member => ?_, fun area => ?_⟩
  · rcases mem_present member with old | ⟨rfl, _⟩
    · exact .inl old
    · exact .inr ⟨rfl, fun inside => by simp [outside] at inside⟩
  · have shown : window.shown = .signIn := by rw [shown_of_frontmost (by rw [front]; decide), front]
    rw [shown] at area
    contradiction

theorem keeps_present_alert : window.Keeps (window.present owner .alert) := by
  refine ⟨next_le_present, fun controller member => ?_, fun area => by rwa [shown_present_alert]⟩
  rcases mem_present member with old | ⟨rfl, _⟩
  · exact .inl old
  · exact .inr ⟨rfl, nofun⟩

theorem keeps_present_detail (front : window.frontmost.screen = .tabBar) :
    window.Keeps (window.present window.frontmost.id .detail) := by
  refine ⟨next_le_present, fun controller member => ?_, fun _ => ?_⟩
  · rcases mem_present member with old | ⟨rfl, _⟩
    · exact .inl old
    · exact .inr ⟨rfl, fun _ => by rw [front]; rfl⟩
  · have shown : (window.present window.frontmost.id .detail).shown = .detail :=
      shown_present rfl (by decide) fun _ => front
    rw [shown]
    rfl

/-- Taking the frontmost controller away leaves the area only where that is the tab bar. -/
theorem keeps_pop (front : window.frontmost.screen ≠ .tabBar) : window.Keeps window.pop := by
  refine ⟨Nat.le_refl _, fun controller member => .inl (mem_pop member), fun area => ?_⟩
  by_cases alert : window.frontmost.screen = .alert
  · rwa [shown_pop_alert alert]
  · rw [shown_of_frontmost alert] at area
    have detail : window.frontmost.screen = .detail := by
      cases screen : window.frontmost.screen <;> simp_all [Screen.signedInArea]
    rw [shown_pop_detail detail]
    rfl

end Window

end LoginDN
