import LoginDN.Model.FormScreen
import Mathlib.Algebra.Order.Ring.Rat

/-! # Submitting one form twice

No flow tests whether a request is already in flight. A second submission is kept out only by the
overlay of the first one, which has to cover the submit button and does not stop the return key.
The overlay gets the frame the view has when it is put up, so it covers the button unless the
keyboard had moved the view away and the button lies in the uncovered strip at the bottom.
-/

namespace LoginDN.Submission

open Machine FormScreen

/-- The height of the view and the vertical extent of the submit button inside it. -/
structure Layout where
  height : ℚ
  top : ℚ
  bottom : ℚ
  top_nonneg : 0 ≤ top
  nonempty : top < bottom
  inside : bottom ≤ height

/-- An overlay with the view's height and this origin, in the view's own coordinates, covers the
whole button. -/
def Layout.Covers (layout : Layout) (originY : ℚ) : Prop :=
  originY ≤ layout.top ∧ layout.bottom ≤ originY + layout.height

instance (layout : Layout) (originY : ℚ) : Decidable (layout.Covers originY) :=
  inferInstanceAs (Decidable (_ ∧ _))

theorem Layout.covers_zero (layout : Layout) : layout.Covers 0 :=
  ⟨layout.top_nonneg, by rw [zero_add]; exact layout.inside⟩

/-- The requests in flight that the screen's form has sent. -/
def formRequests (screen : FormScreen) : List (ℕ × Request) :=
  screen.requests.entries.filter fun entry => entry.2.fromForm

/-- At most one of them. -/
def Exclusive (screen : FormScreen) : Prop := (formRequests screen).length ≤ 1

instance (screen : FormScreen) : Decidable (Exclusive screen) := inferInstanceAs (Decidable (_ ≤ _))

/-- What reaches the screen: a tap, if no attached overlay covers the button; the return key, if its
field is first responder. -/
def Delivered (layout : Layout) (screen : FormScreen) : ScreenEvent → Prop
  | .submitTapped => ∀ overlay ∈ screen.loadingView.subviews, ¬ layout.Covers overlay.2
  | .returnPressed field => screen.firstResponder = some field
  | _ => True

/-- Overlays go up over the button and the return key leaves a pending form alone: a filled form is
submitted by its button where the frame of the view covers the button, and by the return key only
while no form request is in flight; and when a Facebook sign-in succeeds during a form request,
which takes the overlay in the slot down, the new overlay or another one covers the button. -/
def Guarded (layout : Layout) (screen : FormScreen) : ScreenEvent → Prop
  | .submitTapped => screen.kind.Filled screen.text → layout.Covers screen.originY
  | .returnPressed field =>
      screen.Submits (.returnPressed field) → screen.kind.Filled screen.text → formRequests screen = []
  | .completed id none =>
      screen.PutsUpOverlay (.completed id none) → formRequests screen ≠ [] →
        layout.Covers screen.originY ∨ ∃ overlay ∈ screen.loadingView.subviews,
          screen.loadingView.overlayView ≠ some overlay.1 ∧ layout.Covers overlay.2
  | _ => True

instance (layout : Layout) (screen : FormScreen) : ∀ event, Decidable (Delivered layout screen event)
  | .submitTapped => inferInstanceAs (Decidable (∀ overlay ∈ _, _))
  | .returnPressed _ => inferInstanceAs (Decidable (_ = _))
  | .keyboardNotification | .focused _ | .edited _ _ | .touchesBegan | .facebookCompleted _ _
  | .completed _ _ => .isTrue trivial

instance (layout : Layout) (screen : FormScreen) : ∀ event, Decidable (Guarded layout screen event)
  | .submitTapped => inferInstanceAs (Decidable (_ → _))
  | .returnPressed _ => inferInstanceAs (Decidable (_ → _ → _))
  | .completed _ none => inferInstanceAs (Decidable (_ → _ → _ ∨ ∃ overlay ∈ _, _))
  | .keyboardNotification | .focused _ | .edited _ _ | .touchesBegan | .facebookCompleted _ _
  | .completed _ (some _) => .isTrue trivial

/-- Some attached overlay covers the button. -/
def Covered (layout : Layout) (screen : FormScreen) : Prop :=
  ∃ overlay ∈ screen.loadingView.subviews, layout.Covers overlay.2

/-- No form request is in flight, or one is and the button is covered. -/
def Shielded (layout : Layout) (screen : FormScreen) : Prop :=
  (screen.kind = .signIn ∨ screen.originY = 0) ∧
    (formRequests screen = [] ∨ (formRequests screen).length = 1 ∧ Covered layout screen)

/-- A form request is in flight and nothing keeps a tap from the button. -/
def Exposed (layout : Layout) (screen : FormScreen) : Prop :=
  formRequests screen ≠ [] ∧ ¬ Covered layout screen

variable {layout : Layout} {screen target : FormScreen} {event : ScreenEvent}

theorem Shielded.exclusive (shielded : Shielded layout screen) : Exclusive screen := by
  unfold Exclusive
  rcases shielded.2 with idle | ⟨one, _⟩
  · simp [idle]
  · omega

theorem shielded_initial (kind : AuthScreen) : Shielded layout (machine kind).initial := by
  cases kind
  · exact ⟨.inl rfl, .inl rfl⟩
  · exact ⟨.inr rfl, .inl rfl⟩
  · exact ⟨.inr rfl, .inl rfl⟩

section Requests

variable {request : Request} {id : ℕ}

private theorem formRequests_sent (requests : target.requests = screen.requests.issue request)
    (form : request.fromForm = true) :
    formRequests target = formRequests screen ++ [(screen.requests.next, request)] := by
  simp [formRequests, requests, List.filter_append, form]

private theorem not_exclusive_sent (requests : target.requests = screen.requests.issue request)
    (form : request.fromForm = true) (busy : formRequests screen ≠ []) : ¬ Exclusive target := by
  have positive := List.length_pos_iff.mpr busy
  rw [Exclusive, formRequests_sent requests form, List.length_append, List.length_singleton]
  omega

private theorem formRequests_sent_other (requests : target.requests = screen.requests.issue request)
    (other : request.fromForm = false) : formRequests target = formRequests screen := by
  simp [formRequests, requests, List.filter_append, other]

private theorem formRequests_close_other (requests : target.requests = screen.requests.close id)
    (found : (id, request) ∈ screen.requests.entries) (other : request.fromForm = false) :
    formRequests target = formRequests screen := by
  simp only [formRequests, requests, Ledger.close, List.filter_filter]
  apply List.filter_congr
  rintro ⟨number, pending⟩ member
  by_cases same : number = id
  · subst same
    rw [Ledger.eq_of_mem member found]
    simp [other]
  · simp [same]

/-- The answer of the only form request leaves none. -/
private theorem formRequests_settled (requests : target.requests = screen.requests.close id)
    (found : (id, request) ∈ screen.requests.entries) (form : request.fromForm = true)
    (exclusive : Exclusive screen) : formRequests target = [] := by
  have member : (id, request) ∈ formRequests screen := List.mem_filter.mpr ⟨found, form⟩
  apply List.eq_nil_iff_forall_not_mem.mpr
  rintro ⟨number, pending⟩ kept
  simp only [formRequests, requests, List.mem_filter, Ledger.mem_close] at kept
  obtain ⟨⟨present, other⟩, source⟩ := kept
  have both : (number, pending) ∈ formRequests screen := List.mem_filter.mpr ⟨present, source⟩
  obtain ⟨only, single⟩ := List.length_eq_one_iff.mp
    (Nat.le_antisymm exclusive (List.length_pos_of_mem member))
  rw [single, List.mem_singleton] at member both
  exact other (congrArg Prod.fst (both.trans member.symm))

end Requests

private theorem covered_showOn {y : ℚ} (view : target.loadingView = screen.loadingView.showOn y) :
    Covered layout target ↔ Covered layout screen ∨ layout.Covers y := by
  simp [Covered, view, or_and_right, exists_or]

/-- A submission that is delivered and guarded finds no form request in flight and puts its overlay
over the button. -/
private theorem Shielded.free (shielded : Shielded layout screen) (delivered : Delivered layout screen event)
    (guarded : Guarded layout screen event) (shows : screen.PutsUpOverlay event)
    (form : fromForm event = true) (filled : screen.kind.Filled screen.text) :
    formRequests screen = [] ∧ layout.Covers (screen.shownAt event) := by
  have submits := ((putsUpOverlay_form form).mp shows).1
  cases event with
  | submitTapped =>
    refine ⟨?_, guarded filled⟩
    rcases shielded.2 with idle | ⟨_, overlay, member, covers⟩
    · exact idle
    · exact absurd covers (delivered overlay member)
  | returnPressed field =>
    refine ⟨guarded submits filled, ?_⟩
    have origin : screen.shownAt (.returnPressed field) = 0 := by
      rcases shielded.1 with signIn | fixed
      · simp only [shownAt, if_pos signIn]
      · simp only [shownAt, fixed, ite_self]
    rw [origin]
    exact layout.covers_zero
  | _ => contradiction

/-- Every delivered and guarded step keeps the button covered while a form request is in flight. -/
theorem shielded_step (shielded : Shielded layout screen) (delivered : Delivered layout screen event)
    (guarded : Guarded layout screen event) (step : screen.step? event = some target) :
    Shielded layout target := by
  have offset : target.kind = .signIn ∨ target.originY = 0 := by
    rw [step?_kind step]
    by_cases signIn : screen.kind = .signIn
    · exact .inl signIn
    · exact .inr (step?_originY signIn (shielded.1.resolve_left signIn) step)
  refine ⟨offset, ?_⟩
  cases step?_change step with
  | quiet _ view requests =>
    have forms : formRequests target = formRequests screen := by rw [formRequests, requests, formRequests]
    rw [forms, Covered, view]
    exact shielded.2
  | sent request shows _ source filled view requests =>
    cases form : request.fromForm with
    | true =>
      obtain ⟨idle, covers⟩ := shielded.free delivered guarded shows (source.trans form) (filled form)
      right
      rw [formRequests_sent requests form, idle]
      exact ⟨rfl, (covered_showOn view).mpr (.inr covers)⟩
    | false =>
      rw [formRequests_sent_other requests form, covered_showOn view]
      exact shielded.2.imp_right fun ⟨one, covered⟩ => ⟨one, .inl covered⟩
  | refused _ _ _ view requests =>
    have forms : formRequests target = formRequests screen := by rw [formRequests, requests, formRequests]
    simp only [forms, Covered, view, LoadingView.mem_hide_showOn]
    exact shielded.2
  | settled id request found _ source _ requests =>
    exact .inl (formRequests_settled requests found source shielded.exclusive)
  | facebookSettled id tokenString named found shows view requests =>
    subst named
    rw [formRequests_close_other requests found rfl]
    rcases shielded.2 with idle | ⟨one, _⟩
    · exact .inl idle
    · have busy : formRequests screen ≠ [] := by
        intro idle
        simp [idle] at one
      refine .inr ⟨one, ?_⟩
      rcases guarded shows busy with covers | ⟨overlay, member, other, covers⟩
      · exact ⟨_, by rw [view, LoadingView.subviews_showOn]; exact List.mem_append_right _ (.head _), covers⟩
      · refine ⟨overlay, ?_, covers⟩
        rw [view, LoadingView.subviews_showOn]
        exact List.mem_append_left _ (LoadingView.mem_hide.mpr ⟨member, other⟩)
  | facebookRefused id tokenString _ _ found _ view requests =>
    rw [formRequests_close_other requests found rfl, covered_showOn view]
    exact shielded.2.imp_right fun ⟨one, covered⟩ => ⟨one, .inl covered⟩

/-- A delivered step that breaks the condition sends a second form request or leaves one in flight
with the button free. -/
theorem unguarded_step (delivered : Delivered layout screen event)
    (unguarded : ¬ Guarded layout screen event) (step : screen.step? event = some target) :
    ¬ Exclusive target ∨ Exposed layout target := by
  cases event with
  | submitTapped =>
    obtain ⟨filled, uncovered⟩ := Classical.not_imp.mp unguarded
    have submits : screen.Submits .submitTapped := trivial
    obtain ⟨request, form, requests, view⟩ := step?_of_filled submits rfl filled step
    refine .inr ⟨?_, ?_⟩
    · rw [formRequests_sent requests form]
      exact List.append_ne_nil_of_right_ne_nil _ (List.cons_ne_nil _ _)
    · rw [covered_showOn view]
      rintro (⟨overlay, member, covers⟩ | covers)
      · exact delivered overlay member covers
      · exact uncovered covers
  | returnPressed field =>
    obtain ⟨submits, rest⟩ := Classical.not_imp.mp unguarded
    obtain ⟨filled, busy⟩ := Classical.not_imp.mp rest
    obtain ⟨request, form, requests, _⟩ := step?_of_filled submits rfl filled step
    exact .inl (not_exclusive_sent requests form busy)
  | completed id error =>
    cases error with
    | some error => exact absurd trivial unguarded
    | none =>
      obtain ⟨shows, rest⟩ := Classical.not_imp.mp unguarded
      obtain ⟨busy, free⟩ := Classical.not_imp.mp rest
      obtain ⟨uncovered, others⟩ := not_or.mp free
      cases step?_change step with
      | quiet silent _ _ => exact absurd shows silent
      | sent _ _ fresh _ _ _ _ => contradiction
      | refused _ form _ _ _ => contradiction
      | settled _ _ _ silent _ _ _ => exact absurd shows silent
      | facebookRefused _ _ _ named _ _ _ _ => cases named
      | facebookSettled id tokenString _ found _ view requests =>
        refine .inr ⟨by rwa [formRequests_close_other requests found rfl], ?_⟩
        rintro ⟨overlay, member, covers⟩
        rw [view, LoadingView.subviews_showOn, List.mem_append] at member
        rcases member with kept | new
        · obtain ⟨attached, other⟩ := LoadingView.mem_hide.mp kept
          exact others ⟨overlay, attached, other, covers⟩
        · obtain rfl := List.mem_singleton.mp new
          exact uncovered covers
  | keyboardNotification | focused field | edited field text | touchesBegan
  | facebookCompleted outcome held => exact absurd trivial unguarded

/-- With the button free the user can fill the form again and send it a second time. -/
theorem Exposed.resubmitted (exposed : Exposed layout screen) (kind : AuthScreen) :
    ∃ edits final, (∀ event ∈ edits, ∃ field text, event = .edited field text) ∧
      (machine kind).run? screen (edits ++ [.submitTapped]) = some final ∧
      (machine kind).Along (Delivered layout) screen (edits ++ [.submitTapped]) ∧ ¬ Exclusive final := by
  obtain ⟨busy, free⟩ := exposed
  let text := Function.update (Function.update (Function.update screen.text .userName "ana")
    .email "ana@mail.com") .password "123456"
  let written := { screen with text := text }
  have filled : written.kind.Filled written.text := by
    cases screen.kind <;> simp [written, text, AuthScreen.Filled]
  let final := written.perform (written.callback .submitTapped)
  have step : written.step? .submitTapped = some final := rfl
  refine ⟨[.edited .userName "ana", .edited .email "ana@mail.com", .edited .password "123456"], final, by simp, rfl,
    ⟨trivial, ?_⟩, ?_⟩
  · rintro _ ⟨⟩
    refine ⟨trivial, ?_⟩
    rintro _ ⟨⟩
    refine ⟨trivial, ?_⟩
    rintro _ ⟨⟩
    refine ⟨fun overlay member covers => free ⟨overlay, member, covers⟩, fun _ _ => trivial⟩
  · have submits : written.Submits .submitTapped := trivial
    obtain ⟨request, form, requests, _⟩ := step?_of_filled submits rfl filled step
    have occupied : formRequests written ≠ [] := busy
    exact not_exclusive_sent requests form occupied

/-- In every run whose steps are delivered and guarded at most one form request is in flight. The
condition cannot be weakened: any delivered step that breaks it sends a second one, or leaves a form
that has only to be filled and tapped once for that. -/
theorem one_submission_in_flight (kind : AuthScreen) (layout : Layout) (events : List ScreenEvent)
    (screen : FormScreen) (reached : (machine kind).Reaches events screen)
    (delivered : (machine kind).Along (Delivered layout) (machine kind).initial events)
    (guarded : (machine kind).Along (Guarded layout) (machine kind).initial events) :
    Exclusive screen ∧ ∀ event target, (machine kind).step? screen event = some target →
      Delivered layout screen event → ¬ Guarded layout screen event →
        ¬ Exclusive target ∨ ∃ edits final, (∀ event ∈ edits, ∃ field text, event = .edited field text) ∧
          (machine kind).run? target (edits ++ [.submitTapped]) = some final ∧
          (machine kind).Along (Delivered layout) target (edits ++ [.submitTapped]) ∧ ¬ Exclusive final := by
  have shielded : Shielded layout screen := reached.invariant_along (shielded_initial kind)
    (fun _ _ _ inv both step => shielded_step inv both.1 both.2 step)
    (Machine.System.along_and_iff.mpr ⟨delivered, guarded⟩)
  refine ⟨shielded.exclusive, fun event target step reaches breaks => ?_⟩
  exact (unguarded_step reaches breaks step).imp_right fun exposed => exposed.resubmitted kind

/-- The `Login` button of the storyboard, on the screen size the storyboard was drawn for. -/
def loginButton : Layout := ⟨896, 716, 749, by decide, by decide, by decide⟩

/-- The `Register` button of the storyboard. -/
def registerButton : Layout := ⟨896, 375, 408, by decide, by decide, by decide⟩

/-- A filled sign-up form that is sent by its button, while the button is pressed again. -/
theorem one_sign_up_in_flight : ∃ screen, (machine .signUp).Reaches
    [.edited .userName "ana", .edited .email "ana@mail.com", .edited .password "123456", .submitTapped]
    screen ∧ Exclusive screen := by
  refine ⟨_, rfl, ?_⟩
  exact (one_submission_in_flight .signUp registerButton
    [.edited .userName "ana", .edited .email "ana@mail.com", .edited .password "123456", .submitTapped]
    _ rfl (by decide +kernel) (by decide +kernel)).1

/-- With the keyboard up the overlay of the sign-in screen ends above the button, and two taps send
the form twice. On the sign-up screen the return key sends it again behind the overlay. -/
theorem form_sent_twice :
    (∃ screen, (machine .signIn).Reaches [.edited .email "ana@mail.com", .edited .password "123456",
        .keyboardNotification, .submitTapped, .submitTapped] screen ∧
      (machine .signIn).Along (Delivered loginButton) (machine .signIn).initial
        [.edited .email "ana@mail.com", .edited .password "123456", .keyboardNotification,
          .submitTapped, .submitTapped] ∧ ¬ Exclusive screen) ∧
    ∃ screen, (machine .signUp).Reaches [.edited .userName "ana", .edited .email "ana@mail.com",
        .edited .password "123456", .focused (some .password), .submitTapped, .returnPressed .password]
        screen ∧
      (machine .signUp).Along (Delivered registerButton) (machine .signUp).initial
        [.edited .userName "ana", .edited .email "ana@mail.com", .edited .password "123456",
          .focused (some .password), .submitTapped, .returnPressed .password] ∧ ¬ Exclusive screen := by
  constructor
  · exact ⟨_, rfl, by decide +kernel, by decide +kernel⟩
  · exact ⟨_, rfl, by decide +kernel, by decide +kernel⟩

end LoginDN.Submission
