import LoginDN.Model.FormScreen

/-! # The overlay and the requests of a screen

The overlay is there to say that a request is in flight. With one slot for all requests of a screen
this works as long as no event puts an overlay up while a request of the screen is in flight. The
first one that breaks this leaves an overlay that no later hide reaches, so the condition is exact
for every run that ends with nothing in flight. A Facebook completion always breaks it: its own
request is still in flight when it is called, and its last call is a show.
-/

namespace LoginDN.LoadingOverlay

open Machine FormScreen

/-- An overlay is attached exactly while a request started by the screen is in flight. -/
def Faithful (screen : FormScreen) : Prop :=
  screen.loadingView.subviews ≠ [] ↔ screen.requests.entries ≠ []

/-- An event that puts an overlay up happens only while no request of the screen is in flight. -/
def Uncontested (screen : FormScreen) (event : ScreenEvent) : Prop :=
  screen.PutsUpOverlay event → screen.requests.entries = []

instance (screen : FormScreen) (event : ScreenEvent) : Decidable (Uncontested screen event) :=
  inferInstanceAs (Decidable (_ → _))

/-- Nothing attached and nothing in flight, or one overlay, in the slot, for one request. -/
def Paired (screen : FormScreen) : Prop :=
  (screen.requests.entries = [] ∧ screen.loadingView.subviews = []) ∨
    ((∃ id request, screen.requests.entries = [(id, request)]) ∧
      ∃ id y, screen.loadingView.overlayView = some id ∧ screen.loadingView.subviews = [(id, y)])

/-- An overlay that outlives its request: an orphan, or the last one with nothing in flight. -/
def Leftover (screen : FormScreen) : Prop :=
  screen.loadingView.Orphan ∨
    (screen.requests.entries = [] ∧ screen.loadingView.subviews ≠ [])

theorem Paired.faithful {screen : FormScreen} (paired : Paired screen) : Faithful screen := by
  rcases paired with ⟨idle, free⟩ | ⟨⟨id, request, busy⟩, slot, y, _, attached⟩
  · simp [Faithful, idle, free]
  · simp [Faithful, busy, attached]

theorem Leftover.attached {screen : FormScreen} (leftover : Leftover screen) :
    screen.loadingView.subviews ≠ [] := by
  rcases leftover with orphan | ⟨_, attached⟩
  · exact orphan.subviews_ne_nil
  · exact attached

theorem paired_initial (kind : AuthScreen) : Paired (machine kind).initial := by
  cases kind <;> exact .inl ⟨rfl, rfl⟩

variable {screen target : FormScreen} {event : ScreenEvent}

/-- The only overlay is the one in the slot, so there is no orphan. -/
private theorem Paired.not_orphan (paired : Paired screen) : ¬ screen.loadingView.Orphan := by
  rintro ⟨overlay, member, other⟩
  rcases paired with ⟨_, free⟩ | ⟨_, id, y, current, attached⟩
  · simp [free] at member
  · rw [attached] at member
    obtain rfl := List.mem_singleton.mp member
    exact other current

private theorem Paired.idle_of_settled (paired : Paired screen) {id : ℕ} {request : Request}
    (found : (id, request) ∈ screen.requests.entries) : (screen.requests.close id).entries = [] := by
  rcases paired with ⟨idle, _⟩ | ⟨⟨other, pending, busy⟩, _⟩
  · simp [idle] at found
  · rw [busy] at found
    obtain ⟨rfl, rfl⟩ := Prod.mk.inj (List.mem_singleton.mp found)
    exact Ledger.close_entries_of_singleton busy

/-- A step that meets the condition keeps overlays and requests paired. -/
theorem paired_step (paired : Paired screen) (uncontested : Uncontested screen event)
    (step : screen.step? event = some target) : Paired target := by
  cases step?_change step with
  | quiet _ view requests =>
    unfold Paired
    rwa [view, requests]
  | sent request shows _ _ _ view requests =>
    have idle := uncontested shows
    have free : screen.loadingView.subviews = [] := by
      by_contra attached
      exact paired.faithful.mp attached idle
    refine .inr ⟨⟨screen.requests.next, request, ?_⟩, screen.loadingView.next,
      screen.shownAt event, ?_, ?_⟩
    · rw [requests, Ledger.entries_issue, idle, List.nil_append]
    · rw [view, LoadingView.overlayView_showOn]
    · rw [view, LoadingView.subviews_showOn, free, List.nil_append]
  | refused shows _ _ view requests =>
    have idle := uncontested shows
    have free : screen.loadingView.subviews = [] := by
      by_contra attached
      exact paired.faithful.mp attached idle
    refine .inl ⟨by rw [requests, idle], ?_⟩
    apply List.eq_nil_iff_forall_not_mem.mpr
    intro overlay member
    rw [view, LoadingView.mem_hide_showOn, free] at member
    contradiction
  | settled id request found _ _ view requests =>
    refine .inl ⟨by rw [requests, paired.idle_of_settled found], ?_⟩
    rw [view, LoadingView.subviews_hide_of_not_orphan paired.not_orphan]
  | facebookSettled id tokenString _ found shows _ _ =>
    rw [uncontested shows] at found
    contradiction
  | facebookRefused id tokenString _ _ found shows _ _ =>
    rw [uncontested shows] at found
    contradiction

/-- A step that breaks the condition leaves an overlay behind. -/
theorem leftover_step (paired : Paired screen) (contested : ¬ Uncontested screen event)
    (step : screen.step? event = some target) : Leftover target := by
  obtain ⟨shows, busy⟩ := Classical.not_imp.mp contested
  have attached : screen.loadingView.subviews ≠ [] := paired.faithful.mpr busy
  cases step?_change step with
  | quiet silent _ _ => exact absurd shows silent
  | sent request _ _ _ _ view _ =>
    left
    rw [view]
    exact LoadingView.orphan_showOn attached _
  | refused _ _ _ view _ =>
    left
    rw [view]
    exact (LoadingView.orphan_showOn attached _).hide
  | settled _ _ _ silent _ _ _ => exact absurd shows silent
  | facebookSettled id tokenString _ found _ view requests =>
    right
    refine ⟨by rw [requests, paired.idle_of_settled found], ?_⟩
    rw [view, LoadingView.subviews_showOn]
    simp
  | facebookRefused id tokenString _ _ found _ view requests =>
    left
    rw [view]
    exact LoadingView.orphan_showOn attached _

/-- What is left behind stays, whatever happens next. -/
theorem leftover_lasts (leftover : Leftover screen) (step : screen.step? event = some target) :
    Leftover target := by
  rcases leftover with orphan | ⟨idle, attached⟩
  · left
    cases step?_change step with
    | quiet _ view _ => rwa [view]
    | sent request _ _ _ _ view _ => rw [view]; exact orphan.showOn _
    | refused _ _ _ view _ => rw [view]; exact (orphan.showOn _).hide
    | settled _ _ _ _ _ view _ => rw [view]; exact orphan.hide
    | facebookSettled _ _ _ _ _ view _ => rw [view]; exact orphan.hide.showOn _
    | facebookRefused _ _ _ _ _ _ view _ => rw [view]; exact orphan.showOn _
  · cases step?_change step with
    | quiet _ view requests => exact .inr ⟨requests ▸ idle, view ▸ attached⟩
    | sent request _ _ _ _ view _ =>
      left
      rw [view]
      exact LoadingView.orphan_showOn attached _
    | refused _ _ _ view _ =>
      left
      rw [view]
      exact (LoadingView.orphan_showOn attached _).hide
    | settled id request found _ _ _ _ => simp [idle] at found
    | facebookSettled id tokenString _ found _ _ _ => simp [idle] at found
    | facebookRefused id tokenString _ _ found _ _ _ => simp [idle] at found

/-- In every run whose steps all meet the condition an overlay is attached exactly while a request
is in flight. A run that ends with nothing in flight ends without an overlay only if all its steps
met the condition. -/
theorem overlay_follows_requests (kind : AuthScreen) (events : List ScreenEvent) (screen : FormScreen)
    (reached : (machine kind).Reaches events screen) :
    ((machine kind).Along Uncontested (machine kind).initial events → Faithful screen) ∧
      (screen.requests.entries = [] →
        (screen.loadingView.subviews = [] ↔
          (machine kind).Along Uncontested (machine kind).initial events)) := by
  rcases reached.along_or_fault (paired_initial kind) (fun _ _ _ => paired_step)
    (fun _ _ _ => leftover_step) (fun _ _ _ => leftover_lasts) with ⟨along, paired⟩ | ⟨broken, leftover⟩
  · refine ⟨fun _ => paired.faithful, fun idle => iff_of_true ?_ along⟩
    by_contra attached
    exact paired.faithful.mp attached idle
  · exact ⟨fun along => absurd along broken, fun _ => iff_of_false leftover.attached broken⟩

/-- A password reset that is answered once takes its overlay down. -/
theorem overlay_follows_one_reset : ∃ screen, (machine .reset).Reaches
    [.edited .email "ana@mail.com", .submitTapped, .completed 0 none] screen ∧ Faithful screen := by
  refine ⟨_, rfl, ?_⟩
  exact (overlay_follows_requests .reset
    [.edited .email "ana@mail.com", .submitTapped, .completed 0 none] _ rfl).1 (by decide)

/-- A Facebook sign-in that succeeds leaves its overlay on the sign-in screen. So does a form sent
twice from the sign-up screen, here by the return key, after both requests have completed. -/
theorem overlay_left_behind :
    (∃ screen, (machine .signIn).Reaches
        [.facebookCompleted (.success "token") none, .completed 0 none] screen ∧ ¬ Faithful screen) ∧
      ∃ screen, (machine .signUp).Reaches
        [.edited .userName "ana", .edited .email "ana@mail.com", .edited .password "123456",
          .returnPressed .password, .returnPressed .password, .completed 0 none, .completed 1 none]
        screen ∧ ¬ Faithful screen := by
  constructor
  · exact ⟨_, rfl, fun faithful => faithful.mp (List.cons_ne_nil _ _) rfl⟩
  · exact ⟨_, rfl, fun faithful => faithful.mp (List.cons_ne_nil _ _) rfl⟩

end LoginDN.LoadingOverlay
