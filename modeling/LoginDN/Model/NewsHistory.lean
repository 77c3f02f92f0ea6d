import LoginDN.Model.NewsSteps

/-! # Where reminders and alerts come from

For each part of the app that grows, what a step can add to it. Each reminder on its way to the centre,
accepted by it, waiting in it or delivered is the reminder of the article that one swipe was made on.
The swipe is known by its number, and no number is the number of two swipes.
-/

namespace LoginDN.NewsApp

open Machine

variable {foundation : Foundation} {app target : NewsApp} {event : NewsEvent} {events : List NewsEvent}
  {id : ℕ} {request : Reminder}

namespace Change

theorem swiped_subset (change : Change foundation app event target) : app.swiped ⊆ target.swiped := by
  cases change with
  | swiped => exact List.subset_cons_self _ _
  | _ => exact List.Subset.refl _

theorem accepted_subset (change : Change foundation app event target) : app.accepted ⊆ target.accepted := by
  cases change with
  | answered swipe request error flight =>
    change app.accepted ⊆ if error = none then (swipe, request) :: app.accepted else app.accepted
    split
    · exact List.subset_cons_self _ _
    · exact List.Subset.refl _
  | _ => exact List.Subset.refl _

theorem next_le (change : Change foundation app event target) : app.swipes.next ≤ target.swipes.next := by
  cases change with
  | swiped => exact Nat.le_succ _
  | _ => exact Nat.le_refl _

/-- A swipe that is recorded was recorded before or has just been made. -/
theorem swipes (change : Change foundation app event target) {news : News} (recorded : (id, news) ∈ target.swiped) :
    (id, news) ∈ app.swiped ∨ id = app.swipes.next ∧ target.swipes.next = app.swipes.next + 1 := by
  cases change with
  | swiped row article touchable found =>
    rcases List.mem_cons.mp recorded with new | old
    · exact .inr ⟨(Prod.mk.inj new).1, rfl⟩
    · exact .inl old
  | _ => exact .inl recorded

/-- A swipe in flight was in flight before or is the one that was just begun. -/
theorem stages (change : Change foundation app event target) {stage : SwipeStage}
    (flight : (id, stage) ∈ target.swipes.entries) :
    (∃ before, (id, before) ∈ app.swipes.entries) ∨ id = app.swipes.next := by
  cases change with
  | swiped =>
    rcases Ledger.mem_issue.mp flight with old | ⟨new, _⟩
    · exact .inl ⟨stage, old⟩
    · exact .inr new
  | granted swipe screen row news didAllow error before found grants =>
    rcases (Ledger.mem_revise before).mp flight with ⟨rfl, _⟩ | ⟨_, old⟩
    · exact .inl ⟨_, before⟩
    · exact .inl ⟨stage, old⟩
  | refused => exact .inl ⟨stage, (Ledger.mem_close.mp flight).1⟩
  | answered => exact .inl ⟨stage, (Ledger.mem_close.mp flight).1⟩
  | _ => exact .inl ⟨stage, flight⟩

/-- A request that is added was on its way before, or its swipe has just been reported as saved. -/
theorem adds (change : Change foundation app event target)
    (flight : (id, .adding request) ∈ target.swipes.entries) :
    (id, .adding request) ∈ app.swipes.entries ∨
      (id, saved) ∈ target.alerts ∧ ∃ screen row news, (id, .authorizing screen row) ∈ app.swipes.entries ∧
        (app.screens screen).arrayNews[row]? = some news ∧ request = .ofNews news := by
  cases change with
  | swiped row news touchable found =>
    rcases Ledger.mem_issue.mp flight with old | ⟨_, new⟩
    · exact .inl old
    · contradiction
  | granted swipe screen row news didAllow error before found grants =>
    rcases (Ledger.mem_revise before).mp flight with ⟨rfl, made⟩ | ⟨_, old⟩
    · exact .inr ⟨List.mem_cons_self .., screen, row, news, before, found, SwipeStage.adding.inj made⟩
    · exact .inl old
  | refused => exact .inl (Ledger.mem_close.mp flight).1
  | answered => exact .inl (Ledger.mem_close.mp flight).1
  | _ => exact .inl flight

/-- A request on its way stays so until the centre answers. -/
theorem awaits (change : Change foundation app event target)
    (flight : (id, .adding request) ∈ app.swipes.entries) :
    (id, .adding request) ∈ target.swipes.entries ∨
      ∃ error, event = .addAnswer id error ∧ (error = none → (id, request) ∈ target.accepted) := by
  cases change with
  | swiped => exact .inl (Ledger.mem_issue.mpr (.inl flight))
  | granted swipe screen row news didAllow error before found grants =>
    refine .inl ((Ledger.mem_revise before).mpr (.inr ⟨fun same => ?_, flight⟩))
    subst same
    cases Ledger.eq_of_mem before flight
  | refused swipe screen row didAllow error before refuses =>
    refine .inl (Ledger.mem_close.mpr ⟨flight, fun same => ?_⟩)
    subst same
    cases Ledger.eq_of_mem before flight
  | answered swipe added error before =>
    by_cases same : id = swipe
    · subst same
      cases Ledger.eq_of_mem before flight
      exact .inr ⟨error, rfl, fun quiet => by simp [quiet]⟩
    · exact .inl (Ledger.mem_close.mpr ⟨flight, same⟩)
  | _ => exact .inl flight

theorem alerts_subset (change : Change foundation app event target) : app.alerts ⊆ target.alerts := by
  cases change with
  | granted => exact List.subset_cons_self _ _
  | refused => exact List.subset_cons_self _ _
  | _ => exact List.Subset.refl _

/-- `showAlert` is called for a swipe when the user has answered: that it is saved as its request is added,
or that the user has to give leave as the swipe is over. -/
theorem alerted (change : Change foundation app event target) {alert : String × String}
    (shown : (id, alert) ∈ target.alerts) :
    (id, alert) ∈ app.alerts ∨ (∃ screen row, (id, .authorizing screen row) ∈ app.swipes.entries) ∧
      (alert = saved ∧ (∃ request, (id, .adding request) ∈ target.swipes.entries) ∨
        alert = NewsApp.refused ∧ ∀ stage, (id, stage) ∉ target.swipes.entries) := by
  cases change with
  | granted swipe screen row news didAllow error flight found grants =>
    rcases List.mem_cons.mp shown with new | old
    · obtain ⟨rfl, rfl⟩ := Prod.mk.inj new
      exact .inr ⟨⟨screen, row, flight⟩, .inl ⟨rfl, _, (Ledger.mem_revise flight).mpr (.inl ⟨rfl, rfl⟩)⟩⟩
    · exact .inl old
  | refused swipe screen row didAllow error flight refuses =>
    rcases List.mem_cons.mp shown with new | old
    · obtain ⟨rfl, rfl⟩ := Prod.mk.inj new
      exact .inr ⟨⟨screen, row, flight⟩, .inr ⟨rfl, fun _ still => (Ledger.mem_close.mp still).2 rfl⟩⟩
    · exact .inl old
  | _ => exact .inl shown

/-- The centre accepts what was on its way to it. -/
theorem accepts (change : Change foundation app event target) (accepted : (id, request) ∈ target.accepted) :
    (id, request) ∈ app.accepted ∨ (id, .adding request) ∈ app.swipes.entries ∧ event = .addAnswer id none ∧
      target.swipes = app.swipes.close id := by
  cases change with
  | answered swipe added error flight =>
    change _ ∈ if error = none then (swipe, added) :: app.accepted else app.accepted at accepted
    split at accepted
    · next quiet =>
      rcases List.mem_cons.mp accepted with new | old
      · obtain ⟨rfl, rfl⟩ := Prod.mk.inj new
        exact .inr ⟨flight, by rw [quiet], rfl⟩
      · exact .inl old
    · exact .inl accepted
  | _ => exact .inl accepted

/-- A reminder waits in the centre since the centre has accepted it. -/
theorem pending (change : Change foundation app event target) {reminder : Reminder}
    (waiting : reminder ∈ target.pending) : reminder ∈ app.pending ∨ ∃ id, (id, reminder) ∈ target.accepted := by
  cases change with
  | answered swipe added error flight =>
    change _ ∈ if error = none then added :: without added.identifier app.pending else app.pending at waiting
    split at waiting
    · next quiet =>
      rcases List.mem_cons.mp waiting with rfl | old
      · exact .inr ⟨swipe, by simp [quiet]⟩
      · exact .inl (List.mem_filter.mp old).1
    · exact .inl waiting
  | delivered => exact .inl (List.mem_filter.mp waiting).1
  | _ => exact .inl waiting

/-- A reminder is delivered after it has waited in the centre. -/
theorem delivers (change : Change foundation app event target) {reminder : Reminder}
    (delivered : reminder ∈ target.delivered) : reminder ∈ app.delivered ∨ reminder ∈ app.pending := by
  cases change with
  | delivered identifier first waiting named =>
    rcases List.mem_cons.mp delivered with rfl | old
    · exact .inr waiting
    · exact .inl (List.mem_filter.mp old).1
  | tapped => exact .inl (List.mem_filter.mp delivered).1
  | failed => exact .inl (List.mem_filter.mp delivered).1
  | ignored => exact .inl (List.mem_filter.mp delivered).1
  | _ => exact .inl delivered

end Change

/-- The reminder is that of the article the swipe was made on. -/
def Made (app : NewsApp) (id : ℕ) (reminder : Reminder) : Prop :=
  ∃ news, (id, news) ∈ app.swiped ∧ reminder = .ofNews news

/-- Swipes are recorded under their numbers, and the reminders are theirs. -/
structure Recorded (app : NewsApp) : Prop where
  below : ∀ id news, (id, news) ∈ app.swiped → id < app.swipes.next
  once : ∀ id first second, (id, first) ∈ app.swiped → (id, second) ∈ app.swiped → first = second
  authorizing : ∀ id screen row, (id, .authorizing screen row) ∈ app.swipes.entries →
    ∃ news, (id, news) ∈ app.swiped ∧ (app.screens screen).arrayNews[row]? = some news
  adding : ∀ id request, (id, .adding request) ∈ app.swipes.entries → app.Made id request
  accepted : ∀ id request, (id, request) ∈ app.accepted → app.Made id request
  pending : ∀ reminder ∈ app.pending, ∃ id, (id, reminder) ∈ app.accepted
  delivered : ∀ reminder ∈ app.delivered, ∃ id, (id, reminder) ∈ app.accepted

theorem recorded_initial : (machine foundation).initial.Recorded :=
  ⟨fun _ _ => nofun, fun _ _ _ => nofun, fun _ _ _ => nofun, fun _ _ => nofun, fun _ _ => nofun, fun _ => nofun,
    fun _ => nofun⟩

theorem Made.mono {reminder : Reminder} (made : app.Made id reminder) (subset : app.swiped ⊆ target.swiped) :
    target.Made id reminder := by
  obtain ⟨news, recorded, same⟩ := made
  exact ⟨news, subset recorded, same⟩

/-- Two swipes recorded under one number are one swipe. -/
private theorem once_step (recorded : app.Recorded) (change : Change foundation app event target) :
    ∀ id first second, (id, first) ∈ target.swiped → (id, second) ∈ target.swiped → first = second := by
  intro id first second one two
  cases change with
  | swiped row news touchable found =>
    rcases List.mem_cons.mp one with new | old <;> rcases List.mem_cons.mp two with new' | old'
    · exact (Prod.mk.inj new).2.trans (Prod.mk.inj new').2.symm
    · have below := recorded.below id second old'
      have fresh := (Prod.mk.inj new).1
      omega
    · have below := recorded.below id first old
      have fresh := (Prod.mk.inj new').1
      omega
    · exact recorded.once id first second old old'
  | _ => exact recorded.once id first second one two

theorem recorded_step (sound : app.Sound) (recorded : app.Recorded) (change : Change foundation app event target) :
    target.Recorded where
  below id news swiped := by
    have later := change.next_le
    rcases change.swipes swiped with old | ⟨rfl, next⟩
    · have below := recorded.below id news old
      omega
    · omega
  once := once_step recorded change
  authorizing id screen row flight := by
    rcases change.captures flight with old | ⟨rfl, rfl, rfl, _⟩
    · obtain ⟨news, swiped, found⟩ := recorded.authorizing id screen row old
      have opened := (sound.swipes id screen row old).1
      exact ⟨news, change.swiped_subset swiped, (change.keeps sound).articles screen opened row news found⟩
    · cases change with
      | swiped _ news touchable found => exact ⟨news, List.mem_cons_self .., found⟩
  adding id request flight := by
    rcases change.adds flight with old | ⟨_, screen, row, news, waiting, found, rfl⟩
    · exact (recorded.adding id request old).mono change.swiped_subset
    · obtain ⟨article, swiped, same⟩ := recorded.authorizing id screen row waiting
      obtain rfl := Option.some.inj (found.symm.trans same)
      exact ⟨news, change.swiped_subset swiped, rfl⟩
  accepted id request accepted := by
    rcases change.accepts accepted with old | ⟨flight, _⟩
    · exact (recorded.accepted id request old).mono change.swiped_subset
    · exact (recorded.adding id request flight).mono change.swiped_subset
  pending reminder waiting := by
    rcases change.pending waiting with old | new
    · obtain ⟨id, accepted⟩ := recorded.pending reminder old
      exact ⟨id, change.accepted_subset accepted⟩
    · exact new
  delivered reminder delivered := by
    rcases change.delivers delivered with old | waiting
    · obtain ⟨id, accepted⟩ := recorded.delivered reminder old
      exact ⟨id, change.accepted_subset accepted⟩
    · obtain ⟨id, accepted⟩ := recorded.pending reminder waiting
      exact ⟨id, change.accepted_subset accepted⟩

theorem recorded_of_reaches (reached : (machine foundation).Reaches events app) : app.Recorded := by
  induction events using List.reverseRecOn generalizing app with
  | nil =>
    cases reached
    exact recorded_initial
  | append_singleton before event ih =>
    obtain ⟨middle, start, step⟩ := System.reaches_concat_iff.mp reached
    have sound := sound_of_reaches start
    exact recorded_step sound (ih start) (step?_change sound step).2

/-- A delivered reminder is that of an article a swipe was made on. -/
theorem delivered_made (reached : (machine foundation).Reaches events app) {reminder : Reminder}
    (delivered : reminder ∈ app.delivered) : ∃ id, app.Made id reminder := by
  have recorded := recorded_of_reaches reached
  obtain ⟨id, accepted⟩ := recorded.delivered reminder delivered
  exact ⟨id, recorded.accepted id reminder accepted⟩

end LoginDN.NewsApp
