import LoginDN.Model.NewsSession
import LoginDN.Model.NewsSteps
import LoginDN.Soundness.ResponseDelivery

/-! # Each news screen shows the feed of its own request

Feeds arrive in any order, also after their screens are gone. A handler that is called finds its screen
waiting, so nothing the session does is refused by the app, and what a screen shows is what was delivered
for the task of its own request.
-/

namespace LoginDN.FeedDelivery

open Machine Alamofire ResponseDelivery

variable {foundation : Foundation} {state target : NewsSession} {event : NewsSessionEvent}
  {events : List NewsSessionEvent} {screen : ℕ}

/-- Why a step of the app on its session can happen. -/
inductive Moved (foundation : Foundation) (state : NewsSession) : NewsSession → Prop
  | user (event : NewsEvent) (app : NewsApp) (other : ∀ screen answer, event ≠ .feedResponse screen answer)
      (same : event ≠ .signedIn) (step : state.app.step? foundation event = some app) :
      Moved foundation state ⟨app, state.session⟩
  | signedIn (app : NewsApp) (step : state.app.step? foundation .signedIn = some app) :
      Moved foundation state ⟨app, NewsSession.getNews state.session⟩
  | called (call : Call) (rest : List Call) (app : NewsApp) (session : SessionManager)
      (waiting : state.session.mainQueue = call :: rest)
      (fed : state.app.step? foundation (.feedResponse call.handler call.answer) = some app)
      (step : state.session.step? false .main = some session) : Moved foundation state ⟨app, session⟩
  | network (event : SessionEvent) (session : SessionManager) (main : event ≠ .main)
      (other : event.causedByApp = false) (step : state.session.step? false event = some session) :
      Moved foundation state ⟨state.app, session⟩

theorem step?_moved (step : state.step? foundation event = some target) : Moved foundation state target := by
  unfold NewsSession.step? at step
  split at step
  · contradiction
  · obtain ⟨app, moved, rfl⟩ := Option.map_eq_some_iff.mp step
    exact .signedIn app moved
  · next event other same =>
    obtain ⟨app, moved, rfl⟩ := Option.map_eq_some_iff.mp step
    exact .user event app other same moved
  · split at step
    · next call rest waiting =>
      obtain ⟨app, fed, later⟩ := Option.bind_eq_some_iff.mp step
      obtain ⟨session, moved, same⟩ := Option.bind_eq_some_iff.mp later
      obtain rfl := Option.some.inj same
      exact .called call rest app session waiting fed moved
    · contradiction
  · next event main =>
    obtain ⟨⟨_, other⟩, same⟩ := Option.ite_none_right_eq_some.mp step
    obtain ⟨session, moved, rfl⟩ := Option.map_eq_some_iff.mp same
    exact .network event session main other moved

/-- `getNews` is two events of the session. -/
theorem getNews_run (session : SessionManager) : (SessionManager.machine false).run? session
    [.request (.ok ()), .response session.nextRequest] = some (NewsSession.getNews session) := by
  have asked : (SessionManager.machine false).step? session (.request (.ok ())) =
      some (session.request false (.ok ())) := rfl
  have added : (SessionManager.machine false).step? (session.request false (.ok ())) (.response session.nextRequest) =
      some (NewsSession.getNews session) := if_pos (Nat.lt_succ_self _)
  rw [System.run?_cons, asked, Option.bind_some, System.run?_singleton, added]

/-- The app and its session each run as if alone. -/
theorem app_reaches (reached : (NewsSession.machine foundation).Reaches events state) :
    ∃ steps, (NewsApp.machine foundation).Reaches steps state.app := by
  have start : ∃ steps, (NewsApp.machine foundation).Reaches steps (NewsSession.machine foundation).initial.app :=
    ⟨[], rfl⟩
  refine reached.project NewsSession.app start fun source event next step => ?_
  cases step?_moved step with
  | user event app other same moved => exact ⟨[event], (System.run?_singleton ..).trans moved⟩
  | signedIn app moved => exact ⟨[.signedIn], (System.run?_singleton ..).trans moved⟩
  | called call rest app session waiting fed moved => exact ⟨[_], (System.run?_singleton ..).trans fed⟩
  | network event session main other moved => exact ⟨[], rfl⟩

theorem session_reaches (reached : (NewsSession.machine foundation).Reaches events state) :
    ∃ steps, (SessionManager.machine false).Reaches steps state.session := by
  have start : ∃ steps, (SessionManager.machine false).Reaches steps (NewsSession.machine foundation).initial.session :=
    ⟨_, getNews_run SessionManager.initial⟩
  refine reached.project NewsSession.session start fun source event next step => ?_
  cases step?_moved step with
  | user event app other same moved => exact ⟨[], rfl⟩
  | signedIn app moved => exact ⟨_, getNews_run source.session⟩
  | called call rest app session waiting fed moved => exact ⟨[.main], (System.run?_singleton ..).trans moved⟩
  | network event session main other moved => exact ⟨[event], (System.run?_singleton ..).trans moved⟩

/-- What a screen that has been told of an answer has made of it. -/
def Fed (foundation : Foundation) (state : NewsSession) (screen : ℕ) : Prop :=
  (state.app.screens screen).loading = false ∧ ∃ call ∈ state.session.called, call.handler = screen ∧
    (state.app.screens screen).arrayNews = (NewsController.getNewsApi foundation [] call.answer).1

/-- The screens, their requests and their handlers have the same numbers, and the handler of a screen that
waits has not been called. -/
structure Linked (foundation : Foundation) (state : NewsSession) : Prop where
  requests : state.session.nextRequest = state.app.current + 1
  handlers : state.session.nextHandler = state.app.current + 1
  assigned : ∀ request, request < state.session.nextRequest → state.session.taskOf request ≠ none
  own : ∀ entry ∈ state.session.added, entry.1 = entry.2
  screens : ∀ screen, screen ≤ state.app.current →
    ((state.app.screens screen).loading = true ∧ (state.app.screens screen).arrayNews = [] ∧
      ∀ call ∈ state.session.called, call.handler ≠ screen) ∨ Fed foundation state screen

theorem linked_initial : Linked foundation (NewsSession.machine foundation).initial := by
  refine ⟨rfl, rfl, fun request below => ?_, fun entry member => ?_, fun screen below => .inl ?_⟩
  · obtain rfl := Nat.lt_one_iff.mp below
    exact Option.some_ne_none 0
  · obtain rfl := List.mem_singleton.mp member
    rfl
  · obtain rfl := Nat.le_zero.mp below
    exact ⟨rfl, rfl, fun _ member => absurd member List.not_mem_nil⟩

/-- The handler of a call that waits or was made is that of a screen there is. -/
theorem handler_le (reached : (NewsSession.machine foundation).Reaches events state) (linked : Linked foundation state)
    {call : Call} (member : call ∈ state.session.called ++ state.session.mainQueue) :
    call.request = call.handler ∧ call.handler ≤ state.app.current := by
  obtain ⟨steps, run⟩ := session_reaches reached
  have listed : item call ∈ (pipeline state.session).delivered ++ (pipeline state.session).shared := by
    simp only [pipeline, ← List.map_append]
    exact List.mem_map_of_mem member
  have added : item call ∈ state.session.added := (conserved_of_reaches run).mem listed
  have numbered := numbered_of_reaches run
  have below : call.handler ∈ List.range state.session.nextHandler := by
    rw [← numbered]
    exact List.mem_map_of_mem (f := Prod.snd) added
  have bound := List.mem_range.mp below
  have handlers := linked.handlers
  exact ⟨linked.own _ added, by omega⟩

/-- A screen that a step leaves alone is linked as before. -/
theorem screen_kept {app : NewsApp} {session : SessionManager}
    (before : ((state.app.screens screen).loading = true ∧ (state.app.screens screen).arrayNews = [] ∧
      ∀ call ∈ state.session.called, call.handler ≠ screen) ∨ Fed foundation state screen)
    (called : session.called = state.session.called)
    (same : (app.screens screen).loading = (state.app.screens screen).loading ∧
      (app.screens screen).arrayNews = (state.app.screens screen).arrayNews) :
    ((app.screens screen).loading = true ∧ (app.screens screen).arrayNews = [] ∧
      ∀ call ∈ session.called, call.handler ≠ screen) ∨ Fed foundation ⟨app, session⟩ screen := by
  simp only [Fed] at before ⊢
  rw [called, same.1, same.2]
  exact before

theorem linked_signedIn (reached : (NewsSession.machine foundation).Reaches events state)
    (linked : Linked foundation state) {app : NewsApp} (moved : state.app.step? foundation .signedIn = some app) :
    Linked foundation ⟨app, NewsSession.getNews state.session⟩ := by
  obtain ⟨steps, run⟩ := app_reaches reached
  obtain ⟨_, change⟩ := NewsApp.step?_change (NewsApp.sound_of_reaches run) moved
  obtain ⟨kept, ⟨other, _⟩ | ⟨_, current, opened⟩⟩ := change.feeds fun _ _ => by simp
  · exact absurd rfl other
  · have requests := linked.requests
    have handlers := linked.handlers
    refine ⟨?_, ?_, fun request below => ?_, fun entry member => ?_, fun screen below => ?_⟩
    · change state.session.nextRequest + 1 = app.current + 1
      omega
    · change state.session.nextHandler + 1 = app.current + 1
      omega
    · by_cases new : request = state.session.nextRequest
      · subst new
        have self : (NewsSession.getNews state.session).taskOf state.session.nextRequest =
            some state.session.nextTask := by
          simp only [NewsSession.getNews, SessionManager.taskOf, SessionManager.made_addHandler,
            SessionManager.made_modify_self, SessionManager.request, Function.update_self]
          rfl
        rw [self]
        simp
      · have old : request < state.session.nextRequest := by
          change request < state.session.nextRequest + 1 at below
          omega
        have same : (NewsSession.getNews state.session).taskOf request = state.session.taskOf request := by
          rw [SessionManager.taskOf, NewsSession.getNews, SessionManager.made_addHandler,
            SessionManager.made_modify_of_ne new, SessionManager.taskOf]
          exact congrArg (fun made : DataRequest => made.delegate.task) (Function.update_of_ne new ..)
        rw [same]
        exact linked.assigned request old
    · rcases List.mem_append.mp member with old | new
      · exact linked.own entry old
      · obtain rfl := List.mem_singleton.mp new
        change state.session.nextRequest = state.session.nextHandler
        omega
    · by_cases new : screen = app.current
      · subst new
        refine .inl ⟨by rw [opened]; rfl, by rw [opened]; rfl, fun call member named => ?_⟩
        have known := (handler_le reached linked (List.mem_append_left _ member)).2
        omega
      · have old : screen ≤ state.app.current := by
          change screen ≤ app.current at below
          omega
        exact screen_kept (linked.screens screen old) rfl (kept screen old)

theorem linked_called (reached : (NewsSession.machine foundation).Reaches events state)
    (linked : Linked foundation state) {call : Call} {rest : List Call} {app : NewsApp} {session : SessionManager}
    (waiting : state.session.mainQueue = call :: rest)
    (fed : state.app.step? foundation (.feedResponse call.handler call.answer) = some app)
    (moved : state.session.step? false .main = some session) : Linked foundation ⟨app, session⟩ := by
  obtain ⟨steps, run⟩ := app_reaches reached
  have loading : state.app.trapped = none ∧ (state.app.screens call.handler).loading = true := by
    refine ⟨(NewsApp.step?_change (NewsApp.sound_of_reaches run) fed).1, ?_⟩
    cases (NewsApp.step?_change (NewsApp.sound_of_reaches run) fed).2 with
    | fed _ _ _ loading => exact loading
  have awaits := linked.screens call.handler
    (handler_le reached linked (List.mem_append_right _ (waiting ▸ List.mem_cons_self ..))).2
  simp only [Fed, loading.2] at awaits
  obtain ⟨_, empty, uncalled⟩ | ⟨ended, _⟩ := awaits
  · rw [NewsApp.step?_feedResponse loading.1 loading.2, empty] at fed
    obtain rfl := Option.some.inj fed
    simp only [SessionManager.step?, waiting] at moved
    obtain rfl := Option.some.inj moved
    refine ⟨linked.requests, linked.handlers, linked.assigned, linked.own, fun screen below => ?_⟩
    by_cases same : screen = call.handler
    · subst same
      have self : (state.app.withScreen call.handler { state.app.screens call.handler with
          loading := false
          arrayNews := (NewsController.getNewsApi foundation [] call.answer).1 }).screens call.handler =
          { state.app.screens call.handler with
            loading := false
            arrayNews := (NewsController.getNewsApi foundation [] call.answer).1 } := Function.update_self ..
      refine .inr ⟨by rw [self], call, List.mem_append_right _ (List.mem_singleton_self _), rfl, by rw [self]⟩
    · have kept : (state.app.withScreen call.handler { state.app.screens call.handler with
          loading := false
          arrayNews := (NewsController.getNewsApi foundation [] call.answer).1 }).screens screen =
          state.app.screens screen := Function.update_of_ne same ..
      rcases linked.screens screen below with ⟨still, none, unmatched⟩ | ⟨done, other, member, named, shows⟩
      · refine .inl ⟨by rw [kept, still], by rw [kept, none], fun other member => ?_⟩
        rcases List.mem_append.mp member with old | new
        · exact unmatched other old
        · obtain rfl := List.mem_singleton.mp new
          exact Ne.symm same
      · exact .inr ⟨by rw [kept, done], other, List.mem_append_left _ member, named, by rw [kept, shows]⟩
  · contradiction

theorem linked_network (reached : (NewsSession.machine foundation).Reaches events state)
    (linked : Linked foundation state) {event : SessionEvent} {session : SessionManager} (main : event ≠ .main)
    (other : event.causedByApp = false) (moved : state.session.step? false event = some session) :
    Linked foundation ⟨state.app, session⟩ := by
  obtain ⟨steps, run⟩ := session_reaches reached
  have steady := steady_step (direct_of_reaches run) moved fun outcome same => by
    rw [same] at other
    contradiction
  have queues : session.nextHandler = state.session.nextHandler ∧ session.added = state.session.added ∧
      session.called = state.session.called := by
    cases SessionManager.step?_queued moved with
    | added request named known queues =>
      rw [named] at other
      contradiction
    | answered request handler rest named resumed waiting queues =>
      simp only [SessionManager.queues, Prod.mk.injEq] at queues
      exact ⟨queues.1, queues.2.1, queues.2.2.2⟩
    | called call rest named waiting queues => exact absurd named main
    | quiet _ _ queues =>
      simp only [SessionManager.queues, Prod.mk.injEq] at queues
      exact ⟨queues.1, queues.2.1, queues.2.2.2⟩
  refine ⟨steady.known.trans linked.requests, queues.1.trans linked.handlers, fun request below => ?_,
    fun entry member => ?_, fun screen below => screen_kept (linked.screens screen below) queues.2.2 ⟨rfl, rfl⟩⟩
  · rw [steady.assigned]
    exact linked.assigned request (by rwa [steady.known] at below)
  · exact linked.own entry (by rwa [queues.2.1] at member)

theorem linked_of_reaches (reached : (NewsSession.machine foundation).Reaches events state) :
    Linked foundation state := by
  induction events using List.reverseRecOn generalizing state with
  | nil =>
    cases reached
    exact linked_initial
  | append_singleton events event ih =>
    obtain ⟨source, before, step⟩ := System.reaches_concat_iff.mp reached
    have linked := ih before
    cases step?_moved step with
    | user event app other same moved =>
      obtain ⟨steps, run⟩ := app_reaches before
      obtain ⟨_, change⟩ := NewsApp.step?_change (NewsApp.sound_of_reaches run) moved
      obtain ⟨kept, ⟨_, current⟩ | ⟨signedIn, _⟩⟩ := change.feeds other
      · refine ⟨by rw [linked.requests, current], by rw [linked.handlers, current], linked.assigned, linked.own,
          fun screen below => ?_⟩
        rw [current] at below
        exact screen_kept (linked.screens screen below) rfl (kept screen below)
      · exact absurd signedIn same
    | signedIn app moved => exact linked_signedIn before linked moved
    | called call rest app session waiting fed moved => exact linked_called before linked waiting fed moved
    | network event session main other moved => exact linked_network before linked main other moved

/-- The user signs out before the feed has arrived and signs in again. The feed of the second screen
arrives first, in two parts. -/
def lateFeedRun : List NewsSessionEvent :=
  [.app .signedOut, .app .signedIn, .session (.didReceiveResponse 1 200),
    .session (.didReceiveData 1 (NewsApp.sampleBody.take 40)), .session (.didReceiveResponse 0 404),
    .session (.didReceiveData 1 (NewsApp.sampleBody.drop 40)), .session (.didComplete 1 none),
    .session (.operation 1), .session (.didComplete 0 none), .session (.operation 0)]

/-- The screen of a handler that waits to be called waits for its feed. -/
theorem loading_of_waiting (reached : (NewsSession.machine foundation).Reaches events state) {call : Call}
    (member : call ∈ state.session.mainQueue) : (state.app.screens call.handler).loading = true := by
  have linked := linked_of_reaches reached
  have known := handler_le reached linked (List.mem_append_right _ member)
  rcases linked.screens call.handler known.2 with ⟨loading, _, _⟩ | ⟨_, earlier, before, named, _⟩
  · exact loading
  · -- The handler would be in the pipeline twice.
    obtain ⟨steps, run⟩ := session_reaches reached
    have numbers : (state.session.added.map Prod.snd).Nodup := by
      rw [numbered_of_reaches run]
      exact List.nodup_range
    have once := (conserved_of_reaches run).nodup (numbers.of_map Prod.snd)
    have same : item earlier = item call := by
      have own := (handler_le reached linked (List.mem_append_left _ before)).1
      simp only [item, Prod.mk.injEq]
      omega
    have apart := (List.nodup_append.mp once).2.2 (item earlier) (List.mem_map_of_mem before) (item call)
      (List.mem_map_of_mem member)
    exact absurd same apart

/-- The app takes every call of a handler: the screens of all handlers on the main queue wait for their
feeds, and the first of them can be called. -/
theorem handler_finds_waiting_screen (reached : (NewsSession.machine foundation).Reaches events state)
    (running : state.app.trapped = none) :
    (∀ call ∈ state.session.mainQueue, (state.app.screens call.handler).loading = true) ∧
      (state.session.mainQueue ≠ [] → ∃ target, state.step? foundation (.session .main) = some target) := by
  refine ⟨fun call member => loading_of_waiting reached member, fun busy => ?_⟩
  obtain ⟨call, rest, waiting⟩ := List.exists_cons_of_ne_nil busy
  have loading := loading_of_waiting reached (waiting ▸ List.mem_cons_self ..)
  obtain ⟨app, fed⟩ : ∃ app, state.app.step? foundation (.feedResponse call.handler call.answer) = some app :=
    ⟨_, NewsApp.step?_feedResponse running loading call.answer⟩
  obtain ⟨session, moved⟩ : ∃ session, state.session.step? false .main = some session := by
    simp only [SessionManager.step?, waiting]
    exact ⟨_, rfl⟩
  refine ⟨⟨app, session⟩, ?_⟩
  simp only [NewsSession.step?, waiting, fed, moved]
  rfl

/-- Both handlers are on the main queue, that of the second screen in front. -/
theorem handler_finds_second_screen : ∃ state, (NewsSession.machine NewsApp.sample).Reaches lateFeedRun state ∧
    state.session.mainQueue.map Call.handler = [1, 0] ∧
    (∀ call ∈ state.session.mainQueue, (state.app.screens call.handler).loading = true) ∧
    ∃ target, state.step? NewsApp.sample (.session .main) = some target := by
  have run : ((NewsSession.machine NewsApp.sample).run? NewsSession.initial lateFeedRun).map (fun state =>
      (decide (state.app.trapped = none), state.session.mainQueue.map Call.handler)) = some (true, [1, 0]) := by
    decide +kernel
  obtain ⟨state, reached, observed⟩ := Option.map_eq_some_iff.mp run
  simp only [Prod.mk.injEq, decide_eq_true_eq] at observed
  obtain ⟨running, handlers⟩ := observed
  obtain ⟨loading, goes⟩ := handler_finds_waiting_screen reached running
  refine ⟨state, reached, handlers, loading, goes fun idle => ?_⟩
  rw [idle] at handlers
  contradiction

/-- When nothing happens by itself any more, no screen waits for its feed. -/
theorem no_screen_waits (reached : (NewsSession.machine foundation).Reaches events state)
    (settled : Settled false state.session) (opened : screen ≤ state.app.current) :
    (state.app.screens screen).loading = false := by
  have linked := linked_of_reaches reached
  obtain ⟨steps, run⟩ := session_reaches reached
  obtain ⟨_, _, uncalled⟩ | ⟨done, _⟩ := linked.screens screen opened
  · have requests := linked.requests
    have handlers := linked.handlers
    have numbered : screen ∈ state.session.added.map Prod.snd := by
      rw [numbered_of_reaches run]
      exact List.mem_range.mpr (by omega)
    obtain ⟨entry, added, rfl⟩ := List.mem_map.mp numbered
    have listed : entry.2 ∈ Pipeline.ofKey entry.1 state.session.added := Pipeline.mem_ofKey.mpr added
    have own := linked.own entry added
    rw [← (direct_of_reaches run).all_called (conserved_of_reaches run) settled (by omega)] at listed
    obtain ⟨call, member, same⟩ := List.mem_map.mp (Pipeline.mem_ofKey.mp listed)
    exact absurd (congrArg Prod.snd same) (uncalled call member)
  · exact done

/-- Not even the screen of before the sign-out does. -/
theorem first_screen_waits_no_more : ∃ state,
    (NewsSession.machine NewsApp.sample).Reaches (lateFeedRun ++ [.session .main, .session .main]) state ∧
    Settled false state.session ∧ (state.app.screens 0).loading = false := by
  have run : ((NewsSession.machine NewsApp.sample).run? NewsSession.initial
      (lateFeedRun ++ [.session .main, .session .main])).map (fun state =>
        (decide (Settled false state.session), state.app.current)) = some (true, 1) := by decide +kernel
  obtain ⟨state, reached, observed⟩ := Option.map_eq_some_iff.mp run
  simp only [Prod.mk.injEq, decide_eq_true_eq] at observed
  exact ⟨state, reached, observed.1, no_screen_waits reached observed.1 (Nat.zero_le _)⟩

end LoginDN.FeedDelivery
