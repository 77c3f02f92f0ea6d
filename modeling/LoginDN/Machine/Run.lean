import Mathlib.Data.List.Induction
import Mathlib.Tactic.Common

/-! # Runs of a machine that answers or refuses events

A machine is deterministic and partial: in each state an event has one next state or cannot happen.
Runs are lists of events, so the order of user actions and of asynchronous answers is the order of
the list and nothing else. A guard is a condition on a step's event and on the state before it.
`Along` says that every step of a run met the guard; it never looks at the state the step produces.
The rules below derive a property of every state reached from one fact about a single step.
-/

namespace Machine

/-- In each state an event has at most one next state. -/
structure System (State Event : Type*) where
  initial : State
  step? : State → Event → Option State

namespace System

variable {State Event : Type*} (m : System State Event)

/-- The state after a list of events, when each of them can happen in its turn. -/
def run? : State → List Event → Option State
  | source, [] => some source
  | source, event :: rest => (m.step? source event).bind fun next => run? next rest

/-- A run of the machine from its initial state. -/
def Reaches (events : List Event) (target : State) : Prop := m.run? m.initial events = some target

/-- Every event of the run meets the guard in the state where it happens. -/
def Along (guard : State → Event → Prop) : State → List Event → Prop
  | _, [] => True
  | source, event :: rest =>
      guard source event ∧ ∀ next, m.step? source event = some next → Along guard next rest

/-- Every event of the run meets a condition that may also look at the events before it. -/
def Throughout (condition : List Event → State → Event → Prop) (events : List Event) : Prop :=
  ∀ before event after, events = before ++ event :: after →
    ∀ state, m.Reaches before state → condition before state event

/-- What is seen last along a run, when some of its steps show something and the others nothing. -/
def lastSeen {Sight : Type*} (observe : State → Event → Option Sight) : State → List Event → Option Sight
  | _, [] => none
  | source, event :: rest =>
      match m.step? source event with
      | none => none
      | some next => (lastSeen observe next rest).or (observe source event)

@[simp] theorem run?_nil (source : State) : m.run? source [] = some source := rfl

theorem run?_cons (source : State) (event : Event) (rest : List Event) :
    m.run? source (event :: rest) = (m.step? source event).bind fun next => m.run? next rest := rfl

theorem run?_singleton (source : State) (event : Event) : m.run? source [event] = m.step? source event := by
  rw [run?_cons]
  exact Option.bind_fun_some _

variable {m} {source middle target : State} {event : Event} {first second rest events : List Event}

theorem run?_cons_iff : m.run? source (event :: rest) = some target ↔
    ∃ next, m.step? source event = some next ∧ m.run? next rest = some target := by
  rw [run?_cons, Option.bind_eq_some_iff]

/-- A run may be cut after any of its events. -/
theorem run?_append_iff : m.run? source (first ++ second) = some target ↔
    ∃ middle, m.run? source first = some middle ∧ m.run? middle second = some target := by
  induction first generalizing source with
  | nil => simp
  | cons event rest ih =>
    simp only [List.cons_append, run?_cons_iff, ih]
    constructor
    · rintro ⟨next, step, middle, left, right⟩
      exact ⟨middle, ⟨next, step, left⟩, right⟩
    · rintro ⟨middle, ⟨next, step, left⟩, right⟩
      exact ⟨next, step, middle, left, right⟩

theorem run?_concat_iff : m.run? source (events ++ [event]) = some target ↔
    ∃ middle, m.run? source events = some middle ∧ m.step? middle event = some target := by
  simp only [run?_append_iff, run?_cons_iff, run?_nil, Option.some.injEq, exists_eq_right]

theorem reaches_concat_iff : m.Reaches (events ++ [event]) target ↔
    ∃ middle, m.Reaches events middle ∧ m.step? middle event = some target := run?_concat_iff

section Guards

variable {guard other : State → Event → Prop}

theorem along_append_iff (run : m.run? source first = some middle) :
    m.Along guard source (first ++ second) ↔
      m.Along guard source first ∧ m.Along guard middle second := by
  induction first generalizing source with
  | nil => cases run; simp [Along]
  | cons event rest ih =>
    obtain ⟨next, step, tail⟩ := run?_cons_iff.mp run
    simp only [List.cons_append, Along, step, Option.some.injEq, forall_eq', ih tail, and_assoc]

theorem along_concat_iff (run : m.run? source events = some middle)
    (step : m.step? middle event = some target) :
    m.Along guard source (events ++ [event]) ↔ m.Along guard source events ∧ guard middle event := by
  simp only [along_append_iff run, Along, step, Option.some.injEq, forall_eq', and_true]

theorem along_cons_of_step (step : m.step? source event = some target) :
    m.Along guard source (event :: rest) ↔ guard source event ∧ m.Along guard target rest := by
  simp only [Along, step, Option.some.injEq, forall_eq']

theorem along_cons_of_refused (refused : m.step? source event = none) :
    m.Along guard source (event :: rest) ↔ guard source event := by
  simp only [Along, refused, reduceCtorEq, false_implies, implies_true, and_true]

/-- A decidable guard can be checked along a concrete run. -/
instance decidableAlong [∀ s e, Decidable (guard s e)] :
    ∀ (source : State) (events : List Event), Decidable (m.Along guard source events)
  | _, [] => .isTrue trivial
  | source, event :: rest =>
      match outcome : m.step? source event with
      | none => decidable_of_iff _ (along_cons_of_refused outcome).symm
      | some next =>
          have := decidableAlong next rest
          decidable_of_iff _ (along_cons_of_step outcome).symm

theorem Along.mono (weaker : ∀ s e, guard s e → other s e) {source : State}
    (along : m.Along guard source events) : m.Along other source events := by
  induction events generalizing source with
  | nil => trivial
  | cons event rest ih => exact ⟨weaker _ _ along.1, fun next step => ih (along.2 next step)⟩

theorem along_and_iff : m.Along (fun s e => guard s e ∧ other s e) source events ↔
    m.Along guard source events ∧ m.Along other source events := by
  constructor
  · intro along
    exact ⟨along.mono fun _ _ both => both.1, along.mono fun _ _ both => both.2⟩
  · intro both
    induction events generalizing source with
    | nil => trivial
    | cons event rest ih =>
      obtain ⟨left, right⟩ := both
      exact ⟨⟨left.1, right.1⟩, fun next step => ih ⟨left.2 next step, right.2 next step⟩⟩

end Guards

section Histories

variable {condition other : List Event → State → Event → Prop}

/-- Two conditions that agree on each step that can happen hold throughout the same runs. -/
theorem Reaches.throughout_congr (reached : m.Reaches events target)
    (agree : ∀ before s e t, m.Reaches before s → m.step? s e = some t →
      (condition before s e ↔ other before s e)) :
    m.Throughout condition events ↔ m.Throughout other events := by
  unfold Throughout
  have step (before event after) (split : events = before ++ event :: after) (state)
      (start : m.Reaches before state) : ∃ next, m.step? state event = some next := by
    rw [split] at reached
    obtain ⟨middle, first, rest⟩ := run?_append_iff.mp reached
    obtain ⟨next, step, _⟩ := run?_cons_iff.mp rest
    obtain rfl := Option.some.inj (first.symm.trans start)
    exact ⟨next, step⟩
  constructor
  · intro holds before event after split state start
    obtain ⟨next, stepped⟩ := step before event after split state start
    exact (agree before state event next start stepped).mp (holds before event after split state start)
  · intro holds before event after split state start
    obtain ⟨next, stepped⟩ := step before event after split state start
    exact (agree before state event next start stepped).mpr (holds before event after split state start)

/-- A condition that holds of all events of a list, whatever came before, holds throughout it. -/
theorem throughout_of_forall_mem
    (holds : ∀ event ∈ events, ∀ before state, condition before state event) : m.Throughout condition events := by
  intro before event after split state _
  apply holds
  rw [split]
  exact List.mem_append_right _ (List.mem_cons_self ..)

theorem Throughout.concat (first : m.Throughout condition events)
    (last : ∀ state, m.Reaches events state → condition events state event) :
    m.Throughout condition (events ++ [event]) := by
  intro before other after split state reached
  rcases List.eq_nil_or_concat after with rfl | ⟨rest, final, rfl⟩
  · obtain ⟨rfl, same⟩ := List.append_inj' split rfl
    obtain rfl := (List.cons.inj same).1
    exact last state reached
  · rw [List.concat_eq_append, ← List.cons_append, ← List.append_assoc] at split
    obtain ⟨rfl, _⟩ := List.append_inj' split rfl
    exact first before other rest rfl state reached

end Histories

section Sights

variable {Sight : Type*} {observe : State → Event → Option Sight}

theorem lastSeen_cons (step : m.step? source event = some target) :
    m.lastSeen observe source (event :: rest) = (m.lastSeen observe target rest).or (observe source event) := by
  rw [lastSeen, step]

/-- The last step of a run is seen after all others. -/
theorem lastSeen_concat (run : m.run? source events = some middle) (step : m.step? middle event = some target) :
    m.lastSeen observe source (events ++ [event]) = (observe middle event).or (m.lastSeen observe source events) := by
  induction events generalizing source with
  | nil =>
    cases run
    rw [List.nil_append, lastSeen_cons step, lastSeen, lastSeen, Option.none_or, Option.or_none]
  | cons first rest ih =>
    obtain ⟨next, before, tail⟩ := run?_cons_iff.mp run
    rw [List.cons_append, lastSeen_cons before, lastSeen_cons before, ih tail, Option.or_assoc]

end Sights

section Invariants

variable {Inv Base Fault : State → Prop} {guard : State → Event → Prop}

/-- What one step keeps, a whole run keeps. -/
theorem run?_preserves (keep : ∀ s e t, Inv s → m.step? s e = some t → Inv t)
    (start : Inv source) (run : m.run? source events = some target) : Inv target := by
  induction events generalizing source with
  | nil => cases run; exact start
  | cons event rest ih =>
    obtain ⟨next, step, tail⟩ := run?_cons_iff.mp run
    exact ih (keep _ _ _ start step) tail

/-- A step has to keep the invariant only for the events of the run. -/
theorem run?_preserves_mem (keep : ∀ s t, ∀ e ∈ events, Inv s → m.step? s e = some t → Inv t)
    (start : Inv source) (run : m.run? source events = some target) : Inv target := by
  induction events generalizing source with
  | nil => cases run; exact start
  | cons event rest ih =>
    obtain ⟨next, step, tail⟩ := run?_cons_iff.mp run
    refine ih (fun s t e member => keep s t e (List.mem_cons_of_mem _ member)) ?_ tail
    exact keep _ _ event (List.mem_cons_self ..) start step

/-- The invariant rule: true at the start and kept by each step, so true of every state reached. -/
theorem Reaches.invariant (start : Inv m.initial)
    (keep : ∀ s e t, Inv s → m.step? s e = some t → Inv t)
    (reached : m.Reaches events target) : Inv target := run?_preserves keep start reached

/-- The guarded invariant rule: a step has to keep the invariant only where it meets the guard. -/
theorem Reaches.invariant_along (start : Inv m.initial)
    (keep : ∀ s e t, Inv s → guard s e → m.step? s e = some t → Inv t)
    (reached : m.Reaches events target) (along : m.Along guard m.initial events) : Inv target := by
  suffices every : ∀ source, Inv source → m.run? source events = some target →
      m.Along guard source events → Inv target from every _ start reached along
  clear reached along
  induction events with
  | nil => intro source start run _; cases run; exact start
  | cons event rest ih =>
    intro source start run along
    obtain ⟨next, step, tail⟩ := run?_cons_iff.mp run
    exact ih next (keep _ _ _ start along.1 step) tail (along.2 next step)

/-- Exactness of a guard: where breaking it once leaves a fault that no later step repairs, the
final state alone tells whether every step of the run met the guard. -/
theorem Reaches.along_or_fault (start : Inv m.initial)
    (keep : ∀ s e t, Inv s → guard s e → m.step? s e = some t → Inv t)
    (fault : ∀ s e t, Inv s → ¬ guard s e → m.step? s e = some t → Fault t)
    (lasting : ∀ s e t, Fault s → m.step? s e = some t → Fault t)
    (reached : m.Reaches events target) :
    (m.Along guard m.initial events ∧ Inv target) ∨
      (¬ m.Along guard m.initial events ∧ Fault target) := by
  induction events using List.reverseRecOn generalizing target with
  | nil => cases reached; exact .inl ⟨trivial, start⟩
  | append_singleton events event ih =>
    obtain ⟨middle, before, step⟩ := reaches_concat_iff.mp reached
    rw [along_concat_iff before step]
    rcases ih before with ⟨along, inv⟩ | ⟨broken, faulty⟩
    · by_cases met : guard middle event
      · exact .inl ⟨⟨along, met⟩, keep _ _ _ inv met step⟩
      · exact .inr ⟨fun both => met both.2, fault _ _ _ inv met step⟩
    · exact .inr ⟨fun both => broken both.1, lasting _ _ _ faulty step⟩

end Invariants

end System

end Machine
