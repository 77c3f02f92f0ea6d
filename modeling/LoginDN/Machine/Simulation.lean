import LoginDN.Machine.Run

/-! # Translating the runs of one machine into runs of another

A translation maps states to states and each event, in the state where it happens, to the events it
stands for in the other machine: one event, several, or none. When every single step translates,
every run does, and it ends in the translated state. With one machine on both sides this is the
two-run argument behind noninterference: the translated run is the same run with some inputs
changed, and what an observer sees in it is what he sees in the translated state.
-/

namespace Machine.System

variable {State Event State' Event' : Type*}

/-- A part of the state that moves by runs of another machine is reached by a run of that machine. -/
theorem Reaches.project {m : System State Event} {n : System State' Event'} {target : State} {events : List Event}
    (part : State → State') (start : ∃ before, n.Reaches before (part m.initial))
    (step : ∀ source event next, m.step? source event = some next →
      ∃ steps, n.run? (part source) steps = some (part next))
    (reached : m.Reaches events target) : ∃ steps, n.Reaches steps (part target) := by
  induction events using List.reverseRecOn generalizing target with
  | nil =>
    cases reached
    exact start
  | append_singleton events event ih =>
    obtain ⟨middle, before, moved⟩ := reaches_concat_iff.mp reached
    obtain ⟨earlier, reaches⟩ := ih before
    obtain ⟨steps, run⟩ := step middle event target moved
    exact ⟨earlier ++ steps, run?_append_iff.mpr ⟨part middle, reaches, run⟩⟩

/-- A map of states and events that commutes with every step from a state satisfying the invariant. -/
structure Translation (m : System State Event) (n : System State' Event') (Inv : State → Prop) where
  state : State → State'
  events : State → Event → List Event'
  initial : state m.initial = n.initial
  step : ∀ source event target, Inv source → m.step? source event = some target →
    n.run? (state source) (events source event) = some (state target)

namespace Translation

variable {m : System State Event} {n : System State' Event'} {Inv : State → Prop}
  (translation : Translation m n Inv)

/-- The translated run. It follows the source states, since an event may translate differently in
different states. -/
def run : State → List Event → List Event'
  | _, [] => []
  | source, event :: rest =>
      match m.step? source event with
      | none => []
      | some next => translation.events source event ++ run next rest

variable {source target : State} {events : List Event}

theorem run?_run (keep : ∀ s e t, Inv s → m.step? s e = some t → Inv t) (start : Inv source)
    (run : m.run? source events = some target) :
    n.run? (translation.state source) (translation.run source events) =
      some (translation.state target) := by
  induction events generalizing source with
  | nil => cases run; rfl
  | cons event rest ih =>
    obtain ⟨next, step, tail⟩ := run?_cons_iff.mp run
    simp only [Translation.run, step]
    exact run?_append_iff.mpr ⟨_, translation.step _ _ _ start step, ih (keep _ _ _ start step) tail⟩

/-- Every state reached is translated to a state reached. -/
theorem reaches (start : Inv m.initial) (keep : ∀ s e t, Inv s → m.step? s e = some t → Inv t)
    (reached : m.Reaches events target) :
    n.Reaches (translation.run m.initial events) (translation.state target) := by
  have translated := translation.run?_run keep start reached
  rwa [translation.initial] at translated

end Translation

end Machine.System
