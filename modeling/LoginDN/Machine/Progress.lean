import LoginDN.Machine.Run

/-! # Machines that come to rest

Some events are a machine's own work, the others come from outside. When an effort bounds the work that
is left, each event of work uses some of it up and nothing from outside adds to it, then a run does no
more work than the effort it starts with. If there is work to do in every state that is not at rest, the
machine can come to rest from every state, and it does so by its own work alone.
-/

namespace Machine.System

variable {State Event : Type*} {m : System State Event} {source target : State} {events : List Event}

/-- Work uses up effort, and no other event adds to it, unless it is one that is not admitted. -/
structure Spends (m : System State Event) (admitted own : Event → Bool) (effort : State → ℕ) (Inv : State → Prop) :
    Prop where
  keep : ∀ s e t, Inv s → m.step? s e = some t → Inv t
  work : ∀ s e t, Inv s → own e = true → m.step? s e = some t → effort t < effort s
  outside : ∀ s e t, Inv s → admitted e = true → own e = false → m.step? s e = some t → effort t ≤ effort s

namespace Spends

variable {admitted own : Event → Bool} {effort : State → ℕ} {Inv Rest : State → Prop}

/-- A run does no more work than it has effort for. -/
theorem countP_le (spends : m.Spends admitted own effort Inv) (start : Inv source)
    (run : m.run? source events = some target) (all : ∀ event ∈ events, admitted event = true) :
    events.countP own + effort target ≤ effort source := by
  induction events generalizing source with
  | nil =>
    cases run
    simp
  | cons event rest ih =>
    obtain ⟨next, step, tail⟩ := run?_cons_iff.mp run
    have later := ih (spends.keep _ _ _ start step) tail fun other member => all other (List.mem_cons_of_mem _ member)
    rw [List.countP_cons]
    cases mine : own event with
    | true =>
      have used := spends.work _ _ _ start mine step
      rw [if_pos rfl]
      omega
    | false =>
      have same := spends.outside _ _ _ start (all event (List.mem_cons_self ..)) mine step
      rw [if_neg Bool.false_ne_true]
      omega

/-- Where there is always work to do before rest, work alone leads to rest. -/
theorem exists_rest (spends : m.Spends admitted own effort Inv)
    (busy : ∀ s, Inv s → ¬ Rest s → ∃ e t, own e = true ∧ m.step? s e = some t) (start : Inv source) :
    ∃ events target, (∀ event ∈ events, own event = true) ∧ m.run? source events = some target ∧ Rest target := by
  induction left : effort source using Nat.strongRecOn generalizing source with
  | _ left ih =>
    by_cases rest : Rest source
    · exact ⟨[], source, fun _ member => absurd member List.not_mem_nil, rfl, rest⟩
    · obtain ⟨event, next, mine, step⟩ := busy source start rest
      have used := spends.work _ _ _ start mine step
      obtain ⟨events, target, work, run, rest⟩ := ih (effort next) (by omega) (spends.keep _ _ _ start step) rfl
      refine ⟨event :: events, target, fun other member => ?_, run?_cons_iff.mpr ⟨next, step, run⟩, rest⟩
      obtain rfl | later := List.mem_cons.mp member
      · exact mine
      · exact work other later

end Spends

end Machine.System
