import Mathlib.Data.List.Basic

/-! # Histories that grow

A history is a list to which every step appends. What a step appends is told by a property of the single
entries, so what holds of each step of a run holds of the run.
-/

namespace Machine

/-- The later history is the earlier one with entries of one kind appended. -/
def Appends {Entry : Type*} (kind : Entry → Prop) (earlier later : List Entry) : Prop :=
  ∃ further, later = earlier ++ further ∧ ∀ entry ∈ further, kind entry

namespace Appends

variable {Entry Seen : Type*} {kind other : Entry → Prop} {first second third : List Entry} {entry : Entry}

theorem refl (history : List Entry) : Appends kind history history :=
  ⟨[], (List.append_nil history).symm, fun _ member => absurd member List.not_mem_nil⟩

theorem of_eq (same : second = first) : Appends kind first second := by
  rw [same]
  exact refl first

theorem single (holds : kind entry) : Appends kind first (first ++ [entry]) := by
  refine ⟨[entry], rfl, fun new member => ?_⟩
  rwa [List.mem_singleton.mp member]

theorem mono (appends : Appends kind first second) (weaker : ∀ entry, kind entry → other entry) :
    Appends other first second := by
  obtain ⟨further, later, every⟩ := appends
  exact ⟨further, later, fun entry member => weaker entry (every entry member)⟩

theorem trans (left : Appends kind first second) (right : Appends kind second third) : Appends kind first third := by
  obtain ⟨former, middle, before⟩ := left
  obtain ⟨latter, final, after⟩ := right
  refine ⟨former ++ latter, by rw [final, middle, List.append_assoc], fun entry member => ?_⟩
  exact (List.mem_append.mp member).elim (before entry) (after entry)

theorem subset (appends : Appends kind first second) : first ⊆ second := by
  obtain ⟨further, rfl, _⟩ := appends
  exact List.subset_append_left _ _

/-- An entry is an old one, or of the kind that is appended. -/
theorem mem (appends : Appends kind first second) (member : entry ∈ second) : entry ∈ first ∨ kind entry := by
  obtain ⟨further, rfl, every⟩ := appends
  exact (List.mem_append.mp member).imp_right (every entry)

/-- What is seen of a history grows with it. -/
theorem filterMap (appends : Appends kind first second) (see : Entry → Option Seen) {sight : Seen → Prop}
    (seen : ∀ entry result, kind entry → see entry = some result → sight result) :
    Appends sight (first.filterMap see) (second.filterMap see) := by
  obtain ⟨further, rfl, every⟩ := appends
  refine ⟨further.filterMap see, List.filterMap_append, fun result member => ?_⟩
  obtain ⟨entry, listed, shown⟩ := List.mem_filterMap.mp member
  exact seen entry result (every entry listed) shown

end Appends

end Machine
