import Mathlib.Data.List.Forall2
import Mathlib.Data.List.Nodup
import Mathlib.Tactic.Common

/-! # Decoding keyed containers

A container is a list of members under keys, and a decoder converts each key before it compares it
with the name it looks for. If the converted keys are distinct, a name has at most one value, and
looking it up says exactly that some member holds the value. A decoder that goes through a list and
fails as a whole when one item fails relates the items to the results one by one.
-/

namespace Decoding.Container

variable {Key Name Value Item Result : Type*}

section Members

variable [DecidableEq Name] (convert : Key → Name)

/-- The value of the first member whose converted key is the name. -/
def value? (name : Name) (members : List (Key × Value)) : Option Value :=
  (members.find? fun member => convert member.1 = name).map Prod.snd

/-- Some member with this value has the name as its converted key. -/
def Holds (name : Name) (value : Value) (members : List (Key × Value)) : Prop :=
  ∃ key, (key, value) ∈ members ∧ convert key = name

/-- No two members have the same converted key. -/
def Distinct (members : List (Key × Value)) : Prop := (members.map fun member => convert member.1).Nodup

instance (members : List (Key × Value)) : Decidable (Distinct convert members) :=
  inferInstanceAs (Decidable (List.Nodup _))

variable {convert} {name : Name} {value : Value} {members : List (Key × Value)}

theorem holds_of_value? (found : value? convert name members = some value) :
    Holds convert name value members := by
  obtain ⟨member, first, rfl⟩ := Option.map_eq_some_iff.mp found
  have same : convert member.1 = name := by simpa using List.find?_some first
  exact ⟨member.1, List.mem_of_find?_eq_some first, same⟩

theorem value?_eq_some_iff (distinct : Distinct convert members) :
    value? convert name members = some value ↔ Holds convert name value members := by
  constructor
  · exact holds_of_value?
  · rintro ⟨key, member, same⟩
    cases found : value? convert name members with
    | none =>
      have absent := List.find?_eq_none.mp (Option.map_eq_none_iff.mp found) _ member
      simp [same] at absent
    | some other =>
      obtain ⟨second, present, equal⟩ := holds_of_value? found
      have pairs := List.inj_on_of_nodup_map distinct member present (same.trans equal.symm)
      rw [(Prod.mk.inj pairs).2]

end Members

/-- Decoding a list succeeds exactly when every item does, and keeps length and order. -/
theorem mapM_eq_some_iff {decode : Item → Option Result} {items : List Item} {results : List Result} :
    items.mapM decode = some results ↔ List.Forall₂ (fun item result => decode item = some result) items results := by
  induction items generalizing results with
  | nil =>
    rw [List.mapM_nil]
    constructor
    · intro same
      obtain rfl := Option.some.inj same
      exact .nil
    · intro none
      cases none
      rfl
  | cons item rest ih =>
    rw [List.mapM_cons]
    simp only [bind, Option.bind_eq_some_iff, pure, Option.some.injEq]
    constructor
    · rintro ⟨result, first, others, tail, rfl⟩
      exact .cons first (ih.mp tail)
    · intro all
      cases all with
      | cons first tail => exact ⟨_, first, _, ih.mpr tail, rfl⟩

/-- Two relations that agree on the items of a list relate it to the same results. -/
theorem forall₂_congr_mem {first second : Item → Result → Prop} {items : List Item} {results : List Result}
    (agree : ∀ item ∈ items, ∀ result, first item result ↔ second item result) :
    List.Forall₂ first items results ↔ List.Forall₂ second items results := by
  induction items generalizing results with
  | nil => simp only [List.forall₂_nil_left_iff]
  | cons item rest ih =>
    obtain ⟨head, tail⟩ := List.forall_mem_cons.mp agree
    simp only [List.forall₂_cons_left_iff, head, ih tail]

end Decoding.Container
