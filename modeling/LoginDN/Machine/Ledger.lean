import Mathlib.Data.List.Nodup
import Mathlib.Tactic.Common

/-! # Requests in flight

A ledger holds the requests that were sent and not yet settled. Each request gets a number never
used before, also not by a request settled long ago, so an answer names at most one of them and
is delivered at most once. Both facts are fields of the structure: no ledger without them exists.
-/

namespace Machine

structure Ledger (Request : Type*) where
  next : ℕ
  entries : List (ℕ × Request)
  below : ∀ entry ∈ entries, entry.1 < next
  unique : (entries.map Prod.fst).Nodup

namespace Ledger

variable {Request : Type*}

def empty : Ledger Request := ⟨0, [], by simp, by simp⟩

theorem number_below (ledger : Ledger Request) {id : ℕ} {request : Request}
    (member : (id, request) ∈ ledger.entries) : id < ledger.next := ledger.below _ member

/-- Send a request under a fresh number. -/
def issue (ledger : Ledger Request) (request : Request) : Ledger Request where
  next := ledger.next + 1
  entries := ledger.entries ++ [(ledger.next, request)]
  below entry member := by
    rcases List.mem_append.mp member with old | new
    · exact Nat.lt_succ_of_lt (ledger.below entry old)
    · obtain rfl := List.mem_singleton.mp new
      exact Nat.lt_succ_self _
  unique := by
    rw [List.map_append, List.nodup_append]
    refine ⟨ledger.unique, by simp, ?_⟩
    rintro id old other new rfl
    obtain ⟨entry, member, rfl⟩ := List.mem_map.mp old
    have same : entry.1 = ledger.next := by simpa using new
    have bound := ledger.below entry member
    omega

/-- Settle a request: its number is never reused. -/
def close (ledger : Ledger Request) (id : ℕ) : Ledger Request where
  next := ledger.next
  entries := ledger.entries.filter fun entry => entry.1 != id
  below entry member := ledger.below entry (List.mem_filter.mp member).1
  unique := (List.filter_sublist.map Prod.fst).nodup ledger.unique

/-- Replace what is known about a request still in flight. -/
def revise (ledger : Ledger Request) (id : ℕ) (request : Request) : Ledger Request where
  next := ledger.next
  entries := ledger.entries.map fun entry => if entry.1 = id then (entry.1, request) else entry
  below entry member := by
    obtain ⟨old, present, rfl⟩ := List.mem_map.mp member
    split
    · exact ledger.below old present
    · exact ledger.below old present
  unique := by
    have same : (Prod.fst ∘ fun entry : ℕ × Request =>
        if entry.1 = id then (entry.1, request) else entry) = Prod.fst := by
      funext entry
      simp only [Function.comp_apply]
      split <;> rfl
    rw [List.map_map, same]
    exact ledger.unique

/-- Change each request in a way that may depend on its number. -/
def relabel (ledger : Ledger Request) (change : ℕ → Request → Request) : Ledger Request where
  next := ledger.next
  entries := ledger.entries.map fun entry => (entry.1, change entry.1 entry.2)
  below entry member := by
    obtain ⟨old, present, rfl⟩ := List.mem_map.mp member
    exact ledger.below old present
  unique := by
    have same : (Prod.fst ∘ fun entry : ℕ × Request => (entry.1, change entry.1 entry.2)) = Prod.fst := rfl
    rw [List.map_map, same]
    exact ledger.unique

/-- Forget every request in flight, as the end of the process does. -/
def clear (ledger : Ledger Request) : Ledger Request := ⟨ledger.next, [], by simp, by simp⟩

/-- The request in flight under a number. -/
def find? (ledger : Ledger Request) (id : ℕ) : Option Request :=
  (ledger.entries.find? fun entry => entry.1 == id).map Prod.snd

variable {ledger : Ledger Request} {id other : ℕ} {request answer : Request}

/-- A number names one request. -/
theorem eq_of_mem (first : (id, request) ∈ ledger.entries) (second : (id, answer) ∈ ledger.entries) :
    request = answer :=
  congrArg Prod.snd (List.inj_on_of_nodup_map ledger.unique first second rfl)

theorem mem_of_find? (found : ledger.find? id = some request) : (id, request) ∈ ledger.entries := by
  obtain ⟨entry, first, rfl⟩ := Option.map_eq_some_iff.mp found
  have same : entry.1 = id := by simpa using List.find?_some first
  rw [← same]
  exact List.mem_of_find?_eq_some first

theorem find?_eq_some_iff : ledger.find? id = some request ↔ (id, request) ∈ ledger.entries := by
  constructor
  · exact mem_of_find?
  · intro member
    cases found : ledger.find? id with
    | none =>
      have absent := List.find?_eq_none.mp (Option.map_eq_none_iff.mp found) _ member
      simp at absent
    | some answer => rw [eq_of_mem member (mem_of_find? found)]

@[simp] theorem next_issue : (ledger.issue request).next = ledger.next + 1 := rfl
@[simp] theorem next_close : (ledger.close id).next = ledger.next := rfl
@[simp] theorem next_revise : (ledger.revise id request).next = ledger.next := rfl

@[simp] theorem entries_issue :
    (ledger.issue request).entries = ledger.entries ++ [(ledger.next, request)] := rfl

theorem mem_issue : (other, answer) ∈ (ledger.issue request).entries ↔
    (other, answer) ∈ ledger.entries ∨ other = ledger.next ∧ answer = request := by
  simp

theorem mem_close : (other, answer) ∈ (ledger.close id).entries ↔
    (other, answer) ∈ ledger.entries ∧ other ≠ id := by
  simp [close]

/-- A revision changes the one entry it names and adds none. -/
theorem mem_revise (present : (id, request) ∈ ledger.entries) {new : Request} :
    (other, answer) ∈ (ledger.revise id new).entries ↔
      (other = id ∧ answer = new) ∨ (other ≠ id ∧ (other, answer) ∈ ledger.entries) := by
  simp only [revise, List.mem_map]
  constructor
  · rintro ⟨⟨old, kept⟩, member, same⟩
    split at same
    · next named => cases same; exact .inl ⟨named, rfl⟩
    · next named => cases same; exact .inr ⟨named, member⟩
  · rintro (⟨rfl, rfl⟩ | ⟨different, member⟩)
    · exact ⟨_, present, by simp⟩
    · exact ⟨_, member, by simp [different]⟩

theorem ext_entries {first second : Ledger Request} (next : first.next = second.next)
    (entries : first.entries = second.entries) : first = second := by
  cases first
  cases second
  obtain rfl := next
  obtain rfl := entries
  rfl

section Relabel

variable {change : ℕ → Request → Request}

theorem mem_relabel_of_mem (member : (id, request) ∈ ledger.entries) :
    (id, change id request) ∈ (ledger.relabel change).entries := List.mem_map.mpr ⟨_, member, rfl⟩

theorem relabel_issue : (ledger.issue request).relabel change =
    (ledger.relabel change).issue (change ledger.next request) :=
  ext_entries rfl List.map_append

theorem relabel_close : (ledger.close id).relabel change = (ledger.relabel change).close id := by
  refine ext_entries rfl ?_
  simp only [relabel, close, List.filter_map]
  rfl

theorem relabel_revise : (ledger.revise id request).relabel change =
    (ledger.relabel change).revise id (change id request) := by
  refine ext_entries rfl ?_
  simp only [relabel, revise, List.map_map]
  apply List.map_congr_left
  intro entry _
  simp only [Function.comp_apply]
  split
  · next named => rw [named]
  · rfl

end Relabel

/-- What is settled leaves no trace of its revisions. -/
@[simp] theorem close_revise : (ledger.revise id request).close id = ledger.close id := by
  refine ext_entries (next_close.trans next_revise |>.trans next_close.symm) ?_
  simp only [revise, close]
  induction ledger.entries with
  | nil => rfl
  | cons entry rest ih =>
    rw [List.map_cons]
    by_cases named : entry.1 = id
    · rw [if_pos named, List.filter_cons_of_neg (by simpa using named),
        List.filter_cons_of_neg (by simpa using named), ih]
    · rw [if_neg named, List.filter_cons_of_pos (by simpa using named),
        List.filter_cons_of_pos (by simpa using named), ih]

theorem length_close_lt (present : (id, request) ∈ ledger.entries) :
    (ledger.close id).entries.length < ledger.entries.length :=
  List.length_filter_lt_length_iff_exists.mpr ⟨_, present, by simp⟩

/-- Settling the only request in flight leaves none. -/
theorem close_entries_of_singleton (only : ledger.entries = [(id, request)]) :
    (ledger.close id).entries = [] := by
  simp [close, only]

end Ledger

end Machine
