import LoginDN.Machine.Run
import Mathlib.Data.List.Nodup
import Mathlib.Logic.Function.Basic

/-! # Items on their way through one queue for each key and one queue for all

An item enters the queue of its key. A release moves the first item of one of these queues to the end
of the shared queue, and a delivery takes the first item of that. Whatever the order of releases,
the items of one key are delivered in the order in which they entered, and each at most once.
-/

namespace Machine

/-- The items that wait, with all that have entered and all that were delivered, oldest first. -/
@[ext]
structure Pipeline (Key Item : Type*) where
  waiting : Key → List Item
  shared : List (Key × Item)
  entered : List (Key × Item)
  delivered : List (Key × Item)

namespace Pipeline

variable {Key Item : Type*} [DecidableEq Key]

inductive Event (Key Item : Type*) where
  | enter (key : Key) (item : Item)
  | release (key : Key)
  | deliver

def empty : Pipeline Key Item := ⟨fun _ => [], [], [], []⟩

def step? (pipeline : Pipeline Key Item) : Event Key Item → Option (Pipeline Key Item)
  | .enter key item => some { pipeline with
      waiting := Function.update pipeline.waiting key (pipeline.waiting key ++ [item])
      entered := pipeline.entered ++ [(key, item)] }
  | .release key =>
      match pipeline.waiting key with
      | item :: rest => some { pipeline with
          waiting := Function.update pipeline.waiting key rest
          shared := pipeline.shared ++ [(key, item)] }
      | [] => none
  | .deliver =>
      match pipeline.shared with
      | item :: rest => some { pipeline with shared := rest, delivered := pipeline.delivered ++ [item] }
      | [] => none

def machine : System (Pipeline Key Item) (Event Key Item) := ⟨empty, step?⟩

/-- The items of one key, in their order. -/
def ofKey (key : Key) (items : List (Key × Item)) : List Item :=
  (items.filter fun entry => entry.1 = key).map Prod.snd

@[simp] theorem ofKey_nil (key : Key) : ofKey key ([] : List (Key × Item)) = [] := rfl

@[simp] theorem ofKey_append (key : Key) (first second : List (Key × Item)) :
    ofKey key (first ++ second) = ofKey key first ++ ofKey key second := by
  rw [ofKey, List.filter_append, List.map_append, ofKey, ofKey]

theorem ofKey_singleton (key other : Key) (item : Item) :
    ofKey key [(other, item)] = if other = key then [item] else [] := by
  by_cases same : other = key
  · simp [ofKey, same]
  · simp [ofKey, same]

theorem mem_ofKey {key : Key} {item : Item} {items : List (Key × Item)} :
    item ∈ ofKey key items ↔ (key, item) ∈ items := by
  simp [ofKey]

/-- What has entered for a key has been delivered, is on its way to delivery, or waits, in this order. -/
def Conserved (pipeline : Pipeline Key Item) : Prop :=
  ∀ key, ofKey key (pipeline.delivered ++ pipeline.shared) ++ pipeline.waiting key = ofKey key pipeline.entered

variable {pipeline target : Pipeline Key Item} {event : Event Key Item} {events : List (Event Key Item)}

theorem conserved_step (conserved : pipeline.Conserved) (step : pipeline.step? event = some target) :
    target.Conserved := by
  intro key
  have before := conserved key
  cases event with
  | enter other item =>
    obtain rfl := Option.some.inj step
    dsimp only
    rw [ofKey_append key pipeline.entered, ← before, List.append_assoc, ofKey_singleton]
    by_cases same : other = key
    · subst same
      rw [Function.update_self, if_pos rfl]
    · rw [Function.update_of_ne (Ne.symm same), if_neg same, List.append_nil]
  | release other =>
    simp only [step?] at step
    split at step
    · next item rest waiting =>
      obtain rfl := Option.some.inj step
      dsimp only
      rw [← before, ← List.append_assoc, ofKey_append key _ [(other, item)], ofKey_singleton, List.append_assoc]
      by_cases same : other = key
      · subst same
        rw [Function.update_self, if_pos rfl, waiting, List.singleton_append]
      · rw [Function.update_of_ne (Ne.symm same), if_neg same, List.nil_append]
    · contradiction
  | deliver =>
    simp only [step?] at step
    split at step
    · next item rest shared =>
      obtain rfl := Option.some.inj step
      dsimp only
      rw [← before, shared, List.append_assoc, List.singleton_append]
    · contradiction

theorem conserved_of_reaches (reached : machine.Reaches events pipeline) : pipeline.Conserved :=
  reached.invariant (fun _ => rfl) fun _ _ _ => conserved_step

/-- The items of a key are delivered in their order, without a gap. -/
theorem Conserved.prefix (conserved : pipeline.Conserved) (key : Key) :
    ofKey key pipeline.delivered <+: ofKey key pipeline.entered := by
  rw [← conserved key, ofKey_append, List.append_assoc]
  exact List.prefix_append ..

/-- Nothing is delivered that has not entered. -/
theorem Conserved.mem (conserved : pipeline.Conserved) {entry : Key × Item}
    (member : entry ∈ pipeline.delivered ++ pipeline.shared) : entry ∈ pipeline.entered := by
  rw [← mem_ofKey, ← conserved entry.1]
  exact List.mem_append_left _ (mem_ofKey.mpr member)

variable [DecidableEq Item]

theorem count_ofKey (key : Key) (item : Item) (items : List (Key × Item)) :
    (ofKey key items).count item = items.count (key, item) := by
  induction items with
  | nil => rfl
  | cons entry rest ih =>
    obtain ⟨other, value⟩ := entry
    have split : (other, value) :: rest = [(other, value)] ++ rest := rfl
    rw [split, ofKey_append, List.count_append, List.count_append, ih, ofKey_singleton]
    by_cases same : other = key
    · subst same
      rw [if_pos rfl]
      by_cases equal : value = item
      · subst equal
        rw [List.count_singleton_self, List.count_singleton_self]
      · simp [equal]
    · simp [same]

/-- An item is where it waits, on its way, or delivered, as often as it has entered. -/
theorem Conserved.count (conserved : pipeline.Conserved) (key : Key) (item : Item) :
    pipeline.delivered.count (key, item) + pipeline.shared.count (key, item) + (pipeline.waiting key).count item =
      pipeline.entered.count (key, item) := by
  rw [← count_ofKey key item pipeline.entered, ← conserved key, List.count_append, count_ofKey, List.count_append]

/-- Where nothing enters twice, nothing is delivered twice. -/
theorem Conserved.nodup (conserved : pipeline.Conserved) (once : pipeline.entered.Nodup) :
    (pipeline.delivered ++ pipeline.shared).Nodup := by
  rw [List.nodup_iff_count_le_one] at once ⊢
  rintro ⟨key, item⟩
  have total := conserved.count key item
  have bound := once (key, item)
  rw [List.count_append]
  omega

end Pipeline

end Machine
