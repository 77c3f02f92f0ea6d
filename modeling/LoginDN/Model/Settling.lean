import LoginDN.Model.Device

/-! # Every request can be settled

Firebase may refuse a request at any time, and an answered request is completed. From any state the
requests in flight can be settled so one after the other, which changes neither the session nor the
token, and the screen only where a completion brings an account.
-/

namespace LoginDN.Device

open Machine

variable {device : Device} {id : ℕ} {pending : Pending} {reply : Reply}

theorem step?_answered (found : (id, pending) ∈ device.requests.entries) (unanswered : pending.reply = none)
    (admits : device.Admits pending.request reply) :
    device.step? (.answered id reply) = some (device.answer id pending reply admits.fits) := by
  have named := Ledger.find?_eq_some_iff.mpr found
  refine step?_eq_some_iff.mpr ⟨device.answer id pending reply admits.fits, ?_, rfl⟩
  simp only [received?, named, Option.bind_some]
  exact dif_pos ⟨unanswered, admits⟩

theorem step?_completed (found : (id, pending) ∈ device.requests.entries)
    (replied : pending.reply = some reply) :
    device.step? (.completed id) = some (perform pending.owner
      { device with
        requests := device.requests.close id
        stored := (signUp? id pending.request reply).toList ++ device.stored }
      (pending.request.callback reply.error)) := by
  have named := Ledger.find?_eq_some_iff.mpr found
  refine step?_eq_some_iff.mpr ⟨_, by simp only [received?, named, replied, Option.bind_some, Option.map_some]; rfl, ?_⟩
  simp only [owner, callback, named, Option.map_some, Option.getD_some, Pending.callback, replied]

theorem admits_refused (device : Device) (request : Request) (error : NSError) :
    device.Admits request (.refused error) := by cases request <;> trivial

/-- The session is the same, and so is the screen where no completion has brought an account. -/
structure SameSession (device final : Device) : Prop where
  currentUser : final.currentUser = device.currentUser
  accessToken : final.accessToken = device.accessToken
  links : final.links = device.links
  shown : (∀ entry ∈ device.requests.entries, entry.2.user = none) → final.window.shown = device.window.shown

/-- A completion changes the window, UserDefaults and the ledger, nothing else. -/
private theorem sameSession_completed (found : (id, pending) ∈ device.requests.entries)
    (replied : pending.reply = some reply) {final : Device}
    (step : device.step? (.completed id) = some final) :
    SameSession device final ∧ final.requests = device.requests.close id := by
  obtain rfl := Option.some.inj ((step?_completed found replied).symm.trans step)
  have fits := pending.fits reply replied
  cases account : reply.user with
  | some user =>
    rw [perform_callback_user pending.owner id _ fits account]
    refine ⟨⟨rfl, rfl, rfl, fun strangers => ?_⟩, rfl⟩
    have none := strangers _ found
    rw [Pending.user, replied, Option.bind_some, account] at none
    contradiction
  | none =>
    obtain ⟨window, alert, after⟩ := perform_callback_none pending.owner
      { device with
        requests := device.requests.close id
        stored := (signUp? id pending.request reply).toList ++ device.stored } fits account
    rw [after]
    refine ⟨⟨rfl, rfl, rfl, fun _ => ?_⟩, rfl⟩
    rcases alert with rfl | rfl
    · rfl
    · exact Window.shown_present_alert

/-- One request in flight is settled: completed, after a refusal if there was no answer yet. -/
private theorem exists_settled_one (found : (id, pending) ∈ device.requests.entries) :
    ∃ events final, (∀ event ∈ events, event.settles = true) ∧ machine.run? device events = some final ∧
      SameSession device final ∧ final.requests = device.requests.close id := by
  cases replied : pending.reply with
  | some reply =>
    have step := step?_completed found replied
    refine ⟨[.completed id], _, by simp [AppEvent.settles], System.run?_cons_iff.mpr ⟨_, step, rfl⟩, ?_⟩
    exact sameSession_completed found replied step
  | none =>
    let error : NSError := ⟨"The request was refused."⟩
    have admits := admits_refused device pending.request error
    have answered := step?_answered found replied admits
    have revised : (id, pending.settled (.refused error) admits.fits) ∈
        (device.answer id pending (.refused error) admits.fits).requests.entries :=
      (Ledger.mem_revise found).mpr (.inl ⟨rfl, rfl⟩)
    have completed := step?_completed revised rfl
    refine ⟨[.answered id (.refused error), .completed id], _, by simp [AppEvent.settles],
      System.run?_cons_iff.mpr ⟨_, answered, System.run?_cons_iff.mpr ⟨_, completed, rfl⟩⟩, ?_⟩
    obtain ⟨same, requests⟩ := sameSession_completed revised rfl completed
    refine ⟨⟨same.currentUser, same.accessToken, ?_, fun strangers => same.shown ?_⟩, ?_⟩
    · rw [same.links, answer, link?_none _ (Eq.refl (Reply.refused error).user)]
      rfl
    · rintro ⟨number, other⟩ member
      rcases (Ledger.mem_revise found).mp member with ⟨_, rfl⟩ | ⟨_, old⟩
      · rfl
      · exact strangers _ old
    · rw [requests]
      exact Ledger.close_revise

/-- All requests in flight can be settled, by answers and completions alone. -/
theorem exists_settled (device : Device) : ∃ events final, (∀ event ∈ events, event.settles = true) ∧
    machine.run? device events = some final ∧ final.requests.entries = [] ∧ SameSession device final := by
  induction size : device.requests.entries.length using Nat.strong_induction_on generalizing device with
  | _ size ih =>
    subst size
    cases entries : device.requests.entries with
    | nil => exact ⟨[], device, by simp, rfl, entries, rfl, rfl, rfl, fun _ => rfl⟩
    | cons entry rest =>
      have found : (entry.1, entry.2) ∈ device.requests.entries := entries ▸ .head _
      obtain ⟨first, middle, answers, run, same, requests⟩ := exists_settled_one found
      have shorter : middle.requests.entries.length < device.requests.entries.length := by
        rw [requests]
        exact Ledger.length_close_lt found
      obtain ⟨second, final, further, tail, idle, last⟩ := ih _ shorter middle rfl
      refine ⟨first ++ second, final, fun event member => ?_, System.run?_append_iff.mpr ⟨middle, run, tail⟩, idle, ?_⟩
      · exact (List.mem_append.mp member).elim (answers event) (further event)
      refine ⟨last.currentUser.trans same.currentUser, last.accessToken.trans same.accessToken,
        last.links.trans same.links, fun strangers => ?_⟩
      rw [last.shown, same.shown (entries ▸ strangers)]
      intro other member
      rw [requests] at member
      exact strangers other (entries ▸ (Ledger.mem_close.mp member).1)

end LoginDN.Device
