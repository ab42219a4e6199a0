import DoocsBackend.Backend.Versions

/-! # Data under the version of other data

A reply whose event id or version is refused keeps the version and the event id of the
last accepted one. Its data reaches the buffer all the same, with the validity which its
error code means.
-/
namespace DoocsBackend.Backend
open Accessor (EventId)

/-- The accessor has taken over the event id of a reply together with the version for it. -/
def Origin.Accepted (a : Origin) (eventId : EventId) (realmVersion startVersion : ℕ) : Prop :=
  a.lastEventId = eventId ∧ a.versionNumber = max realmVersion startVersion

instance (a : Origin) (eventId : EventId) (realmVersion startVersion : ℕ) :
    Decidable (a.Accepted eventId realmVersion startVersion) :=
  inferInstanceAs (Decidable (_ ∧ _))

/-- Both the event id and the version of a reply are at least as new as the last ones. -/
def Origin.IsUpToDate (a : Origin) (eventId : EventId) (realmVersion startVersion : ℕ) : Prop :=
  ¬ eventId < a.lastEventId ∧ a.versionNumber ≤ max realmVersion startVersion

instance (a : Origin) (eventId : EventId) (realmVersion startVersion : ℕ) :
    Decidable (a.IsUpToDate eventId realmVersion startVersion) :=
  inferInstanceAs (Decidable (_ ∧ _))

namespace Origin
variable {a : Origin} {error : ℤ} {eventId : EventId} {realmVersion startVersion fresh : ℕ}

/-- The validity only depends on the error code of the reply. -/
theorem dataValidity_doPostRead :
    (a.doPostRead error eventId realmVersion startVersion fresh).dataValidity =
      if error = 0 then .ok else .faulty := by
  by_cases h0 : eventId = 0
  · subst h0
    rw [doPostRead_zero]
  · by_cases hb : eventId < a.lastEventId
    · rw [doPostRead_backward h0 hb]
    · rw [doPostRead_forward h0 hb]
      split <;> rfl

/-- Exactly the replies which are up to date are accepted. -/
theorem accepted_doPostRead_iff (h0 : eventId ≠ 0) :
    (a.doPostRead error eventId realmVersion startVersion fresh).Accepted eventId realmVersion
        startVersion ↔ a.IsUpToDate eventId realmVersion startVersion := by
  by_cases hb : eventId < a.lastEventId
  · rw [doPostRead_backward h0 hb]
    refine iff_of_false ?_ fun h => h.1 hb
    rintro ⟨hid, -⟩
    rw [hid] at hb
    exact lt_irrefl _ (Int64.lt_iff_toInt_lt.mp hb)
  · rw [doPostRead_forward h0 hb]
    split
    · rename_i hv
      refine iff_of_false ?_ fun h => absurd h.2 hv.not_ge
      rintro ⟨-, heq⟩
      exact absurd heq hv.ne'
    · rename_i hv
      exact iff_of_true ⟨rfl, rfl⟩ ⟨hb, not_lt.mp hv⟩

end Origin

namespace System
variable {ι β : Type} [DecidableEq ι] [DecidableEq β] {owner : ι → β} {s t : System ι β}

/-- Data with an event id is either faulty or has the event id and the version accepted for it. -/
def IsLabelledTruly (owner : ι → β) (s : System ι β) (e : Event ι β) (t : System ι β) : Prop :=
  match e with
  | .read i _ eventId _ realmVersion =>
    eventId ≠ 0 → (t.accessor i).dataValidity = .faulty ∨
      (t.accessor i).Accepted eventId realmVersion (s.backend (owner i)).startVersion
  | _ => True

instance (s t : System ι β) : (e : Event ι β) → Decidable (IsLabelledTruly owner s e t)
  | .read i _ eventId _ realmVersion => inferInstanceAs (Decidable
      (eventId ≠ 0 → (t.accessor i).dataValidity = .faulty ∨
        (t.accessor i).Accepted eventId realmVersion (s.backend (owner i)).startVersion))
  | .openBackend .. | .closeBackend _ | .fail .. | .write .. => .isTrue trivial

/-- A reply without an error either has no event id or is up to date. -/
def ValidIsUpToDate (owner : ι → β) (s : System ι β) (e : Event ι β) (_ : System ι β) : Prop :=
  match e with
  | .read i error eventId _ realmVersion =>
    eventId ≠ 0 → error = 0 →
      (s.accessor i).IsUpToDate eventId realmVersion (s.backend (owner i)).startVersion
  | _ => True

theorem isLabelledTruly_iff {e : Event ι β} (h : step owner s e = some t) :
    IsLabelledTruly owner s e t ↔ ValidIsUpToDate owner s e t := by
  cases e with
  | openBackend | closeBackend | fail | write => exact Iff.rfl
  | read i error eventId created realmVersion =>
    obtain ⟨-, -, -, -, ha, -⟩ := step_read h
    simp only [IsLabelledTruly, ValidIsUpToDate, ha, Function.update_self]
    apply forall_congr'
    intro h0
    rw [Origin.dataValidity_doPostRead, Origin.accepted_doPostRead_iff h0]
    by_cases he : error = 0 <;> simp [he]

/-- A backend is opened and an accessor is read twice. -/
def openReadRead (first second : EventId) : List (Event Unit Unit) :=
  [.openBackend () .ok [], .read () 0 first 1 2, .read () 0 second 0 1]

end System

end DoocsBackend.Backend
