import DoocsBackend.Library.Overwriting
import DoocsBackend.Zmq.ExceptionLast

/-! # What a reader sees of the notifications

A full queue overwrites what it holds. Whatever is pushed by whom, the application reads a
selection of what was pushed, in the order pushed, and in the end always the newest.
-/
namespace DoocsBackend.Zmq

namespace Happening

/-- The notification pushed to the queue. -/
def notification? : Happening → Option Notification
  | .polled value | .delivered value => some (.data value)
  | .exception message => some (.exception message)
  | .activated _ => none

end Happening

/-- The value of a notification which is not an exception. -/
def Notification.value? : Notification → Option ℕ
  | .data value => some value
  | .exception _ => none

namespace Listener

/-- Everything ever pushed to the queue. -/
def notified (l : Listener) : List Notification := l.history.filterMap Happening.notification?

/-- The application has taken these notifications from the queue. -/
structure HasTaken (l : Listener) (taken : List Notification) : Prop where
  kept : Overwriting.Kept l.notified taken l.notifications
  buffer : l.buffer = (taken.filterMap Notification.value?).getLast?

variable {Q : FutureQueue} {l : Listener} {taken : List Notification}

theorem notified_concat {history : List Happening} {x : Happening} {n : Notification}
    (h : x.notification? = some n) :
    (history ++ [x]).filterMap Happening.notification? =
      history.filterMap Happening.notification? ++ [n] := by
  simp [List.filterMap_append, h]

theorem HasTaken.activate (h : l.HasTaken taken) (got : Bool) : (l.activate got).HasTaken taken := by
  unfold Listener.activate
  split
  · exact h
  · refine ⟨?_, h.buffer⟩
    have hnotified : (l.history ++ [Happening.activated got]).filterMap Happening.notification? = l.notified := by
      rw [List.filterMap_append]
      exact List.append_nil _
    unfold notified
    rw [hnotified]
    exact h.kept

/-- A notification is pushed, and noted in the history. -/
theorem HasTaken.push {l' : Listener} {x : Happening} {n : Notification} (h : l.HasTaken taken)
    (hx : x.notification? = some n) (hhistory : l'.history = l.history ++ [x])
    (hnotifications : l'.notifications = Q.pushOverwrite l.notifications n)
    (hbuffer : l'.buffer = l.buffer) : l'.HasTaken taken := by
  have hnotified : l'.notified = l.notified ++ [n] := by
    unfold notified
    rw [hhistory, notified_concat hx]
  obtain ⟨kept, hkept, hpushed⟩ := Q.pushOverwrite_eq l.notifications n
  refine ⟨?_, hbuffer.trans h.buffer⟩
  rw [hnotified, hnotifications, hpushed]
  exact h.kept.push hkept n

theorem HasTaken.deactivate (h : l.HasTaken taken) : l.deactivate.HasTaken taken :=
  ⟨h.kept, h.buffer⟩

theorem HasTaken.pushPolled (h : l.HasTaken taken) (value : ℕ) :
    (l.pushPolled Q value).HasTaken taken := h.push (x := .polled value) rfl rfl rfl rfl

theorem HasTaken.deliver (h : l.HasTaken taken) (value : ℕ) : (l.deliver Q value).HasTaken taken := by
  unfold Listener.deliver
  split
  · exact h.push (x := .delivered value) rfl rfl rfl rfl
  · exact h

theorem HasTaken.pushException (h : l.HasTaken taken) (message : Text) :
    (l.pushException Q message).HasTaken taken := h.push (x := .exception message) rfl rfl rfl rfl

theorem HasTaken.pushError (h : l.HasTaken taken) (message : Text) :
    (l.pushError Q message).HasTaken taken := by
  unfold Listener.pushError
  split
  · exact h.deactivate.pushException message
  · exact h

/-- A read takes the oldest notification; only a value gets into the buffer. -/
theorem HasTaken.read (h : l.HasTaken taken) : ∃ taken', (l.read Q).HasTaken taken' := by
  have hkept := h.kept
  cases hqueue : l.notifications with
  | nil =>
    rw [read_nil hqueue]
    exact ⟨taken, h⟩
  | cons n queue =>
    rw [hqueue] at hkept
    cases n with
    | data value =>
      rw [read_data hqueue]
      refine ⟨taken ++ [Notification.data value], ?_, ?_⟩
      · exact hkept.take
      · simp [Notification.value?]
    | exception message =>
      rw [read_exception hqueue]
      refine ⟨taken ++ [Notification.exception message], ?_, ?_⟩
      · exact hkept.take
      · simpa [Notification.value?] using h.buffer

end Listener

namespace State
variable {τ α β : Type} [DecidableEq τ] [DecidableEq α] [DecidableEq β]
variable {L : Layout α β} {s s' : State τ α β}

/-- In every run, what an application has taken from the queue of its accessor followed by what is still
queued is a selection of everything pushed, in the order pushed and with the newest at the end, and the
buffer holds the newest value taken. -/
theorem reads_in_order {backend : β → Backend.BackendState} {es : List (Event τ α β)}
    (run : Runs.exec (step L) (initial backend) es = some s) (a : α) :
    ∃ taken, (taken ++ (s.listener a).notifications).Sublist (s.listener a).notified ∧
      (taken ++ (s.listener a).notifications).getLast? = (s.listener a).notified.getLast? ∧
      (s.listener a).buffer = (taken.filterMap Notification.value?).getLast? := by
  have hs : ∃ taken, (s.listener a).HasTaken taken := by
    apply Runs.exec_invariant (I := fun s : State τ α β => ∃ taken, (s.listener a).HasTaken taken) run
    · rintro s e s' ⟨taken, hs⟩ h
      apply listener_step (P := fun l => ∃ taken, l.HasTaken taken) (transition_of_step h) ⟨taken, hs⟩
      · rintro - l got ⟨taken, hl⟩
        exact ⟨taken, hl.activate got⟩
      · rintro l ⟨taken, hl⟩
        exact ⟨taken, hl.deactivate⟩
      · exact fun _ _ _ value _ _ _ _ => ⟨taken, hs.pushPolled value⟩
      · exact fun _ _ _ _ _ _ message _ _ => ⟨taken, hs.pushException message⟩
      · rintro l value ⟨taken, hl⟩
        exact ⟨taken, hl.deliver value⟩
      · rintro l message ⟨taken, hl⟩
        exact ⟨taken, hl.pushError message⟩
      · rintro l ⟨taken, hl⟩
        exact hl.read
    · exact ⟨[], .nil, rfl⟩
  obtain ⟨taken, h⟩ := hs
  exact ⟨taken, h.kept.sublist, h.kept.newest, h.buffer⟩

/-- Five values are delivered before the first read. -/
def readsLate : List (Event Bool Unit Unit) :=
  .call true (.subscribe () false) :: (List.replicate 5 (.call true (.data "F/D/L/P".toList 0)) ++
    [.read (), .read ()])

theorem readsLate_in_order :
    ∃ s, Runs.exec (step oneListener) (initial fun _ => { asyncReadActivated := true }) readsLate = some s ∧
      ∃ taken, (taken ++ (s.listener ()).notifications).getLast? = (s.listener ()).notified.getLast? := by
  obtain ⟨s, hs⟩ : ∃ s, Runs.exec (step oneListener) (initial fun _ => { asyncReadActivated := true })
      readsLate = some s := Option.isSome_iff_exists.mp rfl
  obtain ⟨taken, -, hnewest, -⟩ := reads_in_order hs ()
  exact ⟨s, hs, taken, hnewest⟩

end State

end DoocsBackend.Zmq
