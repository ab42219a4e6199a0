import DoocsBackend.Basic

/-! # Listeners

The part of an accessor the subscription manager works on: the flag `isActiveZMQ` and the
notification queue. Values are counted in the order the server publishes them. A history
records what happened to the listener.
-/
namespace DoocsBackend.Zmq

/-- An element of the notification queue. -/
inductive Notification where
  | data (value : ℕ)
  | exception (message : Text)
  deriving DecidableEq, Repr

inductive Happening where
  /-- The listener became active; had the subscription seen its initial value? -/
  | activated (gotInitialValue : Bool)
  /-- Pushed by `pollInitialValue`. -/
  | polled (value : ℕ)
  /-- Pushed by `zmq_callback`. -/
  | delivered (value : ℕ)
  | exception (message : Text)
  deriving DecidableEq, Repr

namespace Happening

def isException : Happening → Bool
  | .exception _ => true
  | _ => false

def isActivation : Happening → Bool
  | .activated _ => true
  | _ => false

def isPolled : Happening → Bool
  | .polled _ => true
  | _ => false

/-- A value, from whichever source. -/
def isData : Happening → Bool
  | .polled _ | .delivered _ => true
  | _ => false

/-- The value pushed. -/
def value : Happening → ℕ
  | .polled value | .delivered value => value
  | _ => 0

end Happening

structure Listener where
  isActiveZMQ : Bool := false
  notifications : List Notification := []
  /-- The value last read into the buffer. -/
  buffer : Option ℕ := none
  history : List Happening := []
  deriving DecidableEq, Repr

/-- The operations of `cppext::future_queue` the backend makes use of, on the elements a queue holds,
the oldest first. -/
structure FutureQueue where
  pushOverwrite : List Notification → Notification → List Notification
  pop : List Notification → Option (Notification × List Notification)
  /-- The element pushed is the newest one afterwards. Of the others some may be lost. -/
  pushOverwrite_eq : ∀ queue x, ∃ kept, kept.Sublist queue ∧ pushOverwrite queue x = kept ++ [x]
  pop_nil : pop [] = none
  pop_cons : ∀ x queue, pop (x :: queue) = some (x, queue)

/-- A queue of depth three which overwrites its newest element if it is full. -/
def plainQueue : FutureQueue where
  pushOverwrite queue x := if queue.length < 3 then queue ++ [x] else queue.dropLast ++ [x]
  pop
    | [] => none
    | x :: queue => some (x, queue)
  pushOverwrite_eq queue x := by
    split
    · exact ⟨queue, List.Sublist.refl queue, rfl⟩
    · exact ⟨queue.dropLast, List.dropLast_sublist queue, rfl⟩
  pop_nil := rfl
  pop_cons _ _ := rfl

namespace Listener

section Definitions
variable (Q : FutureQueue)

/-- `isActiveZMQ = true`. -/
def activate (gotInitialValue : Bool) (l : Listener) : Listener :=
  if l.isActiveZMQ then l
  else { l with isActiveZMQ := true, history := l.history ++ [.activated gotInitialValue] }

/-- `isActiveZMQ = false`. -/
def deactivate (l : Listener) : Listener := { l with isActiveZMQ := false }

/-- `isActiveZMQ` of a new listener. -/
def subscribed (asyncReadActivated gotInitialValue : Bool) (l : Listener) : Listener :=
  if asyncReadActivated then l.activate gotInitialValue else l.deactivate

def pushPolled (value : ℕ) (l : Listener) : Listener :=
  { l with
    notifications := Q.pushOverwrite l.notifications (.data value)
    history := l.history ++ [.polled value] }

/-- What the callback does to each listener. -/
def deliver (value : ℕ) (l : Listener) : Listener :=
  if l.isActiveZMQ then
    { l with
      notifications := Q.pushOverwrite l.notifications (.data value)
      history := l.history ++ [.delivered value] }
  else l

/-- An exception is put into the queue, whatever the listener's state. -/
def pushException (message : Text) (l : Listener) : Listener :=
  { l with
    notifications := Q.pushOverwrite l.notifications (.exception message)
    history := l.history ++ [.exception message] }

/-- `pushError`, while nobody else has access to the listener. -/
def pushError (message : Text) (l : Listener) : Listener :=
  if l.isActiveZMQ then l.deactivate.pushException Q message else l

/-- A read takes the oldest element from the queue; an exception is thrown and leaves the buffer
alone. -/
def read (l : Listener) : Listener :=
  match Q.pop l.notifications with
  | none => l
  | some (.data value, queue) => { l with notifications := queue, buffer := some value }
  | some (.exception _, queue) => { l with notifications := queue }

end Definitions

variable (Q : FutureQueue) (l : Listener)

@[simp] theorem activate_isActiveZMQ (got : Bool) : (l.activate got).isActiveZMQ = true := by
  unfold activate
  split
  · assumption
  · rfl

@[simp] theorem deactivate_isActiveZMQ : l.deactivate.isActiveZMQ = false := rfl

@[simp] theorem subscribed_isActiveZMQ (flag got : Bool) :
    (l.subscribed flag got).isActiveZMQ = flag := by
  cases flag
  · rfl
  · exact l.activate_isActiveZMQ got

@[simp] theorem pushPolled_isActiveZMQ (value : ℕ) :
    (l.pushPolled Q value).isActiveZMQ = l.isActiveZMQ := rfl

@[simp] theorem deliver_isActiveZMQ (value : ℕ) :
    (l.deliver Q value).isActiveZMQ = l.isActiveZMQ := by
  unfold deliver
  split <;> rfl

@[simp] theorem pushException_isActiveZMQ (message : Text) :
    (l.pushException Q message).isActiveZMQ = l.isActiveZMQ := rfl

@[simp] theorem pushError_isActiveZMQ (message : Text) :
    (l.pushError Q message).isActiveZMQ = false := by
  unfold pushError
  split
  · rfl
  · rename_i h
    simpa using h

@[simp] theorem read_isActiveZMQ : (l.read Q).isActiveZMQ = l.isActiveZMQ := by
  unfold read
  split <;> rfl

variable {Q : FutureQueue} {l : Listener}

theorem read_nil (h : l.notifications = []) : l.read Q = l := by
  rw [read, h, Q.pop_nil]

theorem read_data {value : ℕ} {queue : List Notification} (h : l.notifications = .data value :: queue) :
    l.read Q = { l with notifications := queue, buffer := some value } := by
  rw [read, h, Q.pop_cons]

theorem read_exception {message : Text} {queue : List Notification}
    (h : l.notifications = .exception message :: queue) :
    l.read Q = { l with notifications := queue } := by
  rw [read, h, Q.pop_cons]

end Listener

end DoocsBackend.Zmq
