import DoocsBackend.Basic

/-! # The state of a backend

Opening, closing and the memory of a failure. A backend which has failed is probed at
the address of its first failure before it is opened again. Version numbers are natural
numbers in the order of their creation, with 0 for `VersionNumber(nullptr)`.
-/
namespace DoocsBackend.Backend

/-- The message kept by the base class while there is no active exception. -/
def exceptionCleared : Text := "(exception cleared)".toList

/-- The members of `DoocsBackend` and of its base class which are not fixed. -/
structure BackendState where
  opened : Bool := false
  hasActiveException : Bool := false
  activeExceptionMessage : Text := exceptionCleared
  asyncReadActivated : Bool := false
  lastFailedAddress : Text := []
  startVersion : ℕ := 0
  deriving DecidableEq, Repr

namespace BackendState

def isFunctional (b : BackendState) : Bool := b.opened && !b.hasActiveException

/-- The base class remembers the first message until the backend is opened again. -/
def setException (b : BackendState) (message : Text) : BackendState :=
  if b.hasActiveException then b
  else { b with hasActiveException := true, activeExceptionMessage := message }

def setOpenedAndClearException (b : BackendState) : BackendState :=
  { b with opened := true, hasActiveException := false, activeExceptionMessage := exceptionCleared }

def informRuntimeError (b : BackendState) (address : Text) : BackendState :=
  if b.lastFailedAddress = [] then { b with lastFailedAddress := address } else b

/-- The error message of `open` for a probe which failed with the given text. -/
def recoveryMessage (b : BackendState) (text : Text) : Text :=
  let stored := if b.isFunctional then [] else b.activeExceptionMessage
  if stored = [] ∨ stored = exceptionCleared then
    "Cannot read from DOOCS property '".toList ++ b.lastFailedAddress ++ "': ".toList ++ text
  else stored

/-- `open`, given the result of reading `lastFailedAddress` and the version `VersionNumber{}`
would create. -/
def openBackend (b : BackendState) (rc : ReturnCode) (text : Text) (fresh : ℕ) :
    BackendState × Option Failure :=
  if b.lastFailedAddress ≠ [] ∧ rc.isCommunicationError then
    (b.setException (b.recoveryMessage text), some (.runtimeError (b.recoveryMessage text)))
  else
    ({ b with lastFailedAddress := [], startVersion := fresh }.setOpenedAndClearException, none)

def closeBackend (b : BackendState) : BackendState :=
  { b with opened := false, asyncReadActivated := false, lastFailedAddress := [] }

@[simp] theorem setException_startVersion (b : BackendState) (message : Text) :
    (b.setException message).startVersion = b.startVersion := by
  unfold setException
  split <;> rfl

@[simp] theorem setException_opened (b : BackendState) (message : Text) :
    (b.setException message).opened = b.opened := by
  unfold setException
  split <;> rfl

@[simp] theorem setException_asyncReadActivated (b : BackendState) (message : Text) :
    (b.setException message).asyncReadActivated = b.asyncReadActivated := by
  unfold setException
  split <;> rfl

@[simp] theorem informRuntimeError_startVersion (b : BackendState) (address : Text) :
    (b.informRuntimeError address).startVersion = b.startVersion := by
  unfold informRuntimeError
  split <;> rfl

@[simp] theorem informRuntimeError_opened (b : BackendState) (address : Text) :
    (b.informRuntimeError address).opened = b.opened := by
  unfold informRuntimeError
  split <;> rfl

@[simp] theorem informRuntimeError_isFunctional (b : BackendState) (address : Text) :
    (b.informRuntimeError address).isFunctional = b.isFunctional := by
  unfold informRuntimeError
  split <;> rfl

@[simp] theorem informRuntimeError_asyncReadActivated (b : BackendState) (address : Text) :
    (b.informRuntimeError address).asyncReadActivated = b.asyncReadActivated := by
  unfold informRuntimeError
  split <;> rfl

theorem informRuntimeError_ne_nil {b : BackendState} {address : Text} (h : address ≠ []) :
    (b.informRuntimeError address).lastFailedAddress ≠ [] := by
  unfold informRuntimeError
  split
  · exact h
  · assumption

/-- Only the first failure is remembered. -/
theorem informRuntimeError_of_failed {b : BackendState} (h : b.lastFailedAddress ≠ [])
    (address : Text) : b.informRuntimeError address = b := if_neg h

theorem informRuntimeError_nil (b : BackendState) : b.informRuntimeError [] = b := by
  unfold informRuntimeError
  split
  · rename_i h
    rw [← h]
  · rfl

@[simp] theorem setException_lastFailedAddress (b : BackendState) (message : Text) :
    (b.setException message).lastFailedAddress = b.lastFailedAddress := by
  unfold setException
  split <;> rfl

theorem openBackend_of_failed {b : BackendState} {rc : ReturnCode} {text : Text} {fresh : ℕ}
    (h : b.lastFailedAddress ≠ []) (hrc : rc.isCommunicationError = true) :
    b.openBackend rc text fresh =
      (b.setException (b.recoveryMessage text), some (.runtimeError (b.recoveryMessage text))) := by
  rw [openBackend, if_pos ⟨h, hrc⟩]

theorem openBackend_of_recovered {b : BackendState} {rc : ReturnCode} {text : Text} {fresh : ℕ}
    (h : b.lastFailedAddress = [] ∨ rc.isCommunicationError = false) :
    b.openBackend rc text fresh =
      ({ b with lastFailedAddress := [], startVersion := fresh }.setOpenedAndClearException,
        none) := by
  rw [openBackend, if_neg]
  rintro ⟨hne, hrc⟩
  rcases h with h | h
  · exact hne h
  · simp [h] at hrc

/-- An `open` which throws leaves the start version alone, any other one replaces it. -/
theorem openBackend_cases (b : BackendState) (rc : ReturnCode) (text : Text) (fresh : ℕ) :
    (∃ e, (b.openBackend rc text fresh).2 = some e) ∧
        (b.openBackend rc text fresh).1.startVersion = b.startVersion ∧
        (b.openBackend rc text fresh).1.opened = b.opened ∨
      (b.openBackend rc text fresh).2 = none ∧
        (b.openBackend rc text fresh).1.startVersion = fresh ∧
        (b.openBackend rc text fresh).1.opened = true := by
  unfold openBackend
  split
  · exact .inl ⟨⟨_, rfl⟩, by simp, by simp⟩
  · exact .inr ⟨rfl, rfl, rfl⟩

end BackendState

end DoocsBackend.Backend
