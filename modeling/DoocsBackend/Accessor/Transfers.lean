import DoocsBackend.Accessor.PartialWrite
import DoocsBackend.Accessor.Reports
import DoocsBackend.Library.Runs

/-! # Synchronous transfers

`doReadTransferSynchronously` is entered for reads without `wait_for_new_data` and from the
`doPreWrite` functions which read before they write. It asserts that the accessor does not use
ZeroMQ.
-/
namespace DoocsBackend.Accessor
open Backend (BackendState)

/-- Whether `doPreWrite` of the class enters `doReadTransferSynchronously`. -/
def RegisterAccessor.readsFirst {U : UserType} (a : RegisterAccessor U) : Bool :=
  match a.kind with
  | .numeric => decide (U ≠ .void) && a.isPartial
  | .iiii => a.isArray && a.isPartial
  | .ifff _ => true
  | .string | .image | .eventId | .timeStamp => false

/-- A successfully constructed accessor with the arguments of its constructor. -/
structure Transferring (M : ImageLayout) (typeOf : ℤ → DoocsType) (U : UserType) where
  kind : Kind U
  args : Arguments
  accessor : RegisterAccessor U
  constructed : construct M typeOf kind args = .ok accessor

/-- The backend and the member `_isWriteable` of the accessor. -/
structure TransferState where
  backend : BackendState
  isWriteable : Bool := true

/-- What happens to the backend, and the operations of the application on the accessor, with the
answers of the server. -/
inductive TransferEvent (U : UserType) where
  | openBackend (rc : ReturnCode) (text : Text) (fresh : ℕ)
  | closeBackend
  /-- Another transfer has failed. -/
  | fail (address message : Text)
  /-- The answer arrives from the queue with `wait_for_new_data`. -/
  | read (rc : ReturnCode) (dst : EqData) (buffer : List U.Val)
  | write (rc : ReturnCode) (dst : Payload) (src : Payload) (buffer : List U.Val)
    (setRc : ReturnCode) (setDst : EqData)

namespace BackendState

/-- The backend has been informed, and DeviceAccess passes a `runtime_error` on to it. -/
def after {γ : Type} (b : BackendState) (r : Reporting γ) : BackendState :=
  let informed := r.reports.foldl (fun b report => match report with
    | .informed address => b.informRuntimeError address
    | .raised _ => b) b
  match r.result with
  | .error (.runtimeError message) => informed.setException message
  | _ => informed

end BackendState

section Definitions
variable (K : EqDataLibrary) (C : Conversions) (readOnly : ℤ) {M : ImageLayout}
  {typeOf : ℤ → DoocsType} {U : UserType} (x : Transferring M typeOf U)

/-- A read, which DeviceAccess makes with `doReadTransferSynchronously` unless the access mode is
`wait_for_new_data`. -/
def readOperation (s : TransferState) (rc : ReturnCode) (dst : EqData) (buffer : List U.Val) :
    Reporting (List U.Val) :=
  if ¬ s.backend.opened then
    Reporting.silent (.error (.logicError "Read operation not allowed while device is closed.".toList))
  else if x.args.flags.waitForNewData then postReadReports C M x.accessor dst buffer
  else readTransfer C x.accessor ⟨s.backend, s.isWriteable, rc, dst.payload⟩ >>= fun _ =>
    postReadReports C M x.accessor dst buffer

namespace TransferState

/-- A step of the backend or of the application. -/
def step (s : TransferState) : TransferEvent U → Option TransferState
  | .openBackend rc text fresh => some { s with backend := (s.backend.openBackend rc text fresh).1 }
  | .closeBackend => some { s with backend := s.backend.closeBackend }
  | .fail address message =>
    some { s with backend := (s.backend.informRuntimeError address).setException message }
  | .read rc dst buffer =>
    some { s with backend := BackendState.after s.backend (readOperation C x s rc dst buffer) }
  | .write rc dst src buffer setRc setDst =>
    let prepared :=
      preWriteReports K C x.accessor ⟨s.backend, s.isWriteable, rc, dst⟩ src buffer
    match prepared.result with
    | .error _ => some { s with backend := BackendState.after s.backend prepared }
    | .ok _ => some
      { backend := BackendState.after s.backend
          (writeTransfer C readOnly x.accessor s.backend setRc setDst)
        isWriteable := isWriteableAfter readOnly s.backend setDst s.isWriteable }

/-- The asserted condition at each entry into `doReadTransferSynchronously` during a step. -/
def entries (s : TransferState) : TransferEvent U → List Bool
  | .read .. =>
    if s.backend.opened ∧ ¬ x.args.flags.waitForNewData then [!x.accessor.useZMQ] else []
  | .write rc dst .. =>
    if s.backend.opened ∧ Accessor.isWriteable x.accessor ⟨s.backend, s.isWriteable, rc, dst⟩ ∧
      x.accessor.readsFirst then [!x.accessor.useZMQ] else []
  | .openBackend .. | .closeBackend | .fail .. => []

/-- The assertion holds at every entry. -/
def AssertionHolds (s : TransferState) (e : TransferEvent U) (_ : TransferState) : Prop :=
  ∀ holds ∈ entries x s e, holds = true

/-- The step is not a write which is admitted and has to read first, through an accessor with
`wait_for_new_data`. -/
def WritesWithoutReading (s : TransferState) (e : TransferEvent U) (_ : TransferState) : Prop :=
  match e with
  | .write rc dst .. =>
    x.args.flags.waitForNewData = true → s.backend.opened = true →
      Accessor.isWriteable x.accessor ⟨s.backend, s.isWriteable, rc, dst⟩ = true →
      x.accessor.readsFirst = false
  | _ => True

end TransferState

end Definitions

section Entries
variable {K : EqDataLibrary} {C : Conversions} {M : ImageLayout} {typeOf : ℤ → DoocsType}
  {U : UserType} {a : RegisterAccessor U} {s : WriteState} {src : Payload} {buffer : List U.Val}

/-- The accessor uses ZeroMQ if and only if it was constructed with `wait_for_new_data`. -/
theorem construct_useZMQ {kind : Kind U} {args : Arguments}
    (h : construct M typeOf kind args = .ok a) : a.useZMQ = args.flags.waitForNewData := by
  have hflags : (kindArguments kind args).flags = args.flags := by
    unfold kindArguments
    split <;> rfl
  unfold construct at h
  cases hb : constructBase M typeOf kind (kindArguments kind args) with
  | error e =>
    rw [hb] at h
    cases h
  | ok b =>
    have hbase : b.useZMQ = args.flags.waitForNewData := by
      unfold constructBase at hb
      rw [hflags] at hb
      split at hb
      · cases hb
      · split at hb
        · cases hb
        · split at hb
          · cases hb
          · obtain ⟨shape, -, -, -, rfl⟩ := initialise_ok hb
            rfl
    rw [hb, ok_bind] at h
    obtain ⟨rfl, -⟩ | ⟨rfl, -⟩ := checkKind_ok h
    · exact hbase
    · exact hbase

/-- The classes which read first begin with it. -/
theorem kindPreWrite_of_readsFirst (src : Payload) (buffer : List U.Val)
    (h : a.readsFirst = true) :
    ∃ modify : Payload → Except Failure Payload, ∀ s,
      kindPreWrite K C a s src buffer = doReadTransferSynchronously C a s >>= modify := by
  cases hk : a.kind with
  | numeric =>
    simp only [RegisterAccessor.readsFirst, hk, Bool.and_eq_true, decide_eq_true_eq] at h
    refine ⟨fun dst => writeNumbers K C a buffer (lengthen K a dst), fun s => ?_⟩
    rw [kindPreWrite_numeric hk, numericPreWrite, if_neg h.1, if_pos h.2]
  | iiii =>
    simp only [RegisterAccessor.readsFirst, hk, Bool.and_eq_true] at h
    refine ⟨fun dst => writeMembers C a buffer (src.setIiii (K.getInt dst 0) (K.getInt dst 1)
      (K.getInt dst 2) (K.getInt dst 3)), fun s => ?_⟩
    rw [kindPreWrite_iiii hk, iiiiPreWrite, if_neg (not_not.mpr h.1), if_pos h.2]
  | ifff field => exact ⟨_, fun s => kindPreWrite_ifff hk⟩
  | string | image | eventId | timeStamp => simp [RegisterAccessor.readsFirst, hk] at h

/-- All others do not look at what a read would give. -/
theorem kindPreWrite_of_not_readsFirst (h : a.readsFirst = false) (s t : WriteState) :
    kindPreWrite K C a s src buffer = kindPreWrite K C a t src buffer := by
  obtain ⟨kind, path, nElements, elementOffset, isArray, isPartial, useZMQ, bufferLength, _⟩ := a
  cases kind with
  | numeric =>
    by_cases hU : U = .void
    · rw [kindPreWrite_numeric rfl, kindPreWrite_numeric rfl, numericPreWrite, numericPreWrite,
        if_pos hU, if_pos hU]
    · simp only [RegisterAccessor.readsFirst, hU, ne_eq, not_false_eq_true, decide_true,
        Bool.true_and] at h
      rw [kindPreWrite_numeric rfl, kindPreWrite_numeric rfl, numericPreWrite, numericPreWrite, h]
      rfl
  | iiii =>
    simp only [RegisterAccessor.readsFirst, Bool.and_eq_false_iff] at h
    rw [kindPreWrite_iiii rfl, kindPreWrite_iiii rfl, iiiiPreWrite, iiiiPreWrite]
    obtain rfl | rfl := h
    · rfl
    · rfl
  | ifff field => cases h
  | string | image | eventId | timeStamp => rfl

theorem writeNumbers_ne_assertion {p : Payload} :
    writeNumbers K C a buffer p ≠ .error .assertion := by
  intro h
  cases p with
  | array t xs => cases writeNumbers_array_error h
  | _ =>
    simp only [writeNumbers] at h
    repeat' split at h
    all_goals cases h

theorem writeMembers_ne_assertion {p : Payload} : writeMembers C a buffer p ≠ .error .assertion := by
  intro h
  unfold writeMembers at h
  repeat' split at h
  all_goals cases h

theorem bind_eq_assertion {α β : Type} {x : Except Failure α} {f : α → Except Failure β}
    (hf : ∀ v, f v ≠ .error .assertion) (h : x >>= f = .error .assertion) :
    x = .error .assertion := by
  cases x with
  | error e =>
    cases h
    rfl
  | ok v => exact absurd h (hf v)

/-- Nothing else in `doPreWrite` asserts anything. -/
theorem kindPreWrite_eq_assertion (h : kindPreWrite K C a s src buffer = .error .assertion) :
    a.readsFirst = true ∧ doReadTransferSynchronously C a s = .error .assertion := by
  cases hk : a.kind with
  | numeric =>
    rw [kindPreWrite_numeric hk, numericPreWrite] at h
    split at h
    · cases h
    · rename_i hU
      split at h
      · rename_i hp
        exact ⟨by simp [RegisterAccessor.readsFirst, hk, hU, hp],
          bind_eq_assertion (fun _ => writeNumbers_ne_assertion) h⟩
      · exact absurd h writeNumbers_ne_assertion
  | iiii =>
    rw [kindPreWrite_iiii hk, iiiiPreWrite] at h
    split at h
    · split at h
      · cases h
      · cases h
    · rename_i harray
      split at h
      · rename_i hp
        exact ⟨by simp [RegisterAccessor.readsFirst, hk, not_not.mp harray, hp],
          bind_eq_assertion (fun _ => writeMembers_ne_assertion) h⟩
      · exact absurd h writeMembers_ne_assertion
  | ifff field =>
    rw [kindPreWrite_ifff hk, ifffPreWrite] at h
    refine ⟨by simp [RegisterAccessor.readsFirst, hk], bind_eq_assertion (fun dst hdst => ?_) h⟩
    split at hdst <;> cases hdst
  | string | image | eventId | timeStamp =>
    obtain ⟨kind, _⟩ := a
    dsimp only at hk
    subst hk
    first
    | cases h
    | simp only [kindPreWrite, stringPreWrite] at h
      split at h <;> cases h

theorem doReadTransferSynchronously_eq_assertion_iff :
    doReadTransferSynchronously C a s = .error .assertion ↔
      s.backend.hasActiveException = false ∧ a.useZMQ = true := by
  unfold doReadTransferSynchronously
  split
  · rename_i hactive
    simp [hactive]
  · rename_i hactive
    split
    · rename_i hzmq
      simp [hactive, hzmq]
    · rename_i hzmq
      split <;> simp [hzmq]

/-- A write ends at the assertion where it enters with ZeroMQ in use, unless the exception of the
backend is thrown before. -/
theorem doPreWrite_eq_assertion_iff :
    doPreWrite K C a s src buffer = .error .assertion ↔
      s.backend.opened = true ∧ isWriteable a s = true ∧ a.readsFirst = true ∧ a.useZMQ = true ∧
        s.backend.hasActiveException = false := by
  unfold doPreWrite
  obtain ⟨hcheck, hopened, hwriteable⟩ | ⟨what, hcheck, hnot⟩ := checkWriteable_cases (a := a) (s := s)
  · rw [hcheck, ok_bind]
    constructor
    · intro h
      obtain ⟨hreads, hread⟩ := kindPreWrite_eq_assertion h
      obtain ⟨hactive, hzmq⟩ := doReadTransferSynchronously_eq_assertion_iff.mp hread
      exact ⟨hopened, hwriteable, hreads, hzmq, hactive⟩
    · rintro ⟨-, -, hreads, hzmq, hactive⟩
      obtain ⟨modify, hmodify⟩ := kindPreWrite_of_readsFirst (K := K) (C := C) src buffer hreads
      rw [hmodify s, doReadTransferSynchronously_eq_assertion_iff.mpr ⟨hactive, hzmq⟩, error_bind]
  · rw [hcheck, error_bind]
    exact iff_of_false (by simp) fun h => hnot ⟨h.1, h.2.1⟩

end Entries

section Main
variable (K : EqDataLibrary) (C : Conversions) (readOnly : ℤ) {M : ImageLayout}
  {typeOf : ℤ → DoocsType} {U : UserType}

namespace TransferState
variable {K C readOnly}

/-- A read ends at the assertion where it enters with ZeroMQ in use, unless the exception of the
backend is thrown before; what `doPostRead` asserts of an image is not meant. -/
theorem readOperation_eq_assertion_iff (x : Transferring M typeOf U) {s : TransferState}
    {rc : ReturnCode} {dst : EqData} {buffer : List U.Val}
    (hpost : doPostRead C M x.accessor dst buffer ≠ .error .assertion) :
    (readOperation C x s rc dst buffer).result = .error .assertion ↔
      false ∈ entries x s (.read rc dst buffer) ∧ s.backend.hasActiveException = false := by
  unfold readOperation entries
  cases hopened : s.backend.opened with
  | false => simp [Reporting.silent]
  | true =>
    cases hwait : x.args.flags.waitForNewData with
    | true => simpa [postReadReports, Reporting.silent] using hpost
    | false =>
      have hentry : false = (!x.accessor.useZMQ) ↔ x.accessor.useZMQ = true := by
        cases x.accessor.useZMQ <;> simp
      simp only [not_true_eq_false, Bool.false_eq_true, not_false_eq_true, and_self, if_false, if_true,
        List.mem_singleton, hentry]
      rw [Reporting.bind_result, readTransfer_result]
      constructor
      · intro h
        have hread := bind_eq_assertion (fun _ => hpost) h
        exact (doReadTransferSynchronously_eq_assertion_iff.mp hread).symm
      · intro h
        rw [doReadTransferSynchronously_eq_assertion_iff.mpr h.symm, error_bind]

theorem assertionHolds_iff (x : Transferring M typeOf U) {s t : TransferState}
    {e : TransferEvent U} : AssertionHolds x s e t ↔ WritesWithoutReading x s e t := by
  have hzmq := construct_useZMQ x.constructed
  unfold AssertionHolds WritesWithoutReading entries
  cases e with
  | openBackend | closeBackend | fail => simp
  | read rc dst buffer =>
    refine iff_of_true ?_ trivial
    dsimp only
    split
    · rename_i h
      simp [hzmq, h.2]
    · simp
  | write rc dst src buffer setRc setDst =>
    dsimp only
    split
    · rename_i h
      simp [hzmq, h.1, h.2.1, h.2.2]
    · rename_i h
      apply iff_of_true (by simp)
      intro _ hopened hwriteable
      simpa [hopened, hwriteable] using h

end TransferState

/-- In a run of openings, closings, failures, reads and writes, the assertion holds at every entry
exactly if nothing is written through an accessor with `wait_for_new_data` which has to read
first. -/
theorem assertion_holds_iff (x : Transferring M typeOf U) (s : TransferState)
    (es : List (TransferEvent U)) :
    Runs.Along (TransferState.step K C readOnly x) (TransferState.AssertionHolds x) s es ↔
      Runs.Along (TransferState.step K C readOnly x) (TransferState.WritesWithoutReading x) s es :=
  Runs.Along.iff_of_invariant
    (fun _ _ _ (_ : True) (_ : True) _ => TransferState.assertionHolds_iff x)
    (fun _ _ _ _ _ _ _ => trivial) trivial (by simp)

def waitingTransferring : Transferring plainImageLayout Catalogue.plainLibraries.type .int32 where
  kind := .numeric
  args := partialArguments
  accessor := initialised plainImageLayout .numeric partialArguments true (10, .aInt)
  constructed := rfl

/-- A part of an array is written through an accessor which waits for new data. -/
theorem not_assertion_holds :
    ¬ Runs.Along (TransferState.step plainEqData plainConversions 0 waitingTransferring)
      (TransferState.AssertionHolds waitingTransferring) { backend := { opened := true } }
      [.write .ok (.array .aInt (List.replicate 10 (0 : Int32)))
        waitingTransferring.accessor.src [(1 : Int32), (2 : Int32)] .ok ⟨.null, 0, 0, 0⟩] := by
  intro h
  exact Bool.false_ne_true ((h _ rfl).1 false List.mem_cons_self)

end Main

end DoocsBackend.Accessor
