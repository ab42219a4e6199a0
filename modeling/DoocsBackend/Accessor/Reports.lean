import DoocsBackend.Accessor.PreWrite

/-! # What a transfer reports

The functions of a transfer with everything they let others know: the `runtime_error`s the
application gets to see because of the property, and the calls of `informRuntimeError`.
-/
namespace DoocsBackend.Accessor
open Backend (BackendState)

inductive Report where
  /-- A `runtime_error` caused by the property becomes visible to the application. -/
  | raised (message : Text)
  /-- `informRuntimeError` is called with the address. -/
  | informed (address : Text)
  deriving DecidableEq, Repr

/-- An operation with its reports in their order. -/
structure Reporting (γ : Type) where
  result : Except Failure γ
  reports : List Report

namespace Reporting
variable {γ δ : Type}

instance : Monad Reporting where
  pure x := ⟨.ok x, []⟩
  bind x f := match x.result with
    | .ok v => ⟨(f v).result, x.reports ++ (f v).reports⟩
    | .error e => ⟨.error e, x.reports⟩

/-- A part of an operation which does not call `informRuntimeError`. -/
def silent (x : Except Failure γ) : Reporting γ where
  result := x
  reports := match x with
    | .error (.runtimeError message) => [.raised message]
    | _ => []

@[simp] theorem pure_reports (x : γ) : (pure x : Reporting γ).reports = [] := rfl

theorem bind_of_ok {x : Reporting γ} {v : γ} (h : x.result = .ok v) (f : γ → Reporting δ) :
    x >>= f = ⟨(f v).result, x.reports ++ (f v).reports⟩ := by
  simp only [bind, h]

theorem bind_of_error {x : Reporting γ} {e : Failure} (h : x.result = .error e)
    (f : γ → Reporting δ) : x >>= f = ⟨.error e, x.reports⟩ := by
  simp only [bind, h]

@[simp] theorem bind_result (x : Reporting γ) (f : γ → Reporting δ) :
    (x >>= f).result = x.result >>= fun v => (f v).result := by
  cases h : x.result with
  | ok v => rw [bind_of_ok h, ok_bind]
  | error e => rw [bind_of_error h, error_bind]

/-- A `runtime_error` is reported to the application where nothing else takes care of it. -/
theorem raised_mem_silent {x : Except Failure γ} {message : Text} :
    .raised message ∈ (silent x).reports ↔ x = .error (.runtimeError message) := by
  rcases x with (_ | _ | _ | _) | v <;> simp [silent, eq_comm]

@[simp] theorem informed_notMem_silent (x : Except Failure γ) (address : Text) :
    .informed address ∉ (silent x).reports := by
  rcases x with (_ | _ | _ | _) | v <;> simp [silent]

/-- Whenever a `runtime_error` becomes visible, the backend has been informed. -/
def Honest (address : Text) (reports : List Report) : Prop :=
  ∀ message, .raised message ∈ reports → .informed address ∈ reports

/-- Nothing can go wrong with the property. -/
theorem honest_of_ne {address : Text} {x : Except Failure γ}
    (h : ∀ message, x ≠ .error (.runtimeError message)) : Honest address (silent x).reports :=
  fun message hm => absurd (raised_mem_silent.mp hm) (h message)

theorem honest_nil (address : Text) : Honest address [] := by simp [Honest]

/-- To inform the backend first is always right. -/
theorem honest_informed (address : Text) (reports : List Report) :
    Honest address (.informed address :: reports) := fun _ _ => List.mem_cons_self

theorem honest_pure (address : Text) (x : γ) : Honest address (pure x : Reporting γ).reports :=
  honest_nil address

/-- What nobody is informed of must not become visible. -/
theorem honest_silent_iff {address : Text} {x : Except Failure γ} :
    Honest address (silent x).reports ↔ ∀ message, x ≠ .error (.runtimeError message) := by
  refine ⟨fun h message hx => ?_, honest_of_ne⟩
  exact informed_notMem_silent x address (h message (raised_mem_silent.mpr hx))

theorem honest_bind {address : Text} {x : Reporting γ} {f : γ → Reporting δ}
    (hx : Honest address x.reports) (hf : ∀ v, x.result = .ok v → Honest address (f v).reports) :
    Honest address (x >>= f).reports := by
  intro message hm
  cases h : x.result with
  | error e =>
    rw [bind_of_error h] at hm ⊢
    exact hx message hm
  | ok v =>
    rw [bind_of_ok h] at hm ⊢
    rcases List.mem_append.mp hm with hm | hm
    · exact List.mem_append_left _ (hx message hm)
    · exact List.mem_append_right _ (hf v h message hm)

/-- Behind a part which reports nothing if it succeeds, only the rest matters. -/
theorem honest_bind_iff {address : Text} {x : Reporting γ} {f : γ → Reporting δ}
    (hx : Honest address x.reports) (hquiet : ∀ v, x.result = .ok v → x.reports = []) :
    Honest address (x >>= f).reports ↔
      ∀ v, x.result = .ok v → Honest address (f v).reports := by
  refine ⟨fun h v hv => ?_, honest_bind hx⟩
  rwa [bind_of_ok hv, hquiet v hv, List.nil_append] at h

end Reporting

open Reporting (silent Honest)

section Transfer
variable (K : EqDataLibrary) (C : Conversions) (M : ImageLayout) {U : UserType}

/-- `doReadTransferSynchronously`. The exception of the backend is not caused by the property. -/
def readTransfer (a : RegisterAccessor U) (s : WriteState) : Reporting Payload :=
  if s.backend.hasActiveException then ⟨.error (.runtimeError s.backend.activeExceptionMessage), []⟩
  else if a.useZMQ then ⟨.error .assertion, []⟩
  else if s.rc.isCommunicationError then
    let message := "Cannot read from DOOCS property: ".toList ++ C.getString s.dst
    ⟨.error (.runtimeError message), [.informed a.path, .raised message]⟩
  else ⟨.ok s.dst, []⟩

/-- `DoocsBackendNumericRegisterAccessor::doPreWrite`. -/
def numericPreWriteReports (a : RegisterAccessor U) (s : WriteState) (src : Payload)
    (buffer : List U.Val) : Reporting Payload :=
  if U = .void then pure (K.set .int32 (0 : Int32) src)
  else if a.isPartial then
    readTransfer C a s >>= fun dst => silent (writeNumbers K C a buffer (lengthen K a dst))
  else silent (writeNumbers K C a buffer src)

/-- `DoocsBackendIIIIRegisterAccessor::doPreWrite`. -/
def iiiiPreWriteReports (a : RegisterAccessor U) (s : WriteState) (src : Payload)
    (buffer : List U.Val) : Reporting Payload :=
  if a.isArray ∧ a.isPartial then
    readTransfer C a s >>= fun dst => silent (writeMembers C a buffer
      (src.setIiii (K.getInt dst 0) (K.getInt dst 1) (K.getInt dst 2) (K.getInt dst 3)))
  else silent (iiiiPreWrite K C a s src buffer)

/-- `DoocsBackendIFFFRegisterAccessor::doPreWrite`. -/
def ifffPreWriteReports (field : Field) (a : RegisterAccessor U) (s : WriteState) (src : Payload)
    (buffer : List U.Val) : Reporting Payload :=
  readTransfer C a s >>= fun dst =>
    match dst, buffer[0]? with
    | .ifff i1 f1 f2 f3, some v => pure (match field with
      | .i => src.setIfff (C.userTypeToNumeric .int32 U v) f1 f2 f3
      | .f1 => src.setIfff i1 (C.userTypeToNumeric .float U v) f2 f3
      | .f2 => src.setIfff i1 f1 (C.userTypeToNumeric .float U v) f3
      | .f3 => src.setIfff i1 f1 f2 (C.userTypeToNumeric .float U v))
    | _, _ => silent (.error .undefined)

/-- What each accessor class does after the checks of the base class. -/
def kindPreWriteReports (a : RegisterAccessor U) (s : WriteState) (src : Payload)
    (buffer : List U.Val) : Reporting Payload :=
  match a.kind with
  | .numeric => numericPreWriteReports K C a s src buffer
  | .iiii => iiiiPreWriteReports K C a s src buffer
  | .ifff field => ifffPreWriteReports C field a s src buffer
  | .string | .image | .eventId | .timeStamp => silent (kindPreWrite K C a s src buffer)

/-- `doPreWrite`. -/
def preWriteReports (a : RegisterAccessor U) (s : WriteState) (src : Payload)
    (buffer : List U.Val) : Reporting Payload :=
  silent (checkWriteable a s) >>= fun _ => kindPreWriteReports K C a s src buffer

/-- `write_internal`, for the given number of `eq_errors::read_only`. -/
def writeInternal (readOnly : ℤ) (a : RegisterAccessor U) (backend : BackendState)
    (rc : ReturnCode) (dst : EqData) : Reporting Unit :=
  if backend.hasActiveException then ⟨.error (.runtimeError backend.activeExceptionMessage), []⟩
  else if rc.isCommunicationError ∨ dst.error = readOnly then
    let message := "Cannot write to DOOCS property: ".toList ++ C.getString dst.payload
    ⟨.error (.runtimeError message), [.informed a.path, .raised message]⟩
  else ⟨.ok (), []⟩

/-- The member `_isWriteable` after `write_internal`. -/
def isWriteableAfter (readOnly : ℤ) (backend : BackendState) (dst : EqData) (isWriteable : Bool) :
    Bool :=
  if backend.hasActiveException then isWriteable
  else if dst.error = readOnly then false else isWriteable

/-- `doWriteTransfer`, which some accessor classes override: whether data has been lost. -/
def writeTransfer (readOnly : ℤ) (a : RegisterAccessor U) (backend : BackendState)
    (rc : ReturnCode) (dst : EqData) : Reporting Bool :=
  match a.kind with
  | .image | .eventId | .timeStamp => pure false
  | _ => writeInternal C readOnly a backend rc dst >>= fun _ => pure false

/-- `doPostRead` with new data. -/
def postReadReports (a : RegisterAccessor U) (dst : EqData) (buffer : List U.Val) :
    Reporting (List U.Val) := silent (doPostRead C M a dst buffer)

/-! ## The reports change nothing else -/

variable {K C M} {a : RegisterAccessor U} {s : WriteState} {src : Payload} {buffer : List U.Val}

theorem readTransfer_result : (readTransfer C a s).result = doReadTransferSynchronously C a s := by
  unfold readTransfer doReadTransferSynchronously
  split
  · rfl
  · split
    · rfl
    · split <;> rfl

theorem numericPreWriteReports_result :
    (numericPreWriteReports K C a s src buffer).result = numericPreWrite K C a s src buffer := by
  unfold numericPreWriteReports numericPreWrite
  split
  · rfl
  · split
    · rw [Reporting.bind_result, readTransfer_result]
      rfl
    · rfl

theorem iiiiPreWriteReports_result :
    (iiiiPreWriteReports K C a s src buffer).result = iiiiPreWrite K C a s src buffer := by
  unfold iiiiPreWriteReports
  split
  · rename_i h
    rw [Reporting.bind_result, readTransfer_result, iiiiPreWrite, if_neg (not_not.mpr h.1), if_pos h.2]
    rfl
  · rfl

theorem ifffPreWriteReports_result {field : Field} :
    (ifffPreWriteReports C field a s src buffer).result = ifffPreWrite C field a s src buffer := by
  unfold ifffPreWriteReports ifffPreWrite
  rw [Reporting.bind_result, readTransfer_result]
  congr 1
  funext dst
  cases dst with
  | ifff i1 f1 f2 f3 => cases buffer[0]? <;> rfl
  | _ => rfl

theorem kindPreWriteReports_result :
    (kindPreWriteReports K C a s src buffer).result = kindPreWrite K C a s src buffer := by
  obtain ⟨kind, path, nElements, elementOffset, isArray, isPartial, useZMQ, bufferLength, _⟩ := a
  cases kind with
  | numeric => cases U <;> exact numericPreWriteReports_result
  | iiii => cases U <;> exact iiiiPreWriteReports_result
  | ifff field => cases U <;> exact ifffPreWriteReports_result
  | string | image | eventId | timeStamp => rfl

theorem preWriteReports_result :
    (preWriteReports K C a s src buffer).result = doPreWrite K C a s src buffer := by
  unfold preWriteReports doPreWrite
  rw [Reporting.bind_result]
  congr 1
  funext u
  exact kindPreWriteReports_result

/-! ## Which transfers keep the backend informed -/

theorem readTransfer_of_ok {dst : Payload} (h : (readTransfer C a s).result = .ok dst) :
    (readTransfer C a s).reports = [] ∧ s.backend.hasActiveException = false ∧ a.useZMQ = false ∧
      s.rc.isCommunicationError = false ∧ dst = s.dst := by
  unfold readTransfer at h ⊢
  split at h
  · cases h
  · rename_i hactive
    split at h
    · cases h
    · rename_i hzmq
      split at h
      · cases h
      · rename_i hrc
        cases h
        simp [hactive, hzmq, hrc]

theorem readTransfer_result_ok (hactive : s.backend.hasActiveException = false)
    (hzmq : a.useZMQ = false) (hrc : s.rc.isCommunicationError = false) :
    (readTransfer C a s).result = .ok s.dst := by
  simp [readTransfer, hactive, hzmq, hrc]

theorem honest_readTransfer : Honest a.path (readTransfer C a s).reports := by
  unfold readTransfer
  split
  · exact Reporting.honest_nil a.path
  · split
    · exact Reporting.honest_nil a.path
    · split
      · exact Reporting.honest_informed a.path _
      · exact Reporting.honest_nil a.path

theorem honest_writeInternal {readOnly : ℤ} {backend : BackendState} {rc : ReturnCode}
    {dst : EqData} : Honest a.path (writeInternal C readOnly a backend rc dst).reports := by
  unfold writeInternal
  split
  · exact Reporting.honest_nil a.path
  · split
    · exact Reporting.honest_informed a.path _
    · exact Reporting.honest_nil a.path

theorem honest_writeTransfer {readOnly : ℤ} {backend : BackendState} {rc : ReturnCode}
    {dst : EqData} : Honest a.path (writeTransfer C readOnly a backend rc dst).reports := by
  have hwrite : Honest a.path
      (writeInternal C readOnly a backend rc dst >>= fun _ => pure false).reports :=
    Reporting.honest_bind honest_writeInternal fun _ _ => Reporting.honest_pure a.path false
  unfold writeTransfer
  split
  · exact Reporting.honest_pure _ false
  · exact Reporting.honest_pure _ false
  · exact Reporting.honest_pure _ false
  · exact hwrite

theorem copyToTarget_error {c : CType} {xs : List c.Val} {e : Failure}
    (h : copyToTarget C a c buffer xs = .error e) : e = .undefined := by
  unfold copyToTarget store at h
  repeat' split at h
  all_goals cases h
  all_goals rfl

theorem callForDoocsType_arrayType (t : ArrayType) : callForDoocsType t.type ≠ none := by
  cases t <;> simp [ArrayType.type, callForDoocsType]

/-- An array is never refused. -/
theorem writeNumbers_array_error {t : ArrayType} {xs : List t.elem.Val} {e : Failure}
    (h : writeNumbers K C a buffer (.array t xs) = .error e) : e = .undefined := by
  simp only [writeNumbers] at h
  split at h
  · cases hc : copyToTarget C a t.elem buffer xs with
    | error e' =>
      rw [hc] at h
      cases h
      exact copyToTarget_error hc
    | ok ys =>
      rw [hc] at h
      cases h
  · repeat' split at h
    all_goals cases h
    all_goals rfl

theorem writeNumbers_of_none (hsrc : callForDoocsType src.type = none) :
    ∃ message, writeNumbers K C a buffer src = .error (.runtimeError message) := by
  cases src with
  | array t xs => exact absurd hsrc (callForDoocsType_arrayType t)
  | _ =>
    simp only [writeNumbers, hsrc]
    exact ⟨_, rfl⟩

theorem writeNumbers_of_some {c : CType} (hsrc : callForDoocsType src.type = some c)
    (harray : ∀ t xs, src ≠ .array t xs) (message : Text) :
    writeNumbers K C a buffer src ≠ .error (.runtimeError message) := by
  cases src with
  | array t xs => exact absurd rfl (harray t xs)
  | _ =>
    simp only [writeNumbers, hsrc]
    cases buffer[0]? <;> simp

/-- Only objects without numbers are refused. -/
theorem writeNumbers_raises_iff :
    (∃ message, writeNumbers K C a buffer src = .error (.runtimeError message)) ↔
      callForDoocsType src.type = none := by
  refine ⟨?_, writeNumbers_of_none⟩
  rintro ⟨message, h⟩
  by_cases harray : ∃ t xs, src = .array t xs
  · obtain ⟨t, xs, rfl⟩ := harray
    cases writeNumbers_array_error h
  · cases htype : callForDoocsType src.type with
    | none => rfl
    | some c => exact absurd h (writeNumbers_of_some htype (fun t xs hs => harray ⟨t, xs, hs⟩) message)

theorem callForDoocsType_of_fastArray {dst : Payload} {found : (c : CType) × List c.Val}
    (h : dst.fastArray = some found) : callForDoocsType dst.type ≠ none := by
  cases dst with
  | array t xs => exact callForDoocsType_arrayType t
  | _ => cases h

/-- What the accessor classes for numbers refuse in a reply. -/
theorem numericValues_raises_iff {dst : Payload} :
    (∃ message, numericValues C a dst = .error (.runtimeError message)) ↔
      U ≠ .void ∧ dst.type ≠ .null ∧
        (dst.length < sizeAdd a.nElements a.elementOffset ∨ callForDoocsType dst.type = none) := by
  have hslice {α β : Type} (xs : List α) (f : List α → β) (message : Text) :
      (slice xs a.elementOffset a.nElements).map f ≠ .error (.runtimeError message) :=
    map_slice_ne_error (by simp)
  unfold numericValues
  by_cases hU : U = .void
  · simp [hU]
  · rw [if_neg hU]
    by_cases hn : dst.type = .null
    · simp [hn]
    · rw [if_neg hn]
      by_cases hl : dst.length < sizeAdd a.nElements a.elementOffset
      · simp [hU, hn, hl]
      · rw [if_neg hl]
        have htype := Payload.elements_type dst
        cases hf : dst.fastArray with
        | some found =>
          simp [hslice, callForDoocsType_of_fastArray hf, hl]
        | none =>
          cases he : dst.elements with
          | some found =>
            rw [he] at htype
            simp [hslice, ← htype, hl]
          | none =>
            rw [he] at htype
            simp [← htype, hU, hn]

variable (K) in
/-- The object to write numbers to holds something else: what a partial accessor has read from the
server, or `src`. -/
def TargetHasNoNumbers (a : RegisterAccessor U) (s : WriteState) (src : Payload) : Prop :=
  if a.isPartial then
    s.backend.hasActiveException = false ∧ a.useZMQ = false ∧
      s.rc.isCommunicationError = false ∧ callForDoocsType (lengthen K a s.dst).type = none
  else callForDoocsType src.type = none

variable (K) in
/-- The accessor writes numbers, and the object they have to be written to holds something else. -/
structure RefusesToWrite (a : RegisterAccessor U) (s : WriteState) (src : Payload) : Prop where
  opened : s.backend.opened = true
  isWriteable : s.isWriteable = true
  kind : a.kind = .numeric
  userType : U ≠ .void
  target : TargetHasNoNumbers K a s src

/-- The accessor reads numbers, and the reply holds too few of them or something else. -/
structure RefusesReply (a : RegisterAccessor U) (dst : Payload) : Prop where
  kind : a.kind = .numeric ∨ a.kind = .iiii
  userType : U ≠ .void
  notNull : dst.type ≠ .null
  reply : dst.length < sizeAdd a.nElements a.elementOffset ∨ callForDoocsType dst.type = none

theorem honest_numericPreWriteReports_iff :
    Honest a.path (numericPreWriteReports K C a s src buffer).reports ↔
      ¬ (U ≠ .void ∧ TargetHasNoNumbers K a s src) := by
  have hraises (p : Payload) : callForDoocsType p.type = none ↔
      ∃ message, writeNumbers K C a buffer p = .error (.runtimeError message) :=
    writeNumbers_raises_iff.symm
  unfold numericPreWriteReports TargetHasNoNumbers
  by_cases hU : U = .void
  · simp [hU, Honest]
  · rw [if_neg hU]
    by_cases hp : a.isPartial = true
    · rw [if_pos hp, if_pos hp,
        Reporting.honest_bind_iff honest_readTransfer fun dst h => (readTransfer_of_ok h).1]
      simp only [Reporting.honest_silent_iff, hraises]
      constructor
      · rintro h ⟨-, hactive, hzmq, hrc, message, hm⟩
        exact h s.dst (readTransfer_result_ok hactive hzmq hrc) message hm
      · intro h dst hdst message hm
        obtain ⟨-, hactive, hzmq, hrc, rfl⟩ := readTransfer_of_ok hdst
        exact h ⟨hU, hactive, hzmq, hrc, message, hm⟩
    · rw [if_neg hp, if_neg hp, Reporting.honest_silent_iff, hraises]
      simp [hU]

theorem honest_iiiiPreWriteReports : Honest a.path (iiiiPreWriteReports K C a s src buffer).reports := by
  have hmembers (p : Payload) (message : Text) :
      writeMembers C a buffer p ≠ .error (.runtimeError message) := by
    unfold writeMembers
    repeat' split
    all_goals simp
  unfold iiiiPreWriteReports
  split
  · exact Reporting.honest_bind honest_readTransfer fun dst _ => Reporting.honest_of_ne (hmembers _)
  · rename_i h
    apply Reporting.honest_of_ne
    intro message
    unfold iiiiPreWrite
    split
    · split <;> simp
    · rw [if_neg fun hp => h ⟨not_not.mp ‹_›, hp⟩]
      exact hmembers src message

theorem honest_ifffPreWriteReports {field : Field} :
    Honest a.path (ifffPreWriteReports C field a s src buffer).reports := by
  apply Reporting.honest_bind honest_readTransfer
  intro dst _
  split
  · exact Reporting.honest_pure _ _
  · exact Reporting.honest_of_ne (by simp)

/-- The other accessor classes have nothing to complain about. -/
theorem kindPreWrite_ne (hnumeric : a.kind ≠ .numeric) (hiiii : a.kind ≠ .iiii)
    (hifff : ∀ field, a.kind ≠ .ifff field) (message : Text) :
    kindPreWrite K C a s src buffer ≠ .error (.runtimeError message) := by
  obtain ⟨kind, path, nElements, elementOffset, isArray, isPartial, useZMQ, bufferLength, _⟩ := a
  cases kind with
  | numeric => exact absurd rfl hnumeric
  | iiii => exact absurd rfl hiiii
  | ifff field => exact absurd rfl (hifff field)
  | string =>
    simp only [kindPreWrite, stringPreWrite]
    split <;> simp
  | image | eventId | timeStamp => simp [kindPreWrite]

theorem checkWriteable_cases :
    checkWriteable a s = .ok () ∧ s.backend.opened = true ∧ isWriteable a s = true ∨
      ∃ what, checkWriteable a s = .error (.logicError what) ∧
        ¬ (s.backend.opened = true ∧ isWriteable a s = true) := by
  unfold checkWriteable
  split
  · exact .inr ⟨_, rfl, fun h => ‹¬ _› h.1⟩
  · split
    · exact .inr ⟨_, rfl, fun h => ‹¬ isWriteable a s = true› h.2⟩
    · exact .inl ⟨rfl, not_not.mp ‹_›, not_not.mp ‹_›⟩

theorem honest_kindPreWriteReports_iff :
    Honest a.path (kindPreWriteReports K C a s src buffer).reports ↔
      ¬ (a.kind = .numeric ∧ U ≠ .void ∧ TargetHasNoNumbers K a s src) := by
  unfold kindPreWriteReports
  cases hk : a.kind with
  | numeric => simpa using honest_numericPreWriteReports_iff
  | iiii => exact iff_of_true honest_iiiiPreWriteReports (by simp)
  | ifff field => exact iff_of_true honest_ifffPreWriteReports (by simp)
  | string | image | eventId | timeStamp =>
    exact iff_of_true (Reporting.honest_of_ne (kindPreWrite_ne (by simp [hk]) (by simp [hk])
      (by simp [hk]))) (by simp)

theorem honest_preWriteReports_iff :
    Honest a.path (preWriteReports K C a s src buffer).reports ↔ ¬ RefusesToWrite K a s src := by
  have hnumeric (hk : a.kind = .numeric) : isWriteable a s = s.isWriteable := by
    simp only [isWriteable, hk]
  rcases checkWriteable_cases (a := a) (s := s) with ⟨hcheck, hopened, hwriteable⟩ | ⟨what, hcheck, hnot⟩
  · rw [preWriteReports, Reporting.bind_of_ok (by exact hcheck)]
    rw [show (silent (checkWriteable a s)).reports = [] by rw [hcheck]; rfl, List.nil_append,
      honest_kindPreWriteReports_iff, not_iff_not]
    constructor
    · rintro ⟨hk, hU, htarget⟩
      exact ⟨hopened, (hnumeric hk).symm.trans hwriteable, hk, hU, htarget⟩
    · rintro ⟨-, -, hk, hU, htarget⟩
      exact ⟨hk, hU, htarget⟩
  · refine iff_of_true ?_ fun h => hnot ⟨h.opened, (hnumeric h.kind).trans h.isWriteable⟩
    rw [preWriteReports, Reporting.bind_of_error (by exact hcheck)]
    exact Reporting.honest_of_ne (by simp [hcheck])

theorem ImageLayout.set_ne {capacity : ℕ} {header : IMH} {body : List UInt8} (message : Text) :
    M.set capacity header body ≠ .error (.runtimeError message) := by
  have houtcome := M.set_outcome capacity header body
  generalize M.set capacity header body = result at houtcome
  cases houtcome <;> simp

theorem postReadValues_ne {dst : EqData} (hnumeric : a.kind ≠ .numeric) (hiiii : a.kind ≠ .iiii)
    (message : Text) : postReadValues C M a dst ≠ .error (.runtimeError message) := by
  obtain ⟨kind, path, nElements, elementOffset, isArray, isPartial, useZMQ, bufferLength, _⟩ := a
  cases kind with
  | numeric => exact absurd rfl hnumeric
  | iiii => exact absurd rfl hiiii
  | ifff field =>
    have hvalues : fieldValues C U field dst.payload ≠ .error (.runtimeError message) := by
      unfold fieldValues
      split <;> simp
    cases U <;> exact hvalues
  | string => simp [postReadValues]
  | image =>
    simp only [postReadValues, imageValues]
    split
    · exact ImageLayout.set_ne message
    · exact fun h => by cases h
  | eventId => cases U <;> simp [postReadValues]
  | timeStamp => cases U <;> simp [postReadValues]

theorem honest_postReadReports_iff {dst : EqData} {address : Text} :
    Honest address (postReadReports C M a dst buffer).reports ↔ ¬ RefusesReply a dst.payload := by
  have hmap (message : Text) : doPostRead C M a dst buffer = .error (.runtimeError message) ↔
      postReadValues C M a dst = .error (.runtimeError message) := by
    unfold doPostRead
    cases postReadValues C M a dst <;> simp [Except.map]
  rw [postReadReports, Reporting.honest_silent_iff, ← not_exists, not_iff_not]
  simp only [hmap]
  by_cases hk : a.kind = .numeric ∨ a.kind = .iiii
  · have hvalues : postReadValues C M a dst = numericValues C a dst.payload := by
      obtain ⟨kind, path, nElements, elementOffset, isArray, isPartial, useZMQ, bufferLength, _⟩ := a
      obtain rfl | rfl : kind = .numeric ∨ kind = .iiii := hk
      · cases U <;> rfl
      · cases U <;> rfl
    rw [hvalues, numericValues_raises_iff]
    exact ⟨fun h => ⟨hk, h.1, h.2.1, h.2.2⟩, fun h => ⟨h.userType, h.notNull, h.reply⟩⟩
  · refine iff_of_false ?_ fun h => hk h.kind
    rintro ⟨message, h⟩
    exact postReadValues_ne (fun h => hk (.inl h)) (fun h => hk (.inr h)) message h

end Transfer

end DoocsBackend.Accessor
