import DoocsBackend.Accessor.Transfers

/-! # Writes the server does not take

Several accessors write to their properties, and the server answers each `set` with a return code
and an error code. It stores the value only if both are 0. A write which is rejected for another
reason than those `write_internal` tests for looks like one that was accepted.
-/
namespace DoocsBackend.Accessor
open Backend (BackendState)

/-- The accessor sends what is written to it. -/
def RegisterAccessor.sends {U : UserType} (a : RegisterAccessor U) : Bool :=
  match a.kind with
  | .numeric | .iiii | .ifff _ | .string => true
  | .image | .eventId | .timeStamp => false

theorem writeTransfer_of_sends {U : UserType} {a : RegisterAccessor U} (h : a.sends = true)
    (C : Conversions) (readOnly : ℤ) (backend : BackendState) (rc : ReturnCode) (dst : EqData) :
    writeTransfer C readOnly a backend rc dst =
      writeInternal C readOnly a backend rc dst >>= fun _ => pure false := by
  obtain ⟨kind, path, nElements, elementOffset, isArray, isPartial, useZMQ, bufferLength, src⟩ := a
  cases kind with
  | numeric | iiii | ifff field | string => rfl
  | image | eventId | timeStamp => cases h

/-- The accessors of an application which send what is written to them, and their backends. -/
structure Application (M : ImageLayout) (typeOf : ℤ → DoocsType) (ι β : Type) where
  userType : ι → UserType
  accessor : (i : ι) → Transferring M typeOf (userType i)
  sends : ∀ i, (accessor i).accessor.sends = true
  backend : ι → β
  /-- `eq_errors::read_only`. -/
  readOnly : ℤ
  readOnly_ne : readOnly ≠ 0

namespace Application
variable {M : ImageLayout} {typeOf : ℤ → DoocsType} {ι β : Type}

/-- What happens to a backend, and the reads and writes with the answers of the server to `get` and
`set`. -/
inductive Event (x : Application M typeOf ι β) where
  | openBackend (b : β) (rc : ReturnCode) (text : Text) (fresh : ℕ)
  | closeBackend (b : β)
  /-- Another transfer has failed. -/
  | fail (b : β) (address message : Text)
  | read (i : ι) (rc : ReturnCode) (dst : EqData) (buffer : List (x.userType i).Val)
  | write (i : ι) (rc : ReturnCode) (dst : Payload) (src : Payload)
    (buffer : List (x.userType i).Val) (setRc : ReturnCode) (setDst : EqData)

/-- The backends, the members `_isWriteable`, and the values of the properties: those which are stored
in the server, and those of the last writes which returned without an exception. -/
structure State (ι β : Type) where
  backend : β → BackendState
  isWriteable : ι → Bool
  stored : Text → Payload
  returned : Text → Payload

/-- Nothing has been written yet. -/
def initial (backend : β → BackendState) (isWriteable : ι → Bool) (values : Text → Payload) :
    State ι β := ⟨backend, isWriteable, values, values⟩

/-- The server stores the value. -/
def isAccepted (setRc : ReturnCode) (setDst : EqData) : Bool :=
  setRc == .ok && decide (setDst.error = 0)

/-- `write_internal` tests for the answer. -/
def isTestedFor (readOnly : ℤ) (setRc : ReturnCode) (setDst : EqData) : Bool :=
  setRc.isCommunicationError || decide (setDst.error = readOnly)

variable [DecidableEq ι] [DecidableEq β] (K : EqDataLibrary) (C : Conversions)
  (x : Application M typeOf ι β)

namespace State

/-- `doPreWrite` of an accessor, for the answer of the server to a `get`. -/
def prepare (s : State ι β) (i : ι) (rc : ReturnCode) (dst src : Payload)
    (buffer : List (x.userType i).Val) : Reporting Payload :=
  preWriteReports K C (x.accessor i).accessor ⟨s.backend (x.backend i), s.isWriteable i, rc, dst⟩
    src buffer

/-- `doWriteTransfer` of an accessor, for the answer of the server to the `set`. -/
def transfer (s : State ι β) (i : ι) (setRc : ReturnCode) (setDst : EqData) : Reporting Bool :=
  writeTransfer C x.readOnly (x.accessor i).accessor (s.backend (x.backend i)) setRc setDst

/-- The state after a write which has come as far as to `doWriteTransfer`. -/
def written (s : State ι β) (i : ι) (sent : Payload) (setRc : ReturnCode) (setDst : EqData) :
    State ι β where
  backend := Function.update s.backend (x.backend i)
    (BackendState.after (s.backend (x.backend i)) (s.transfer C x i setRc setDst))
  isWriteable := Function.update s.isWriteable i
    (isWriteableAfter x.readOnly (s.backend (x.backend i)) setDst (s.isWriteable i))
  stored :=
    -- nothing is sent if there is an active exception
    if !(s.backend (x.backend i)).hasActiveException && isAccepted setRc setDst then
      Function.update s.stored (x.accessor i).accessor.path sent
    else s.stored
  returned :=
    if (s.transfer C x i setRc setDst).result.toOption.isSome then
      Function.update s.returned (x.accessor i).accessor.path sent
    else s.returned

def setBackend (s : State ι β) (b : β) (v : BackendState) : State ι β :=
  { s with backend := Function.update s.backend b v }

def step (s : State ι β) : x.Event → Option (State ι β)
  | .openBackend b rc text fresh =>
    some (s.setBackend b ((s.backend b).openBackend rc text fresh).1)
  | .closeBackend b => some (s.setBackend b (s.backend b).closeBackend)
  | .fail b address message =>
    some (s.setBackend b (((s.backend b).informRuntimeError address).setException message))
  | .read i rc dst buffer =>
    some (s.setBackend (x.backend i) (BackendState.after (s.backend (x.backend i))
      (readOperation C (x.accessor i) ⟨s.backend (x.backend i), s.isWriteable i⟩ rc dst buffer)))
  | .write i rc dst src buffer setRc setDst =>
    let prepared := s.prepare K C x i rc dst src buffer
    match prepared.result with
    | .error _ =>
      some (s.setBackend (x.backend i) (BackendState.after (s.backend (x.backend i)) prepared))
    | .ok sent => some (s.written C x i sent setRc setDst)

/-- The step is a write which sends its value to the server. -/
def Sets (s : State ι β) : x.Event → Prop
  | .write i rc dst src buffer _ _ =>
    (∃ sent, (s.prepare K C x i rc dst src buffer).result = .ok sent) ∧
      (s.backend (x.backend i)).hasActiveException = false
  | _ => False

/-- A value which is sent and not stored is reported to the caller, and the values in the server are
those of the last writes which returned without an exception. -/
structure LosesNothing (s : State ι β) (e : x.Event) (t : State ι β) : Prop where
  reported : ∀ i rc dst src buffer setRc setDst, e = .write i rc dst src buffer setRc setDst →
    s.Sets K C x e → isAccepted setRc setDst = false →
    ∃ message, (s.transfer C x i setRc setDst).result = .error (.runtimeError message)
  current : t.stored = t.returned

/-- A value which is sent is stored, or rejected with one of the answers which are tested for. -/
def RejectedAsTestedFor (s : State ι β) (e : x.Event) (_ : State ι β) : Prop :=
  ∀ i rc dst src buffer setRc setDst, e = .write i rc dst src buffer setRc setDst →
    s.Sets K C x e → isAccepted setRc setDst = false →
    isTestedFor x.readOnly setRc setDst = true

variable {K C x} {s t : State ι β} {i : ι} {rc setRc : ReturnCode} {dst src : Payload}
  {buffer : List (x.userType i).Val} {setDst : EqData}

variable (C setRc setDst) in
omit [DecidableEq ι] [DecidableEq β] in
/-- What is sent is reported if and only if the answer is one of those which are tested for. -/
theorem transfer_cases (hactive : (s.backend (x.backend i)).hasActiveException = false) :
    (isTestedFor x.readOnly setRc setDst = true ∧
      ∃ message, (s.transfer C x i setRc setDst).result = .error (.runtimeError message)) ∨
    (isTestedFor x.readOnly setRc setDst = false ∧
      (s.transfer C x i setRc setDst).result = .ok false) := by
  unfold transfer
  rw [writeTransfer_of_sends (x.sends i), Reporting.bind_result]
  unfold writeInternal isTestedFor
  rw [hactive, if_neg Bool.false_ne_true, Bool.or_eq_true, decide_eq_true_iff]
  by_cases htested : setRc.isCommunicationError = true ∨ setDst.error = x.readOnly
  · rw [if_pos htested]
    exact .inl ⟨htested, _, rfl⟩
  · rw [if_neg htested]
    refine .inr ⟨?_, rfl⟩
    rw [← Bool.not_eq_true, Bool.or_eq_true, decide_eq_true_iff]
    exact htested

section
omit [DecidableEq ι] [DecidableEq β]

theorem reported_iff (hactive : (s.backend (x.backend i)).hasActiveException = false) :
    (∃ message, (s.transfer C x i setRc setDst).result = .error (.runtimeError message)) ↔
      isTestedFor x.readOnly setRc setDst = true := by
  rcases transfer_cases C setRc setDst hactive with ⟨htested, hresult⟩ | ⟨hsilent, hok⟩
  · exact iff_of_true hresult htested
  · rw [hok, hsilent]
    apply iff_of_false
    · rintro ⟨message, h⟩
      cases h
    · exact Bool.false_ne_true

/-- An accepted value is never reported as lost. -/
theorem not_isTestedFor_of_isAccepted (h : isAccepted setRc setDst = true) :
    isTestedFor x.readOnly setRc setDst = false := by
  rw [isAccepted, Bool.and_eq_true, beq_iff_eq, decide_eq_true_iff] at h
  obtain ⟨rfl, herror⟩ := h
  rw [isTestedFor, herror, Bool.or_eq_false_iff, decide_eq_false_iff_not]
  exact ⟨rfl, fun hzero => x.readOnly_ne hzero.symm⟩

theorem transfer_of_active (hactive : (s.backend (x.backend i)).hasActiveException = true) :
    (s.transfer C x i setRc setDst).result.toOption = none := by
  unfold transfer
  rw [writeTransfer_of_sends (x.sends i), Reporting.bind_result, writeInternal, if_pos hactive]
  rfl

end

/-- The values stay current if a value which is not stored is reported. -/
theorem current_written (h : s.stored = s.returned) (sent : Payload)
    (htested : (s.backend (x.backend i)).hasActiveException = false →
      isAccepted setRc setDst = false → isTestedFor x.readOnly setRc setDst = true) :
    (s.written C x i sent setRc setDst).stored = (s.written C x i sent setRc setDst).returned := by
  unfold written
  dsimp only
  cases hactive : (s.backend (x.backend i)).hasActiveException with
  | true =>
    rw [transfer_of_active hactive]
    exact h
  | false =>
    cases haccepted : isAccepted setRc setDst with
    | true =>
      rcases transfer_cases C setRc setDst hactive with ⟨hreported, -⟩ | ⟨-, hresult⟩
      · rw [not_isTestedFor_of_isAccepted haccepted] at hreported
        cases hreported
      · rw [hresult, h]
        rfl
    | false =>
      rcases transfer_cases C setRc setDst hactive with ⟨-, message, hresult⟩ | ⟨hsilent, -⟩
      · rw [hresult]
        exact h
      · rw [htested hactive haccepted] at hsilent
        cases hsilent

/-- From a state in which the values are current, a step loses nothing exactly if it is not a write
which is rejected for another reason. -/
theorem losesNothing_iff {e : x.Event} (hcurrent : s.stored = s.returned)
    (hs : s.step K C x e = some t) :
    LosesNothing K C x s e t ↔ RejectedAsTestedFor K C x s e t := by
  constructor
  · intro h i rc dst src buffer setRc setDst he hsets hrejected
    have hreported := h.reported i rc dst src buffer setRc setDst he hsets hrejected
    subst he
    exact (reported_iff hsets.2).mp hreported
  · intro h
    refine ⟨fun i rc dst src buffer setRc setDst he hsets hrejected => ?_, ?_⟩
    · have htested := h i rc dst src buffer setRc setDst he hsets hrejected
      subst he
      exact (reported_iff hsets.2).mpr htested
    · cases e with
      | openBackend b rc text fresh =>
        cases hs
        exact hcurrent
      | closeBackend b =>
        cases hs
        exact hcurrent
      | fail b address message =>
        cases hs
        exact hcurrent
      | read i rc dst buffer =>
        cases hs
        exact hcurrent
      | write i rc dst src buffer setRc setDst =>
        simp only [step] at hs
        cases hprepared : (s.prepare K C x i rc dst src buffer).result with
        | error e =>
          rw [hprepared] at hs
          cases hs
          exact hcurrent
        | ok sent =>
          rw [hprepared] at hs
          cases hs
          apply current_written hcurrent sent
          intro hactive hrejected
          exact h i rc dst src buffer setRc setDst rfl ⟨⟨sent, hprepared⟩, hactive⟩ hrejected

end State

/-- In a run of reads, writes and whatever else happens to the backends, no write is silently lost exactly
if the server rejects values only with the answers which are tested for. -/
theorem no_write_is_lost_iff (K : EqDataLibrary) (C : Conversions) (x : Application M typeOf ι β)
    (backend : β → BackendState) (isWriteable : ι → Bool) (values : Text → Payload)
    (es : List x.Event) :
    Runs.Along (State.step K C x) (State.LosesNothing K C x)
        (initial backend isWriteable values) es ↔
      Runs.Along (State.step K C x) (State.RejectedAsTestedFor K C x)
        (initial backend isWriteable values) es :=
  Runs.Along.iff_of_invariant (I := fun s => s.stored = s.returned)
    (fun _ _ _ (_ : True) hcurrent hs => State.losesNothing_iff hcurrent hs)
    (fun _ _ _ _ _ _ hgood => hgood.current) rfl (by simp)

/-- A string property, read and written as a whole. -/
def textArguments : Arguments where
  path := "F/D/L/S".toList
  numberOfWords := 0
  wordOffsetInRegister := 0
  flags := {}
  info := some ⟨"/L/S".toList, 1, { fundamentalType := .string }, {},
    Catalogue.plainLibraries.id .string, true, true⟩
  isOpen := true
  rc := .ok
  dst := .string "old".toList
  attachError := none
  numberOfWords_lt := by decide
  wordOffset_lt := by decide

/-- One accessor, for a string. -/
def textApplication : Application plainImageLayout Catalogue.plainLibraries.type Unit Unit where
  userType _ := .string
  accessor _ :=
    { kind := .string
      args := textArguments
      accessor := initialised plainImageLayout .string textArguments false (1, .string)
      constructed := rfl }
  sends _ := rfl
  backend := id
  readOnly := 5
  readOnly_ne := by decide

/-- The server rejects the text because it is too long, and the application does not get to know. -/
theorem write_is_lost :
    ¬ Runs.Along (State.step plainEqData plainConversions textApplication)
      (State.LosesNothing plainEqData plainConversions textApplication)
      (initial (fun _ => { opened := true }) (fun _ => true) fun _ => .string "old".toList)
      [.write () .ok .null (.string []) ["new".toList] .other ⟨.null, 7, 0, 0⟩] := by
  intro h
  have hcurrent := congrFun (h _ rfl).1.current "F/D/L/S".toList
  exact absurd hcurrent (by decide)

end Application

end DoocsBackend.Accessor
