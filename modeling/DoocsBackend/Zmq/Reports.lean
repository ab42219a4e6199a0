import DoocsBackend.Accessor.PartialWrite
import DoocsBackend.Accessor.Reports
import DoocsBackend.Zmq.Steps

/-! # Errors the backend remembers

The operations which make a `runtime_error` of a property visible to the application, by
throwing it or through the queue of an accessor. A backend which is to probe the property in
its next `open` has to be told of it by `informRuntimeError`.
-/
namespace DoocsBackend.Zmq
open Accessor (Conversions EqData EqDataLibrary ImageLayout Payload RegisterAccessor Report Reporting
  UserType WriteState)
open Backend (BackendState)

/-- What the transfers take from DOOCS and from ChimeraTK. -/
structure Environment where
  data : EqDataLibrary
  conversions : Conversions
  image : ImageLayout
  /-- The number of `eq_errors::read_only`. -/
  readOnly : ℤ

/-- The accessors with their backends. -/
structure Objects (α β : Type) where
  accessor : α → (U : UserType) × RegisterAccessor U
  backend : α → β
  queue : FutureQueue
  /-- `getRegisterAccessor_impl` refuses paths without the slashes of a DOOCS address. -/
  path_ne_nil : ∀ a, (accessor a).2.path ≠ []

@[simps queue]
def Objects.layout {α β : Type} (O : Objects α β) : Layout α β where
  path a := (O.accessor a).2.path
  backend := O.backend
  queue := O.queue

/-- What the operations do to a backend by their reports. -/
def hear (b : BackendState) : Report → BackendState
  | .informed address => b.informRuntimeError address
  | .raised _ => b

/-- The functions which throw or push errors of a property, with the answer of the server. -/
inductive Operation {α β : Type} (O : Objects α β) where
  | doReadTransferSynchronously (a : α) (isWriteable : Bool) (rc : ReturnCode) (dst : Payload)
  | doPreWrite (a : α) (isWriteable : Bool) (rc : ReturnCode) (dst src : Payload)
      (buffer : List (O.accessor a).1.Val)
  | doWriteTransfer (a : α) (rc : ReturnCode) (dst : EqData)
  | doPostRead (a : α) (dst : EqData) (buffer : List (O.accessor a).1.Val)
  | zmqCallback (p : Text) (data : Except Text ℕ)
  | pollInitialValue (p : Text) (accessors : List α) (reply : Except Text ℕ)

section Run
variable {τ α β : Type} [DecidableEq α] [DecidableEq β] (D : Environment) (O : Objects α β)

/-- The state after an operation, with the reports on each accessor. -/
abbrev Reported (τ α β : Type) := State τ α β × List (α × Report)

def transfer {γ : Type} (a : α) (r : Reporting γ) (s : State τ α β) : Reported τ α β :=
  (s.setBackend (O.backend a) (r.reports.foldl hear (s.backend (O.backend a))),
    r.reports.map fun report => (a, report))

/-- What `pushError` lets the application see. -/
def pushed (a : α) (message : Text) (s : State τ α β) : List (α × Report) :=
  if (s.listener a).isActiveZMQ then [(a, .raised message)] else []

/-- One iteration of the error loop of `zmq_callback`. -/
def served (message : Text) (a : α) (s : State τ α β) : State τ α β :=
  (s.eachListener [a] (Listener.pushError O.queue message)).setBackend (O.backend a)
    ((s.backend (O.backend a)).informRuntimeError (O.layout.path a))

/-- The error loop of `zmq_callback`. -/
def serveErrors (message : Text) : List α → State τ α β → Reported τ α β
  | [], s => (s, [])
  | a :: as, s =>
    let rest := serveErrors message as (served O message a s)
    (rest.1, pushed a message s ++ (a, .informed (O.layout.path a)) :: rest.2)

/-- The error loop of `pollInitialValue`. -/
def pushErrors (message : Text) : List α → State τ α β → Reported τ α β
  | [], s => (s, [])
  | a :: as, s =>
    let rest := pushErrors message as (s.eachListener [a] (Listener.pushError O.queue message))
    (rest.1, pushed a message s ++ rest.2)

/-- `zmq_callback`, called with data or with an error. -/
def zmqCallback (p : Text) (data : Except Text ℕ) (s : State τ α β) : Reported τ α β :=
  match s.subscriptionMap.lookup p, data with
  | none, _ => ({ s with undefined := true }, [])
  | some e, .ok value =>
    ({ (s.setSubscription p { e with started := true, gotInitialValue := true }).eachListener
        e.listeners (Listener.deliver O.queue value) with
      delivered := Function.update s.delivered p value }, [])
  | some e, .error text =>
    serveErrors O ("ZeroMQ connection interrupted: ".toList ++ text) e.listeners
      (s.setSubscription p { e with started := true, gotInitialValue := false })

/-- `pollInitialValue`, with the answer to its RPC. -/
def pollInitialValue (p : Text) (accessors : List α) (reply : Except Text ℕ) (s : State τ α β) :
    Reported τ α β :=
  match reply with
  | .ok value => (s.eachListener accessors (Listener.pushPolled O.queue value), [])
  | .error text =>
    pushErrors O ("ZeroMQ connection for ".toList ++ p ++ " interrupted: ".toList ++ text) accessors s

variable {O}

def Operation.run (s : State τ α β) : Operation O → Reported τ α β
  | .doReadTransferSynchronously a isWriteable rc dst => transfer O a
      (Accessor.readTransfer D.conversions (O.accessor a).2 ⟨s.backend (O.backend a), isWriteable, rc, dst⟩) s
  | .doPreWrite a isWriteable rc dst src buffer => transfer O a
      (Accessor.preWriteReports D.data D.conversions (O.accessor a).2
        ⟨s.backend (O.backend a), isWriteable, rc, dst⟩ src buffer) s
  | .doWriteTransfer a rc dst => transfer O a
      (Accessor.writeTransfer D.conversions D.readOnly (O.accessor a).2 (s.backend (O.backend a)) rc dst) s
  | .doPostRead a dst buffer => transfer O a
      (Accessor.postReadReports D.conversions D.image (O.accessor a).2 dst buffer) s
  | .zmqCallback p data => Zmq.zmqCallback O p data s
  | .pollInitialValue p accessors reply => Zmq.pollInitialValue O p accessors reply s

/-- The error is remembered: the next `open` probes a property first and fails if it cannot be
read. -/
structure Remembered (a : α) (r : Reported τ α β) : Prop where
  informed : (a, .informed (O.layout.path a)) ∈ r.2
  lastFailedAddress : (r.1.backend (O.backend a)).lastFailedAddress ≠ []
  probed : ∀ rc text fresh, rc.isCommunicationError = true →
    ((r.1.backend (O.backend a)).openBackend rc text fresh).2.isSome = true

/-- Every error of a property which becomes visible during the operation is remembered. -/
def Operation.Remembers (s : State τ α β) (op : Operation O) : Prop :=
  ∀ a message, (a, .raised message) ∈ (op.run D s).2 → Remembered (O := O) a (op.run D s)

/-- The operations which keep the backend uninformed. -/
def Operation.Forgets (s : State τ α β) : Operation O → Prop
  | .doPreWrite a isWriteable rc dst src _ => Accessor.RefusesToWrite D.data (O.accessor a).2
      ⟨s.backend (O.backend a), isWriteable, rc, dst⟩ src
  | .doPostRead a dst _ => Accessor.RefusesReply (O.accessor a).2 dst.payload
  | .pollInitialValue _ accessors (.error _) => ∃ a ∈ accessors, (s.listener a).isActiveZMQ = true
  | _ => False

/-! ## Where the backend is informed -/


section Remembered
variable {D : Environment} {s : State τ α β} {a : α}

theorem foldl_hear_keeps {reports : List Report} {b : BackendState} (h : b.lastFailedAddress ≠ []) :
    (reports.foldl hear b).lastFailedAddress ≠ [] := by
  induction reports generalizing b with
  | nil => exact h
  | cons report reports ih =>
    cases report with
    | raised message => exact ih h
    | informed address => exact ih (by rwa [hear, BackendState.informRuntimeError_of_failed h])

theorem foldl_hear_ne_nil {reports : List Report} {b : BackendState} {address : Text}
    (haddress : address ≠ []) (h : .informed address ∈ reports) :
    (reports.foldl hear b).lastFailedAddress ≠ [] := by
  induction reports generalizing b with
  | nil => cases h
  | cons report reports ih =>
    rcases List.mem_cons.mp h with rfl | h
    · exact foldl_hear_keeps (b := b.informRuntimeError address)
        (BackendState.informRuntimeError_ne_nil haddress)
    · exact ih h

omit [DecidableEq α] [DecidableEq β] in
theorem Remembered.of_informed {r : Reported τ α β} (h : (a, .informed (O.layout.path a)) ∈ r.2)
    (hne : (r.1.backend (O.backend a)).lastFailedAddress ≠ []) : Remembered (O := O) a r :=
  ⟨h, hne, fun _ _ _ hrc => by rw [BackendState.openBackend_of_failed hne hrc]; rfl⟩

omit [DecidableEq α] in
/-- A transfer remembers the errors of its property if its reports are honest. -/
theorem remembers_transfer_iff {γ : Type} {r : Reporting γ} :
    (∀ a' message, (a', .raised message) ∈ (transfer O a r s).2 →
        Remembered (O := O) a' (transfer O a r s)) ↔
      Reporting.Honest (O.accessor a).2.path r.reports := by
  have hmem (a' : α) (report : Report) :
      (a', report) ∈ (transfer O a r s).2 ↔ a' = a ∧ report ∈ r.reports := by
    simp [transfer, and_comm, eq_comm]
  constructor
  · intro h message hm
    exact ((hmem a _).mp (h a message ((hmem a _).mpr ⟨rfl, hm⟩)).informed).2
  · intro h a' message hm
    obtain ⟨rfl, hraised⟩ := (hmem a' _).mp hm
    have hinformed := h message hraised
    refine .of_informed ((hmem a' _).mpr ⟨rfl, hinformed⟩) ?_
    simp only [transfer, State.setBackend_backend, Function.update_self]
    exact foldl_hear_ne_nil (O.path_ne_nil a') hinformed

theorem served_ne_nil (message : Text) :
    ((served O message a s).backend (O.backend a)).lastFailedAddress ≠ [] := by
  rw [served, State.setBackend_backend, Function.update_self]
  exact BackendState.informRuntimeError_ne_nil (O.path_ne_nil a)

theorem served_keeps {message : Text} {b : β} (h : (s.backend b).lastFailedAddress ≠ []) :
    ((served O message a s).backend b).lastFailedAddress ≠ [] := by
  rw [served, State.setBackend_backend]
  by_cases hb : b = O.backend a
  · subst hb
    rwa [Function.update_self, BackendState.informRuntimeError_of_failed h]
  · rwa [Function.update_of_ne hb]

theorem serveErrors_keeps {message : Text} {as : List α} {b : β}
    (h : (s.backend b).lastFailedAddress ≠ []) :
    ((serveErrors O message as s).1.backend b).lastFailedAddress ≠ [] := by
  induction as generalizing s with
  | nil => exact h
  | cons a as ih => exact ih (served_keeps h)

/-- The error loop of the callback informs the backend of every listener. -/
theorem remembered_serveErrors {message : Text} {as : List α} (h : a ∈ as) :
    Remembered (O := O) a (serveErrors O message as s) := by
  induction as generalizing s with
  | nil => cases h
  | cons a' as ih =>
    rcases List.mem_cons.mp h with rfl | h
    · exact .of_informed (by simp [serveErrors])
        (serveErrors_keeps (s := served O message a s) (served_ne_nil message))
    · have hrest := ih (s := served O message a' s) h
      exact .of_informed (by simp [serveErrors, hrest.informed]) hrest.lastFailedAddress

theorem mem_of_raised_serveErrors {message message' : Text} {as : List α}
    (h : (a, .raised message') ∈ (serveErrors O message as s).2) : a ∈ as := by
  induction as generalizing s with
  | nil => cases h
  | cons a' as ih =>
    simp only [serveErrors, pushed] at h
    split at h
    · simp only [List.mem_append, List.mem_cons, List.not_mem_nil, or_false, Prod.mk.injEq,
        reduceCtorEq, and_false, false_or] at h
      rcases h with ⟨rfl, -⟩ | h
      · exact List.mem_cons_self
      · exact List.mem_cons_of_mem _ (ih h)
    · simp only [List.nil_append, List.mem_cons, Prod.mk.injEq, reduceCtorEq, and_false,
        false_or] at h
      exact List.mem_cons_of_mem _ (ih h)

omit [DecidableEq β] in
theorem informed_notMem_pushErrors {message address : Text} {as : List α} :
    (a, .informed address) ∉ (pushErrors O message as s).2 := by
  induction as generalizing s with
  | nil => simp [pushErrors]
  | cons a' as ih =>
    simp only [pushErrors, pushed, List.mem_append, not_or]
    exact ⟨by split <;> simp, ih⟩

omit [DecidableEq β] in
/-- The first listener which is active gets to see the error. -/
theorem raised_mem_pushErrors_iff (message : Text) {as : List α} :
    (∃ a message', (a, .raised message') ∈ (pushErrors O message as s).2) ↔
      ∃ a ∈ as, (s.listener a).isActiveZMQ = true := by
  induction as generalizing s with
  | nil => simp [pushErrors]
  | cons a' as ih =>
    by_cases ha' : (s.listener a').isActiveZMQ = true
    · exact iff_of_true ⟨a', message, by simp [pushErrors, pushed, ha']⟩ ⟨a', by simp, ha'⟩
    · have hsame : (s.eachListener [a'] (Listener.pushError O.queue message)).listener = s.listener := by
        simp [State.eachListener, Each.each, Listener.pushError, ha']
      simp only [pushErrors, pushed, if_neg ha', List.nil_append, ih, hsame]
      simp [ha']

theorem Operation.remembers_iff (D : Environment) (s : State τ α β) (op : Operation O) :
    op.Remembers D s ↔ ¬ op.Forgets D s := by
  cases op with
  | doReadTransferSynchronously a isWriteable rc dst =>
    refine iff_of_true ?_ (by simp [Forgets])
    exact remembers_transfer_iff.mpr Accessor.honest_readTransfer
  | doPreWrite a isWriteable rc dst src buffer =>
    exact remembers_transfer_iff.trans Accessor.honest_preWriteReports_iff
  | doWriteTransfer a rc dst =>
    refine iff_of_true ?_ (by simp [Forgets])
    exact remembers_transfer_iff.mpr Accessor.honest_writeTransfer
  | doPostRead a dst buffer =>
    exact remembers_transfer_iff.trans Accessor.honest_postReadReports_iff
  | zmqCallback p data =>
    refine iff_of_true ?_ (by simp [Forgets])
    intro a message hm
    simp only [run] at hm ⊢
    unfold Zmq.zmqCallback at hm ⊢
    split at hm
    · cases hm
    · cases hm
    · exact remembered_serveErrors (mem_of_raised_serveErrors hm)
  | pollInitialValue p accessors reply =>
    cases reply with
    | ok value =>
      refine iff_of_true ?_ (by simp [Forgets])
      intro a message hm
      cases hm
    | error text =>
      refine Iff.trans ?_ (not_congr (raised_mem_pushErrors_iff (O := O)
        ("ZeroMQ connection for ".toList ++ p ++ " interrupted: ".toList ++ text)))
      constructor
      · rintro h ⟨a, message, hm⟩
        exact informed_notMem_pushErrors (h a message hm).informed
      · intro h a message hm
        exact absurd ⟨a, message, hm⟩ h

end Remembered

/-! ## The same functions in the model of the threads -/

section Threads
variable [DecidableEq τ] {s : State τ α β} {t : τ} {pc : Pc α β}

omit [DecidableEq α] [DecidableEq β] in
theorem goto_goto (pc' : Pc α β) : (s.goto t pc).goto t pc' = s.goto t pc' := by
  simp [State.goto]

theorem serveErrors_goto {message : Text} {as : List α} :
    (serveErrors O message as (s.goto t pc)).1 = (serveErrors O message as s).1.goto t pc := by
  induction as generalizing s with
  | nil => rfl
  | cons a as ih => exact ih (s := served O message a s)

theorem step_goto (hs : s.undefined = false) :
    (s.goto t pc).step O.layout (.next t none) = (s.goto t pc).advance O.layout t none pc := by
  simp [State.step, hs]

/-- The error loop of a callback which nobody interrupts. -/
theorem exec_serveError {p : Text} (text : Text) {before as : List α} (hs : s.undefined = false)
    (hl : s.listenersAt p = before ++ as) :
    Runs.exec (State.step O.layout)
        (s.serveError O.layout t p text before.length (before.length + as.length))
        (List.replicate (2 * as.length) (.next t none)) =
      some ((serveErrors O ("ZeroMQ connection interrupted: ".toList ++ text) as s).1.goto t .idle) := by
  induction as generalizing s before with
  | nil => simp [State.serveError, serveErrors]
  | cons a as ih =>
    have hserve : s.serveError O.layout t p text before.length (before.length + (a :: as).length) =
        (s.eachListener [a] (Listener.pushError O.queue ("ZeroMQ connection interrupted: ".toList ++ text))).goto
          t (.informRuntimeError p text before.length (before.length + (a :: as).length)) := by
      rw [State.serveError, if_pos (by simp), hl, List.getElem?_append_right le_rfl, Nat.sub_self]
      rfl
    have hinform : (s.serveError O.layout t p text before.length (before.length + (a :: as).length)).step
        O.layout (.next t none) =
        some ((served O ("ZeroMQ connection interrupted: ".toList ++ text) a s).goto t
          (.errorLoop p text (before.length + 1) (before.length + (a :: as).length))) := by
      have hslot : (s.listenersAt p)[before.length]? = some a := by
        rw [hl, List.getElem?_append_right le_rfl, Nat.sub_self]
        rfl
      rw [hserve, step_goto (by exact hs), State.advance]
      split
      · rename_i b hb
        obtain rfl : a = b := Option.some.inj (hslot.symm.trans hb)
        exact congrArg some (goto_goto (s := served O _ a s) _)
      · rename_i hnone
        exact absurd (hslot.symm.trans hnone) (Option.some_ne_none a)
    have hlisted : ((served O ("ZeroMQ connection interrupted: ".toList ++ text) a s).goto t
        (.errorLoop p text (before.length + 1) (before.length + (a :: as).length))).listenersAt p =
          (before ++ [a]) ++ as := by
      simpa [served, State.listenersAt] using hl
    have hloop := ih (by exact hs) hlisted
    rw [serveErrors_goto, goto_goto, List.length_append, List.length_singleton,
      Nat.add_assoc, Nat.add_comm 1 as.length] at hloop
    rw [show 2 * (a :: as).length = 2 * as.length + 1 + 1 by simp [Nat.mul_add],
      List.replicate_succ, List.replicate_succ, Runs.exec_cons, hinform, Option.bind_some,
      Runs.exec_cons, step_goto (by exact hs)]
    exact hloop

/-- A callback with an error which nobody interrupts. -/
theorem exec_error {p text : Text} {e : Subscription α} (hs : s.undefined = false)
    (hpc : s.pc t = .idle) (hattached : s.attached p = true)
    (hold : s.subscriptionMap.lookup p = some e) :
    Runs.exec (State.step O.layout) s
        (.call t (.error p text) :: List.replicate (2 * e.listeners.length) (.next t none)) =
      some ((zmqCallback O p (.error text) s).1.goto t .idle) := by
  have hcall : s.step O.layout (.call t (.error p text)) =
      some ((s.setSubscription p { e with started := true, gotInitialValue := false }).serveError O.layout t p
        text 0 e.listeners.length) := by
    simp [State.step, State.call, hs, hpc, hattached, hold]
  have hlisted : (s.setSubscription p
      { e with started := true, gotInitialValue := false }).listenersAt p = [] ++ e.listeners := by
    simp [State.listenersAt]
  have hloop := exec_serveError (O := O) (t := t) text (by exact hs) hlisted
  rw [List.length_nil, Nat.zero_add] at hloop
  rw [Runs.exec_cons, hcall, Option.bind_some, hloop]
  simp only [zmqCallback, hold]

theorem exec_pushPolled {p : Text} {value : ℕ} {as : List α} {ret : Return β}
    (hs : s.undefined = false) :
    Runs.exec (State.step O.layout) (s.goto t (.pushInitialValue p (.ok value) as ret))
        (List.replicate as.length (.next t none)) =
      some ((s.eachListener as (Listener.pushPolled O.queue value)).goto t
        (.pushInitialValue p (.ok value) [] ret)) := by
  induction as generalizing s with
  | nil => rfl
  | cons a as ih =>
    rw [List.length_cons, List.replicate_succ, Runs.exec_cons, step_goto (by exact hs)]
    refine Eq.trans ?_ (ih (s := s.eachListener [a] (Listener.pushPolled O.queue value)) hs)
    exact congrArg (fun m => Runs.exec (State.step O.layout) m (List.replicate as.length (.next t none)))
      (goto_goto (s := s.eachListener [a] (Listener.pushPolled O.queue value)) _)

omit [DecidableEq β] [DecidableEq τ] in
/-- `pushError` as the steps which make it up. -/
theorem eachListener_pushError (a : α) (message : Text) :
    s.eachListener [a] (Listener.pushError O.queue message) =
      if (s.listener a).isActiveZMQ then
        (s.eachListener [a] Listener.deactivate).eachListener [a]
          (Listener.pushException O.queue message)
      else s := by
  unfold State.eachListener Each.each Listener.pushError
  split
  · simp only [List.foldl_cons, List.foldl_nil, if_true, Function.update_self, Function.update_idem, *]
  · simp only [List.foldl_cons, List.foldl_nil, if_false, Function.update_eq_self, *,
      Bool.false_eq_true]

/-- `pushError` for the first listener of a poll, one step if it is inactive and three else. -/
theorem exec_pushError {p text : Text} {a : α} {as : List α} {ret : Return β}
    (hs : s.undefined = false) :
    Runs.exec (State.step O.layout) (s.goto t (.pushInitialValue p (.error text) (a :: as) ret))
        (List.replicate (1 + 2 * (pushed a ("ZeroMQ connection for ".toList ++ p ++
          " interrupted: ".toList ++ text) s).length) (.next t none)) =
      some ((s.eachListener [a] (Listener.pushError O.queue
        ("ZeroMQ connection for ".toList ++ p ++ " interrupted: ".toList ++ text))).goto t
          (.pushInitialValue p (.error text) as ret)) := by
  rw [eachListener_pushError, pushed]
  cases hactive : (s.listener a).isActiveZMQ with
  | false =>
    have htest : (s.goto t (.pushInitialValue p (.error text) (a :: as) ret)).step O.layout
        (.next t none) = some (s.goto t (.pushInitialValue p (.error text) as ret)) := by
      rw [step_goto hs]
      simp only [State.advance, State.goto_listener, hactive, if_false, goto_goto, Bool.false_eq_true]
    simp [htest]
  | true =>
    have htest : (s.goto t (.pushInitialValue p (.error text) (a :: as) ret)).step O.layout
        (.next t none) = some (s.goto t (.clearIsActiveZMQ p text a as ret)) := by
      rw [step_goto hs]
      simp only [State.advance, State.goto_listener, hactive, if_true, goto_goto]
    have hclear : (s.goto t (.clearIsActiveZMQ p text a as ret)).step O.layout (.next t none) =
        some ((s.eachListener [a] Listener.deactivate).goto t (.pushException p text a as ret)) := by
      rw [step_goto hs]
      exact congrArg some (goto_goto (s := s.eachListener [a] Listener.deactivate) _)
    have hpush : ((s.eachListener [a] Listener.deactivate).goto t
        (.pushException p text a as ret)).step O.layout (.next t none) =
        some (((s.eachListener [a] Listener.deactivate).eachListener [a]
          (Listener.pushException O.queue
            ("ZeroMQ connection for ".toList ++ p ++ " interrupted: ".toList ++ text))).goto t
              (.pushInitialValue p (.error text) as ret)) := by
      rw [step_goto (by exact hs)]
      exact congrArg some (goto_goto (s := (s.eachListener [a] Listener.deactivate).eachListener [a] _) _)
    change (((s.goto t _).step O.layout (.next t none)).bind fun m => (m.step O.layout _).bind fun m =>
      (m.step O.layout _).bind some) = _
    rw [htest, Option.bind_some, hclear, Option.bind_some, hpush]
    rfl

theorem exec_pushErrors {p text : Text} {as : List α} {ret : Return β} (hs : s.undefined = false) :
    Runs.exec (State.step O.layout) (s.goto t (.pushInitialValue p (.error text) as ret))
        (List.replicate (as.length + 2 * (pushErrors O ("ZeroMQ connection for ".toList ++ p ++
          " interrupted: ".toList ++ text) as s).2.length) (.next t none)) =
      some ((pushErrors O ("ZeroMQ connection for ".toList ++ p ++ " interrupted: ".toList ++ text) as
        s).1.goto t (.pushInitialValue p (.error text) [] ret)) := by
  induction as generalizing s with
  | nil => rfl
  | cons a as ih =>
    have hrest := ih (s := s.eachListener [a] (Listener.pushError O.queue
      ("ZeroMQ connection for ".toList ++ p ++ " interrupted: ".toList ++ text))) hs
    have hlength (m n : ℕ) : (a :: as).length + 2 * (m + n) = (1 + 2 * m) + (as.length + 2 * n) := by
      rw [List.length_cons]
      omega
    simp only [pushErrors]
    rw [List.length_append, hlength, List.replicate_add, Runs.exec_append, exec_pushError hs,
      Option.bind_some, hrest]

/-- The pushing of an initial value, or of the error instead of it. Each error which the application
gets to see takes three steps. -/
theorem exec_pollInitialValue {p : Text} {reply : Except Text ℕ} {as : List α} {ret : Return β}
    (hs : s.undefined = false) :
    Runs.exec (State.step O.layout) (s.goto t (.pushInitialValue p reply as ret))
        (List.replicate (as.length + 2 * (pollInitialValue O p as reply s).2.length)
          (.next t none)) =
      some ((pollInitialValue O p as reply s).1.goto t (.pushInitialValue p reply [] ret)) := by
  cases reply with
  | ok value => exact exec_pushPolled hs
  | error text => exact exec_pushErrors hs

end Threads

end Run

/-! ## A reply which is too short -/

def plainEnvironment : Environment where
  data := Accessor.plainEqData
  conversions := Accessor.plainConversions
  image := Accessor.plainImageLayout
  readOnly := 0

/-- Two numbers which are read without anything special. -/
def twoNumbers : RegisterAccessor .int32 where
  kind := .numeric
  path := "F/D/L/P".toList
  nElements := 2
  elementOffset := 0
  isArray := true
  isPartial := false
  useZMQ := false
  bufferLength := 2
  src := .blank 2 .aInt

theorem twoNumbers_path : twoNumbers.path ≠ [] := by decide

def onlyTwoNumbers : Objects Unit Unit where
  accessor _ := ⟨.int32, twoNumbers⟩
  backend _ := ()
  queue := plainQueue
  path_ne_nil _ := twoNumbers_path

/-- The property has become shorter: the error is thrown, and the next `open` knows nothing of it. -/
theorem not_remembers : ¬ (Operation.doPostRead () ⟨.blank 1 .aInt, 0, 0, 0⟩ [(0 : Int32), (0 : Int32)] :
    Operation onlyTwoNumbers).Remembers plainEnvironment
      (State.initial fun _ => { opened := true } : State Unit Unit Unit) := by
  intro h
  have hinformed := (h () _ (List.mem_singleton_self _)).informed
  obtain ⟨report, hreport, heq⟩ := List.mem_map.mp hinformed
  cases heq
  exact Reporting.informed_notMem_silent _ _ hreport

end DoocsBackend.Zmq
