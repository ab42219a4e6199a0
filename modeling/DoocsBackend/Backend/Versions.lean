import DoocsBackend.Accessor.EqData
import DoocsBackend.Backend.State
import DoocsBackend.Library.Runs

/-! # Version numbers of accessors

What the base class makes of the event id of a reply, and the system of all backends
and accessors of a process, which share the creation of version numbers.
-/
namespace DoocsBackend.Backend
open Accessor (EventId)

inductive DataValidity where
  | ok | faulty
  deriving DecidableEq, Repr

/-- The part of an accessor which tells where its data comes from. -/
structure Origin where
  versionNumber : ℕ := 0
  dataValidity : DataValidity := .ok
  lastEventId : EventId := 0
  deriving DecidableEq, Repr

/-- `DoocsBackendRegisterAccessor::doPostRead` for new data with the given error code and event
id, where `realmVersion` is the answer of `getVersion`. -/
def Origin.doPostRead (a : Origin) (error : ℤ) (eventId : EventId)
    (realmVersion startVersion fresh : ℕ) : Origin :=
  let a := { a with dataValidity := if error = 0 then .ok else .faulty }
  if eventId ≠ 0 ∧ eventId < a.lastEventId then a
  else if eventId = 0 then { a with versionNumber := fresh, lastEventId := eventId }
  else
    let newVersionNumber := if realmVersion < startVersion then startVersion else realmVersion
    -- the id may have been seen before an id 0, which advanced the version
    if newVersionNumber < a.versionNumber then a
    else { a with versionNumber := newVersionNumber, lastEventId := eventId }

namespace Origin

variable {a : Origin} {error : ℤ} {eventId : EventId} {realmVersion startVersion fresh : ℕ}

theorem doPostRead_backward (h0 : eventId ≠ 0) (h : eventId < a.lastEventId) :
    a.doPostRead error eventId realmVersion startVersion fresh =
      { a with dataValidity := if error = 0 then .ok else .faulty } := by
  simp [doPostRead, h0, h]

theorem doPostRead_zero :
    a.doPostRead error 0 realmVersion startVersion fresh =
      { dataValidity := if error = 0 then .ok else .faulty, versionNumber := fresh,
        lastEventId := 0 } := by
  simp [doPostRead]

/-- The version accepted for an event id is the one of the realm, but not older than the start
version nor than the last one. -/
theorem doPostRead_forward (h0 : eventId ≠ 0) (h : ¬ eventId < a.lastEventId) :
    a.doPostRead error eventId realmVersion startVersion fresh =
      if max realmVersion startVersion < a.versionNumber then
        { a with dataValidity := if error = 0 then .ok else .faulty }
      else
        { dataValidity := if error = 0 then .ok else .faulty,
          versionNumber := max realmVersion startVersion, lastEventId := eventId } := by
  have hmax : (if realmVersion < startVersion then startVersion else realmVersion) =
      max realmVersion startVersion := by
    split <;> omega
  simp [doPostRead, h0, h, hmax]

end Origin

/-- All backends and accessors of a process. `readSinceOpen` is history: whether the accessor has
been read since its backend was last opened. -/
structure System (ι β : Type) where
  /-- The newest version number created so far. -/
  created : ℕ
  backend : β → BackendState
  accessor : ι → Origin
  readSinceOpen : ι → Bool

/-- What happens in a process. A realm may create versions before it answers, as may the
application before it writes. -/
inductive Event (ι β : Type) where
  | openBackend (b : β) (rc : ReturnCode) (text : Text)
  | closeBackend (b : β)
  /-- A transfer has failed. -/
  | fail (b : β) (address message : Text)
  /-- A successful read of a reply with this error code and event id. -/
  | read (i : ι) (error : ℤ) (eventId : EventId) (created realmVersion : ℕ)
  | write (i : ι) (created version : ℕ)

def Event.isWrite {ι β : Type} : Event ι β → Bool
  | .write .. => true
  | _ => false

namespace System
variable {ι β : Type} [DecidableEq ι] [DecidableEq β] (owner : ι → β)

/-- A process in which nothing has been opened yet. -/
def initial (created : ℕ) : System ι β where
  created := created
  backend _ := {}
  accessor _ := {}
  readSinceOpen _ := false

/-- Accessors are read and written while their backend is open, with versions which exist; a
write never takes the version back. -/
def step (s : System ι β) : Event ι β → Option (System ι β)
  | .openBackend b rc text =>
    let result := (s.backend b).openBackend rc text (s.created + 1)
    match result.2 with
    | some _ => some { s with backend := Function.update s.backend b result.1 }
    | none => some
      { s with
        created := s.created + 1
        backend := Function.update s.backend b result.1
        readSinceOpen := fun i => if owner i = b then false else s.readSinceOpen i }
  | .closeBackend b =>
    some { s with backend := Function.update s.backend b (s.backend b).closeBackend }
  | .fail b address message =>
    some { s with
      backend := Function.update s.backend b
        (((s.backend b).informRuntimeError address).setException message) }
  | .read i error eventId created realmVersion =>
    if (s.backend (owner i)).opened ∧ realmVersion ≤ s.created + created then some
      { s with
        created := s.created + created + if eventId = 0 then 1 else 0
        accessor := Function.update s.accessor i ((s.accessor i).doPostRead error eventId
          realmVersion (s.backend (owner i)).startVersion (s.created + created + 1))
        readSinceOpen := Function.update s.readSinceOpen i true }
    else none
  | .write i created version =>
    if (s.backend (owner i)).opened ∧ version ≤ s.created + created ∧
        (s.accessor i).versionNumber ≤ version then some
      { s with
        created := s.created + created
        accessor := Function.update s.accessor i
          { s.accessor i with versionNumber := version } }
    else none

variable {owner} {s t : System ι β}

/-- No version and no event id changes, and no backend is opened. -/
structure Quiet (s t : System ι β) : Prop where
  created : t.created = s.created
  accessor : t.accessor = s.accessor
  readSinceOpen : t.readSinceOpen = s.readSinceOpen
  startVersion : ∀ b, (t.backend b).startVersion = (s.backend b).startVersion
  opened : ∀ b, (t.backend b).opened = true → (s.backend b).opened = true

omit [DecidableEq ι] in
/-- A change of one backend which keeps its start version and does not open it. -/
theorem quiet_update {b : β} {x : BackendState}
    (hs : x.startVersion = (s.backend b).startVersion)
    (ho : x.opened = true → (s.backend b).opened = true) :
    Quiet s { s with backend := Function.update s.backend b x } := by
  refine ⟨rfl, rfl, rfl, fun b' => ?_, fun b' => ?_⟩
  all_goals
    by_cases hb : b' = b
    · subst hb
      simpa using by assumption
    · simp [hb]

theorem step_closeBackend {b : β} (h : step owner s (.closeBackend b) = some t) : Quiet s t := by
  cases h
  exact quiet_update rfl (by simp [BackendState.closeBackend])

theorem step_fail {b : β} {address message : Text}
    (h : step owner s (.fail b address message) = some t) : Quiet s t := by
  cases h
  exact quiet_update (by simp) (by simp)

/-- The versions of a backend which has just been opened start anew. -/
structure Opened (owner : ι → β) (b : β) (s t : System ι β) : Prop where
  created : t.created = s.created + 1
  accessor : t.accessor = s.accessor
  readSinceOpen : ∀ i, t.readSinceOpen i = if owner i = b then false else s.readSinceOpen i
  startVersion : (t.backend b).startVersion = s.created + 1
  backend : ∀ b', b' ≠ b → t.backend b' = s.backend b'

theorem step_openBackend {b : β} {rc : ReturnCode} {text : Text}
    (h : step owner s (.openBackend b rc text) = some t) : Quiet s t ∨ Opened owner b s t := by
  simp only [step] at h
  obtain ⟨⟨e, he⟩, hs, ho⟩ | ⟨he, hs, -⟩ :=
    (s.backend b).openBackend_cases rc text (s.created + 1)
  · rw [he] at h
    cases h
    exact .inl (quiet_update hs (by simp [ho]))
  · rw [he] at h
    cases h
    exact .inr ⟨rfl, rfl, fun _ => rfl, by simp [hs], fun b' hb => by simp [hb]⟩

theorem step_read {i : ι} {error : ℤ} {eventId : EventId} {created realmVersion : ℕ}
    (h : step owner s (.read i error eventId created realmVersion) = some t) :
    (s.backend (owner i)).opened = true ∧ realmVersion ≤ s.created + created ∧
      t.created = s.created + created + (if eventId = 0 then 1 else 0) ∧
      t.backend = s.backend ∧
      t.accessor = Function.update s.accessor i ((s.accessor i).doPostRead error eventId
        realmVersion (s.backend (owner i)).startVersion (s.created + created + 1)) ∧
      t.readSinceOpen = Function.update s.readSinceOpen i true := by
  simp only [step] at h
  split at h
  · rename_i hg
    cases h
    exact ⟨hg.1, hg.2, rfl, rfl, rfl, rfl⟩
  · cases h

theorem step_write {i : ι} {created version : ℕ}
    (h : step owner s (.write i created version) = some t) :
    version ≤ s.created + created ∧ (s.accessor i).versionNumber ≤ version ∧
      t.created = s.created + created ∧ t.backend = s.backend ∧
      t.accessor = Function.update s.accessor i { s.accessor i with versionNumber := version } ∧
      t.readSinceOpen = s.readSinceOpen := by
  simp only [step] at h
  split at h
  · rename_i hg
    cases h
    exact ⟨hg.2.1, hg.2.2, rfl, rfl, rfl, rfl⟩
  · cases h

/-- All version numbers in use have been created before. -/
structure CreatedBefore (s : System ι β) : Prop where
  startVersion_le : ∀ b, (s.backend b).startVersion ≤ s.created
  versionNumber_le : ∀ i, (s.accessor i).versionNumber ≤ s.created

omit [DecidableEq ι] [DecidableEq β] in
theorem createdBefore_initial (created : ℕ) : CreatedBefore (initial created : System ι β) :=
  ⟨fun _ => Nat.zero_le _, fun _ => Nat.zero_le _⟩

/-- What the version of an accessor is after a reply. -/
theorem doPostRead_le {a : Origin} {error : ℤ} {eventId : EventId} {realmVersion startVersion n : ℕ}
    (ha : a.versionNumber ≤ n) (hr : realmVersion ≤ n) (hs : startVersion ≤ n) :
    (a.doPostRead error eventId realmVersion startVersion (n + 1)).versionNumber ≤
      n + if eventId = 0 then 1 else 0 := by
  by_cases h0 : eventId = 0
  · subst h0
    simp [Origin.doPostRead_zero]
  · rw [if_neg h0]
    by_cases hb : eventId < a.lastEventId
    · rw [Origin.doPostRead_backward h0 hb]
      exact ha
    · rw [Origin.doPostRead_forward h0 hb]
      split
      · exact ha
      · exact max_le hr hs

theorem createdBefore_step {e : Event ι β} (hs : CreatedBefore s) (h : step owner s e = some t) :
    CreatedBefore t := by
  have quiet (hq : Quiet s t) : CreatedBefore t :=
    ⟨fun b => by rw [hq.startVersion, hq.created]; exact hs.startVersion_le b,
      fun i => by rw [hq.accessor, hq.created]; exact hs.versionNumber_le i⟩
  cases e with
  | closeBackend b => exact quiet (step_closeBackend h)
  | fail b address message => exact quiet (step_fail h)
  | openBackend b rc text =>
    obtain hq | ho := step_openBackend h
    · exact quiet hq
    · refine ⟨fun b' => ?_, fun i => ?_⟩
      · by_cases hb : b' = b
        · rw [hb, ho.startVersion, ho.created]
        · rw [ho.backend b' hb, ho.created]
          exact (hs.startVersion_le b').trans (Nat.le_succ _)
      · rw [ho.accessor, ho.created]
        exact (hs.versionNumber_le i).trans (Nat.le_succ _)
  | read i error eventId created realmVersion =>
    obtain ⟨-, hr, hc, hb, ha, -⟩ := step_read h
    refine ⟨fun b => ?_, fun j => ?_⟩
    · have := hs.startVersion_le b
      rw [hb, hc]
      omega
    · rw [ha, hc]
      by_cases hij : j = i
      · subst hij
        have hv := hs.versionNumber_le j
        have hst := hs.startVersion_le (owner j)
        simpa using doPostRead_le (by omega) hr (by omega)
      · have := hs.versionNumber_le j
        rw [Function.update_of_ne hij]
        omega
  | write i created version =>
    obtain ⟨hv, -, hc, hb, ha, -⟩ := step_write h
    refine ⟨fun b => ?_, fun j => ?_⟩
    · have := hs.startVersion_le b
      rw [hb, hc]
      omega
    · rw [ha, hc]
      by_cases hij : j = i
      · subst hij
        simpa using hv
      · have := hs.versionNumber_le j
        rw [Function.update_of_ne hij]
        omega

end System

end DoocsBackend.Backend
