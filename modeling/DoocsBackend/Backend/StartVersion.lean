import DoocsBackend.Backend.Versions

/-! # The start version as a bound

Opening a backend creates a version which the accessors may not fall short of from then
on. They keep to it unless the first reply after the opening is refused for its event id.
-/
namespace DoocsBackend.Backend.System
open Accessor (EventId)
variable {ι β : Type} [DecidableEq ι] [DecidableEq β] {owner : ι → β} {s t : System ι β}

/-- After a read, the version is not older than the start version. -/
def ReadIsBounded (owner : ι → β) (_ : System ι β) (e : Event ι β) (t : System ι β) : Prop :=
  match e with
  | .read i .. => (t.backend (owner i)).startVersion ≤ (t.accessor i).versionNumber
  | _ => True

instance (s t : System ι β) : (e : Event ι β) → Decidable (ReadIsBounded owner s e t)
  | .read i .. =>
    inferInstanceAs (Decidable ((t.backend (owner i)).startVersion ≤ (t.accessor i).versionNumber))
  | .openBackend .. | .closeBackend _ | .fail .. | .write .. => .isTrue trivial

/-- The first read after an opening does not meet an event id which runs backwards. -/
def FirstReadIsForward (s : System ι β) (e : Event ι β) (_ : System ι β) : Prop :=
  match e with
  | .read i _ eventId .. =>
    s.readSinceOpen i = true ∨ eventId = 0 ∨ ¬ eventId < (s.accessor i).lastEventId
  | _ => True

instance (s t : System ι β) : (e : Event ι β) → Decidable (FirstReadIsForward s e t)
  | .read i _ eventId .. => inferInstanceAs (Decidable
      (s.readSinceOpen i = true ∨ eventId = 0 ∨ ¬ eventId < (s.accessor i).lastEventId))
  | .openBackend .. | .closeBackend _ | .fail .. | .write .. => .isTrue trivial

/-- Accessors are behind the start version exactly until they are read. -/
structure Behind (owner : ι → β) (s : System ι β) : Prop where
  createdBefore : CreatedBefore s
  unread : ∀ i, s.readSinceOpen i = false → (s.backend (owner i)).opened = true →
    (s.accessor i).versionNumber < (s.backend (owner i)).startVersion
  read : ∀ i, s.readSinceOpen i = true →
    (s.backend (owner i)).startVersion ≤ (s.accessor i).versionNumber

omit [DecidableEq ι] [DecidableEq β] in
theorem behind_initial (created : ℕ) : Behind owner (initial created : System ι β) where
  createdBefore := createdBefore_initial created
  unread _ _ h := by cases h
  read _ h := by cases h

/-- A reply is labelled with an old version only if its event id runs backwards. -/
theorem startVersion_le_doPostRead_iff {a : Origin} {error : ℤ} {eventId : EventId}
    {realmVersion startVersion fresh : ℕ} (hf : startVersion ≤ fresh) :
    startVersion ≤ (a.doPostRead error eventId realmVersion startVersion fresh).versionNumber ↔
      (eventId ≠ 0 ∧ eventId < a.lastEventId → startVersion ≤ a.versionNumber) := by
  by_cases h0 : eventId = 0
  · subst h0
    simpa [Origin.doPostRead_zero] using hf
  · by_cases hb : eventId < a.lastEventId
    · rw [Origin.doPostRead_backward h0 hb]
      simp [h0, hb]
    · rw [Origin.doPostRead_forward h0 hb]
      refine iff_of_true ?_ fun h => absurd h.2 hb
      split
      · rename_i hv
        exact (le_max_right _ _).trans hv.le
      · exact le_max_right _ _

omit [DecidableEq ι] [DecidableEq β] in
theorem behind_of_quiet (hs : Behind owner s) (hc : CreatedBefore t) (hq : Quiet s t) :
    Behind owner t where
  createdBefore := hc
  unread i hr ho := by
    rw [hq.accessor, hq.startVersion]
    exact hs.unread i (by rw [← hq.readSinceOpen]; exact hr) (hq.opened _ ho)
  read i hr := by
    rw [hq.accessor, hq.startVersion]
    exact hs.read i (by rw [← hq.readSinceOpen]; exact hr)

omit [DecidableEq ι] in
theorem behind_of_opened {b : β} (hs : Behind owner s) (hc : CreatedBefore t)
    (ho : Opened owner b s t) : Behind owner t where
  createdBefore := hc
  unread i hr hopen := by
    rw [ho.readSinceOpen] at hr
    rw [ho.accessor]
    by_cases hb : owner i = b
    · rw [hb, ho.startVersion]
      exact Nat.lt_succ_of_le (hs.createdBefore.versionNumber_le i)
    · rw [if_neg hb] at hr
      rw [ho.backend _ hb] at hopen ⊢
      exact hs.unread i hr hopen
  read i hr := by
    rw [ho.readSinceOpen] at hr
    by_cases hb : owner i = b
    · rw [if_pos hb] at hr
      cases hr
    · rw [if_neg hb] at hr
      rw [ho.accessor, ho.backend _ hb]
      exact hs.read i hr

theorem readIsBounded_iff {e : Event ι β} (hs : Behind owner s) (h : step owner s e = some t) :
    ReadIsBounded owner s e t ↔ FirstReadIsForward s e t := by
  cases e with
  | openBackend | closeBackend | fail | write => exact Iff.rfl
  | read i error eventId created realmVersion =>
    obtain ⟨hopen, -, -, hb, ha, -⟩ := step_read h
    have hst := hs.createdBefore.startVersion_le (owner i)
    simp only [ReadIsBounded, FirstReadIsForward, hb, ha, Function.update_self]
    rw [startVersion_le_doPostRead_iff (by omega)]
    cases hr : s.readSinceOpen i with
    | true => simp [hs.read i hr]
    | false =>
      have := hs.unread i hr hopen
      simp only [reduceCtorEq, false_or, ← not_lt, this, not_true, imp_false, not_and_or, not_not]

/-- Writes apart, accessors stay behind until they are read, as long as all reads so far have
been bounded. -/
theorem behind_step {e : Event ι β} (he : ¬ e.isWrite) (hs : Behind owner s)
    (h : step owner s e = some t) (hgood : ReadIsBounded owner s e t) : Behind owner t := by
  have hc := createdBefore_step hs.createdBefore h
  cases e with
  | closeBackend b => exact behind_of_quiet hs hc (step_closeBackend h)
  | fail b address message => exact behind_of_quiet hs hc (step_fail h)
  | openBackend b rc text =>
    obtain hq | ho := step_openBackend h
    · exact behind_of_quiet hs hc hq
    · exact behind_of_opened hs hc ho
  | write => exact absurd rfl he
  | read i error eventId created realmVersion =>
    obtain ⟨hopen, -, -, hb, ha, hr⟩ := step_read h
    refine ⟨hc, fun j hj ho => ?_, fun j hj => ?_⟩
    all_goals
      by_cases hij : j = i
      · subst hij
        first | exact hgood | simp [hr] at hj
      · rw [hr, Function.update_of_ne hij] at hj
        rw [ha, hb, Function.update_of_ne hij]
        first | exact hs.unread j hj (by rw [← hb]; exact ho) | exact hs.read j hj

/-- In a run of openings, closings, failures and reads, every read gives a version not older
than the start version exactly if no first read after an opening meets an event id running
backwards. -/
theorem reads_bounded_iff (created : ℕ) (es : List (Event ι β)) (hes : ∀ e ∈ es, ¬ e.isWrite) :
    Runs.Along (step owner) (ReadIsBounded owner) (initial created) es ↔
      Runs.Along (step owner) FirstReadIsForward (initial created) es :=
  Runs.Along.iff_of_invariant (fun _ _ _ _ hs h => readIsBounded_iff hs h)
    (fun _ _ _ he hs h hgood => behind_step he hs h hgood) (behind_initial created) hes

/-- Two openings with reads of the given event ids in between and after. -/
def readReopenRead (first second : EventId) : List (Event Unit Unit) :=
  [.openBackend () .ok [], .read () 0 first 1 2, .closeBackend (), .openBackend () .ok [],
    .read () 0 second 1 4]

/-- If the ids restart, the second read gives the version of the first one, which is older than
the second opening. -/
theorem not_reads_bounded :
    ¬ Runs.Along (step id) (ReadIsBounded id) (initial 0 : System Unit Unit)
      (readReopenRead 100 50) := by
  decide

theorem reads_bounded_of_forward :
    Runs.Along (step id) (ReadIsBounded id) (initial 0 : System Unit Unit)
      (readReopenRead 50 100) :=
  (reads_bounded_iff 0 (readReopenRead 50 100) (by decide)).mpr (by decide)

end DoocsBackend.Backend.System
