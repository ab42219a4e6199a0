import DoocsBackend.Backend.Versions

/-! # Version numbers never go back

Neither replies nor writes take a version back. An accessor which has been read has a
version of its own, unless its first event id is negative and thereby counts as running
backwards from no event id at all.
-/
namespace DoocsBackend.Backend.System
open Accessor (EventId)
variable {ι β : Type} [DecidableEq ι] [DecidableEq β] {owner : ι → β} {s t : System ι β}

/-- No version number decreases, and after a read there is one. -/
def VersionsIncrease (s : System ι β) (e : Event ι β) (t : System ι β) : Prop :=
  (∀ i, (s.accessor i).versionNumber ≤ (t.accessor i).versionNumber) ∧
    match e with
    | .read i .. => (t.accessor i).versionNumber ≠ 0
    | _ => True

instance [Fintype ι] (s t : System ι β) : (e : Event ι β) → Decidable (VersionsIncrease s e t)
  | .read i .. => inferInstanceAs (Decidable
      ((∀ j, (s.accessor j).versionNumber ≤ (t.accessor j).versionNumber) ∧
        (t.accessor i).versionNumber ≠ 0))
  | .openBackend .. | .closeBackend _ | .fail .. | .write .. => inferInstanceAs (Decidable
      ((∀ j, (s.accessor j).versionNumber ≤ (t.accessor j).versionNumber) ∧ True))

/-- The event id with which an accessor gets its first version number is not negative. -/
def FirstIdIsNotNegative (s : System ι β) (e : Event ι β) (_ : System ι β) : Prop :=
  match e with
  | .read i _ eventId .. => (s.accessor i).versionNumber ≠ 0 ∨ ¬ eventId < 0
  | _ => True

instance (s t : System ι β) : (e : Event ι β) → Decidable (FirstIdIsNotNegative s e t)
  | .read i _ eventId .. =>
    inferInstanceAs (Decidable ((s.accessor i).versionNumber ≠ 0 ∨ ¬ eventId < 0))
  | .openBackend .. | .closeBackend _ | .fail .. | .write .. => .isTrue trivial

/-- No reply takes back a version which was created before the fresh one. -/
theorem versionNumber_le_doPostRead {a : Origin} {error : ℤ} {eventId : EventId}
    {realmVersion startVersion fresh : ℕ} (hf : a.versionNumber ≤ fresh) :
    a.versionNumber ≤
      (a.doPostRead error eventId realmVersion startVersion fresh).versionNumber := by
  by_cases h0 : eventId = 0
  · subst h0
    rw [Origin.doPostRead_zero]
    exact hf
  · by_cases hb : eventId < a.lastEventId
    · rw [Origin.doPostRead_backward h0 hb]
    · rw [Origin.doPostRead_forward h0 hb]
      split
      · exact le_rfl
      · rename_i hv
        exact not_lt.mp hv

theorem versionNumber_le_step {e : Event ι β} (hs : CreatedBefore s) (h : step owner s e = some t)
    (i : ι) : (s.accessor i).versionNumber ≤ (t.accessor i).versionNumber := by
  cases e with
  | closeBackend => rw [(step_closeBackend h).accessor]
  | fail => rw [(step_fail h).accessor]
  | openBackend b rc text =>
    rcases step_openBackend h with hq | ho
    · rw [hq.accessor]
    · rw [ho.accessor]
  | read j error eventId created realmVersion =>
    obtain ⟨-, -, -, -, ha, -⟩ := step_read h
    rw [ha]
    by_cases hij : i = j
    · subst hij
      rw [Function.update_self]
      apply versionNumber_le_doPostRead
      have := hs.versionNumber_le i
      omega
    · rw [Function.update_of_ne hij]
  | write j created version =>
    obtain ⟨-, hv, -, -, ha, -⟩ := step_write h
    rw [ha]
    by_cases hij : i = j
    · subst hij
      rw [Function.update_self]
      exact hv
    · rw [Function.update_of_ne hij]

/-- Only accessors without an event id are without a version, and open backends have one. -/
structure Numbered (owner : ι → β) (s : System ι β) : Prop where
  createdBefore : CreatedBefore s
  startVersion_pos : ∀ b, (s.backend b).opened = true → 0 < (s.backend b).startVersion
  lastEventId_eq : ∀ i, (s.accessor i).versionNumber = 0 → (s.accessor i).lastEventId = 0

omit [DecidableEq ι] [DecidableEq β] in
theorem numbered_initial (created : ℕ) : Numbered owner (initial created : System ι β) where
  createdBefore := createdBefore_initial created
  startVersion_pos _ h := by cases h
  lastEventId_eq _ _ := rfl

/-- A reply leaves an accessor without a version only if the accessor had none and the event id
runs backwards. -/
theorem doPostRead_eq_zero_iff {a : Origin} {error : ℤ} {eventId : EventId}
    {realmVersion startVersion fresh : ℕ} (hs : 0 < startVersion) :
    (a.doPostRead error eventId realmVersion startVersion (fresh + 1)).versionNumber = 0 ↔
      a.versionNumber = 0 ∧ eventId ≠ 0 ∧ eventId < a.lastEventId := by
  by_cases h0 : eventId = 0
  · subst h0
    simp [Origin.doPostRead_zero]
  · by_cases hb : eventId < a.lastEventId
    · rw [Origin.doPostRead_backward h0 hb]
      simp [h0, hb]
    · rw [Origin.doPostRead_forward h0 hb]
      refine iff_of_false ?_ fun h => hb h.2.2
      split <;> simp only <;> omega

theorem lastEventId_doPostRead {a : Origin} {error : ℤ} {eventId : EventId}
    {realmVersion startVersion fresh : ℕ} (hs : 0 < startVersion)
    (ha : a.versionNumber = 0 → a.lastEventId = 0) :
    let b := a.doPostRead error eventId realmVersion startVersion (fresh + 1)
    b.versionNumber = 0 → b.lastEventId = 0 := by
  intro b hb
  obtain ⟨hv, h0, hlt⟩ := (doPostRead_eq_zero_iff hs).mp hb
  have hkeep : b.lastEventId = a.lastEventId := by
    simp only [b, Origin.doPostRead_backward h0 hlt]
  rw [hkeep]
  exact ha hv

theorem startVersion_pos_step {e : Event ι β} (hs : Numbered owner s)
    (h : step owner s e = some t) (b : β) (ho : (t.backend b).opened = true) :
    0 < (t.backend b).startVersion := by
  have quiet (hq : Quiet s t) : 0 < (t.backend b).startVersion := by
    rw [hq.startVersion]
    exact hs.startVersion_pos b (hq.opened b ho)
  cases e with
  | closeBackend => exact quiet (step_closeBackend h)
  | fail => exact quiet (step_fail h)
  | openBackend b' rc text =>
    rcases step_openBackend h with hq | hopen
    · exact quiet hq
    · by_cases hb : b = b'
      · rw [hb, hopen.startVersion]
        exact Nat.succ_pos _
      · rw [hopen.backend b hb] at ho ⊢
        exact hs.startVersion_pos b ho
  | read =>
    obtain ⟨-, -, -, hb, -⟩ := step_read h
    rw [hb] at ho ⊢
    exact hs.startVersion_pos b ho
  | write =>
    obtain ⟨-, -, -, hb, -⟩ := step_write h
    rw [hb] at ho ⊢
    exact hs.startVersion_pos b ho

theorem numbered_step {e : Event ι β} (hs : Numbered owner s) (h : step owner s e = some t) :
    Numbered owner t := by
  refine ⟨createdBefore_step hs.createdBefore h, startVersion_pos_step hs h, ?_⟩
  have keep (ha : t.accessor = s.accessor) (i : ι) (hi : (t.accessor i).versionNumber = 0) :
      (t.accessor i).lastEventId = 0 := by
    rw [ha] at hi ⊢
    exact hs.lastEventId_eq i hi
  cases e with
  | closeBackend => exact keep (step_closeBackend h).accessor
  | fail => exact keep (step_fail h).accessor
  | openBackend =>
    rcases step_openBackend h with hq | ho
    · exact keep hq.accessor
    · exact keep ho.accessor
  | read i error eventId created realmVersion =>
    obtain ⟨hopen, -, -, -, ha, -⟩ := step_read h
    intro j
    rw [ha]
    by_cases hij : j = i
    · subst hij
      rw [Function.update_self]
      exact lastEventId_doPostRead (hs.startVersion_pos _ hopen) (hs.lastEventId_eq j)
    · rw [Function.update_of_ne hij]
      exact hs.lastEventId_eq j
  | write i created version =>
    obtain ⟨-, hv, -, -, ha, -⟩ := step_write h
    intro j
    rw [ha]
    by_cases hij : j = i
    · subst hij
      rw [Function.update_self]
      intro hz
      exact hs.lastEventId_eq j (Nat.le_zero.mp (hv.trans hz.le))
    · rw [Function.update_of_ne hij]
      exact hs.lastEventId_eq j

theorem versionsIncrease_iff {e : Event ι β} (hs : Numbered owner s)
    (h : step owner s e = some t) : VersionsIncrease s e t ↔ FirstIdIsNotNegative s e t := by
  have hmono := versionNumber_le_step hs.createdBefore h
  cases e with
  | openBackend | closeBackend | fail | write => exact iff_of_true ⟨hmono, trivial⟩ trivial
  | read i error eventId created realmVersion =>
    obtain ⟨hopen, -, -, -, ha, -⟩ := step_read h
    simp only [VersionsIncrease, FirstIdIsNotNegative, ne_eq]
    rw [and_iff_right hmono, ha, Function.update_self,
      doPostRead_eq_zero_iff (hs.startVersion_pos _ hopen)]
    by_cases hv : (s.accessor i).versionNumber = 0
    · rw [hs.lastEventId_eq i hv]
      have hne : eventId < 0 → eventId ≠ 0 := by
        rintro hlt rfl
        exact absurd hlt (by decide)
      tauto
    · tauto

/-- In a run of openings, closings, failures, reads and writes, no version number decreases and
none is missing after a read, exactly if no accessor has a negative event id while it is without
a version. -/
theorem versions_increase_iff (created : ℕ) (es : List (Event ι β)) :
    Runs.Along (step owner) VersionsIncrease (initial created) es ↔
      Runs.Along (step owner) FirstIdIsNotNegative (initial created) es :=
  Runs.Along.iff_of_invariant (fun _ _ _ (_ : True) hs h => versionsIncrease_iff hs h)
    (fun _ _ _ _ hs h _ => numbered_step hs h) (numbered_initial created) (by simp)

/-- A backend is opened and an accessor is read for the first time. -/
def openRead (eventId : EventId) : List (Event Unit Unit) :=
  [.openBackend () .ok [], .read () 0 eventId 0 1]

theorem not_versions_increase :
    ¬ Runs.Along (step id) VersionsIncrease (initial 0 : System Unit Unit) (openRead (-1)) := by
  decide

end DoocsBackend.Backend.System
