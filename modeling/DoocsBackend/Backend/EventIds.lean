import DoocsBackend.Backend.Versions

/-! # Event ids and versions

Accessors which have accepted the same event id have the same version, whichever backends
they belong to, once the versions of the realm have overtaken the start versions.
-/
namespace DoocsBackend.Backend.System
open Accessor (EventId)
variable {ι β : Type} [DecidableEq ι] [DecidableEq β] {owner : ι → β} {s t : System ι β}
  {phi : EventId → ℕ}

/-- The realm answers with a fixed version for every event id, and nothing is written. -/
def Follows (phi : EventId → ℕ) : Event ι β → Prop
  | .read _ _ eventId _ realmVersion => eventId ≠ 0 → realmVersion = phi eventId
  | .write .. => False
  | _ => True

instance : (e : Event ι β) → Decidable (Follows phi e)
  | .read _ _ eventId _ realmVersion =>
    inferInstanceAs (Decidable (eventId ≠ 0 → realmVersion = phi eventId))
  | .write .. => .isFalse id
  | .openBackend .. | .closeBackend _ | .fail .. => .isTrue trivial

/-- An event id in use determines the version, up to the start version at the time it was
accepted. -/
structure Labelled (phi : EventId → ℕ) (owner : ι → β) (s : System ι β) : Prop where
  createdBefore : CreatedBefore s
  version_eq : ∀ i, (s.accessor i).lastEventId ≠ 0 →
    ∃ accepted ≤ (s.backend (owner i)).startVersion,
      (s.accessor i).versionNumber = max (phi (s.accessor i).lastEventId) accepted

omit [DecidableEq ι] [DecidableEq β] in
theorem labelled_initial (created : ℕ) : Labelled phi owner (initial created : System ι β) where
  createdBefore := createdBefore_initial created
  version_eq _ h := absurd rfl h

/-- A reply keeps the label of an accessor or replaces it by that of its own event id. -/
theorem labelled_doPostRead {a : Origin} {error : ℤ} {eventId : EventId}
    {realmVersion startVersion fresh : ℕ} (hphi : eventId ≠ 0 → realmVersion = phi eventId)
    (ha : a.lastEventId ≠ 0 →
      ∃ accepted ≤ startVersion, a.versionNumber = max (phi a.lastEventId) accepted) :
    let b := a.doPostRead error eventId realmVersion startVersion fresh
    b.lastEventId ≠ 0 →
      ∃ accepted ≤ startVersion, b.versionNumber = max (phi b.lastEventId) accepted := by
  by_cases h0 : eventId = 0
  · subst h0
    rw [Origin.doPostRead_zero]
    exact fun h => absurd rfl h
  · by_cases hb : eventId < a.lastEventId
    · rw [Origin.doPostRead_backward h0 hb]
      exact ha
    · rw [Origin.doPostRead_forward h0 hb]
      split
      · exact ha
      · exact fun _ => ⟨startVersion, le_rfl, by rw [hphi h0]⟩

/-- Start versions never decrease. -/
theorem startVersion_le_step {e : Event ι β} (hs : CreatedBefore s) (h : step owner s e = some t)
    (b : β) : (s.backend b).startVersion ≤ (t.backend b).startVersion := by
  cases e with
  | closeBackend => rw [(step_closeBackend h).startVersion]
  | fail => rw [(step_fail h).startVersion]
  | openBackend b' rc text =>
    obtain hq | ho := step_openBackend h
    · rw [hq.startVersion]
    · by_cases hb : b = b'
      · subst hb
        rw [ho.startVersion]
        exact (hs.startVersion_le b).trans (Nat.le_succ _)
      · rw [ho.backend b hb]
  | read =>
    obtain ⟨-, -, -, hb, -⟩ := step_read h
    rw [hb]
  | write =>
    obtain ⟨-, -, -, hb, -⟩ := step_write h
    rw [hb]

theorem labelled_step {e : Event ι β} (hs : Labelled phi owner s) (he : Follows phi e)
    (h : step owner s e = some t) : Labelled phi owner t := by
  have hmono := startVersion_le_step hs.createdBefore h
  have keep (ha : t.accessor = s.accessor) (i : ι) (hi : (t.accessor i).lastEventId ≠ 0) :
      ∃ accepted ≤ (t.backend (owner i)).startVersion,
        (t.accessor i).versionNumber = max (phi (t.accessor i).lastEventId) accepted := by
    rw [ha] at hi ⊢
    obtain ⟨accepted, hle, heq⟩ := hs.version_eq i hi
    exact ⟨accepted, hle.trans (hmono _), heq⟩
  refine ⟨createdBefore_step hs.createdBefore h, ?_⟩
  cases e with
  | closeBackend b => exact keep (step_closeBackend h).accessor
  | fail b address message => exact keep (step_fail h).accessor
  | openBackend b rc text =>
    obtain hq | ho := step_openBackend h
    · exact keep hq.accessor
    · exact keep ho.accessor
  | write => cases he
  | read i error eventId created realmVersion =>
    obtain ⟨-, -, -, hb, ha, -⟩ := step_read h
    intro j
    rw [ha, hb]
    by_cases hij : j = i
    · subst hij
      rw [Function.update_self]
      exact labelled_doPostRead he (hs.version_eq j)
    · rw [Function.update_of_ne hij]
      exact hs.version_eq j

omit [DecidableEq ι] [DecidableEq β] in
/-- Once its version in the realm has overtaken the start version, an event id in use has exactly
this version. -/
theorem Labelled.versionNumber_eq (hs : Labelled phi owner s) {i : ι}
    (hi : (s.accessor i).lastEventId ≠ 0)
    (hphi : (s.backend (owner i)).startVersion ≤ phi (s.accessor i).lastEventId) :
    (s.accessor i).versionNumber = phi (s.accessor i).lastEventId := by
  obtain ⟨accepted, hle, heq⟩ := hs.version_eq i hi
  rw [heq, max_eq_left (hle.trans hphi)]

/-- The versions of a realm grow with the event ids. -/
def Increasing (phi : EventId → ℕ) : Prop := ∀ d e, d ≠ 0 → e ≠ 0 → d < e → phi d < phi e

theorem eventId_trichotomy (d e : EventId) : d < e ∨ d = e ∨ e < d := by
  rw [Int64.lt_iff_toInt_lt, Int64.lt_iff_toInt_lt, ← Int64.toInt_inj]
  exact lt_trichotomy _ _

theorem Increasing.lt_iff (h : Increasing phi) {d e : EventId} (hd : d ≠ 0) (he : e ≠ 0) :
    phi d < phi e ↔ d < e := by
  refine ⟨fun hlt => ?_, h d e hd he⟩
  obtain hde | rfl | hed := eventId_trichotomy d e
  · exact hde
  · exact absurd hlt (lt_irrefl _)
  · exact absurd hlt (h e d he hd hed).not_gt

theorem Increasing.eq_iff (h : Increasing phi) {d e : EventId} (hd : d ≠ 0) (he : e ≠ 0) :
    phi d = phi e ↔ d = e := by
  refine ⟨fun heq => ?_, congrArg phi⟩
  obtain hde | rfl | hed := eventId_trichotomy d e
  · exact absurd heq (h d e hd he hde).ne
  · rfl
  · exact absurd heq (h e d he hd hed).ne'

/-- In all states reached without writes, two accessors with event ids whose versions in the
realm are not older than the start versions have just these versions, which are equal and
ordered as the event ids are. -/
theorem versions_match (hphi : Increasing phi) {created : ℕ} {es : List (Event ι β)}
    (run : Runs.Run (step owner) (fun _ e => Follows phi e) (initial created) es s) {i j : ι}
    (hi : (s.accessor i).lastEventId ≠ 0) (hj : (s.accessor j).lastEventId ≠ 0)
    (hsi : (s.backend (owner i)).startVersion ≤ phi (s.accessor i).lastEventId)
    (hsj : (s.backend (owner j)).startVersion ≤ phi (s.accessor j).lastEventId) :
    (s.accessor i).versionNumber = phi (s.accessor i).lastEventId ∧
      (s.accessor j).versionNumber = phi (s.accessor j).lastEventId ∧
      ((s.accessor i).versionNumber = (s.accessor j).versionNumber ↔
        (s.accessor i).lastEventId = (s.accessor j).lastEventId) ∧
      ((s.accessor i).versionNumber < (s.accessor j).versionNumber ↔
        (s.accessor i).lastEventId < (s.accessor j).lastEventId) := by
  have hs : Labelled phi owner s :=
    run.invariant (fun _ _ _ hs he h => labelled_step hs he h) (labelled_initial created)
  rw [hs.versionNumber_eq hi hsi, hs.versionNumber_eq hj hsj]
  exact ⟨rfl, rfl, hphi.eq_iff hi hj, hphi.lt_iff hi hj⟩

/-- A realm which gives version 1 to the smallest event id, 2 to the next one, and so on. -/
def consecutive (eventId : EventId) : ℕ := (eventId.toInt + 2 ^ 63 + 1).toNat

theorem increasing_consecutive : Increasing consecutive := by
  intro d e _ _ h
  have := d.le_toInt
  have := Int64.lt_iff_toInt_lt.mp h
  simp only [consecutive]
  omega

/-- Both backends are opened, and the second one's accessor sees a later event id. -/
def readTwo : List (Event Bool Bool) :=
  [.openBackend false .ok [], .openBackend true .ok [],
    .read false 0 7 (2 ^ 63 + 6) (consecutive 7), .read true 0 9 2 (consecutive 9)]

theorem versions_match_two : ∃ s, Runs.exec (step id) (initial 0) readTwo = some s ∧
    (s.accessor false).versionNumber < (s.accessor true).versionNumber := by
  refine ⟨_, rfl, ?_⟩
  have run : Runs.Run (step id) (fun _ e => Follows consecutive e) (initial 0) readTwo _ :=
    Runs.Run.of_exec rfl (by decide)
  have h := versions_match increasing_consecutive run (i := false) (j := true) (by decide)
    (by decide) (by decide) (by decide)
  exact h.2.2.2.mpr (by decide)

end DoocsBackend.Backend.System
