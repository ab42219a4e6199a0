import DoocsBackend.Catalogue.Completeness

/-! # Cancelling a fetch

The cancel flag is asked before each entry of a name list. Once it is ready no list is continued, on
no level, so a cancelled fetch has found what an uncancelled one finds first.
-/
namespace DoocsBackend.Catalogue.CatalogueFetcher
open Accessor (ImageLayout)

variable {L : Libraries} {M : ImageLayout} {E : ErrorCodes} {F F' : CancelFlag} {serverAddress : Text}
  {s s' : CatalogueFetcher} {α : Type}

/-- Nothing that has been registered is given up. -/
def Extends (s s' : CatalogueFetcher) : Prop := s.catalogue.registers <+: s'.catalogue.registers

theorem extends_fillProperty (fixedComponents name : Text) (answer : PropertyAnswer)
    (s : CatalogueFetcher) :
    Extends s (fillProperty L M E serverAddress fixedComponents name answer s) := by
  unfold fillProperty Extends
  split
  · exact List.prefix_rfl
  · dsimp only
    split
    · exact List.prefix_rfl
    · split
      · exact List.prefix_rfl
      · rw [DoocsBackendRegisterCatalogue.addProperty_registers]
        exact FirstWins.prefix_insertAll

theorem extends_visit {f : Text → α → CatalogueFetcher → CatalogueFetcher}
    (hf : ∀ name x s, Extends s (f name x s)) (entries : List (Text × α)) (s : CatalogueFetcher) :
    Extends s (visit F f entries s) := by
  induction entries generalizing s with
  | nil => exact List.prefix_rfl
  | cons e entries ih =>
    obtain ⟨entry, x⟩ := e
    unfold visit
    split
    · exact List.prefix_rfl
    · exact (hf (nameOf entry) x { s with polls := s.polls + 1 }).trans (ih _)

theorem extends_fillCatalogue (n : ℕ) (fixedComponents : Text) (tree : NameTree (n + 1))
    (s : CatalogueFetcher) :
    Extends s (fillCatalogue L M E F serverAddress n fixedComponents tree s) := by
  induction n generalizing fixedComponents s with
  | zero =>
    cases tree with
    | none => exact List.prefix_rfl
    | some entries => exact extends_visit (extends_fillProperty fixedComponents) entries s
  | succ n ih =>
    cases tree with
    | none => exact List.prefix_rfl
    | some entries => exact extends_visit (fun name => ih (fixedComponents ++ '/' :: name)) entries s

/-- The first traversal is at the same place as the second, or it has been cancelled before. -/
def Behind (F : CancelFlag) (s s' : CatalogueFetcher) : Prop :=
  s = s' ∨ F.isReady s.polls = true ∧ Extends s s'

/-- A loop is left behind by the same loop with a flag which becomes ready later, if the traversals of
the single entries are. -/
theorem behind_visit (hlater : ∀ k, F'.isReady k = true → F.isReady k = true)
    {f f' : Text → α → CatalogueFetcher → CatalogueFetcher}
    (hf : ∀ name x s, Behind F (f name x s) (f' name x s))
    (hextends : ∀ name x s, Extends s (f' name x s)) (entries : List (Text × α))
    (h : Behind F s s') : Behind F (visit F f entries s) (visit F' f' entries s') := by
  induction entries generalizing s s' with
  | nil => exact h
  | cons e entries ih =>
    have hcancelled (hready : F.isReady s.polls = true) (hs : Extends s s') :
        Behind F (visit F f (e :: entries) s) (visit F' f' (e :: entries) s') := by
      right
      obtain ⟨entry, x⟩ := e
      rw [visit, if_pos hready]
      exact ⟨F.stays _ hready, hs.trans (extends_visit hextends ((entry, x) :: entries) s')⟩
    obtain rfl | ⟨hready, hs⟩ := h
    · by_cases hready : F.isReady s.polls = true
      · exact hcancelled hready List.prefix_rfl
      · obtain ⟨entry, x⟩ := e
        have hready' : ¬ F'.isReady s.polls = true := fun h => hready (hlater _ h)
        rw [visit, visit, if_neg hready, if_neg hready']
        exact ih (hf (nameOf entry) x _)
    · exact hcancelled hready hs

theorem behind_fillCatalogue (hlater : ∀ k, F'.isReady k = true → F.isReady k = true) (n : ℕ)
    (fixedComponents : Text) (tree : NameTree (n + 1)) (s : CatalogueFetcher) :
    Behind F (fillCatalogue L M E F serverAddress n fixedComponents tree s)
      (fillCatalogue L M E F' serverAddress n fixedComponents tree s) := by
  induction n generalizing fixedComponents s with
  | zero =>
    cases tree with
    | none => exact .inl rfl
    | some entries =>
      exact behind_visit hlater (fun _ _ _ => .inl rfl) (extends_fillProperty fixedComponents) entries
        (.inl rfl)
  | succ n ih =>
    cases tree with
    | none => exact .inl rfl
    | some entries =>
      exact behind_visit hlater (fun name => ih (fixedComponents ++ '/' :: name))
        (fun name => extends_fillCatalogue n (fixedComponents ++ '/' :: name)) entries (.inl rfl)

/-- Whenever a fetch is cancelled, it has found a prefix of the registers which a fetch finds that is
cancelled later or never. If it counts as complete all the same, the other one finds nothing more. -/
theorem prefix_of_cancelled_fetch (L : Libraries) (M : ImageLayout) (E : ErrorCodes)
    (hlater : ∀ k, F'.isReady k = true → F.isReady k = true) (serverAddress : Text)
    (tree : NameTree (levelsBelow serverAddress + 1)) :
    (fetch L M E F serverAddress tree).1.registers <+: (fetch L M E F' serverAddress tree).1.registers ∧
      ((fetch L M E F serverAddress tree).2 = true →
        fetch L M E F' serverAddress tree = fetch L M E F serverAddress tree) := by
  have hbehind : Behind F
      (fillCatalogue L M E F serverAddress (levelsBelow serverAddress) serverAddress tree {})
      (fillCatalogue L M E F' serverAddress (levelsBelow serverAddress) serverAddress tree {}) :=
    behind_fillCatalogue hlater _ _ _ _
  constructor
  · change Extends _ _
    obtain hsame | ⟨-, hextends⟩ := hbehind
    · rw [hsame]
      exact List.prefix_rfl
    · exact hextends
  · intro hcomplete
    simp only [fetch, Bool.and_eq_true, Bool.not_eq_true'] at hcomplete
    have hready := hcomplete.1.1
    obtain hsame | ⟨hcancelled, -⟩ := hbehind
    · have hready' : F'.isReady (fillCatalogue L M E F serverAddress (levelsBelow serverAddress)
          serverAddress tree {}).polls = false := by
        by_contra hnot
        rw [hlater _ (by simpa using hnot)] at hready
        cases hready
      simp only [fetch, ← hsame, hready, hready']
    · rw [hcancelled] at hready
      cases hready

/-- The flag becomes ready after it has been asked twice. -/
def cancelledSoon : CancelFlag where
  isReady k := decide (2 ≤ k)
  stays k h := by
    simp only [decide_eq_true_eq] at h ⊢
    omega

/-- A location with two properties. -/
def twoProperties : NameTree (levelsBelow "F/D".toList + 1) :=
  (some [("L comment".toList,
    (some [("P comment".toList, intAnswer), ("Q comment".toList, intAnswer)] : NameTree 1))] : NameTree 2)

/-- The registers of the first property are there, those of the second are not. -/
theorem cancelled_in_location :
    (fetch plainLibraries.toLibraries Accessor.plainImageLayout ⟨fun e => e == 1, 2⟩ cancelledSoon
        "F/D".toList twoProperties).1.registers.map (·.name) =
      ["/L/P", "/L/P/eventId", "/L/P/timeStamp"].map String.toList ∧
    (fetch plainLibraries.toLibraries Accessor.plainImageLayout ⟨fun e => e == 1, 2⟩ cancelledSoon
        "F/D".toList twoProperties).1.registers <+:
      (fetch plainLibraries.toLibraries Accessor.plainImageLayout ⟨fun e => e == 1, 2⟩ neverCancelled
        "F/D".toList twoProperties).1.registers :=
  ⟨by decide, (prefix_of_cancelled_fetch plainLibraries.toLibraries Accessor.plainImageLayout
    ⟨fun e => e == 1, 2⟩ (F := cancelledSoon) (fun k h => by cases h) "F/D".toList twoProperties).1⟩

end DoocsBackend.Catalogue.CatalogueFetcher
