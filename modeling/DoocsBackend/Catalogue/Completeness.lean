import DoocsBackend.Catalogue.Fetcher

/-! # Completeness of the fetched catalogue

A catalogue which counts as complete comes from a traversal which ended without an error
and without a cancellation. Such a traversal has visited the whole tree.
-/
namespace DoocsBackend.Catalogue
open Accessor (ImageLayout)

/-- A property of the tree, with its fully qualified name. -/
structure Property where
  fqn : Text
  name : Text
  answer : PropertyAnswer
  deriving DecidableEq, Repr

namespace NameTree

/-- All properties below a location. -/
def properties : (n : ℕ) → Text → NameTree (n + 1) → List Property
  | _, _, none => []
  | 0, fixedComponents, some entries =>
    entries.flatMap fun e => [⟨fixedComponents ++ '/' :: nameOf e.1, nameOf e.1, e.2⟩]
  | n + 1, fixedComponents, some entries =>
    entries.flatMap fun e => properties n (fixedComponents ++ '/' :: nameOf e.1) e.2

/-- No call of `names()` below a location fails. -/
def AllListed : (n : ℕ) → NameTree (n + 1) → Prop
  | _, none => False
  | 0, some _ => True
  | n + 1, some entries => ∀ e ∈ entries, AllListed n e.2

end NameTree

namespace Property

/-- The property is neither internal to DOOCS nor skipped for its answer. -/
def isKept (E : ErrorCodes) (p : Property) : Bool :=
  !CatalogueFetcher.isFiltered p.name && !CatalogueFetcher.isSkipped E p.answer

/-- The property ends the traversal with an error. -/
def isFailed (E : ErrorCodes) (p : Property) : Bool :=
  p.isKept E && CatalogueFetcher.isFailed p.answer

/-- The call of `addProperty` for the property. -/
def call (L : Libraries) (M : ImageLayout) (serverAddress : Text) (p : Property) : PropertyCall :=
  CatalogueFetcher.propertyCall L M serverAddress p.fqn p.answer

end Property

/-- The registers a call offers to the catalogue. -/
def PropertyCall.offered (L : Libraries) (p : PropertyCall) : List DoocsBackendRegisterInfo :=
  DoocsBackendRegisterCatalogue.offered L p.name p.length p.doocsType p.flags

/-- The calls of `addProperty` for the kept ones of some properties. -/
def keptCalls (L : Libraries) (M : ImageLayout) (E : ErrorCodes) (serverAddress : Text)
    (properties : List Property) : List PropertyCall :=
  (properties.filter (·.isKept E)).map (·.call L M serverAddress)

/-- The catalogue after further calls of `addProperty`. -/
def addAll (L : Libraries) (c : DoocsBackendRegisterCatalogue) (calls : List PropertyCall) :
    DoocsBackendRegisterCatalogue :=
  calls.foldl (fun c p => c.addProperty L p.name p.length p.doocsType p.flags) c

theorem hasRegister_addAll {L : Libraries} {c : DoocsBackendRegisterCatalogue}
    {calls : List PropertyCall} {name : Text} :
    (addAll L c calls).hasRegister name = true ↔
      c.hasRegister name = true ∨ ∃ p ∈ calls, ∃ info ∈ p.offered L, info.name = name := by
  induction calls generalizing c with
  | nil => simp [addAll]
  | cons p calls ih =>
    have hstep : addAll L c (p :: calls) =
        addAll L (c.addProperty L p.name p.length p.doocsType p.flags) calls := rfl
    rw [hstep, ih, DoocsBackendRegisterCatalogue.hasRegister_addProperty_iff, or_assoc]
    simp only [List.mem_cons, exists_eq_or_imp]
    rfl

namespace CatalogueFetcher
variable {L : Libraries} {M : ImageLayout} {E : ErrorCodes} {F : CancelFlag} {serverAddress : Text}
  {s t : CatalogueFetcher}

/-- Nothing has gone wrong and nothing has been cancelled so far. -/
structure Clean (F : CancelFlag) (s : CatalogueFetcher) : Prop where
  noError : s.locationLookupError = false
  notCancelled : F.isReady s.polls = false

/-- A part of the traversal from `s` to `t`, with a condition on the answers of the server and the
registered properties it would have if it ended cleanly. -/
structure Covers (L : Libraries) (F : CancelFlag) (s t : CatalogueFetcher) (answered : Prop)
    (calls : List PropertyCall) : Prop where
  clean : Clean F s
  answered : answered
  catalogue : t.catalogue = addAll L s.catalogue calls

theorem clean_of_poll (h : Clean F { s with polls := s.polls + 1 }) :
    Clean F s ∧ F.isReady s.polls = false := by
  have hready : F.isReady s.polls = false := by
    by_contra hr
    have := F.stays _ (Bool.not_eq_false _ ▸ hr)
    rw [h.notCancelled] at this
    cases this
  exact ⟨⟨h.noError, hready⟩, hready⟩

/-- A loop which ends cleanly has passed all entries, each of them cleanly. -/
theorem covers_visit {α : Type} {f : Text → α → CatalogueFetcher → CatalogueFetcher}
    {answered : Text → α → Prop} {calls : Text → α → List PropertyCall}
    (hf : ∀ name x s, Clean F (f name x s) → Covers L F s (f name x s) (answered name x)
      (calls name x)) {entries : List (Text × α)} (h : Clean F (visit F f entries s)) :
    Covers L F s (visit F f entries s) (∀ e ∈ entries, answered (nameOf e.1) e.2)
      (entries.flatMap fun e => calls (nameOf e.1) e.2) := by
  induction entries generalizing s with
  | nil => exact ⟨h, by simp, rfl⟩
  | cons e entries ih =>
    obtain ⟨entry, x⟩ := e
    rw [visit] at h ⊢
    by_cases hr : F.isReady s.polls = true
    · rw [if_pos hr] at h
      rw [(clean_of_poll h).2] at hr
      cases hr
    · rw [if_neg hr] at h ⊢
      have htail := ih h
      have hhead := hf _ _ _ htail.clean
      refine ⟨(clean_of_poll hhead.clean).1, ?_, ?_⟩
      · intro e he
        rcases List.mem_cons.mp he with rfl | he
        · exact hhead.answered
        · exact htail.answered e he
      · rw [htail.catalogue, hhead.catalogue, List.flatMap_cons, addAll, addAll, addAll,
          List.foldl_append]

theorem covers_fillProperty {fixedComponents name : Text} {answer : PropertyAnswer}
    (h : Clean F (fillProperty L M E serverAddress fixedComponents name answer s)) :
    let p : Property := ⟨fixedComponents ++ '/' :: name, name, answer⟩
    Covers L F s (fillProperty L M E serverAddress fixedComponents name answer s)
      (p.isFailed E = false) (keptCalls L M E serverAddress [p]) := by
  intro p
  unfold fillProperty at h ⊢
  by_cases hfilter : isFiltered name = true
  · rw [if_pos hfilter] at h ⊢
    have hk : p.isKept E = false := by simp [p, Property.isKept, hfilter]
    exact ⟨h, by rw [Property.isFailed, hk]; rfl, by simp [keptCalls, hk, addAll]⟩
  · rw [if_neg hfilter] at h ⊢
    by_cases hskip : isSkipped E answer = true
    · simp only [if_pos hskip] at h ⊢
      have hk : p.isKept E = false := by simp [p, Property.isKept, hskip]
      exact ⟨h, by rw [Property.isFailed, hk]; rfl, by simp [keptCalls, hk, addAll]⟩
    · simp only [if_neg hskip] at h ⊢
      have hk : p.isKept E = true := by
        simp only [Bool.not_eq_true] at hfilter hskip
        simp [p, Property.isKept, hfilter, hskip]
      by_cases hfail : isFailed answer = true
      · rw [if_pos hfail] at h
        cases h.noError
      · rw [if_neg hfail] at h ⊢
        rw [Bool.not_eq_true] at hfail
        exact ⟨⟨h.noError, h.notCancelled⟩, by simp [Property.isFailed, p, hfail],
          by simp [keptCalls, hk, addAll, Property.call, p]⟩

/-- A traversal which ends cleanly has met no failure, and has registered all properties it ought
to. -/
theorem covers_fillCatalogue {n : ℕ} {fixedComponents : Text} {tree : NameTree (n + 1)}
    (h : Clean F (fillCatalogue L M E F serverAddress n fixedComponents tree s)) :
    Covers L F s (fillCatalogue L M E F serverAddress n fixedComponents tree s)
      (tree.AllListed n ∧ ∀ p ∈ tree.properties n fixedComponents, p.isFailed E = false)
      (keptCalls L M E serverAddress (tree.properties n fixedComponents)) := by
  induction n generalizing fixedComponents s with
  | zero =>
    cases tree with
    | none => cases h.noError
    | some entries =>
      have hc := covers_visit (f := fillProperty L M E serverAddress fixedComponents)
        (fun _ _ _ => covers_fillProperty) (show Clean F (visit F _ entries s) from h)
      refine ⟨hc.clean, ⟨trivial, ?_⟩, ?_⟩
      · intro p hp
        obtain ⟨e, he, hp⟩ := List.mem_flatMap.mp hp
        rw [List.mem_singleton.mp hp]
        exact hc.answered e he
      · rw [NameTree.properties, keptCalls, List.filter_flatMap, List.map_flatMap]
        exact hc.catalogue
  | succ n ih =>
    cases tree with
    | none => cases h.noError
    | some entries =>
      have hc := covers_visit
        (f := fun name => fillCatalogue L M E F serverAddress n (fixedComponents ++ '/' :: name))
        (fun _ _ _ => ih) (show Clean F (visit F _ entries s) from h)
      refine ⟨hc.clean, ⟨fun e he => (hc.answered e he).1, ?_⟩, ?_⟩
      · intro p hp
        obtain ⟨e, he, hp⟩ := List.mem_flatMap.mp hp
        exact (hc.answered e he).2 p hp
      · rw [NameTree.properties, keptCalls, List.filter_flatMap, List.map_flatMap]
        exact hc.catalogue

variable (L M E F serverAddress)

/-- A catalogue which is fetched as complete has exactly the registers of the properties which are
neither internal nor skipped, and nothing has failed below the server address. -/
theorem fetch_complete (tree : NameTree (levelsBelow serverAddress + 1))
    (h : (fetch L M E F serverAddress tree).2 = true) :
    let properties := tree.properties (levelsBelow serverAddress) serverAddress
    tree.AllListed (levelsBelow serverAddress) ∧
      (∀ p ∈ properties, p.isFailed E = false) ∧
      (fetch L M E F serverAddress tree).1.registers =
        (fill L (keptCalls L M E serverAddress properties)).registers ∧
      ∀ name, (fetch L M E F serverAddress tree).1.hasRegister name = true ↔
        ∃ p ∈ properties, p.isKept E = true ∧
          ∃ info ∈ (p.call L M serverAddress).offered L, info.name = name := by
  intro properties
  have hclean : Clean F (fillCatalogue L M E F serverAddress (levelsBelow serverAddress)
      serverAddress tree {}) := by
    simp only [fetch, Bool.and_eq_true, Bool.not_eq_true'] at h
    exact ⟨h.1.2, h.1.1⟩
  have hc := covers_fillCatalogue hclean
  have hregisters : (fetch L M E F serverAddress tree).1.registers =
      (fill L (keptCalls L M E serverAddress properties)).registers := by
    change (fillCatalogue L M E F serverAddress _ serverAddress tree {}).catalogue.registers = _
    rw [hc.catalogue]
    rfl
  refine ⟨hc.answered.1, hc.answered.2, hregisters, fun name => ?_⟩
  rw [DoocsBackendRegisterCatalogue.hasRegister, hregisters]
  apply hasRegister_addAll.trans
  simp [keptCalls, DoocsBackendRegisterCatalogue.hasRegister_empty, and_assoc]

/-- A tree with one entry at every level. -/
def chain (entry : Text) (answer : PropertyAnswer) : (n : ℕ) → NameTree (n + 1)
  | 0 => some [(entry, answer)]
  | n + 1 => some [(entry, chain entry answer n)]

/-- The answer for an `INT` which is not published. -/
def intAnswer : PropertyAnswer where
  rc := 0
  error := 0
  text := []
  arrayLength := 0
  type := 1
  spnGet := ⟨1, .other⟩
  spnSet := ⟨1, .other⟩

/-- The flag of a backend which stays alive. -/
def neverCancelled : CancelFlag where
  isReady _ := false
  stays _ h := h

/-- The property `P` in the location `P`, below a device. -/
theorem fetch_complete_device :
    (fetch plainLibraries.toLibraries Accessor.plainImageLayout ⟨fun e => e == 1, 2⟩ neverCancelled
      "F/D".toList (chain "P comment".toList intAnswer _)).1.hasRegister "/P/P".toList = true :=
  ((fetch_complete plainLibraries.toLibraries Accessor.plainImageLayout ⟨fun e => e == 1, 2⟩
    neverCancelled "F/D".toList (chain "P comment".toList intAnswer _) (by decide)).2.2.2 _).mpr
    ⟨⟨"F/D/P/P".toList, "P".toList, intAnswer⟩, by decide, by decide, by decide⟩

end CatalogueFetcher

end DoocsBackend.Catalogue
