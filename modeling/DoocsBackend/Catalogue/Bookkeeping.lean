import DoocsBackend.Catalogue.Completeness
import DoocsBackend.Catalogue.Cache

/-! # The failures a traversal reports

The fetcher counts the properties whose shape could not be queried and keeps name and error
of the first one. It takes a property for the first one if nothing has failed before, no
matter what, hence a name list which failed earlier hides the property.
-/
namespace DoocsBackend.Catalogue

/-- A failure the traversal comes across. -/
inductive Incident where
  | namesFailed
  | propertyFailed (fqn text : Text)
  deriving DecidableEq, Repr

/-- Name and error of a failed property. -/
def Incident.property : Incident → Option (Text × Text)
  | .namesFailed => none
  | .propertyFailed fqn text => some (fqn, text)

/-- The properties which took the branch for a wrong shape, in the order of the traversal. -/
def failedProperties (incidents : List Incident) : List (Text × Text) :=
  incidents.filterMap Incident.property

namespace CatalogueFetcher
variable (E : ErrorCodes) (F : CancelFlag)

/-! ## The incidents of a traversal -/

/-- What a property adds to the incidents. -/
def propertyIncidents (fixedComponents name : Text) (answer : PropertyAnswer) : List Incident :=
  if isFiltered name || isSkipped E answer then []
  else if isFailed answer then [.propertyFailed (fixedComponents ++ '/' :: name) answer.text]
  else []

/-- The incidents of a loop over the entries, and how often the cancel flag was asked afterwards. -/
def visitIncidents {α : Type} (f : Text → α → ℕ → List Incident × ℕ) :
    List (Text × α) → ℕ → List Incident × ℕ
  | [], polls => ([], polls)
  | (entry, x) :: entries, polls =>
    if F.isReady polls then ([], polls + 1)
    else
      let head := f (nameOf entry) x (polls + 1)
      let tail := visitIncidents f entries head.2
      (head.1 ++ tail.1, tail.2)

/-- The incidents below a location, in the order of the traversal. -/
def incidents : (n : ℕ) → Text → NameTree (n + 1) → ℕ → List Incident × ℕ
  | _, _, none, polls => ([.namesFailed], polls)
  | 0, fixedComponents, some entries, polls =>
    visitIncidents F (fun name answer polls => (propertyIncidents E fixedComponents name answer, polls))
      entries polls
  | n + 1, fixedComponents, some entries, polls =>
    visitIncidents F (fun name => incidents n (fixedComponents ++ '/' :: name)) entries polls

/-! ## What is kept of them -/

/-- The effect of an incident on the members the failures are kept in. -/
def record (s : CatalogueFetcher) : Incident → CatalogueFetcher
  | .namesFailed => { s with locationLookupError := true }
  | .propertyFailed fqn text =>
    { s with
      failedPropertyFirst := if s.locationLookupError then s.failedPropertyFirst else fqn
      failedPropertyError := if s.locationLookupError then s.failedPropertyError else text
      failedPropertyCount := s.failedPropertyCount + 1
      locationLookupError := true }

/-- The two states agree on the members the failures are kept in. -/
structure SameBooks (s t : CatalogueFetcher) : Prop where
  lookupError : s.locationLookupError = t.locationLookupError
  first : s.failedPropertyFirst = t.failedPropertyFirst
  error : s.failedPropertyError = t.failedPropertyError
  count : s.failedPropertyCount = t.failedPropertyCount

theorem SameBooks.refl (s : CatalogueFetcher) : SameBooks s s := ⟨rfl, rfl, rfl, rfl⟩

theorem SameBooks.trans {s t u : CatalogueFetcher} (hst : SameBooks s t) (htu : SameBooks t u) :
    SameBooks s u :=
  ⟨hst.lookupError.trans htu.lookupError, hst.first.trans htu.first, hst.error.trans htu.error,
    hst.count.trans htu.count⟩

theorem SameBooks.symm {s t : CatalogueFetcher} (h : SameBooks s t) : SameBooks t s :=
  ⟨h.lookupError.symm, h.first.symm, h.error.symm, h.count.symm⟩

theorem SameBooks.record {s t : CatalogueFetcher} (h : SameBooks s t) (i : Incident) :
    SameBooks (record s i) (CatalogueFetcher.record t i) := by
  obtain ⟨hlookup, hfirst, herror, hcount⟩ := h
  cases i with
  | namesFailed => exact ⟨rfl, hfirst, herror, hcount⟩
  | propertyFailed fqn text =>
    exact ⟨rfl, by simp [CatalogueFetcher.record, hlookup, hfirst],
      by simp [CatalogueFetcher.record, hlookup, herror], by simp [CatalogueFetcher.record, hcount]⟩

theorem SameBooks.foldl {s t : CatalogueFetcher} (h : SameBooks s t) (is : List Incident) :
    SameBooks (is.foldl CatalogueFetcher.record s) (is.foldl CatalogueFetcher.record t) := by
  induction is generalizing s t with
  | nil => exact h
  | cons i is ih => exact ih (h.record i)

/-- A part of the traversal from `s` to `t` has kept its incidents and asked the cancel flag as often
as they say. -/
structure Keeps (s t : CatalogueFetcher) (trace : List Incident × ℕ) : Prop where
  books : SameBooks t (trace.1.foldl record s)
  polls : t.polls = trace.2

variable {E F} {L : Libraries} {M : Accessor.ImageLayout} {serverAddress : Text}

theorem keeps_fillProperty (fixedComponents name : Text) (answer : PropertyAnswer)
    (s : CatalogueFetcher) :
    Keeps s (fillProperty L M E serverAddress fixedComponents name answer s)
      (propertyIncidents E fixedComponents name answer, s.polls) := by
  unfold fillProperty propertyIncidents
  by_cases hfilter : isFiltered name = true
  · simp only [hfilter, if_true, Bool.true_or]
    exact ⟨.refl s, rfl⟩
  by_cases hskip : isSkipped E answer = true
  · simp only [hfilter, hskip, if_true, Bool.or_true, Bool.false_eq_true, if_false]
    exact ⟨.refl s, rfl⟩
  simp only [Bool.not_eq_true] at hfilter hskip
  by_cases hfail : isFailed answer = true
  · simp only [hfilter, hskip, hfail, if_true, Bool.or_false, Bool.false_eq_true, if_false]
    exact ⟨.refl _, rfl⟩
  · simp only [hfilter, hskip, hfail, Bool.or_false, Bool.false_eq_true, if_false]
    exact ⟨⟨rfl, rfl, rfl, rfl⟩, rfl⟩

/-- One pass of the loop after the other. -/
theorem keeps_visit {α : Type} {f : Text → α → CatalogueFetcher → CatalogueFetcher}
    {g : Text → α → ℕ → List Incident × ℕ} (hf : ∀ name x s, Keeps s (f name x s) (g name x s.polls))
    (entries : List (Text × α)) (s : CatalogueFetcher) :
    Keeps s (visit F f entries s) (visitIncidents F g entries s.polls) := by
  induction entries generalizing s with
  | nil => exact ⟨.refl s, rfl⟩
  | cons e entries ih =>
    obtain ⟨entry, x⟩ := e
    rw [visit, visitIncidents]
    by_cases hr : F.isReady s.polls = true
    · rw [if_pos hr, if_pos hr]
      exact ⟨⟨rfl, rfl, rfl, rfl⟩, rfl⟩
    · rw [if_neg hr, if_neg hr]
      have hhead := hf (nameOf entry) x { s with polls := s.polls + 1 }
      have htail := ih (f (nameOf entry) x { s with polls := s.polls + 1 })
      rw [hhead.polls] at htail
      refine ⟨?_, htail.polls⟩
      rw [List.foldl_append]
      have hpoll : SameBooks { s with polls := s.polls + 1 } s := ⟨rfl, rfl, rfl, rfl⟩
      exact htail.books.trans ((hhead.books.trans (hpoll.foldl _)).foldl _)

/-- The members are those the incidents leave behind, at every level of the recursion. -/
theorem keeps_fillCatalogue (n : ℕ) (fixedComponents : Text) (tree : NameTree (n + 1))
    (s : CatalogueFetcher) :
    Keeps s (fillCatalogue L M E F serverAddress n fixedComponents tree s)
      (incidents E F n fixedComponents tree s.polls) := by
  induction n generalizing fixedComponents s with
  | zero =>
    cases tree with
    | none => exact ⟨.refl _, rfl⟩
    | some entries => exact keeps_visit (keeps_fillProperty fixedComponents) entries s
  | succ n ih =>
    cases tree with
    | none => exact ⟨.refl _, rfl⟩
    | some entries => exact keeps_visit (fun name x s => ih (fixedComponents ++ '/' :: name) x s) entries s

/-! ## Whether that is what happened -/

/-- What `fetch` prints in the end. -/
def summary (s : CatalogueFetcher) : Option Text :=
  if s.failedPropertyFirst.isEmpty then none
  else some ("DoocsBackend::CatalogueFetcher: Failed to query shape information for ".toList ++
    toText s.failedPropertyCount ++ " properties. First failed property '".toList ++
    s.failedPropertyFirst ++ "' failed with error '".toList ++ s.failedPropertyError ++ "'.".toList)

/-- The failed properties are counted, the first one is kept, and a summary is printed exactly if
there is one. -/
structure BooksKept (s : CatalogueFetcher) (incidents : List Incident) : Prop where
  count : s.failedPropertyCount = (failedProperties incidents).length
  first : 0 < s.failedPropertyCount →
    (failedProperties incidents).head? = some (s.failedPropertyFirst, s.failedPropertyError)
  printed : s.summary.isSome = true ↔ failedProperties incidents ≠ []

theorem BooksKept.of_sameBooks {s t : CatalogueFetcher} {is : List Incident} (h : SameBooks s t)
    (hk : BooksKept t is) : BooksKept s is := by
  obtain ⟨-, hfirst, herror, hcount⟩ := h
  refine ⟨hcount.trans hk.count, ?_, ?_⟩
  · rw [hfirst, herror, hcount]
    exact hk.first
  · rw [← hk.printed]
    unfold summary
    rw [hfirst]
    split <;> rfl

theorem foldl_record_count (s : CatalogueFetcher) (is : List Incident) :
    (is.foldl record s).failedPropertyCount =
      s.failedPropertyCount + (failedProperties is).length := by
  induction is generalizing s with
  | nil => rfl
  | cons i is ih =>
    rw [List.foldl_cons, ih]
    cases i with
    | namesFailed => rfl
    | propertyFailed fqn text =>
      have hcons : failedProperties (.propertyFailed fqn text :: is) =
          (fqn, text) :: failedProperties is := rfl
      rw [hcons, List.length_cons, record]
      dsimp only
      omega

/-- Once something has failed, the name and the error which are kept stay as they are. -/
theorem foldl_record_of_lookupError {s : CatalogueFetcher} (h : s.locationLookupError = true)
    (is : List Incident) :
    (is.foldl record s).failedPropertyFirst = s.failedPropertyFirst ∧
      (is.foldl record s).failedPropertyError = s.failedPropertyError := by
  induction is generalizing s with
  | nil => exact ⟨rfl, rfl⟩
  | cons i is ih =>
    rw [List.foldl_cons]
    cases i with
    | namesFailed => exact ih (s := record s .namesFailed) rfl
    | propertyFailed fqn text =>
      have hkept := ih (s := record s (.propertyFailed fqn text)) rfl
      simp only [record, h, if_true] at hkept ⊢
      exact hkept

/-- No name list fails before the first property does, if one does. -/
def PropertyFailsFirst (is : List Incident) : Prop :=
  failedProperties is = [] ∨ is.head? ≠ some .namesFailed

theorem summary_isSome (s : CatalogueFetcher) :
    s.summary.isSome = true ↔ s.failedPropertyFirst ≠ [] := by
  unfold summary
  cases s.failedPropertyFirst <;> simp

theorem booksKept_foldl_iff {is : List Incident}
    (hnames : ∀ p ∈ failedProperties is, p.1 ≠ []) :
    BooksKept (is.foldl record {}) is ↔ PropertyFailsFirst is := by
  have hcount := foldl_record_count {} is
  rw [Nat.zero_add] at hcount
  cases is with
  | nil =>
    exact iff_of_true ⟨rfl, fun h => absurd h (Nat.lt_irrefl 0), by decide⟩ (.inl rfl)
  | cons i is =>
    cases i with
    | namesFailed =>
      -- nothing is kept any more
      obtain ⟨hfirst, -⟩ := foldl_record_of_lookupError (s := record {} .namesFailed) rfl is
      constructor
      · intro hk
        refine .inl (by_contra fun hne => ?_)
        have hsome := hk.printed.mpr hne
        rw [summary_isSome] at hsome
        exact hsome hfirst
      · intro hcond
        have hnone : failedProperties (.namesFailed :: is) = [] := by
          rcases hcond with h | h
          · exact h
          · exact absurd rfl h
        refine ⟨hcount, fun hpos => ?_, ?_⟩
        · rw [hcount, hnone] at hpos
          exact absurd hpos (Nat.lt_irrefl 0)
        · rw [summary_isSome, hnone]
          exact iff_of_false (fun h => h hfirst) (fun h => h rfl)
    | propertyFailed fqn text =>
      obtain ⟨hfirst, herror⟩ :=
        foldl_record_of_lookupError (s := record {} (.propertyFailed fqn text)) rfl is
      rw [← List.foldl_cons] at hfirst herror
      have hfqn : fqn ≠ [] := hnames (fqn, text) List.mem_cons_self
      refine iff_of_true ⟨hcount, fun _ => ?_, ?_⟩ (.inr (by simp))
      · rw [hfirst, herror]
        rfl
      · rw [summary_isSome, hfirst]
        exact iff_of_true hfqn (List.cons_ne_nil _ _)

/-- What holds of every incident of the single passes holds of those of the loop. -/
theorem visitIncidents_forall {α : Type} {P : Incident → Prop} {f : Text → α → ℕ → List Incident × ℕ}
    (hf : ∀ name x polls, ∀ i ∈ (f name x polls).1, P i) (entries : List (Text × α)) (polls : ℕ) :
    ∀ i ∈ (visitIncidents F f entries polls).1, P i := by
  induction entries generalizing polls with
  | nil => simp [visitIncidents]
  | cons e entries ih =>
    obtain ⟨entry, x⟩ := e
    rw [visitIncidents]
    by_cases hr : F.isReady polls = true
    · simp [hr]
    · rw [if_neg hr]
      intro i hi
      rcases List.mem_append.mp hi with hi | hi
      · exact hf _ _ _ i hi
      · exact ih _ i hi

/-- A failed property has a name, since it is below a location. -/
theorem property_ne_nil (n : ℕ) (fixedComponents : Text) (tree : NameTree (n + 1)) (polls : ℕ) :
    ∀ i ∈ (incidents E F n fixedComponents tree polls).1, ∀ p, i.property = some p → p.1 ≠ [] := by
  induction n generalizing fixedComponents polls with
  | zero =>
    cases tree with
    | none => simp [incidents, Incident.property]
    | some entries =>
      refine visitIncidents_forall (fun name answer polls => ?_) entries polls
      intro i hi p hp
      unfold propertyIncidents at hi
      split_ifs at hi
      · cases hi
      · rw [List.mem_singleton.mp hi] at hp
        cases hp
        exact List.append_ne_nil_of_right_ne_nil _ (List.cons_ne_nil _ _)
      · cases hi
  | succ n ih =>
    cases tree with
    | none => simp [incidents, Incident.property]
    | some entries => exact visitIncidents_forall (fun name x polls => ih _ x polls) entries polls

variable (L M E F serverAddress)

/-- From a fresh fetcher, the bookkeeping is right exactly if no property fails or the first failure
below the location is that of a property. -/
theorem bookkeeping_iff (n : ℕ) (fixedComponents : Text) (tree : NameTree (n + 1)) :
    BooksKept (fillCatalogue L M E F serverAddress n fixedComponents tree {})
        (incidents E F n fixedComponents tree 0).1 ↔
      PropertyFailsFirst (incidents E F n fixedComponents tree 0).1 := by
  have hkeeps : Keeps {} (fillCatalogue L M E F serverAddress n fixedComponents tree {})
      (incidents E F n fixedComponents tree 0) := keeps_fillCatalogue n fixedComponents tree {}
  have hbooks := hkeeps.books
  have hnames : ∀ p ∈ failedProperties (incidents E F n fixedComponents tree 0).1, p.1 ≠ [] := by
    intro p hp
    obtain ⟨i, hi, hip⟩ := List.mem_filterMap.mp hp
    exact property_ne_nil n fixedComponents tree 0 i hi p hip
  rw [← booksKept_foldl_iff hnames]
  exact ⟨BooksKept.of_sameBooks hbooks.symm, BooksKept.of_sameBooks hbooks⟩

/-- The answer of a property which reports an error in place of its shape. -/
def shapeErrorAnswer : PropertyAnswer := { intAnswer with rc := 7, error := 7, text := "E".toList }

/-- Location `A` does not list its properties, property `P` of location `B` fails. -/
def hiddenFailure : NameTree 2 :=
  some [("A".toList, none), ("B".toList, some [("P".toList, shapeErrorAnswer)])]

/-- One property has failed, but neither its name nor its error is kept, and nothing is printed. -/
theorem bookkeeping_hidden :
    let s := fillCatalogue plainLibraries.toLibraries Accessor.plainImageLayout ⟨fun _ => false, 2⟩
      neverCancelled "F/D".toList 1 "F/D".toList hiddenFailure {}
    let is := (incidents ⟨fun _ => false, 2⟩ neverCancelled 1 "F/D".toList hiddenFailure 0).1
    failedProperties is = [("F/D/B/P".toList, "E".toList)] ∧ s.failedPropertyCount = 1 ∧
      s.failedPropertyFirst = [] ∧ s.summary = none ∧ ¬ BooksKept s is := by
  intro s is
  have hproperties : failedProperties is = [("F/D/B/P".toList, "E".toList)] := by decide
  have hsummary : s.summary = none := by decide
  refine ⟨hproperties, by decide, by decide, hsummary, fun hk => ?_⟩
  have hsome := hk.printed.mpr (by rw [hproperties]; exact List.cons_ne_nil _ _)
  rw [hsummary] at hsome
  cases hsome

end CatalogueFetcher
end DoocsBackend.Catalogue
