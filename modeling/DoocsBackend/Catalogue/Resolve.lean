import DoocsBackend.Catalogue.Completeness

/-! # From register names back to properties

An accessor is asked for by the name of a register. Server address and name together are the
address of a property, followed by the name of a field where they go down one level more.
-/
namespace DoocsBackend.Catalogue
open Accessor (ImageLayout)

/-! ## Components of an address -/

/-- The components, with a separator in front of each. -/
def joined (components : List Text) : Text := components.flatMap ('/' :: ·)

/-- The names an address is made of. -/
def IsComponent (c : Text) : Prop := c ≠ [] ∧ '/' ∉ c

theorem joined_append (cs ds : List Text) : joined (cs ++ ds) = joined cs ++ joined ds :=
  List.flatMap_append

theorem joined_concat (cs : List Text) (c : Text) : joined (cs ++ [c]) = joined cs ++ '/' :: c := by
  rw [joined_append]
  simp [joined]

theorem count_joined {cs : List Text} (h : ∀ c ∈ cs, '/' ∉ c) :
    (joined cs).count '/' = cs.length := by
  induction cs with
  | nil => rfl
  | cons c cs ih =>
    have hc : c.count '/' = 0 := List.count_eq_zero_of_not_mem (h c List.mem_cons_self)
    have hcons : joined (c :: cs) = '/' :: c ++ joined cs := rfl
    rw [hcons, List.count_append, List.count_cons_self, hc,
      ih fun d hd => h d (List.mem_cons_of_mem c hd), List.length_cons]
    omega

theorem forall_ne_of_notMem {f : Text} (hf : '/' ∉ f) : ∀ x ∈ f, decide (x ≠ '/') = true := by
  intro x hx
  apply decide_eq_true
  rintro rfl
  exact hf hx

/-- A path without empty components does not begin like a URL. -/
theorem startsWith_eq_false (scheme : Text) {c : Text} {cs : List Text} (hs : '/' ∉ scheme) (hc : '/' ∉ c)
    (hcs : ∀ d ∈ cs, IsComponent d) :
    startsWith (c ++ joined cs) (scheme ++ ['/', '/']) = false := by
  rw [startsWith, Bool.eq_false_iff]
  intro h
  obtain ⟨t, ht⟩ := List.isPrefixOf_iff_prefix.mp h
  have hrest := congrArg (List.dropWhile (· ≠ '/')) ht
  rw [List.append_assoc, List.dropWhile_append_of_pos (forall_ne_of_notMem hs),
    List.dropWhile_append_of_pos (forall_ne_of_notMem hc)] at hrest
  cases cs with
  | nil => simp [joined] at hrest
  | cons d ds =>
    obtain ⟨hd, hslash⟩ := hcs d List.mem_cons_self
    obtain ⟨x, d, rfl⟩ := List.exists_cons_of_ne_nil hd
    simp only [joined, List.flatMap_cons, List.cons_append, List.nil_append] at hrest
    rw [List.dropWhile_cons_of_neg (by simp), List.dropWhile_cons_of_neg (by simp)] at hrest
    simp only [List.cons.injEq, true_and] at hrest
    exact hslash (hrest.1 ▸ List.mem_cons_self)

/-! ## The address check -/

/-- `path.substr(path.find_last_of('/') + 1)`. -/
def afterLast (path : Text) : Text := path.rtakeWhile (· ≠ '/')

/-- `path.substr(0, path.find_last_of('/'))`. -/
def beforeLast (path : Text) : Text :=
  if '/' ∈ path then (path.rdropWhile (· ≠ '/')).dropLast else path

theorem afterLast_append {p f : Text} (hf : '/' ∉ f) : afterLast (p ++ '/' :: f) = f := by
  have hr : ∀ x ∈ f.reverse, decide (x ≠ '/') = true :=
    forall_ne_of_notMem (by rwa [List.mem_reverse])
  rw [afterLast, List.rtakeWhile, List.reverse_append, List.reverse_cons, List.append_assoc,
    List.takeWhile_append_of_pos hr]
  simp

theorem beforeLast_append {p f : Text} (hf : '/' ∉ f) : beforeLast (p ++ '/' :: f) = p := by
  have hr : ∀ x ∈ f.reverse, decide (x ≠ '/') = true :=
    forall_ne_of_notMem (by rwa [List.mem_reverse])
  rw [beforeLast, if_pos (by simp), List.rdropWhile, List.reverse_append, List.reverse_cons,
    List.append_assoc, List.dropWhile_append_of_pos hr]
  simp

/-- The beginning of `getRegisterAccessor_impl`: the address of the property and the name of the
field, which is empty if the path has no extra level. -/
def splitPath (path : Text) : Except Failure (Text × Text) :=
  let nSlashes := path.count '/'
  let illegal : Except Failure (Text × Text) :=
    .error (.logicError ("DOOCS address has an illegal format: ".toList ++ path))
  if !startsWith path "doocs://".toList && !startsWith path "epics://".toList then
    if nSlashes = 4 then .ok (beforeLast path, afterLast path)
    else if nSlashes < 3 ∨ 4 < nSlashes then illegal
    else .ok (path, [])
  else if startsWith path "doocs://".toList then
    -- 3 extra slashes compared to the standard syntax
    if nSlashes = 4 + 3 then .ok (beforeLast path, afterLast path)
    else if nSlashes < 3 + 3 ∨ 4 + 3 < nSlashes then illegal
    else .ok (path, [])
  else .ok (path, [])

/-! ## Server addresses -/

/-- An address of a facility, a device or a location, with or without a host. -/
structure ServerAddress where
  host : Option Text
  facility : Text
  /-- Device and location, as far as they are given. -/
  further : List Text
  host_valid : ∀ h ∈ host, '/' ∉ h
  facility_valid : IsComponent facility
  further_valid : ∀ c ∈ further, IsComponent c
  length_le : further.length ≤ 2

namespace ServerAddress

/-- What precedes the facility. -/
def start (a : ServerAddress) : Text :=
  match a.host with
  | none => []
  | some h => "doocs://".toList ++ h ++ ['/']

def text (a : ServerAddress) : Text := a.start ++ a.facility ++ joined a.further

/-- The number of separators before the facility. -/
def extra (a : ServerAddress) : ℕ := if a.host.isSome then 3 else 0

variable {a : ServerAddress} {components : List Text}

theorem text_append : a.text ++ joined components =
    a.start ++ a.facility ++ joined (a.further ++ components) := by
  rw [text, joined_append, List.append_assoc]

theorem count_text (h : ∀ c ∈ components, '/' ∉ c) :
    (a.text ++ joined components).count '/' = a.extra + a.further.length + components.length := by
  have hstart : a.start.count '/' = a.extra := by
    obtain ⟨host, _, _, hv, -⟩ := a
    cases host with
    | none => rfl
    | some h =>
      have hc := List.count_eq_zero_of_not_mem (hv h rfl)
      simp [start, extra, hc]
  have hf : a.facility.count '/' = 0 := List.count_eq_zero_of_not_mem a.facility_valid.2
  rw [text_append, List.count_append, List.count_append, hstart, hf, count_joined,
    List.length_append]
  · omega
  · intro c hc
    rcases List.mem_append.mp hc with hc | hc
    · exact (a.further_valid c hc).2
    · exact h c hc

theorem further_append_valid (h : ∀ c ∈ components, IsComponent c) :
    ∀ c ∈ a.further ++ components, IsComponent c := by
  intro c hc
  rcases List.mem_append.mp hc with hc | hc
  · exact a.further_valid c hc
  · exact h c hc

theorem startsWith_doocs (h : ∀ c ∈ components, IsComponent c) :
    startsWith (a.text ++ joined components) "doocs://".toList = a.host.isSome := by
  cases hh : a.host with
  | none =>
    rw [text_append, start, hh]
    exact startsWith_eq_false "doocs:".toList (by decide) a.facility_valid.2
      (further_append_valid h)
  | some host =>
    rw [text_append, start, hh, startsWith, List.isPrefixOf_iff_prefix.mpr]
    · rfl
    · simp only [List.append_assoc]
      exact List.prefix_append _ _

theorem startsWith_epics (h : ∀ c ∈ components, IsComponent c) :
    startsWith (a.text ++ joined components) "epics://".toList = false := by
  cases hh : a.host with
  | none =>
    rw [text_append, start, hh]
    exact startsWith_eq_false "epics:".toList (by decide) a.facility_valid.2
      (further_append_valid h)
  | some host =>
    rw [text_append, start, hh]
    rfl

/-- The level of a server address. -/
theorem slashes_text : slashes a.text = a.further.length := by
  have hcount : (a.text ++ joined []).count '/' = _ := count_text (by simp)
  have hdoocs : startsWith (a.text ++ joined []) "doocs://".toList = _ := startsWith_doocs (by simp)
  simp only [joined, List.flatMap_nil, List.append_nil, List.length_nil] at hcount hdoocs
  rw [slashes, hdoocs, hcount, extra]
  cases a.host <;> simp

theorem levelsBelow_text : CatalogueFetcher.levelsBelow a.text + 1 + a.further.length = 3 := by
  have := a.length_le
  rw [CatalogueFetcher.levelsBelow, slashes_text]
  omega

/-- An address of a property has no extra level. -/
theorem splitPath_property (h : ∀ c ∈ components, IsComponent c)
    (hl : components.length + a.further.length = 3) :
    splitPath (a.text ++ joined components) = .ok (a.text ++ joined components, []) := by
  rw [splitPath, startsWith_doocs h, startsWith_epics h, count_text fun c hc => (h c hc).2, extra]
  cases a.host with
  | none =>
    simp only [Option.isSome_none, Bool.not_false, Bool.and_self, if_true, Bool.false_eq_true,
      if_false]
    rw [if_neg (by omega), if_neg (by omega)]
  | some host =>
    simp only [Option.isSome_some, Bool.not_true, Bool.false_and, Bool.false_eq_true, if_false,
      if_true]
    rw [if_neg (by omega), if_neg (by omega)]

/-- The extra level is the name of the field. -/
theorem splitPath_field {field : Text} (h : ∀ c ∈ components, IsComponent c)
    (hl : components.length + a.further.length = 3) (hf : IsComponent field) :
    splitPath (a.text ++ (joined components ++ '/' :: field)) =
      .ok (a.text ++ joined components, field) := by
  have hall : ∀ c ∈ components ++ [field], IsComponent c := by
    intro c hc
    rcases List.mem_append.mp hc with hc | hc
    · exact h c hc
    · rw [List.mem_singleton.mp hc]
      exact hf
  have hlast : beforeLast (a.text ++ joined (components ++ [field])) = a.text ++ joined components ∧
      afterLast (a.text ++ joined (components ++ [field])) = field := by
    rw [joined_concat, ← List.append_assoc]
    exact ⟨beforeLast_append hf.2, afterLast_append hf.2⟩
  rw [← joined_concat, splitPath, startsWith_doocs hall, startsWith_epics hall,
    count_text fun c hc => (hall c hc).2, extra, hlast.1, hlast.2, List.length_append,
    List.length_singleton]
  cases a.host with
  | none =>
    simp only [Option.isSome_none, Bool.not_false, Bool.and_self, if_true, Bool.false_eq_true,
      if_false]
    rw [if_pos (by omega)]
  | some host =>
    simp only [Option.isSome_some, Bool.not_true, Bool.false_and, Bool.false_eq_true, if_false,
      if_true]
    rw [if_pos (by omega)]

end ServerAddress

/-! ## The names the fetcher registers -/

/-- All names below a location are components of an address. -/
def NameTree.Named : (n : ℕ) → NameTree (n + 1) → Prop
  | _, none => True
  | 0, some entries => ∀ e ∈ entries, IsComponent (nameOf e.1)
  | n + 1, some entries => ∀ e ∈ entries, IsComponent (nameOf e.1) ∧ Named n e.2

/-- A fully qualified name consists of the address it was found at and one component a level. -/
theorem fqn_of_mem_properties {n : ℕ} {fixedComponents : Text} {tree : NameTree (n + 1)}
    (hn : tree.Named n) {p : Property} (hp : p ∈ tree.properties n fixedComponents) :
    ∃ components, components.length = n + 1 ∧ (∀ c ∈ components, IsComponent c) ∧
      p.fqn = fixedComponents ++ joined components := by
  induction n generalizing fixedComponents with
  | zero =>
    cases tree with
    | none => cases hp
    | some entries =>
      obtain ⟨e, he, hp⟩ := List.mem_flatMap.mp hp
      rw [List.mem_singleton.mp hp]
      exact ⟨[nameOf e.1], rfl, by simpa using hn e he, by simp [joined]⟩
  | succ n ih =>
    cases tree with
    | none => cases hp
    | some entries =>
      obtain ⟨e, he, hp⟩ := List.mem_flatMap.mp hp
      obtain ⟨hname, hbelow⟩ := hn e he
      obtain ⟨components, hl, hc, hfqn⟩ := ih hbelow hp
      refine ⟨nameOf e.1 :: components, by rw [List.length_cons, hl], ?_, by simp [joined, hfqn]⟩
      intro c hmem
      rcases List.mem_cons.mp hmem with rfl | hmem
      · exact hname
      · exact hc c hmem

/-- The names of the fields of a property. -/
def fieldNames : List Text := ["I", "F1", "F2", "F3", "eventId", "timeStamp"].map String.toList

theorem isComponent_of_mem_fieldNames : ∀ f ∈ fieldNames, IsComponent f := by
  unfold IsComponent
  decide

theorem name_of_mem_offered {L : Libraries} {name : Text} {length : ℕ} {doocsType : ℤ}
    {flags : AccessModeFlags} {info : DoocsBackendRegisterInfo}
    (h : info ∈ DoocsBackendRegisterCatalogue.offered L name length doocsType flags) :
    info.name = L.path name ∨ ∃ f ∈ fieldNames, info.name = L.path (name ++ '/' :: f) := by
  have field (f : Text) (hf : f ∈ fieldNames) (hi : info.name = L.path (name ++ '/' :: f)) :
      info.name = L.path name ∨ ∃ f ∈ fieldNames, info.name = L.path (name ++ '/' :: f) :=
    .inr ⟨f, hf, hi⟩
  rcases List.mem_append.mp h with h | h
  · unfold DoocsBackendRegisterCatalogue.propertyRegisters at h
    cases ht : L.type doocsType
    case ifff =>
      simp only [ht, List.mem_cons, List.not_mem_nil, or_false] at h
      rcases h with rfl | rfl | rfl | rfl
      · exact field "I".toList (by decide) rfl
      · exact field "F1".toList (by decide) rfl
      · exact field "F2".toList (by decide) rfl
      · exact field "F3".toList (by decide) rfl
    all_goals
      simp only [ht, List.mem_singleton] at h
      exact .inl (by rw [h])
  · simp only [List.mem_cons, List.not_mem_nil, or_false] at h
    rcases h with rfl | rfl
    · exact field "eventId".toList (by decide) rfl
    · exact field "timeStamp".toList (by decide) rfl

section Path
variable {L : Libraries} {components : List Text}

/-- Paths of components are normal already. -/
theorem parentOf_path_joined (hroot : L.path [] = ['/']) (h : ∀ c ∈ components, IsComponent c) :
    parentOf (L.path (joined components)) = joined components := by
  induction components using List.reverseRecOn with
  | nil =>
    change parentOf (L.path []) = []
    rw [hroot]
    rfl
  | append_singleton cs c ih =>
    have hc := h c (by simp)
    rw [joined_concat, L.path_child _ c hc.1 hc.2, ih fun d hd => h d (by simp [hd]), parentOf,
      if_neg]
    intro heq
    have hlen := congrArg List.length heq
    have hpos := List.length_pos_iff.mpr hc.1
    simp only [List.length_append, List.length_cons, List.length_nil] at hlen
    omega

theorem path_joined_child (hroot : L.path [] = ['/']) (h : ∀ c ∈ components, IsComponent c)
    {c : Text} (hc : IsComponent c) :
    L.path (joined components ++ '/' :: c) = joined components ++ '/' :: c := by
  rw [L.path_child _ c hc.1 hc.2, parentOf_path_joined hroot h]

theorem path_joined (hroot : L.path [] = ['/']) (h : ∀ c ∈ components, IsComponent c)
    (hne : components ≠ []) : L.path (joined components) = joined components := by
  rcases List.eq_nil_or_concat components with hnil | ⟨cs, c, rfl⟩
  · exact absurd hnil hne
  · rw [List.concat_eq_append] at h ⊢
    rw [joined_concat]
    exact path_joined_child hroot (fun d hd => h d (by simp [hd])) (h c (by simp))

end Path

/-- Every register which is created for a property leads back to the property, with the name of the
field if it is one. -/
theorem registers_resolve {L : Libraries} (hroot : L.path [] = ['/']) (M : ImageLayout)
    (a : ServerAddress) (tree : NameTree (CatalogueFetcher.levelsBelow a.text + 1))
    (hn : tree.Named _) (p : Property)
    (hp : p ∈ tree.properties (CatalogueFetcher.levelsBelow a.text) a.text)
    (info : DoocsBackendRegisterInfo) (hinfo : info ∈ (p.call L M a.text).offered L) :
    (info.name = L.path (p.call L M a.text).name ∧
        splitPath (a.text ++ info.name) = .ok (p.fqn, [])) ∨
      ∃ field ∈ fieldNames, info.name = L.path ((p.call L M a.text).name ++ '/' :: field) ∧
        splitPath (a.text ++ info.name) = .ok (p.fqn, field) := by
  obtain ⟨components, hl, hc, hfqn⟩ := fqn_of_mem_properties hn hp
  have hlevels := ServerAddress.levelsBelow_text (a := a)
  have hname : (p.call L M a.text).name = joined components := by
    change p.fqn.drop a.text.length = _
    rw [hfqn, List.drop_left]
  have hne : components ≠ [] := List.length_pos_iff.mp (by omega)
  rcases name_of_mem_offered hinfo with hi | ⟨field, hf, hi⟩
  · refine .inl ⟨hi, ?_⟩
    rw [hi, hname, path_joined hroot hc hne, hfqn]
    exact ServerAddress.splitPath_property hc (by omega)
  · refine .inr ⟨field, hf, hi, ?_⟩
    have hfield := isComponent_of_mem_fieldNames field hf
    rw [hi, hname, path_joined_child hroot hc hfield, hfqn]
    exact ServerAddress.splitPath_field hc (by omega) hfield

theorem isComponent_singleton {c : Char} (h : c ≠ '/') : IsComponent [c] :=
  ⟨List.cons_ne_nil c [], by simpa using h.symm⟩

theorem named_chain {entry : Text} (h : IsComponent (nameOf entry)) (answer : PropertyAnswer)
    (n : ℕ) : NameTree.Named n (CatalogueFetcher.chain entry answer n) := by
  induction n with
  | zero =>
    intro e he
    rw [List.mem_singleton.mp he]
    exact h
  | succ n ih =>
    intro e he
    rw [List.mem_singleton.mp he]
    exact ⟨h, ih⟩

theorem isComponent_facility : IsComponent ['F'] := isComponent_singleton (by decide)

theorem isComponent_entry : IsComponent (nameOf "P comment".toList) :=
  isComponent_singleton (c := 'P') (by decide)

theorem notMem_localhost : ∀ h ∈ some "localhost".toList, '/' ∉ h := by decide

theorem further_device : ∀ c ∈ [['D']], IsComponent c := by
  simpa using isComponent_singleton (by decide)

/-- The device `doocs://localhost/F/D`. -/
def deviceAddress : ServerAddress where
  host := some "localhost".toList
  facility := ['F']
  further := [['D']]
  host_valid := notMem_localhost
  facility_valid := isComponent_facility
  further_valid := further_device
  length_le := Nat.le_succ 1

/-- The event ids of the property `P` in the location `P`. -/
theorem registers_resolve_eventId : ∃ field,
    splitPath (deviceAddress.text ++ "/P/P/eventId".toList) =
      .ok ("doocs://localhost/F/D/P/P".toList, field) := by
  have h := registers_resolve (L := plainLibraries.toLibraries) rfl Accessor.plainImageLayout
    deviceAddress (CatalogueFetcher.chain "P comment".toList CatalogueFetcher.intAnswer _)
    (named_chain isComponent_entry _ _)
    ⟨"doocs://localhost/F/D/P/P".toList, ['P'], CatalogueFetcher.intAnswer⟩ (by decide)
    (DoocsBackendRegisterCatalogue.virtualRegister plainLibraries.toLibraries "/P/P".toList
      "eventId".toList {}) (by decide)
  rcases h with ⟨-, h⟩ | ⟨field, -, -, h⟩
  · exact ⟨[], h⟩
  · exact ⟨field, h⟩

end DoocsBackend.Catalogue
