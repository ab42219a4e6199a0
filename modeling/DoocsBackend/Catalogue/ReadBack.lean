import DoocsBackend.Catalogue.Numbers
import DoocsBackend.Catalogue.Resolve
import DoocsBackend.Catalogue.Algebra
import DoocsBackend.Catalogue.RoundTrip

/-! # What the cache file keeps

Reading the file calls `addProperty` once for each register. The calls for the registers of a property
repeat the call the property was registered by. Those for the virtual registers find their register
there and add two more below it.
-/
namespace DoocsBackend.Catalogue
open DoocsBackendRegisterCatalogue FirstWins
open Accessor (ImageLayout)

/-! ## The calls -/

/-- The call of `addProperty` the reader makes for a register. -/
def readCall (L : CacheLibraries) (r : DoocsBackendRegisterInfo) : PropertyCall where
  name := propertyName L ⟨r.name, r.length, r.accessModeFlags, r.doocsTypeId⟩
  length := r.length
  doocsType := r.doocsTypeId
  flags := r.accessModeFlags

/-- The numbers are `int`s. -/
structure PropertyCall.IsNumbered (p : PropertyCall) : Prop where
  length_lt : p.length < 2 ^ 31
  le_type : -2 ^ 31 ≤ p.doocsType
  type_lt : p.doocsType < 2 ^ 31

section Calls
variable {L : CacheLibraries} {c : DoocsBackendRegisterCatalogue} {r : DoocsBackendRegisterInfo}

theorem readNode_eq_addProperty (hlength : r.length < 2 ^ 31) (hlow : -2 ^ 31 ≤ r.doocsTypeId)
    (hhigh : r.doocsTypeId < 2 ^ 31) :
    readNode L c (addRegInfoXmlNode L r) = .ok (c.addProperty L.toLibraries (readCall L r).name
      (readCall L r).length (readCall L r).doocsType (readCall L r).flags) := by
  rw [readNode_addRegInfoXmlNode, convertToUint_toText (by omega), convertToInt_toText hlow hhigh]
  rfl

/-- The file of a catalogue is read without an exception. -/
theorem readCatalogue_eq_fill (h : ∀ r ∈ c.registers, r.length < 2 ^ 31 ∧
    -2 ^ 31 ≤ r.doocsTypeId ∧ r.doocsTypeId < 2 ^ 31) :
    readCatalogue L (saveCatalogue L c) =
      .ok (fill L.toLibraries (c.registers.map (readCall L))) := by
  have hnodes : ∀ (rs : List DoocsBackendRegisterInfo) (d : DoocsBackendRegisterCatalogue),
      (∀ r ∈ rs, r.length < 2 ^ 31 ∧ -2 ^ 31 ≤ r.doocsTypeId ∧ r.doocsTypeId < 2 ^ 31) →
      (rs.map (addRegInfoXmlNode L)).foldlM (readNode L) d =
        .ok (addAll L.toLibraries d (rs.map (readCall L))) := by
    intro rs
    induction rs with
    | nil => exact fun d _ => rfl
    | cons r rs ih =>
      intro d hrs
      obtain ⟨hlength, hlow, hhigh⟩ := hrs r List.mem_cons_self
      rw [List.map_cons, List.foldlM_cons, readNode_eq_addProperty hlength hlow hhigh, ok_bind,
        ih _ fun r hr => hrs r (List.mem_cons_of_mem _ hr)]
      rfl
  rw [readCatalogue_saveCatalogue]
  exact hnodes c.registers .empty h

end Calls

/-! ## Names -/

section Names
variable {L : Libraries} {calls : List PropertyCall} {p q : PropertyCall} {field other : Text}

theorem append_field_inj {s t : Text} (hfield : IsComponent field) (hother : IsComponent other)
    (h : s ++ '/' :: field = t ++ '/' :: other) : s = t ∧ field = other := by
  have hlast := congrArg afterLast h
  have hfront := congrArg beforeLast h
  rw [afterLast_append hfield.2, afterLast_append hother.2] at hlast
  rw [beforeLast_append hfield.2, beforeLast_append hother.2] at hfront
  exact ⟨hfront, hlast⟩

/-- No property lies below another one. -/
def Flat (L : Libraries) (calls : List PropertyCall) : Prop :=
  ∀ p ∈ calls, ∀ q ∈ calls, ¬ parentOf (L.path p.name) ++ ['/'] <+: L.path q.name

theorem Flat.parentOf_path (h : Flat L calls) (hp : p ∈ calls) :
    parentOf (L.path p.name) = L.path p.name := by
  rw [parentOf, if_neg]
  intro hroot
  apply h p hp p hp
  rw [hroot]
  exact List.prefix_rfl

theorem Flat.path_field (h : Flat L calls) (hp : p ∈ calls) (hfield : IsComponent field) :
    L.path (p.name ++ '/' :: field) = L.path p.name ++ '/' :: field := by
  rw [L.path_child p.name field hfield.1 hfield.2, h.parentOf_path hp]

theorem Flat.path_ne (h : Flat L calls) (hp : p ∈ calls) (hq : q ∈ calls) (s : Text) :
    L.path q.name ≠ L.path p.name ++ '/' :: s := by
  intro heq
  apply h p hp q hq
  rw [heq, h.parentOf_path hp]
  exact ⟨s, by simp⟩

/-- A register further down. -/
theorem Flat.path_field_field (h : Flat L calls) (hp : p ∈ calls) (hfield : IsComponent field)
    (hother : IsComponent other) :
    L.path (L.path (p.name ++ '/' :: field) ++ '/' :: other) =
      (L.path p.name ++ '/' :: field) ++ '/' :: other := by
  rw [L.path_child _ other hother.1 hother.2, L.path_path, h.path_field hp hfield, parentOf, if_neg]
  intro hroot
  have hlength := congrArg List.length hroot
  have hpos := List.length_pos_iff.mpr hfield.1
  simp only [List.length_append, List.length_cons, List.length_nil] at hlength
  omega

end Names

/-! ## The registers of a property -/

/-- The fields of the virtual registers. -/
def virtualFields : List Text := ["eventId".toList, "timeStamp".toList]

/-- The virtual registers below a register. -/
def virtualRegisters (L : Libraries) (name : Text) (flags : AccessModeFlags) :
    List DoocsBackendRegisterInfo :=
  virtualFields.map fun field => virtualRegister L name field flags

section Registers
variable {L : CacheLibraries} {calls : List PropertyCall} {p : PropertyCall} {name field : Text}
  {flags : AccessModeFlags} {r : DoocsBackendRegisterInfo}

theorem offered_eq : p.offered L.toLibraries =
    propertyRegisters L.toLibraries p.name p.length p.doocsType p.flags ++
      virtualRegisters L.toLibraries p.name p.flags := rfl

theorem isComponent_virtual (h : field ∈ virtualFields) : IsComponent field := by
  have hfields : ∀ name ∈ virtualFields, name ∈ fieldNames := by decide
  exact isComponent_of_mem_fieldNames field (hfields field h)

theorem endsWith_ifff (s : Text) {pattern : Text} (h : pattern ∈ ifffPatterns) :
    (endsWith (s ++ pattern) ifffPatterns).2 = pattern := by
  fin_cases h <;> simp [endsWith, ifffPatterns, List.isSuffixOf, List.isPrefixOf, List.find?]

theorem component_of_mem_ifffPatterns {pattern : Text} (h : pattern ∈ ifffPatterns) :
    ∃ field, IsComponent field ∧ pattern = '/' :: field := by
  simp only [ifffPatterns, List.mem_cons, List.not_mem_nil, or_false] at h
  rcases h with rfl | rfl | rfl | rfl
  · exact ⟨"I".toList, by unfold IsComponent; decide, rfl⟩
  · exact ⟨"F1".toList, by unfold IsComponent; decide, rfl⟩
  · exact ⟨"F2".toList, by unfold IsComponent; decide, rfl⟩
  · exact ⟨"F3".toList, by unfold IsComponent; decide, rfl⟩

/-- The name of a field leads back to the property. -/
theorem propertyName_ifff {length : ℕ} {doocsType : ℤ} (htype : L.type doocsType = .ifff)
    (s : Text) {pattern : Text} (h : pattern ∈ ifffPatterns) :
    propertyName L ⟨s ++ pattern, length, flags, doocsType⟩ = s := by
  rw [propertyName, if_pos htype, endsWith_ifff s h]
  simp

/-- Only the path of a property matters. -/
theorem offered_congr {s t : Text} (h : L.path s = L.path t) (length : ℕ) (doocsType : ℤ) :
    offered L.toLibraries s length doocsType flags =
      offered L.toLibraries t length doocsType flags := by
  have hchild : ∀ f : Text, f ≠ [] → '/' ∉ f → L.path (s ++ '/' :: f) = L.path (t ++ '/' :: f) := by
    intro f hf hsep
    rw [L.path_child _ f hf hsep, L.path_child _ f hf hsep, h]
  have hI : L.path (s ++ "/I".toList) = L.path (t ++ "/I".toList) :=
    hchild "I".toList (by decide) (by decide)
  have hF1 : L.path (s ++ "/F1".toList) = L.path (t ++ "/F1".toList) :=
    hchild "F1".toList (by decide) (by decide)
  have hF2 : L.path (s ++ "/F2".toList) = L.path (t ++ "/F2".toList) :=
    hchild "F2".toList (by decide) (by decide)
  have hF3 : L.path (s ++ "/F3".toList) = L.path (t ++ "/F3".toList) :=
    hchild "F3".toList (by decide) (by decide)
  have heventId := hchild "eventId".toList (by decide) (by decide)
  have htimeStamp := hchild "timeStamp".toList (by decide) (by decide)
  simp only [offered, propertyRegisters, virtualRegister, h, hI, hF1, hF2, hF3, heventId, htimeStamp]

theorem length_of_length (length : ℕ) :
    (if (if length = 0 then 1 else length) = 0 then 1 else if length = 0 then 1 else length) =
      if length = 0 then 1 else length := by
  split <;> simp_all

/-- What a register has from the call it is offered by. -/
structure Stems (L : Libraries) (p : PropertyCall) (r : DoocsBackendRegisterInfo) : Prop where
  doocsType : r.doocsTypeId = p.doocsType
  flags : r.accessModeFlags = p.flags
  length : ∀ name, propertyRegisters L name r.length p.doocsType p.flags =
    propertyRegisters L name p.length p.doocsType p.flags
  name : if L.type p.doocsType = .ifff then ∃ pattern ∈ ifffPatterns, r.name = L.path (p.name ++ pattern)
    else r.name = L.path p.name

theorem stems_of_mem {L : Libraries}
    (hr : r ∈ propertyRegisters L p.name p.length p.doocsType p.flags) : Stems L p r := by
  have hlength := length_of_length p.length
  unfold propertyRegisters at hr
  cases htype : L.type p.doocsType
  case ifff =>
    simp only [htype, List.mem_cons, List.not_mem_nil, or_false] at hr
    have hlengths : ∀ name, propertyRegisters L name (if p.length = 0 then 1 else p.length)
        p.doocsType p.flags = propertyRegisters L name p.length p.doocsType p.flags := by
      intro name
      simp only [propertyRegisters, htype, hlength]
    rcases hr with rfl | rfl | rfl | rfl
    · exact ⟨rfl, rfl, hlengths, by rw [if_pos htype]; exact ⟨_, by decide, rfl⟩⟩
    · exact ⟨rfl, rfl, hlengths, by rw [if_pos htype]; exact ⟨_, by decide, rfl⟩⟩
    · exact ⟨rfl, rfl, hlengths, by rw [if_pos htype]; exact ⟨_, by decide, rfl⟩⟩
    · exact ⟨rfl, rfl, hlengths, by rw [if_pos htype]; exact ⟨_, by decide, rfl⟩⟩
  all_goals
    simp only [htype, List.mem_singleton] at hr
    subst hr
    constructor
    · rfl
    · rfl
    · intro name
      simp [propertyRegisters, htype, hlength]
    · rw [if_neg (by simp [htype])]

/-- The reader repeats the call a register of a property is due to. -/
theorem offered_readCall (h : Flat L.toLibraries calls) (hp : p ∈ calls)
    (hr : r ∈ propertyRegisters L.toLibraries p.name p.length p.doocsType p.flags) :
    (readCall L r).offered L.toLibraries = p.offered L.toLibraries := by
  obtain ⟨hdoocsType, hflags, hlength, hname⟩ := stems_of_mem hr
  have hpath : L.path (readCall L r).name = L.path p.name := by
    by_cases htype : L.type p.doocsType = .ifff
    · rw [if_pos htype] at hname
      obtain ⟨pattern, hpattern, hname⟩ := hname
      obtain ⟨field, hfield, rfl⟩ := component_of_mem_ifffPatterns hpattern
      rw [h.path_field hp hfield] at hname
      have hread : (readCall L r).name = L.path p.name := by
        rw [readCall, hname, propertyName_ifff (by rw [hdoocsType, htype]) _ hpattern]
      rw [hread, L.path_path]
    · rw [if_neg htype] at hname
      have hread : (readCall L r).name = L.path p.name := by
        rw [readCall, propertyName, if_neg (by rwa [hdoocsType]), hname]
      rw [hread, L.path_path]
  have hoffered : (readCall L r).offered L.toLibraries =
      offered L.toLibraries p.name r.length p.doocsType p.flags := by
    rw [PropertyCall.offered, offered_congr hpath, ← hdoocsType, ← hflags]
    rfl
  rw [hoffered, offered, hlength]
  rfl

/-- The reader takes a virtual register for a property. -/
theorem offered_readCall_virtual :
    (readCall L (virtualRegister L.toLibraries name field flags)).offered L.toLibraries =
      { name := L.path (L.path (name ++ '/' :: field)), length := 1, dataDescriptor := floatingPoint,
        accessModeFlags := flags, doocsTypeId := L.id .long } ::
        virtualRegisters L.toLibraries (L.path (name ++ '/' :: field)) flags := by
  have htype : L.type (L.id .long) = .long := L.type_id .long (by decide)
  have hname : (readCall L (virtualRegister L.toLibraries name field flags)).name =
      L.path (name ++ '/' :: field) := by
    rw [readCall, virtualRegister, propertyName, if_neg (by simp [htype])]
  rw [offered_eq, hname]
  simp [propertyRegisters, readCall, virtualRegister, htype]

end Registers

/-! ## Reading a catalogue which was filled by calls -/

/-- The name of a virtual register of one of the properties. -/
def IsVirtual (L : Libraries) (calls : List PropertyCall) (r : DoocsBackendRegisterInfo) : Prop :=
  ∃ p ∈ calls, ∃ field ∈ virtualFields, r.name = L.path (p.name ++ '/' :: field)

/-- A virtual register below a virtual register. -/
def Surplus (L : Libraries) (calls : List PropertyCall) (registers : List DoocsBackendRegisterInfo)
    (info : DoocsBackendRegisterInfo) : Prop :=
  ∃ r ∈ registers, IsVirtual L calls r ∧ info ∈ virtualRegisters L r.name r.accessModeFlags

/-- What follows the path of a property in the names of its registers. -/
def suffixes (type : DoocsType) : List Text :=
  (if type = .ifff then ifffPatterns else [[]]) ++ virtualFields.map ('/' :: ·)

theorem nodup_suffixes (type : DoocsType) : (suffixes type).Nodup := by
  unfold suffixes
  split <;> decide

section Fill
variable {L : CacheLibraries} {calls done : List PropertyCall} {p q : PropertyCall}
  {info r : DoocsBackendRegisterInfo} {field other : Text} {c d : List DoocsBackendRegisterInfo}

theorem names_propertyRegisters {L : Libraries} (p : PropertyCall) :
    (propertyRegisters L p.name p.length p.doocsType p.flags).map (·.name) =
      if L.type p.doocsType = .ifff then ifffPatterns.map fun pattern => L.path (p.name ++ pattern)
      else [L.path p.name] := by
  unfold propertyRegisters
  cases L.type p.doocsType <;> rfl

theorem names_offered (h : Flat L.toLibraries calls) (hp : p ∈ calls) :
    (p.offered L.toLibraries).map (·.name) =
      (suffixes (L.type p.doocsType)).map (L.path p.name ++ ·) := by
  have hfields : ifffPatterns.map (fun pattern => L.path (p.name ++ pattern)) =
      ifffPatterns.map (L.path p.name ++ ·) := by
    apply List.map_congr_left
    intro pattern hpattern
    obtain ⟨field, hfield, rfl⟩ := component_of_mem_ifffPatterns hpattern
    exact h.path_field hp hfield
  have hvirtual : (virtualRegisters L.toLibraries p.name p.flags).map (·.name) =
      (virtualFields.map ('/' :: ·)).map (L.path p.name ++ ·) := by
    rw [virtualRegisters, List.map_map, List.map_map]
    apply List.map_congr_left
    intro field hfield
    exact h.path_field hp (isComponent_virtual hfield)
  rw [offered_eq, List.map_append, names_propertyRegisters, hvirtual, hfields, suffixes,
    List.map_append]
  split <;> simp

theorem nodup_offered (h : Flat L.toLibraries calls) (hp : p ∈ calls) :
    ((p.offered L.toLibraries).map (·.name)).Nodup := by
  rw [names_offered h hp]
  exact (nodup_suffixes _).map (List.append_right_injective _)

theorem name_cases (h : Flat L.toLibraries calls) (hp : p ∈ calls)
    (hinfo : info ∈ p.offered L.toLibraries) :
    info.name = L.path p.name ∨
      ∃ field ∈ fieldNames, info.name = L.path p.name ++ '/' :: field := by
  rcases name_of_mem_offered hinfo with hname | ⟨field, hfield, hname⟩
  · exact .inl hname
  · rw [h.path_field hp (isComponent_of_mem_fieldNames field hfield)] at hname
    exact .inr ⟨field, hfield, hname⟩

/-- No name which is offered lies two levels below a property. -/
theorem name_ne_of_offered (h : Flat L.toLibraries calls) (hp : p ∈ calls) (hq : q ∈ calls)
    (hinfo : info ∈ q.offered L.toLibraries) (hother : IsComponent other) :
    info.name ≠ (L.path p.name ++ '/' :: field) ++ '/' :: other := by
  rcases name_cases h hq hinfo with hname | ⟨last, hlast, hname⟩
  · rw [hname]
    intro heq
    exact h.path_ne hp hq (field ++ '/' :: other) (by simpa using heq)
  · rw [hname]
    intro heq
    have hfront := (append_field_inj (isComponent_of_mem_fieldNames last hlast) hother heq).1
    exact h.path_ne hp hq field hfront

/-- The name of a surplus register. -/
theorem name_of_surplus (h : Flat L.toLibraries calls)
    (hinfo : Surplus L.toLibraries calls c info) :
    ∃ r ∈ c, ∃ p ∈ calls, ∃ field ∈ virtualFields, ∃ other ∈ virtualFields,
      r.name = L.path p.name ++ '/' :: field ∧ info.name = r.name ++ '/' :: other := by
  obtain ⟨r, hr, ⟨p, hp, field, hfield, hname⟩, hinfo⟩ := hinfo
  obtain ⟨other, hother, rfl⟩ := List.mem_map.mp hinfo
  refine ⟨r, hr, p, hp, field, hfield, other, hother, ?_, ?_⟩
  · rw [hname, h.path_field hp (isComponent_virtual hfield)]
  · rw [virtualRegister, hname, h.path_field_field hp (isComponent_virtual hfield)
      (isComponent_virtual hother), h.path_field hp (isComponent_virtual hfield)]

/-- A surplus register is not taken for one which is offered. -/
theorem name_ne_of_surplus (h : Flat L.toLibraries calls) (hq : q ∈ calls)
    (hinfo : Surplus L.toLibraries calls c info) (hr : r ∈ q.offered L.toLibraries) :
    r.name ≠ info.name := by
  obtain ⟨v, -, p, hp, field, -, other, hother, hv, hname⟩ := name_of_surplus h hinfo
  rw [hname, hv]
  exact name_ne_of_offered h hp hq hr (isComponent_virtual hother)

/-- The registers read from the file of others: these, and the surplus ones. -/
def Reads (L : Libraries) (calls : List PropertyCall) (c d : List DoocsBackendRegisterInfo) : Prop :=
  ∀ info, info ∈ d ↔ info ∈ c ∨ Surplus L calls c info

theorem exists_call_of_mem_fill (hr : r ∈ (fill L.toLibraries done).registers) :
    ∃ q ∈ done, r ∈ q.offered L.toLibraries := by
  rw [fill_registers] at hr
  exact List.mem_flatMap.mp ((mem_or_offered_of_mem_insertAll hr).resolve_left List.not_mem_nil)

/-- The reader finds the same names taken. -/
theorem Reads.has_eq (h : Flat L.toLibraries calls) (hreads : Reads L.toLibraries calls c d)
    (hp : p ∈ calls) (hinfo : info ∈ p.offered L.toLibraries) :
    has DoocsBackendRegisterInfo.name d info.name =
      has DoocsBackendRegisterInfo.name c info.name := by
  rw [Bool.eq_iff_iff, has_iff, has_iff]
  constructor
  · rintro ⟨r, hr, hname⟩
    rcases (hreads r).mp hr with hr | hr
    · exact ⟨r, hr, hname⟩
    · exact absurd hname.symm (name_ne_of_surplus h hp hr hinfo)
  · rintro ⟨r, hr, hname⟩
    exact ⟨r, (hreads r).mpr (.inl hr), hname⟩

/-- The registers of a call which are new. -/
def newOf (c infos : List DoocsBackendRegisterInfo) :
    List DoocsBackendRegisterInfo :=
  infos.filter fun info => !has DoocsBackendRegisterInfo.name c info.name

theorem mem_newOf : info ∈ newOf c d ↔
    info ∈ d ∧ has DoocsBackendRegisterInfo.name c info.name = false := by
  simp [newOf]

/-- Two properties which share a name have the same path. -/
theorem path_eq_of_name_eq (h : Flat L.toLibraries calls) (hp : p ∈ calls) (hq : q ∈ calls)
    (hinfo : info ∈ p.offered L.toLibraries) (hr : r ∈ q.offered L.toLibraries)
    (hname : r.name = info.name) : L.path q.name = L.path p.name := by
  rcases name_cases h hp hinfo with hpn | ⟨f, hf, hpn⟩
  · rcases name_cases h hq hr with hqn | ⟨g, hg, hqn⟩
    · rw [← hqn, hname, hpn]
    · exact absurd (hpn.symm.trans (hname.symm.trans hqn)) (h.path_ne hq hp g)
  · rcases name_cases h hq hr with hqn | ⟨g, hg, hqn⟩
    · exact absurd (hqn.symm.trans (hname.trans hpn)) (h.path_ne hp hq f)
    · exact (append_field_inj (isComponent_of_mem_fieldNames g hg) (isComponent_of_mem_fieldNames f hf)
        (hqn.symm.trans (hname.trans hpn))).1

/-- If the virtual registers of a call are new, all its registers are. -/
theorem new_of_virtual_new (h : Flat L.toLibraries calls) (hdone : done ⊆ calls) (hp : p ∈ calls)
    (hr : r ∈ virtualRegisters L.toLibraries p.name p.flags)
    (hnew : has DoocsBackendRegisterInfo.name (fill L.toLibraries done).registers r.name = false)
    (hinfo : info ∈ p.offered L.toLibraries) :
    has DoocsBackendRegisterInfo.name (fill L.toLibraries done).registers info.name = false := by
  by_contra htaken
  rw [Bool.not_eq_false, has_iff] at htaken
  obtain ⟨x, hx, hname⟩ := htaken
  obtain ⟨q, hq, hx⟩ := exists_call_of_mem_fill hx
  have hpath : L.path q.name = L.path p.name := path_eq_of_name_eq h hp (hdone hq) hinfo hx hname
  obtain ⟨field, hfield, rfl⟩ := List.mem_map.mp hr
  have hother : virtualRegister L.toLibraries q.name field q.flags ∈ q.offered L.toLibraries := by
    rw [offered_eq]
    exact List.mem_append_right _ (List.mem_map_of_mem hfield)
  have hsame : (virtualRegister L.toLibraries q.name field q.flags).name =
      (virtualRegister L.toLibraries p.name field p.flags).name := by
    simp only [virtualRegister, h.path_field hp (isComponent_virtual hfield),
      h.path_field (hdone hq) (isComponent_virtual hfield), hpath]
  have hhas := has_fill_of_offered hq hother
  rw [hsame, hnew] at hhas
  cases hhas

theorem propertyRegisters_ne_nil {L : Libraries} (p : PropertyCall) :
    propertyRegisters L p.name p.length p.doocsType p.flags ≠ [] := by
  intro h
  have hnames := names_propertyRegisters (L := L) p
  rw [h] at hnames
  split at hnames <;> cases hnames

/-- What the reader makes of the registers of a property: the new registers of its call. -/
theorem mem_read_property (h : Flat L.toLibraries calls) (hdone : done ⊆ calls) (hp : p ∈ calls)
    (hreads : Reads L.toLibraries calls (fill L.toLibraries done).registers d) :
    info ∈ insertAll DoocsBackendRegisterInfo.name d
        ((newOf (fill L.toLibraries done).registers
          (propertyRegisters L.toLibraries p.name p.length p.doocsType p.flags)).flatMap
            fun r => (readCall L r).offered L.toLibraries) ↔
      info ∈ d ∨ info ∈ newOf (fill L.toLibraries done).registers (p.offered L.toLibraries) := by
  cases hnew : newOf (fill L.toLibraries done).registers
      (propertyRegisters L.toLibraries p.name p.length p.doocsType p.flags) with
  | nil =>
    have hnone : info ∉ newOf (fill L.toLibraries done).registers (p.offered L.toLibraries) := by
      intro hinfo
      obtain ⟨hoffered, hfresh⟩ := mem_newOf.mp hinfo
      have hproperty : ∀ r ∈ propertyRegisters L.toLibraries p.name p.length p.doocsType p.flags,
          has DoocsBackendRegisterInfo.name (fill L.toLibraries done).registers r.name ≠ false := by
        intro r hr hfree
        have hmem := mem_newOf.mpr ⟨hr, hfree⟩
        rw [hnew] at hmem
        cases hmem
      rw [offered_eq] at hoffered
      rcases List.mem_append.mp hoffered with hinfo | hinfo
      · exact hproperty info hinfo hfresh
      · obtain ⟨r, hr⟩ := List.exists_mem_of_ne_nil _ (propertyRegisters_ne_nil (L := L.toLibraries) p)
        apply hproperty r hr
        exact new_of_virtual_new h hdone hp hinfo hfresh (by rw [offered_eq]; simp [hr])
    rw [List.flatMap_nil]
    exact (or_iff_left hnone).symm
  | cons r rest =>
    have hcall : ∀ x ∈ r :: rest, (readCall L x).offered L.toLibraries = p.offered L.toLibraries := by
      intro x hx
      rw [← hnew] at hx
      exact offered_readCall h hp (mem_newOf.mp hx).1
    have hagain : insertAll DoocsBackendRegisterInfo.name
        (insertAll DoocsBackendRegisterInfo.name d (p.offered L.toLibraries))
          (rest.flatMap fun r => (readCall L r).offered L.toLibraries) =
        insertAll DoocsBackendRegisterInfo.name d (p.offered L.toLibraries) := by
      apply insertAll_of_has
      intro y hy
      obtain ⟨x, hx, hy⟩ := List.mem_flatMap.mp hy
      rw [hcall x (List.mem_cons_of_mem _ hx)] at hy
      exact has_insertAll_of_offered hy
    rw [List.flatMap_cons, hcall r List.mem_cons_self, insertAll_append, hagain,
      insertAll_eq_append (nodup_offered h hp), List.mem_append, List.mem_filter, mem_newOf]
    apply or_congr_right
    apply and_congr_right
    intro hinfo
    rw [hreads.has_eq h hp hinfo]
    simp

theorem name_of_mem_virtualRegisters (h : Flat L.toLibraries calls) (hp : p ∈ calls)
    (hr : r ∈ virtualRegisters L.toLibraries p.name p.flags) :
    ∃ field ∈ virtualFields, r.name = L.path p.name ++ '/' :: field ∧
      r = virtualRegister L.toLibraries p.name field p.flags := by
  obtain ⟨field, hfield, rfl⟩ := List.mem_map.mp hr
  exact ⟨field, hfield, h.path_field hp (isComponent_virtual hfield), rfl⟩

theorem isVirtual_of_mem (hp : p ∈ calls) (hr : r ∈ virtualRegisters L.toLibraries p.name p.flags) :
    IsVirtual L.toLibraries calls r := by
  obtain ⟨field, hfield, rfl⟩ := List.mem_map.mp hr
  exact ⟨p, hp, field, hfield, rfl⟩

/-- The name of a register below a virtual register of a call. -/
theorem name_of_mem_below (h : Flat L.toLibraries calls) (hp : p ∈ calls)
    (hr : r ∈ virtualRegisters L.toLibraries p.name p.flags)
    (hinfo : info ∈ virtualRegisters L.toLibraries r.name r.accessModeFlags) :
    ∃ field ∈ virtualFields, ∃ other ∈ virtualFields, r.name = L.path p.name ++ '/' :: field ∧
      info.name = (L.path p.name ++ '/' :: field) ++ '/' :: other ∧
      r = virtualRegister L.toLibraries p.name field p.flags ∧
      info = virtualRegister L.toLibraries r.name other r.accessModeFlags := by
  obtain ⟨field, hfield, hname, heq⟩ := name_of_mem_virtualRegisters h hp hr
  obtain ⟨other, hother, rfl⟩ := List.mem_map.mp hinfo
  refine ⟨field, hfield, other, hother, hname, ?_, heq, rfl⟩
  rw [virtualRegister, heq]
  exact h.path_field_field hp (isComponent_virtual hfield) (isComponent_virtual hother)

/-- Below a new virtual register nothing has been read. -/
theorem below_is_new (h : Flat L.toLibraries calls) (hdone : done ⊆ calls) (hp : p ∈ calls)
    (hreads : Reads L.toLibraries calls (fill L.toLibraries done).registers d)
    {e : List DoocsBackendRegisterInfo}
    (he : ∀ info, info ∈ e ↔
      info ∈ d ∨ info ∈ newOf (fill L.toLibraries done).registers (p.offered L.toLibraries))
    (hr : r ∈ newOf (fill L.toLibraries done).registers
      (virtualRegisters L.toLibraries p.name p.flags))
    (hinfo : info ∈ virtualRegisters L.toLibraries r.name r.accessModeFlags) :
    has DoocsBackendRegisterInfo.name e info.name = false := by
  obtain ⟨hvirtual, hfresh⟩ := mem_newOf.mp hr
  obtain ⟨field, hfield, other, hother, hname, hbelow, -, -⟩ := name_of_mem_below h hp hvirtual hinfo
  have hcomponent := isComponent_virtual hother
  by_contra htaken
  rw [Bool.not_eq_false, has_iff] at htaken
  obtain ⟨x, hx, hxname⟩ := htaken
  rw [hbelow] at hxname
  rcases (he x).mp hx with hx | hx
  · rcases (hreads x).mp hx with hx | hx
    · obtain ⟨q, hq, hx⟩ := exists_call_of_mem_fill hx
      exact name_ne_of_offered h hp (hdone hq) hx hcomponent hxname
    · obtain ⟨v, hv, q, hq, f, hf, g, hg, hvname, hx⟩ := name_of_surplus h hx
      rw [hx] at hxname
      have hsame : v.name = r.name := by
        rw [hname]
        exact (append_field_inj (isComponent_virtual hg) hcomponent hxname).1
      rw [← hsame] at hfresh
      rw [has_of_mem hv] at hfresh
      cases hfresh
  · exact name_ne_of_offered h hp hp (mem_newOf.mp hx).1 hcomponent hxname

/-- Registers below the virtual registers of a call are told apart by their names. -/
theorem below_inj (h : Flat L.toLibraries calls) (hp : p ∈ calls) {s y z : DoocsBackendRegisterInfo}
    (hr : r ∈ virtualRegisters L.toLibraries p.name p.flags)
    (hs : s ∈ virtualRegisters L.toLibraries p.name p.flags)
    (hy : y ∈ virtualRegisters L.toLibraries r.name r.accessModeFlags)
    (hz : z ∈ virtualRegisters L.toLibraries s.name s.accessModeFlags) (hname : y.name = z.name) :
    y = z := by
  obtain ⟨f, hf, g, hg, -, hyname, hreq, hyeq⟩ := name_of_mem_below h hp hr hy
  obtain ⟨f', hf', g', hg', -, hzname, hseq, hzeq⟩ := name_of_mem_below h hp hs hz
  rw [hyname, hzname] at hname
  obtain ⟨hfront, rfl⟩ := append_field_inj (isComponent_virtual hg) (isComponent_virtual hg') hname
  obtain ⟨-, rfl⟩ := append_field_inj (isComponent_virtual hf) (isComponent_virtual hf') hfront
  rw [hyeq, hzeq, hreq, hseq]

/-- What the reader offers for the virtual registers of a call, where they are registered already. -/
theorem mem_offered_virtual (h : Flat L.toLibraries calls) (hp : p ∈ calls)
    {e new : List DoocsBackendRegisterInfo} (hnew : new ⊆ e)
    (hvirtual : new ⊆ virtualRegisters L.toLibraries p.name p.flags)
    (hinfo : has DoocsBackendRegisterInfo.name e info.name = false) :
    info ∈ new.flatMap (fun r => (readCall L r).offered L.toLibraries) ↔
      ∃ r ∈ new, info ∈ virtualRegisters L.toLibraries r.name r.accessModeFlags := by
  rw [List.mem_flatMap]
  apply exists_congr
  intro r
  apply and_congr_right
  intro hr
  obtain ⟨field, hfield, -, rfl⟩ := name_of_mem_virtualRegisters h hp (hvirtual hr)
  rw [offered_readCall_virtual, List.mem_cons]
  apply or_iff_right
  rintro rfl
  have hhas : has DoocsBackendRegisterInfo.name e (L.path (p.name ++ '/' :: field)) = true :=
    has_of_mem (hnew hr)
  dsimp only at hinfo
  rw [L.path_path, hhas] at hinfo
  cases hinfo

/-- What the reader makes of the virtual registers of a property: surplus registers. -/
theorem mem_read_virtual (h : Flat L.toLibraries calls) (hdone : done ⊆ calls) (hp : p ∈ calls)
    (hreads : Reads L.toLibraries calls (fill L.toLibraries done).registers d)
    {e : List DoocsBackendRegisterInfo}
    (he : ∀ info, info ∈ e ↔
      info ∈ d ∨ info ∈ newOf (fill L.toLibraries done).registers (p.offered L.toLibraries)) :
    info ∈ insertAll DoocsBackendRegisterInfo.name e
        ((newOf (fill L.toLibraries done).registers
          (virtualRegisters L.toLibraries p.name p.flags)).flatMap
            fun r => (readCall L r).offered L.toLibraries) ↔
      info ∈ e ∨ ∃ r ∈ newOf (fill L.toLibraries done).registers
        (virtualRegisters L.toLibraries p.name p.flags),
          info ∈ virtualRegisters L.toLibraries r.name r.accessModeFlags := by
  set new := newOf (fill L.toLibraries done).registers
    (virtualRegisters L.toLibraries p.name p.flags) with hnew
  have hvirtual : new ⊆ virtualRegisters L.toLibraries p.name p.flags := fun r hr => (mem_newOf.mp hr).1
  have hthere : new ⊆ e := fun r hr =>
    (he r).mpr (.inr (mem_newOf.mpr ⟨List.mem_append_right _ (hvirtual hr), (mem_newOf.mp hr).2⟩))
  have hconsistent : ∀ y ∈ new.flatMap (fun r => (readCall L r).offered L.toLibraries),
      ∀ z ∈ new.flatMap (fun r => (readCall L r).offered L.toLibraries),
        has DoocsBackendRegisterInfo.name e y.name = false → y.name = z.name → y = z := by
    intro y hy z hz hfresh hname
    obtain ⟨r, hr, hy⟩ := (mem_offered_virtual h hp hthere hvirtual hfresh).mp hy
    obtain ⟨s, hs, hz⟩ := (mem_offered_virtual h hp hthere hvirtual (hname ▸ hfresh)).mp hz
    exact below_inj h hp (hvirtual hr) (hvirtual hs) hy hz hname
  rw [mem_insertAll_of_consistent hconsistent]
  apply or_congr_right
  constructor
  · rintro ⟨hinfo, hfresh⟩
    exact (mem_offered_virtual h hp hthere hvirtual hfresh).mp hinfo
  · rintro ⟨r, hr, hinfo⟩
    have hfresh := below_is_new h hdone hp hreads he hr hinfo
    exact ⟨(mem_offered_virtual h hp hthere hvirtual hfresh).mpr ⟨r, hr, hinfo⟩, hfresh⟩

theorem virtual_ne_pattern : ∀ pattern ∈ ifffPatterns, ∀ field ∈ virtualFields, pattern ≠ '/' :: field := by
  decide

/-- The registers of a property are not taken for virtual ones. -/
theorem not_isVirtual (h : Flat L.toLibraries calls) (hp : p ∈ calls)
    (hr : r ∈ propertyRegisters L.toLibraries p.name p.length p.doocsType p.flags) :
    ¬ IsVirtual L.toLibraries calls r := by
  rintro ⟨q, hq, field, hfield, hname⟩
  have hcomponent := isComponent_virtual hfield
  rw [h.path_field hq hcomponent] at hname
  have hstems := (stems_of_mem hr).name
  split at hstems
  · obtain ⟨pattern, hpattern, hstem⟩ := hstems
    obtain ⟨f, hf, rfl⟩ := component_of_mem_ifffPatterns hpattern
    rw [h.path_field hp hf, hname] at hstem
    obtain ⟨-, rfl⟩ := append_field_inj hcomponent hf hstem
    exact virtual_ne_pattern _ hpattern _ hfield rfl
  · exact h.path_ne hq hp field (hstems.symm.trans hname)

theorem surplus_append {e : List DoocsBackendRegisterInfo} :
    Surplus L.toLibraries calls (c ++ e) info ↔
      Surplus L.toLibraries calls c info ∨ Surplus L.toLibraries calls e info := by
  simp only [Surplus, List.mem_append, or_and_right, exists_or]

theorem surplus_virtual_iff (hp : p ∈ calls) :
    Surplus L.toLibraries calls (newOf c (virtualRegisters L.toLibraries p.name p.flags)) info ↔
      ∃ r ∈ newOf c (virtualRegisters L.toLibraries p.name p.flags),
        info ∈ virtualRegisters L.toLibraries r.name r.accessModeFlags := by
  apply exists_congr
  intro r
  apply and_congr_right
  intro hr
  exact and_iff_right (isVirtual_of_mem hp (mem_newOf.mp hr).1)

theorem not_surplus_property (h : Flat L.toLibraries calls) (hp : p ∈ calls) :
    ¬ Surplus L.toLibraries calls (newOf c
      (propertyRegisters L.toLibraries p.name p.length p.doocsType p.flags)) info := by
  rintro ⟨r, hr, hvirtual, -⟩
  exact not_isVirtual h hp (mem_newOf.mp hr).1 hvirtual

/-- Reading the registers of one more call. -/
theorem Reads.concat (h : Flat L.toLibraries calls) (hdone : done ⊆ calls) (hp : p ∈ calls)
    (hreads : Reads L.toLibraries calls (fill L.toLibraries done).registers
      (fill L.toLibraries ((fill L.toLibraries done).registers.map (readCall L))).registers) :
    Reads L.toLibraries calls (fill L.toLibraries (done ++ [p])).registers
      (fill L.toLibraries ((fill L.toLibraries (done ++ [p])).registers.map (readCall L))).registers := by
  have hadded : (fill L.toLibraries (done ++ [p])).registers =
      (fill L.toLibraries done).registers ++
        (newOf (fill L.toLibraries done).registers
            (propertyRegisters L.toLibraries p.name p.length p.doocsType p.flags) ++
          newOf (fill L.toLibraries done).registers
            (virtualRegisters L.toLibraries p.name p.flags)) := by
    rw [fill_append_registers, List.flatMap_singleton, insertAll_eq_append (nodup_offered h hp),
      offered_eq, List.filter_append]
    rfl
  intro info
  rw [hadded, List.map_append, fill_append_registers, List.flatMap_map, List.flatMap_append,
    insertAll_append]
  rw [mem_read_virtual h hdone hp hreads fun x => mem_read_property h hdone hp hreads,
    mem_read_property h hdone hp hreads, hreads info]
  have hnew : info ∈ newOf (fill L.toLibraries done).registers (p.offered L.toLibraries) ↔
      info ∈ newOf (fill L.toLibraries done).registers
          (propertyRegisters L.toLibraries p.name p.length p.doocsType p.flags) ∨
        info ∈ newOf (fill L.toLibraries done).registers
          (virtualRegisters L.toLibraries p.name p.flags) := by
    rw [offered_eq, newOf, List.filter_append, List.mem_append]
    rfl
  rw [hnew, surplus_append, surplus_append, surplus_virtual_iff hp, List.mem_append, List.mem_append]
  have hproperty : ¬ Surplus L.toLibraries calls (newOf (fill L.toLibraries done).registers
      (propertyRegisters L.toLibraries p.name p.length p.doocsType p.flags)) info :=
    not_surplus_property h hp
  tauto

/-- What is read from the file of a catalogue. -/
theorem reads_fill (h : Flat L.toLibraries calls) (hdone : done ⊆ calls) :
    Reads L.toLibraries calls (fill L.toLibraries done).registers
      (fill L.toLibraries ((fill L.toLibraries done).registers.map (readCall L))).registers := by
  induction done using List.reverseRecOn with
  | nil =>
    intro info
    constructor
    · intro hinfo
      cases hinfo
    · rintro (hinfo | ⟨r, hr, -⟩)
      · cases hinfo
      · cases hr
  | append_singleton done p ih =>
    have hsub : done ⊆ calls := fun q hq => hdone (List.mem_append_left _ hq)
    have hp : p ∈ calls := hdone (List.mem_append_right _ List.mem_cons_self)
    exact (ih hsub).concat h hsub hp

end Fill

/-! ## Reading a catalogue which was fetched -/

section Fetch
variable {L : CacheLibraries} {calls : List PropertyCall} {p : PropertyCall}
  {info : DoocsBackendRegisterInfo}

/-- Properties the same number of levels below the address do not lie below each other. -/
theorem flat_of_components {n : ℕ} (hn : n ≠ 0) (hroot : L.path [] = ['/'])
    (h : ∀ p ∈ calls, ∃ components, components.length = n ∧ (∀ c ∈ components, IsComponent c) ∧
      p.name = joined components) : Flat L.toLibraries calls := by
  intro p hp q hq hprefix
  obtain ⟨cs, hcs, hcomponents, hname⟩ := h p hp
  obtain ⟨ds, hds, hothers, hother⟩ := h q hq
  have hne : ds ≠ [] := List.length_pos_iff.mp (by omega)
  rw [hname, hother, parentOf_path_joined hroot hcomponents, path_joined hroot hothers hne] at hprefix
  have hcount := hprefix.sublist.count_le '/'
  rw [List.count_append, count_joined fun c hc => (hcomponents c hc).2,
    count_joined fun c hc => (hothers c hc).2, hcs, hds] at hcount
  simp at hcount

theorem flat_keptCalls (hroot : L.path [] = ['/']) (M : ImageLayout) (E : ErrorCodes)
    (a : ServerAddress) (tree : NameTree (CatalogueFetcher.levelsBelow a.text + 1))
    (hn : tree.Named _) :
    Flat L.toLibraries (keptCalls L.toLibraries M E a.text
      (tree.properties (CatalogueFetcher.levelsBelow a.text) a.text)) := by
  apply flat_of_components (Nat.succ_ne_zero (CatalogueFetcher.levelsBelow a.text)) hroot
  intro call hcall
  obtain ⟨p, hp, rfl⟩ := List.mem_map.mp hcall
  obtain ⟨components, hl, hc, hfqn⟩ := fqn_of_mem_properties hn (List.mem_filter.mp hp).1
  refine ⟨components, hl, hc, ?_⟩
  change p.fqn.drop a.text.length = joined components
  rw [hfqn, List.drop_left]

/-- All numbers in the file are `int`s if those of the server are. -/
theorem numbered_registers (hlong : -2 ^ 31 ≤ L.id .long ∧ L.id .long < 2 ^ 31)
    (h : ∀ p ∈ calls, p.IsNumbered) (hinfo : info ∈ (fill L.toLibraries calls).registers) :
    info.length < 2 ^ 31 ∧ -2 ^ 31 ≤ info.doocsTypeId ∧ info.doocsTypeId < 2 ^ 31 := by
  have hlength := (wellFormed_fill (fun p hp => (h p hp).length_lt) info hinfo).length_lt
  obtain ⟨p, hp, hoffered⟩ := exists_call_of_mem_fill hinfo
  refine ⟨hlength, ?_⟩
  rw [offered_eq] at hoffered
  rcases List.mem_append.mp hoffered with hr | hr
  · rw [(stems_of_mem hr).doocsType]
    exact ⟨(h p hp).le_type, (h p hp).type_lt⟩
  · obtain ⟨field, -, rfl⟩ := List.mem_map.mp hr
    exact hlong

/-- A catalogue which was fetched and saved is read without an exception. The registers are those which
were saved, each with the same data, and two more below each virtual register. -/
theorem cache_keeps_registers (hroot : L.path [] = ['/'])
    (hlong : -2 ^ 31 ≤ L.id .long ∧ L.id .long < 2 ^ 31) (M : ImageLayout) (E : ErrorCodes)
    (F : CancelFlag) (a : ServerAddress)
    (tree : NameTree (CatalogueFetcher.levelsBelow a.text + 1)) (hn : tree.Named _)
    (hcomplete : (CatalogueFetcher.fetch L.toLibraries M E F a.text tree).2 = true)
    (hnumbered : ∀ p ∈ keptCalls L.toLibraries M E a.text
      (tree.properties (CatalogueFetcher.levelsBelow a.text) a.text), p.IsNumbered) :
    let fetched := (CatalogueFetcher.fetch L.toLibraries M E F a.text tree).1
    ∃ d, readCatalogue L (saveCatalogue L fetched) = .ok d ∧
      Reads L.toLibraries (keptCalls L.toLibraries M E a.text
        (tree.properties (CatalogueFetcher.levelsBelow a.text) a.text)) fetched.registers
          d.registers := by
  intro fetched
  set calls := keptCalls L.toLibraries M E a.text
    (tree.properties (CatalogueFetcher.levelsBelow a.text) a.text) with hcalls
  have hregisters : fetched.registers = (fill L.toLibraries calls).registers := by
    have hclean := hcomplete
    simp only [CatalogueFetcher.fetch, Bool.and_eq_true, Bool.not_eq_true'] at hclean
    exact congrArg (·.registers)
      (CatalogueFetcher.covers_fillCatalogue ⟨hclean.1.2, hclean.1.1⟩).catalogue
  refine ⟨fill L.toLibraries (fetched.registers.map (readCall L)), ?_, ?_⟩
  · apply readCatalogue_eq_fill
    intro r hr
    rw [hregisters] at hr
    exact numbered_registers hlong hnumbered hr
  · rw [hregisters]
    exact reads_fill (flat_keptCalls hroot M E a tree hn) (List.Subset.refl calls)

/-- An integer property keeps its three registers. -/
theorem cache_keeps_scalar : ∃ d,
    readCatalogue plainLibraries (saveCatalogue plainLibraries
      (CatalogueFetcher.fetch plainLibraries.toLibraries Accessor.plainImageLayout
        ⟨fun e => e == 1, 2⟩ CatalogueFetcher.neverCancelled deviceAddress.text
          (CatalogueFetcher.chain "P comment".toList CatalogueFetcher.intAnswer _)).1) = .ok d ∧
      ∃ info ∈ d.registers, info.name = "/P/P/eventId".toList ∧ info.writable = false := by
  have hnumbers : ∀ p ∈ keptCalls plainLibraries.toLibraries Accessor.plainImageLayout
      ⟨fun e => e == 1, 2⟩ deviceAddress.text
      (NameTree.properties (CatalogueFetcher.levelsBelow deviceAddress.text) deviceAddress.text
        (CatalogueFetcher.chain "P comment".toList CatalogueFetcher.intAnswer _)),
      p.length < 2 ^ 31 ∧ -2 ^ 31 ≤ p.doocsType ∧ p.doocsType < 2 ^ 31 := by decide
  obtain ⟨d, hread, hd⟩ := cache_keeps_registers (L := plainLibraries) rfl (by decide)
    Accessor.plainImageLayout ⟨fun e => e == 1, 2⟩ CatalogueFetcher.neverCancelled deviceAddress
    (CatalogueFetcher.chain "P comment".toList CatalogueFetcher.intAnswer _)
    (named_chain isComponent_entry _ _) (by decide) fun p hp =>
      ⟨(hnumbers p hp).1, (hnumbers p hp).2.1, (hnumbers p hp).2.2⟩
  exact ⟨d, hread, virtualRegister plainLibraries.toLibraries "/P/P".toList "eventId".toList {},
    (hd _).mpr (.inl (by decide)), by decide, rfl⟩

end Fetch

end DoocsBackend.Catalogue
