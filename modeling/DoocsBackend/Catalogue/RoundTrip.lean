import DoocsBackend.Catalogue.RegisterPath

/-! # Writing a catalogue and reading it back

The reader feeds every saved register through `addProperty`. The fields of an IFFF are
mapped back to their property first, the virtual registers are not: they are taken for
properties and get virtual registers of their own.
-/
namespace DoocsBackend.Catalogue
open DoocsBackendRegisterCatalogue

variable (L : CacheLibraries)

/-- Both catalogues hold the same registers, each with the same data. -/
def SameRegisters (c d : DoocsBackendRegisterCatalogue) : Prop :=
  ∀ info, info ∈ c.registers ↔ info ∈ d.registers

/-- Saving the catalogue and reading the file yields the same registers again. -/
def RoundTrips (c : DoocsBackendRegisterCatalogue) : Prop :=
  ∃ d, readCatalogue L (saveCatalogue L c) = .ok d ∧ SameRegisters c d

variable {L}

theorem SameRegisters.hasRegister {c d : DoocsBackendRegisterCatalogue} (h : SameRegisters c d)
    {name : Text} (hd : d.hasRegister name = true) : c.hasRegister name = true := by
  obtain ⟨info, hm, rfl⟩ := hasRegister_iff.mp hd
  exact hasRegister_iff.mpr ⟨info, (h info).mpr hm, rfl⟩

theorem readCatalogue_saveCatalogue (c : DoocsBackendRegisterCatalogue) :
    readCatalogue L (saveCatalogue L c) =
      (c.registers.map (addRegInfoXmlNode L)).foldlM (readNode L) .empty := by
  rw [readCatalogue, saveCatalogue, L.parse_write, catalogueDocument]

/-- What the reader does with the element written for a register. -/
theorem readNode_addRegInfoXmlNode (c : DoocsBackendRegisterCatalogue)
    (r : DoocsBackendRegisterInfo) :
    readNode L c (addRegInfoXmlNode L r) = do
      let len ← convertToUint (toText r.length)
      let doocsTypeId ← convertToInt (toText r.doocsTypeId)
      return c.addProperty L.toLibraries
        (propertyName L ⟨r.name, len, r.accessModeFlags, doocsTypeId⟩) len doocsTypeId
        r.accessModeFlags := by
  simp only [readNode, addRegInfoXmlNode, parseRegister, List.foldlM_cons, List.foldlM_nil,
    parseField_name, parseField_length, parseField_accessMode, parseField_typeId,
    parseField_comment, requireText, XmlNode.childText, parseLength, parseTypeId, parseAccessMode,
    Option.getD_some, L.deserialize_serialize, ok_bind]
  cases convertToUint (toText r.length) with
  | error e => rfl
  | ok len => cases convertToInt (toText r.doocsTypeId) <;> rfl

/-- A successful step over a saved register is an `addProperty` call under the name the
register stands for. -/
theorem readNode_ok {c d : DoocsBackendRegisterCatalogue} {r : DoocsBackendRegisterInfo}
    (h : readNode L c (addRegInfoXmlNode L r) = .ok d) :
    ∃ len doocsTypeId, d = c.addProperty L.toLibraries
      (propertyName L ⟨r.name, len, r.accessModeFlags, doocsTypeId⟩) len doocsTypeId
      r.accessModeFlags := by
  rw [readNode_addRegInfoXmlNode] at h
  cases hl : convertToUint (toText r.length) with
  | error e => rw [hl] at h; cases h
  | ok len =>
    cases ht : convertToInt (toText r.doocsTypeId) with
    | error e => rw [hl, ht] at h; cases h
    | ok doocsTypeId => rw [hl, ht] at h; cases h; exact ⟨len, doocsTypeId, rfl⟩

theorem foldlM_hasRegister {c d : DoocsBackendRegisterCatalogue}
    {rs : List DoocsBackendRegisterInfo} {name : Text}
    (h : (rs.map (addRegInfoXmlNode L)).foldlM (readNode L) c = .ok d)
    (hc : c.hasRegister name = true) : d.hasRegister name = true := by
  induction rs generalizing c with
  | nil => cases h; exact hc
  | cons r rs ih =>
    rw [List.map_cons, List.foldlM_cons] at h
    cases hm : readNode L c (addRegInfoXmlNode L r) with
    | error e => rw [hm] at h; cases h
    | ok m =>
      rw [hm] at h
      obtain ⟨len, typeId, rfl⟩ := readNode_ok hm
      exact ih h (hasRegister_addProperty_of_has hc)

theorem endsWith_eventId (s : Text) :
    endsWith (s ++ "/eventId".toList) ifffPatterns = (false, []) := by
  have hnone : ifffPatterns.find? (·.isSuffixOf (s ++ "/eventId".toList)) = none := by
    rw [List.find?_eq_none]
    intro p hp hsuf
    have hs := List.isSuffixOf_iff_suffix.mp hsuf
    have hne : p ≠ [] := by rintro rfl; revert hp; decide
    have hl : (s ++ "/eventId".toList).getLast? = p.getLast? := by
      rw [List.getLast?_eq_getLast_of_ne_nil hne,
        List.getLast?_eq_getLast_of_ne_nil (hs.ne_nil hne), hs.getLast hne]
    have hd : (s ++ "/eventId".toList).getLast? = some 'd' := by
      rw [List.getLast?_append]
      rfl
    rw [hd] at hl
    fin_cases hp <;> exact absurd hl (by decide)
  rw [endsWith, hnone]

/-- The name of an event id register is not the name of an IFFF field, so it is kept. -/
theorem propertyName_eventId (s : Text) (len : ℕ) (flags : AccessModeFlags) (typeId : ℤ) :
    propertyName L ⟨s ++ "/eventId".toList, len, flags, typeId⟩ = s ++ "/eventId".toList := by
  simp only [propertyName, endsWith_eventId]
  split <;> simp

theorem path_eventId (s : Text) :
    L.path (s ++ "/eventId".toList) = parentOf (L.path s) ++ "/eventId".toList :=
  L.path_child s "eventId".toList (by decide) (by decide)

/-- Every event id register which was saved has one below it after reading. -/
theorem readCatalogue_eventId {c d : DoocsBackendRegisterCatalogue} {s : Text}
    (h : readCatalogue L (saveCatalogue L c) = .ok d)
    (hc : c.hasRegister (L.path (s ++ "/eventId".toList)) = true) :
    d.hasRegister (L.path (L.path (s ++ "/eventId".toList) ++ "/eventId".toList)) = true := by
  obtain ⟨r, hr, hname⟩ := hasRegister_iff.mp hc
  obtain ⟨before, after, hsplit⟩ := List.append_of_mem hr
  rw [readCatalogue_saveCatalogue, hsplit, List.map_append, List.foldlM_append] at h
  cases hb : (before.map (addRegInfoXmlNode L)).foldlM (readNode L) .empty with
  | error e => rw [hb] at h; cases h
  | ok m =>
    rw [hb] at h
    change (readNode L m (addRegInfoXmlNode L r) >>=
      fun m' => (after.map (addRegInfoXmlNode L)).foldlM (readNode L) m') = .ok d at h
    cases hm : readNode L m (addRegInfoXmlNode L r) with
    | error e => rw [hm] at h; cases h
    | ok m' =>
      rw [hm] at h
      obtain ⟨len, typeId, rfl⟩ := readNode_ok hm
      apply foldlM_hasRegister h
      rw [hname, path_eventId, propertyName_eventId]
      exact hasRegister_eventId

/-- Among the registers of a catalogue which survives the round trip there are event id
registers with names of any length. -/
theorem exists_long_eventId {c : DoocsBackendRegisterCatalogue} (h : RoundTrips L c) {s : Text}
    (hs : c.hasRegister (L.path (s ++ "/eventId".toList)) = true) (k : ℕ) :
    ∃ t, c.hasRegister (L.path (t ++ "/eventId".toList)) = true ∧
      k ≤ (L.path (t ++ "/eventId".toList)).length := by
  obtain ⟨d, hread, hsame⟩ := h
  induction k with
  | zero => exact ⟨s, hs, Nat.zero_le _⟩
  | succ k ih =>
    obtain ⟨t, ht, hk⟩ := ih
    refine ⟨L.path (t ++ "/eventId".toList), hsame.hasRegister (readCatalogue_eventId hread ht), ?_⟩
    have hlen : ∀ p : Text, p.length < (parentOf p ++ "/eventId".toList).length := by
      intro p
      rw [List.length_append, parentOf]
      split
      · rename_i hp; rw [hp]; decide
      · have : 0 < "/eventId".toList.length := by decide
        omega
    rw [path_eventId (L.path _), L.path_path]
    exact (Nat.succ_le_of_lt (lt_of_le_of_lt hk (hlen _)))

theorem exists_name_bound (c : DoocsBackendRegisterCatalogue) :
    ∃ b, ∀ name, c.hasRegister name = true → name.length ≤ b := by
  refine ⟨(c.registers.toFinset.sup fun info => info.name.length), fun name h => ?_⟩
  obtain ⟨info, hm, rfl⟩ := hasRegister_iff.mp h
  exact Finset.le_sup (f := fun info : DoocsBackendRegisterInfo => info.name.length)
    (List.mem_toFinset.mpr hm)

/-- A catalogue with an event id register is not read back as it was. -/
theorem not_roundTrips_of_hasRegister {c : DoocsBackendRegisterCatalogue} {s : Text}
    (hs : c.hasRegister (L.path (s ++ "/eventId".toList)) = true) : ¬ RoundTrips L c := by
  intro h
  obtain ⟨b, hb⟩ := exists_name_bound c
  obtain ⟨t, ht, hlong⟩ := exists_long_eventId h hs (b + 1)
  exact absurd (hb _ ht) (by omega)

theorem fill_concat (calls : List PropertyCall) (p : PropertyCall) :
    fill L.toLibraries (calls ++ [p]) =
      (fill L.toLibraries calls).addProperty L.toLibraries p.name p.length p.doocsType p.flags := by
  rw [fill, fill, List.foldl_append]
  rfl

/-- A catalogue filled by any sequence of `addProperty` calls survives the round trip
through the cache file exactly if there was no call at all. -/
theorem roundTrips_fill_iff (calls : List PropertyCall) :
    RoundTrips L (fill L.toLibraries calls) ↔ calls = [] := by
  constructor
  · intro h
    by_contra hne
    obtain ⟨calls, p, rfl⟩ := (List.eq_nil_or_concat' calls).resolve_left hne
    rw [fill_concat] at h
    exact not_roundTrips_of_hasRegister hasRegister_eventId h
  · rintro rfl
    exact ⟨.empty, by rw [readCatalogue_saveCatalogue]; rfl, fun _ => Iff.rfl⟩

/-- One integer property is read back as seven registers instead of three. -/
theorem not_roundTrips_scalar :
    ¬ RoundTrips plainLibraries
      (fill plainLibraries.toLibraries [⟨"/DUMMY".toList, 1, 1, {}⟩]) := by
  rintro ⟨d, hread, hsame⟩
  have hd : d.hasRegister "/DUMMY/eventId/eventId".toList = true := by
    have hread' := hread.symm
    rw [readCatalogue_saveCatalogue] at hread'
    cases hread'
    decide
  have hc := hsame.hasRegister hd
  revert hc
  decide

end DoocsBackend.Catalogue
