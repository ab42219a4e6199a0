import DoocsBackend.Accessor.Shape

/-! # What a write prepares

For each accessor class `doPreWrite` prepares the content of the property, with the cells of the
accessor replaced by the converted buffer.
-/
namespace DoocsBackend.Accessor

section Loops
variable {α : Type} {offset : ℕ}

theorem toInt_of_lt {n : ℕ} (h : n < 2 ^ 31) : toInt n = n := by
  exact Int.bmod_eq_of_le (by omega) (by omega)

theorem setElement_of_lt {n : ℕ} (h : n < 2 ^ 31) (v : α) (xs : List α) :
    setElement (toInt n) v xs = xs.set n v := by
  rw [toInt_of_lt h, setElement, if_pos (Int.natCast_nonneg n), Int.toNat_natCast]

/-- The loop with an index writes the range, if the range is there. -/
theorem setElements_eq {i : ℕ} {vs xs : List α} (hl : i + offset + vs.length ≤ xs.length)
    (hlt : xs.length < 2 ^ 31) :
    setElements offset setElement i vs xs = Range.overwrite (i + offset) vs xs := by
  induction vs generalizing i xs with
  | nil => rw [Range.overwrite_nil]; rfl
  | cons v vs ih =>
    rw [List.length_cons] at hl
    have hsum : sizeAdd i offset = i + offset := Nat.mod_eq_of_lt (by omega)
    rw [setElements, hsum, setElement_of_lt (by omega),
      ih (by rw [List.length_set]; omega) (by rwa [List.length_set]),
      Range.overwrite_cons (by rw [List.length_cons]; omega), Nat.add_right_comm]

theorem length_setElements (i : ℕ) (vs xs : List α) :
    (setElements offset setElement i vs xs).length = xs.length := by
  induction vs generalizing i xs with
  | nil => rfl
  | cons v vs ih =>
    rw [setElements, ih, setElement]
    split <;> simp

/-- A member of an IIII is set like an element of the list of its members. -/
theorem setMember_iiii (idx : ℤ) (raw i1 i2 i3 i4 : Int32) :
    ∃ j1 j2 j3 j4, (Payload.iiii i1 i2 i3 i4).setMember idx raw = .iiii j1 j2 j3 j4 ∧
      setElement idx raw [i1, i2, i3, i4] = [j1, j2, j3, j4] := by
  by_cases h0 : idx = 0
  · subst h0
    exact ⟨raw, i2, i3, i4, rfl, rfl⟩
  by_cases h1 : idx = 1
  · subst h1
    exact ⟨i1, raw, i3, i4, rfl, rfl⟩
  by_cases h2 : idx = 2
  · subst h2
    exact ⟨i1, i2, raw, i4, rfl, rfl⟩
  by_cases h3 : idx = 3
  · subst h3
    exact ⟨i1, i2, i3, raw, rfl, rfl⟩
  refine ⟨i1, i2, i3, i4, ?_, ?_⟩
  · simp [Payload.setMember]
  · unfold setElement
    split
    · exact List.set_eq_of_length_le (show 4 ≤ idx.toNat by omega)
    · rfl

theorem setMembers_iiii (offset i : ℕ) (vs : List Int32) (i1 i2 i3 i4 : Int32) :
    ∃ j1 j2 j3 j4, setElements offset Payload.setMember i vs (.iiii i1 i2 i3 i4) = .iiii j1 j2 j3 j4 ∧
      setElements offset setElement i vs [i1, i2, i3, i4] = [j1, j2, j3, j4] := by
  induction vs generalizing i i1 i2 i3 i4 with
  | nil => exact ⟨i1, i2, i3, i4, rfl, rfl⟩
  | cons v vs ih =>
    obtain ⟨j1, j2, j3, j4, hmember, helement⟩ := setMember_iiii (toInt (sizeAdd i offset)) v i1 i2 i3 i4
    rw [setElements, setElements, hmember, helement]
    exact ih (i + 1) j1 j2 j3 j4

/-- The loop over the members writes the range, if there are as many. -/
theorem setMembers_eq {vs : List Int32} (hl : offset + vs.length ≤ 4) (i1 i2 i3 i4 : Int32) :
    ∃ j1 j2 j3 j4, setElements offset Payload.setMember 0 vs (.iiii i1 i2 i3 i4) = .iiii j1 j2 j3 j4 ∧
      [j1, j2, j3, j4] = Range.overwrite offset vs [i1, i2, i3, i4] := by
  obtain ⟨j1, j2, j3, j4, hmembers, helements⟩ := setMembers_iiii offset 0 vs i1 i2 i3 i4
  have hlength : [i1, i2, i3, i4].length = 4 := rfl
  refine ⟨j1, j2, j3, j4, hmembers, ?_⟩
  rw [← helements, setElements_eq (by omega) (by omega), Nat.zero_add]

end Loops

section Definitions
variable (K : EqDataLibrary) (C : Conversions) {U : UserType} (a : RegisterAccessor U)

/-- A write by the accessor to a property with the content `R` is meaningful. -/
structure Addresses (R : Payload) : Prop where
  type : R.type = a.src.type
  nonempty : 0 < R.length
  length_lt : R.length < 2 ^ 31
  same : a.isPartial = false → a.kind.field? = none → R.length = a.nElements

/-- No check of a write fails, and the server answers with `R`. -/
structure Ready (R : Payload) (s : WriteState) : Prop where
  opened : s.backend.opened = true
  functional : s.backend.hasActiveException = false
  writeable : s.isWriteable = true
  answered : s.rc.isCommunicationError = false
  dst : s.dst = R

/-- The data object `src` after any number of writes. -/
inductive Prepared : Payload → Prop where
  | constructed : Prepared a.src
  | written {s : WriteState} {src src' : Payload} {buffer : List U.Val} (before : Prepared src)
      (length : buffer.length = a.bufferLength) (ok : doPreWrite K C a s src buffer = .ok src') :
      Prepared src'

/-- The accessor covers a part of the property only. -/
def RegisterAccessor.needsRead : Bool := a.isPartial || a.kind.field?.isSome

/-- A write which needs the rest of the property can read it, and makes use of it. -/
structure Writable : Prop where
  polled : a.needsRead = true → a.useZMQ = false
  range : a.needsRead = true → a.elementOffset + a.nElements < 2 ^ 64
  value : a.needsRead = true → a.kind = .numeric → U ≠ .void

/-- A user value as a number of the given type. -/
def Conversions.toNumber (c : CType) (v : U.Val) : Number := ⟨c, C.userTypeToNumeric c U v⟩

/-- The buffer as cells of the property. -/
def RegisterAccessor.writes (R : Payload) (buffer : List U.Val) : List Number :=
  (buffer.take a.nElements).mapIdx fun k v => C.toNumber (R.cellType (a.first + k)) v

/-- The number an array is filled up with. -/
def EqDataLibrary.fillNumber : Payload → Number
  | .array t _ => ⟨t.elem, K.fill t⟩
  | _ => ⟨.int32, CType.int32.zero⟩

/-- The content of the property with the range of the accessor replaced by the buffer. -/
structure Written (R : Payload) (buffer : List U.Val) (src' : Payload) : Prop where
  type : src'.type = R.type
  cells : src'.cells = Range.write (K.fillNumber R) a.first (a.writes C R buffer) R.cells

end Definitions

section Numbers
variable {K : EqDataLibrary} {C : Conversions} {U : UserType} {a : RegisterAccessor U}
  {R src : Payload} {s : WriteState} {buffer : List U.Val} {actualLength : ℕ}

theorem checkWriteable_ok (hfits : a.kind.fits a.src.type) (h : Ready R s) :
    checkWriteable a s = .ok () := by
  have hw : isWriteable a s = true := by
    obtain ⟨kind, _⟩ := a
    cases kind with
    | numeric | iiii | ifff field => exact h.writeable
    | string | image | eventId | timeStamp => cases hfits
  simp [checkWriteable, h.opened, hw]

theorem doReadTransferSynchronously_ok (h : Ready R s) (hz : a.useZMQ = false) :
    doReadTransferSynchronously C a s = .ok R := by
  simp [doReadTransferSynchronously, h.functional, h.answered, hz, h.dst]

theorem length_writes (hl : a.nElements ≤ buffer.length) :
    (a.writes C R buffer).length = a.nElements := by
  rw [RegisterAccessor.writes, List.length_mapIdx, List.length_take]
  omega

theorem getElem?_writes {k : ℕ} (hk : k < a.nElements) :
    (a.writes C R buffer)[k]? =
      buffer[k]?.map fun v => C.toNumber (R.cellType (a.first + k)) v := by
  rw [RegisterAccessor.writes, List.getElem?_mapIdx, List.getElem?_take_of_lt hk]

/-- In a property with numbers of one type all values are converted alike. -/
theorem writes_const {c : CType} (hc : ∀ i, R.cellType i = c) (hl : buffer.length = a.nElements) :
    a.writes C R buffer = (buffer.map (C.userTypeToNumeric c U)).map (Sigma.mk c) := by
  rw [RegisterAccessor.writes, ← hl, List.take_length, List.map_map]
  apply List.ext_getElem?
  intro k
  rw [List.getElem?_mapIdx, List.getElem?_map, hc]
  rfl

/-- A copy through the pointer overwrites the range, if it is there. -/
theorem copyToTarget_eq {c : CType} {xs : List c.Val}
    (hl : a.elementOffset + a.nElements ≤ xs.length) (hb : buffer.length = a.nElements) :
    copyToTarget C a c buffer xs =
      .ok (Range.overwrite a.elementOffset (buffer.map (C.userTypeToNumeric c U)) xs) := by
  have hstore : store a.elementOffset (buffer.map (C.userTypeToNumeric c U)) xs =
      .ok (Range.overwrite a.elementOffset (buffer.map (C.userTypeToNumeric c U)) xs) := by
    rw [store, if_pos (by rw [List.length_map]; omega)]
  rw [copyToTarget]
  cases he : sameType c U with
  | none => exact hstore
  | some e =>
    have hsame : C.userTypeToNumeric c U = e.symm :=
      funext (C.userTypeToNumeric_same c U e he)
    dsimp only
    rw [if_pos (by omega), ← hb, List.take_length, ← hsame]
    exact hstore

/-- However an array is reached, the range is overwritten by the converted buffer. -/
theorem writeNumbers_array {t : ArrayType} {xs : List t.elem.Val}
    (hl : a.elementOffset + a.nElements ≤ xs.length) (hpos : 0 < xs.length)
    (hlt : xs.length < 2 ^ 31) (hb : buffer.length = a.nElements) :
    writeNumbers K C a buffer (.array t xs) = .ok (.array t
      (Range.overwrite a.elementOffset (buffer.map (C.userTypeToNumeric t.elem U)) xs)) := by
  rw [writeNumbers, copyToTarget_eq hl hb]
  split
  · rfl
  · rw [if_neg (by omega), if_pos (by omega), ← hb, List.take_length,
      setElements_eq (by rw [List.length_map]; omega) hlt, Nat.zero_add]

/-- An overwritten array has the right cells. -/
theorem written_array (hk : a.kind = .numeric) {t : ArrayType} {xs : List t.elem.Val}
    (hb : buffer.length = a.nElements) :
    Written K C a (.array t xs) buffer (.array t (Range.write (K.fill t) a.elementOffset
      (buffer.map (C.userTypeToNumeric t.elem U)) xs)) where
  type := rfl
  cells := by
    rw [first_numbers (.inl hk), writes_const (fun _ => rfl) hb]
    exact Range.map_write (Sigma.mk t.elem)

/-- A part of an array is written. -/
theorem numericPreWrite_partial (hk : a.kind = .numeric) (hU : U ≠ .void)
    (hp : a.isPartial = true) (hz : a.useZMQ = false) (hready : Ready R s)
    {t : ArrayType} {xs : List t.elem.Val} (hR : R = .array t xs) (hpos : 0 < xs.length)
    (hlt : xs.length < 2 ^ 31) (hrange : a.elementOffset + a.nElements < 2 ^ 31)
    (hb : buffer.length = a.nElements) :
    ∃ src', numericPreWrite K C a s src buffer = .ok src' ∧ Written K C a R buffer src' := by
  subst hR
  have hsum : sizeAdd a.nElements a.elementOffset = a.elementOffset + a.nElements := by
    rw [sizeAdd, Nat.mod_eq_of_lt (by omega), Nat.add_comm]
  have hlong : lengthen K a (.array t xs) =
      .array t (xs.rightpad (a.elementOffset + a.nElements) (K.fill t)) := by
    rw [lengthen, hsum, Payload.length]
    split
    · rw [toInt_of_lt hrange, K.setLength_array t xs _ (by omega) hrange]
    · rw [List.rightpad, Nat.sub_eq_zero_of_le (by omega), List.replicate_zero, List.append_nil]
  have hlen : (xs.rightpad (a.elementOffset + a.nElements) (K.fill t)).length =
      max (a.elementOffset + a.nElements) xs.length := List.length_rightpad
  refine ⟨_, ?_, written_array hk hb⟩
  rw [numericPreWrite, if_neg hU, if_pos hp, doReadTransferSynchronously_ok hready hz, ok_bind, hlong,
    writeNumbers_array (by omega) (by omega) (by omega) hb, Range.write, List.length_map, hb]

/-- Where the range is the whole property, nothing of the old content is left. -/
theorem write_whole {fill : Number} (hk : a.kind.field? = none) (ho : a.elementOffset = 0)
    (hfits : a.kind.fits R.type) (hlength : R.length = a.nElements)
    (hb : buffer.length = a.nElements) :
    Range.write fill a.first (a.writes C R buffer) R.cells = a.writes C R buffer := by
  obtain ⟨-, hnumbers⟩ | ⟨field, hfield⟩ := Kind.cases_of_fits hfits
  · rw [first_numbers hnumbers, ho]
    apply Range.write_all
    rw [length_writes hb.ge, Payload.length_cells hfits, hlength]
  · rw [hfield] at hk
    cases hk

/-- A whole array is written. -/
theorem numericPreWrite_whole (hk : a.kind = .numeric) (hU : U ≠ .void) (hp : a.isPartial = false)
    (ho : a.elementOffset = 0) {t : ArrayType} {xs ys : List t.elem.Val} (hR : R = .array t xs)
    (hsrc : src = .array t ys) (hlength : ys.length = xs.length) (hpos : 0 < xs.length)
    (hlt : xs.length < 2 ^ 31) (hn : xs.length = a.nElements) (hb : buffer.length = a.nElements) :
    ∃ src', numericPreWrite K C a s src buffer = .ok src' ∧ Written K C a R buffer src' := by
  subst hR hsrc
  have hwhole : Range.overwrite 0 (buffer.map (C.userTypeToNumeric t.elem U)) ys =
      buffer.map (C.userTypeToNumeric t.elem U) :=
    Range.overwrite_all (by rw [List.length_map]; omega)
  refine ⟨.array t (buffer.map (C.userTypeToNumeric t.elem U)), ?_, rfl, ?_⟩
  · rw [numericPreWrite, if_neg hU, hp, if_neg Bool.false_ne_true,
      writeNumbers_array (by omega) (by omega) (by omega) hb, ho, hwhole]
  · rw [write_whole (R := .array t xs) (by rw [hk]; rfl) ho (by rw [hk]; exact ⟨t, rfl⟩) hn hb,
      writes_const (fun _ => rfl) hb]
    rfl

theorem blank_array (n : ℕ) (t : ArrayType) :
    Payload.blank n t.type = .array t (List.replicate n t.elem.zero) := by
  cases t <;> rfl

/-- A `Void` is written to the whole array as zeros. -/
theorem numericPreWrite_void (hk : a.kind = .numeric) (hU : U = .void) (ho : a.elementOffset = 0)
    {t : ArrayType} {xs : List t.elem.Val} (hR : R = .array t xs)
    (hsrc : src = .blank actualLength t.type) (hlength : xs.length = actualLength)
    (hn : xs.length = a.nElements) (hb : buffer.length = a.nElements) :
    ∃ src', numericPreWrite K C a s src buffer = .ok src' ∧ Written K C a R buffer src' := by
  subst hR hsrc hlength
  refine ⟨.array t (List.replicate xs.length t.elem.zero), ?_, rfl, ?_⟩
  · rw [numericPreWrite, if_pos hU, blank_array, K.set_zeros]
  · rw [write_whole (R := .array t xs) (by rw [hk]; rfl) ho (by rw [hk]; exact ⟨t, rfl⟩) hn hb,
      writes_const (c := t.elem) (fun _ => rfl) hb, hn, ← hb]
    subst hU
    have hzero : C.userTypeToNumeric t.elem .void = fun _ => t.elem.zero :=
      funext (C.userTypeToNumeric_void t.elem)
    rw [hzero, List.map_const']
    rfl

end Numbers

section Structures
variable {K : EqDataLibrary} {C : Conversions} {U : UserType} {a : RegisterAccessor U}
  {R src : Payload} {s : WriteState} {buffer : List U.Val}

/-- The members of an IIII are replaced one by one. -/
theorem writeMembers_iiii (hrange : a.elementOffset + a.nElements ≤ 4)
    (hb : buffer.length = a.nElements) (i1 i2 i3 i4 : Int32) :
    ∃ p, writeMembers C a buffer (.iiii i1 i2 i3 i4) = .ok p ∧ p.type = .iiii ∧
      p.cells = Range.overwrite a.elementOffset (a.writes C (.iiii i1 i2 i3 i4) buffer)
        (Payload.iiii i1 i2 i3 i4).cells := by
  let raw : List Int32 := buffer.map (C.userTypeToNumeric .int32 U)
  have hraw : raw.length = a.nElements := (List.length_map _).trans hb
  have hwrites : a.writes C (.iiii i1 i2 i3 i4) buffer = raw.map (Sigma.mk CType.int32) :=
    writes_const (fun _ => rfl) hb
  obtain ⟨j1, j2, j3, j4, hmembers, hcells⟩ :=
    setMembers_eq (hraw ▸ hrange : a.elementOffset + raw.length ≤ 4) i1 i2 i3 i4
  refine ⟨.iiii j1 j2 j3 j4, ?_, rfl, ?_⟩
  · rw [writeMembers, if_pos (by omega), ← hb, List.take_length]
    exact congrArg Except.ok hmembers
  · rw [hwrites]
    exact (congrArg (List.map (Sigma.mk CType.int32)) hcells).trans (Range.map_overwrite _)

theorem iiiiPreWrite_written (hk : a.kind = .iiii) (harray : a.isArray = true)
    (hz : a.isPartial = true → a.useZMQ = false) (hready : Ready R s) {i1 i2 i3 i4 : Int32}
    (hR : R = .iiii i1 i2 i3 i4) {l1 l2 l3 l4 : Int32} (hsrc : src = .iiii l1 l2 l3 l4)
    (hrange : a.elementOffset + a.nElements ≤ 4)
    (hwhole : a.isPartial = false → a.elementOffset = 0 ∧ a.nElements = 4)
    (hb : buffer.length = a.nElements) :
    ∃ src', iiiiPreWrite K C a s src buffer = .ok src' ∧ Written K C a R buffer src' := by
  subst hR hsrc
  have hlength : (a.writes C (.iiii i1 i2 i3 i4) buffer).length = a.nElements :=
    length_writes hb.ge
  by_cases hp : a.isPartial = true
  · obtain ⟨h1, h2, h3, h4⟩ := K.getInt_iiii i1 i2 i3 i4
    obtain ⟨p, hmembers, htype, hcells⟩ := writeMembers_iiii (C := C) hrange hb i1 i2 i3 i4
    refine ⟨p, ?_, htype, ?_⟩
    · rw [iiiiPreWrite, if_neg (by simp [harray]), if_pos hp,
        doReadTransferSynchronously_ok hready (hz hp), ok_bind, h1, h2, h3, h4]
      exact hmembers
    · rw [first_numbers (.inr hk), hcells, Range.write_eq_overwrite]
      rw [hlength]
      exact hrange
  · obtain ⟨ho, hn⟩ := hwhole (by simpa using hp)
    obtain ⟨p, hmembers, htype, hcells⟩ := writeMembers_iiii (C := C) hrange hb l1 l2 l3 l4
    refine ⟨p, ?_, htype, ?_⟩
    · rw [iiiiPreWrite, if_neg (by simp [harray]), if_neg hp]
      exact hmembers
    · rw [write_whole (R := .iiii i1 i2 i3 i4) (by rw [hk]; rfl) ho (by rw [hk]; rfl) hn.symm hb,
        hcells, ho]
      exact Range.overwrite_all (hlength.trans hn)

/-- The other members of an IFFF are those which have been read. -/
theorem ifffPreWrite_written {field : Field} (hk : a.kind = .ifff field) (hn : a.nElements = 1)
    (hz : a.useZMQ = false) (hready : Ready R s) {i1 : Int32} {f1 f2 f3 : BitVec 32}
    (hR : R = .ifff i1 f1 f2 f3) {l1 : Int32} {g1 g2 g3 : BitVec 32}
    (hsrc : src = .ifff l1 g1 g2 g3) {v : U.Val} {vs : List U.Val} (hb : buffer = v :: vs) :
    ∃ src', ifffPreWrite C field a s src buffer = .ok src' ∧ Written K C a R buffer src' := by
  subst hR hsrc hb
  rw [ifffPreWrite, doReadTransferSynchronously_ok hready hz, ok_bind]
  have hwrites : a.writes C (.ifff i1 f1 f2 f3) (v :: vs) =
      [C.toNumber ((Payload.ifff i1 f1 f2 f3).cellType field.index) v] := by
    rw [RegisterAccessor.writes, hn, first_ifff hk]
    rfl
  refine ⟨_, rfl, ?_, ?_⟩
  · cases field <;> rfl
  · rw [hwrites, first_ifff hk]
    cases field <;> rfl

end Structures

section Prepared
variable {K : EqDataLibrary} {C : Conversions} {M : ImageLayout} {typeOf : ℤ → DoocsType}
  {U : UserType} {a : RegisterAccessor U} {R src src' : Payload} {s : WriteState}
  {buffer : List U.Val} {actualLength : ℕ}

/-- What is kept by all writes: for numbers where nothing is read before a write, for structures
always. -/
structure Keeps (a : RegisterAccessor U) (src : Payload) : Prop where
  numbers : a.kind = .numeric → a.isPartial = false → 0 < a.nElements →
    src.type = a.src.type ∧ src.length = a.src.length ∧ (U = .void → src = a.src)
  members : a.kind ≠ .numeric → src.type = a.src.type

theorem kindPreWrite_numeric (hk : a.kind = .numeric) :
    kindPreWrite K C a s src buffer = numericPreWrite K C a s src buffer := by
  obtain ⟨kind, _⟩ := a
  obtain rfl : kind = .numeric := hk
  rfl

theorem kindPreWrite_iiii (hk : a.kind = .iiii) :
    kindPreWrite K C a s src buffer = iiiiPreWrite K C a s src buffer := by
  obtain ⟨kind, _⟩ := a
  obtain rfl : kind = .iiii := hk
  rfl

theorem kindPreWrite_ifff {field : Field} (hk : a.kind = .ifff field) :
    kindPreWrite K C a s src buffer = ifffPreWrite C field a s src buffer := by
  obtain ⟨kind, _⟩ := a
  obtain rfl : kind = .ifff field := hk
  rfl

/-- A write which succeeds has passed the checks. -/
theorem doPreWrite_ok (h : doPreWrite K C a s src buffer = .ok src') :
    kindPreWrite K C a s src buffer = .ok src' := by
  rw [doPreWrite] at h
  cases hc : checkWriteable a s with
  | error e => rw [hc] at h; cases h
  | ok u => rw [hc] at h; exact h

theorem iiiiPreWrite_type (harray : a.isArray = true) (hsrc : src.type = .iiii)
    (h : iiiiPreWrite K C a s src buffer = .ok src') : src'.type = .iiii := by
  have members (i1 i2 i3 i4 : Int32) (h : writeMembers C a buffer (.iiii i1 i2 i3 i4) = .ok src') :
      src'.type = .iiii := by
    rw [writeMembers] at h
    split at h
    · obtain ⟨j1, j2, j3, j4, hmembers, -⟩ := setMembers_iiii a.elementOffset 0
        ((buffer.take a.nElements).map (C.userTypeToNumeric .int32 U)) i1 i2 i3 i4
      cases h
      exact (congrArg Payload.type hmembers).trans rfl
    · cases h
  obtain ⟨i1, i2, i3, i4, rfl⟩ := Payload.iiii_of_type hsrc
  rw [iiiiPreWrite, if_neg (by simp [harray])] at h
  split at h
  · cases hr : doReadTransferSynchronously C a s with
    | error e => rw [hr] at h; cases h
    | ok dst => rw [hr] at h; exact members _ _ _ _ h
  · exact members i1 i2 i3 i4 h

theorem ifffPreWrite_type {field : Field} (hsrc : src.type = .ifff)
    (h : ifffPreWrite C field a s src buffer = .ok src') : src'.type = .ifff := by
  obtain ⟨i1, f1, f2, f3, rfl⟩ := Payload.ifff_of_type hsrc
  rw [ifffPreWrite] at h
  cases hr : doReadTransferSynchronously C a s with
  | error e => rw [hr] at h; cases h
  | ok dst =>
    rw [hr, ok_bind] at h
    split at h
    · cases h
      cases field <;> rfl
    · cases h

/-- A write to a whole array changes neither its type nor its length. -/
theorem numericPreWrite_keeps (hshape : Shaped a actualLength) (hk : a.kind = .numeric)
    (hfits : a.kind.fits a.src.type) (hp : a.isPartial = false) (hpos : 0 < a.nElements)
    (hb : buffer.length = a.bufferLength)
    (hkeeps : src.type = a.src.type ∧ src.length = a.src.length ∧ (U = .void → src = a.src))
    (h : numericPreWrite K C a s src buffer = .ok src') :
    src'.type = a.src.type ∧ src'.length = a.src.length ∧ (U = .void → src' = a.src) := by
  have hf : a.kind.field? = none := by rw [hk]; rfl
  obtain ⟨hn, ho⟩ := (hshape.isPartial hf).mp hp
  rw [hk] at hfits
  obtain ⟨t, ht⟩ := hfits
  obtain ⟨htype, hlength, hvoid⟩ := hkeeps
  have hsrc : a.src = .array t (List.replicate actualLength t.elem.zero) := by
    rw [hshape.src, ← ht, blank_array]
  by_cases hU : U = .void
  · rw [numericPreWrite, if_pos hU, hvoid hU, hsrc, K.set_zeros, ← hsrc] at h
    cases h
    exact ⟨rfl, rfl, fun _ => rfl⟩
  · obtain ⟨xs, rfl⟩ := Payload.array_of_type (htype.trans ht.symm)
    have hxs : xs.length = actualLength := by
      rw [hsrc, Payload.length, Payload.length, List.length_replicate] at hlength
      exact hlength
    have hlt := hshape.length_lt
    have hbuffer := hb.trans (hshape.bufferLength hf)
    rw [numericPreWrite, if_neg hU, hp, if_neg Bool.false_ne_true,
      writeNumbers_array (by omega) (by omega) (by omega) hbuffer] at h
    cases h
    refine ⟨htype, ?_, fun hvoid => absurd hvoid hU⟩
    rw [Payload.length, Range.length_overwrite (by rw [List.length_map]; omega)]
    exact hlength

/-- Writes keep what is kept. -/
theorem Prepared.keeps (hshape : Shaped a actualLength) (hfits : a.kind.fits a.src.type)
    (h : Prepared K C a src) : Keeps a src := by
  induction h with
  | constructed => exact ⟨fun _ _ _ => ⟨rfl, rfl, fun _ => rfl⟩, fun _ => rfl⟩
  | written before hb ok ih =>
    have hkind := doPreWrite_ok ok
    obtain ⟨hf, hk | hk⟩ | ⟨field, hk⟩ := Kind.cases_of_fits hfits
    · rw [kindPreWrite_numeric hk] at hkind
      refine ⟨fun _ hp hpos => ?_, fun hne => absurd hk hne⟩
      exact numericPreWrite_keeps hshape hk hfits hp hpos hb (ih.numbers hk hp hpos) hkind
    · have hmembers := ih.members (by simp [hk])
      have harray : a.isArray = true := by simp [hshape.isArray hf, hshape.iiii hk]
      rw [hk] at hfits
      rw [kindPreWrite_iiii hk] at hkind
      refine ⟨fun hne => (by rw [hk] at hne; cases hne), fun _ => ?_⟩
      exact (iiiiPreWrite_type harray (hmembers.trans hfits) hkind).trans hfits.symm
    · have hmembers := ih.members (by simp [hk])
      rw [hk] at hfits
      rw [kindPreWrite_ifff hk] at hkind
      refine ⟨fun hne => (by rw [hk] at hne; cases hne), fun _ => ?_⟩
      exact (ifffPreWrite_type (hmembers.trans hfits) hkind).trans hfits.symm

theorem needsRead_of_isPartial (hp : a.isPartial = true) : a.needsRead = true := by
  simp [RegisterAccessor.needsRead, hp]

/-- What a write to a numeric array prepares. -/
theorem numericPreWrite_written (hshape : Shaped a actualLength) (hk : a.kind = .numeric)
    (hfits : a.kind.fits a.src.type) (hw : Writable a) (hR : Addresses a R) (hready : Ready R s)
    (hkeeps : Keeps a src) (hb : buffer.length = a.bufferLength) :
    ∃ src', numericPreWrite K C a s src buffer = .ok src' ∧ Written K C a R buffer src' := by
  have hf : a.kind.field? = none := by rw [hk]; rfl
  have hbuffer := hb.trans (hshape.bufferLength hf)
  have hpos := hR.nonempty
  have hactual := hshape.length_lt
  rw [hk] at hfits
  obtain ⟨t, ht⟩ := hfits
  obtain ⟨xs, rfl⟩ := Payload.array_of_type (hR.type.trans ht.symm)
  by_cases hp : a.isPartial = true
  · have hneeds := needsRead_of_isPartial hp
    have hrange := hshape.range hf (hw.range hneeds)
    exact numericPreWrite_partial hk (hw.value hneeds hk) hp (hw.polled hneeds) hready rfl hpos
      hR.length_lt (by omega) hbuffer
  · have hp : a.isPartial = false := by simpa using hp
    obtain ⟨hn, ho⟩ := (hshape.isPartial hf).mp hp
    have hsame : xs.length = a.nElements := hR.same hp hf
    obtain ⟨htype, hlength, hvoid⟩ := hkeeps.numbers hk hp (hsame ▸ hpos)
    have hsrc : a.src = .blank actualLength t.type := by rw [ht]; exact hshape.src
    by_cases hU : U = .void
    · exact numericPreWrite_void hk hU ho rfl ((hvoid hU).trans hsrc) (hsame.trans hn) hsame hbuffer
    · obtain ⟨ys, rfl⟩ := Payload.array_of_type (htype.trans ht.symm)
      have hys : ys.length = actualLength := by
        rw [hsrc, blank_array, Payload.length, Payload.length, List.length_replicate] at hlength
        exact hlength
      exact numericPreWrite_whole hk hU hp ho rfl rfl (by omega) hpos hR.length_lt hsame hbuffer

/-- What a write to an IIII prepares. -/
theorem iiiiPreWrite_of_shaped (hshape : Shaped a actualLength) (hk : a.kind = .iiii)
    (hfits : a.kind.fits a.src.type) (hw : Writable a) (hR : Addresses a R) (hready : Ready R s)
    (hkeeps : Keeps a src) (hb : buffer.length = a.bufferLength) :
    ∃ src', iiiiPreWrite K C a s src buffer = .ok src' ∧ Written K C a R buffer src' := by
  have hf : a.kind.field? = none := by rw [hk]; rfl
  have hfour := hshape.iiii hk
  have hmembers := hkeeps.members (by simp [hk])
  rw [hk] at hfits
  obtain ⟨i1, i2, i3, i4, rfl⟩ := Payload.iiii_of_type (hR.type.trans hfits)
  obtain ⟨l1, l2, l3, l4, rfl⟩ := Payload.iiii_of_type (hmembers.trans hfits)
  have hwhole (hp : a.isPartial = false) : a.elementOffset = 0 ∧ a.nElements = 4 := by
    obtain ⟨hn, ho⟩ := (hshape.isPartial hf).mp hp
    exact ⟨ho, hn.trans hfour⟩
  have hrange : a.elementOffset + a.nElements ≤ 4 := by
    by_cases hp : a.isPartial = true
    · exact hfour ▸ hshape.range hf (hw.range (needsRead_of_isPartial hp))
    · obtain ⟨ho, hn⟩ := hwhole (by simpa using hp)
      omega
  exact iiiiPreWrite_written hk (by simp [hshape.isArray hf, hfour])
    (fun hp => hw.polled (needsRead_of_isPartial hp)) hready rfl rfl hrange hwhole
    (hb.trans (hshape.bufferLength hf))

/-- What a write to a field of an IFFF prepares. -/
theorem ifffPreWrite_of_shaped (hshape : Shaped a actualLength) {field : Field}
    (hk : a.kind = .ifff field) (hfits : a.kind.fits a.src.type) (hw : Writable a)
    (hR : Addresses a R) (hready : Ready R s) (hkeeps : Keeps a src)
    (hb : buffer.length = a.bufferLength) :
    ∃ src', ifffPreWrite C field a s src buffer = .ok src' ∧ Written K C a R buffer src' := by
  have hsome : a.kind.field?.isSome = true := by rw [hk]; rfl
  obtain ⟨hn, ho, hlength⟩ := hshape.field hsome
  have hmembers := hkeeps.members (by simp [hk])
  rw [hk] at hfits
  obtain ⟨i1, f1, f2, f3, rfl⟩ := Payload.ifff_of_type (hR.type.trans hfits)
  obtain ⟨l1, g1, g2, g3, rfl⟩ := Payload.ifff_of_type (hmembers.trans hfits)
  obtain ⟨v, vs, rfl⟩ : ∃ v vs, buffer = v :: vs := List.exists_cons_of_length_pos (by omega)
  have hneeds : a.needsRead = true := by simp [RegisterAccessor.needsRead, hsome]
  exact ifffPreWrite_written hk hn (hw.polled hneeds) hready rfl rfl rfl

/-- What a write prepares, for an accessor of any class. -/
theorem Writer.doPreWrite_written (w : Writer M typeOf U) (hw : Writable w.accessor)
    (hR : Addresses w.accessor R) (hready : Ready R s) (hsrc : Prepared K C w.accessor src)
    (hb : buffer.length = w.accessor.bufferLength) :
    ∃ src', doPreWrite K C w.accessor s src buffer = .ok src' ∧
      Written K C w.accessor R buffer src' := by
  obtain ⟨actualLength, hshape⟩ := w.shaped
  have hkeeps := hsrc.keeps hshape w.fits
  rw [doPreWrite, checkWriteable_ok w.fits hready, ok_bind]
  obtain ⟨hf, hk | hk⟩ | ⟨field, hk⟩ := Kind.cases_of_fits w.fits
  · rw [kindPreWrite_numeric hk]
    exact numericPreWrite_written hshape hk w.fits hw hR hready hkeeps hb
  · rw [kindPreWrite_iiii hk]
    exact iiiiPreWrite_of_shaped hshape hk w.fits hw hR hready hkeeps hb
  · rw [kindPreWrite_ifff hk]
    exact ifffPreWrite_of_shaped hshape hk w.fits hw hR hready hkeeps hb

end Prepared

end DoocsBackend.Accessor
