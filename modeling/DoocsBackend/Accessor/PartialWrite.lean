import DoocsBackend.Accessor.ReadModifyWrite
import DoocsBackend.Catalogue.RegisterPath

/-! # Writing a part of a property

A write replaces the cells of the accessor and leaves the others alone, unless it has to read and
cannot. Where this holds, the buffer is read back, other accessors read their old values, and
writes to different cells commute.
-/
namespace DoocsBackend.Accessor

section Definitions
variable (K : EqDataLibrary) (C : Conversions) (M : ImageLayout) {typeOf : ℤ → DoocsType}
  {U V : UserType}

/-- A write of the buffer which turns the content `R` into `S`: the server stores `src` as it is. -/
structure Stores (a : RegisterAccessor U) (buffer : List U.Val) (R S : Payload) : Prop where
  addresses : Addresses a R
  length : buffer.length = a.bufferLength
  writes : ∃ s src, Ready R s ∧ Prepared K C a src ∧ doPreWrite K C a s src buffer = .ok S

/-- The range is replaced by the converted buffer, everything else stays. -/
structure ReadModifyWrite (a : RegisterAccessor U) (buffer : List U.Val) (R S : Payload) :
    Prop where
  type : S.type = R.type
  length : S.length = max R.length (a.first + a.nElements)
  inside : ∀ k < a.nElements,
    S.cells[a.first + k]? = buffer[k]?.map fun v => C.toNumber (R.cellType (a.first + k)) v
  outside : ∀ i < R.length, ¬ InRange a i → S.cells[i]? = R.cells[i]?

/-- The accessor reads the converted buffer from the content `S`. -/
def ReadsBack (a : RegisterAccessor U) (buffer : List U.Val) (S : Payload) : Prop :=
  ∀ dst old, dst.payload = S → old.length = a.bufferLength →
    ∃ new, doPostRead C M a dst old = .ok new ∧ new.length = old.length ∧
      ∀ k < a.nElements, new[k]? =
        buffer[k]?.map fun v => C.toUser U (C.toNumber (S.cellType (a.first + k)) v)

/-- The accessor reads from `S` what it reads from `R`. -/
def ReadsAlike (b : RegisterAccessor V) (R S : Payload) : Prop :=
  ∀ dst dst' old new, dst.payload = R → dst'.payload = S →
    doPostRead C M b dst old = .ok new → doPostRead C M b dst' old = .ok new

/-- All writes of an accessor are as they should be. -/
structure WritesInPlace (w : Writer M typeOf U) : Prop where
  succeeds : ∀ R s src buffer, Addresses w.accessor R → Ready R s → Prepared K C w.accessor src →
    buffer.length = w.accessor.bufferLength →
      ∃ src', doPreWrite K C w.accessor s src buffer = .ok src'
  modifies : ∀ buffer R S, Stores K C w.accessor buffer R S →
    ReadModifyWrite C w.accessor buffer R S
  readsBack : ∀ buffer R S, Stores K C w.accessor buffer R S → ReadsBack C M w.accessor buffer S
  others : ∀ buffer R S, Stores K C w.accessor buffer R S →
    ∀ (V : UserType) (b : Writer M typeOf V), b.accessor.src.type = R.type →
      Apart w.accessor b.accessor → ReadsAlike C M b.accessor R S

/-- Writes of the two accessors come to the same in both orders, if they do not concern the same
cells. -/
def Commute (a : RegisterAccessor U) (b : RegisterAccessor V) : Prop :=
  Apart a b → ∀ u v R S T X Y, Stores K C a u R S → Stores K C b v S X →
    Stores K C b v R T → Stores K C a u T Y → X = Y

end Definitions

section Sufficient
variable {K : EqDataLibrary} {C : Conversions} {M : ImageLayout} {typeOf : ℤ → DoocsType}
  {U V : UserType} {R S : Payload} {buffer : List U.Val}

theorem Written.length {a : RegisterAccessor U} (h : Written K C a R buffer S)
    (hfits : a.kind.fits R.type) (hl : a.nElements ≤ buffer.length) :
    S.length = max R.length (a.first + a.nElements) := by
  rw [← Payload.length_cells (h.type ▸ hfits), h.cells, Range.length_write, length_writes hl,
    Payload.length_cells hfits]

theorem Written.readModifyWrite {a : RegisterAccessor U} (h : Written K C a R buffer S)
    (hfits : a.kind.fits R.type) (hl : a.nElements ≤ buffer.length) :
    ReadModifyWrite C a buffer R S where
  type := h.type
  length := h.length hfits hl
  inside k hk := by
    rw [h.cells, Range.getElem?_write_inside (by rwa [length_writes hl]), getElem?_writes hk]
  outside i hi hout := by
    rw [h.cells]
    apply Range.getElem?_write_outside
    · rwa [Payload.length_cells hfits]
    · rw [length_writes hl]
      unfold InRange at hout
      omega

namespace Writer
variable (w : Writer M typeOf U)

theorem nElements_le : w.accessor.nElements ≤ w.accessor.bufferLength := by
  obtain ⟨actualLength, hshape⟩ := w.shaped
  cases hf : w.accessor.kind.field? with
  | none => exact (hshape.bufferLength hf).ge
  | some field =>
    obtain ⟨hn, -, hpos⟩ := hshape.field (by rw [hf]; rfl)
    omega

theorem nElements_of_field (h : w.accessor.kind.field?.isSome) : w.accessor.nElements = 1 := by
  obtain ⟨actualLength, hshape⟩ := w.shaped
  exact (hshape.field h).1

variable {w}

theorem written (hw : Writable w.accessor) (h : Stores K C w.accessor buffer R S) :
    Written K C w.accessor R buffer S := by
  obtain ⟨haddresses, hlength, s, src, hready, hprepared, hok⟩ := h
  obtain ⟨src', hok', hwritten⟩ := w.doPreWrite_written hw haddresses hready hprepared hlength
  rw [hok] at hok'
  cases hok'
  exact hwritten

/-- The range of an accessor which can write ends early enough. -/
theorem first_add_lt (hw : Writable w.accessor) :
    w.accessor.first + w.accessor.nElements < 2 ^ 31 := by
  obtain ⟨actualLength, hshape⟩ := w.shaped
  have hlt := hshape.length_lt
  obtain ⟨hf, hk⟩ | ⟨field, hk⟩ := Kind.cases_of_fits w.fits
  · rw [first_numbers hk]
    by_cases hp : w.accessor.isPartial = true
    · have := hshape.range hf (hw.range (needsRead_of_isPartial hp))
      omega
    · obtain ⟨hn, ho⟩ := (hshape.isPartial hf).mp (by simpa using hp)
      omega
  · rw [first_ifff hk, w.nElements_of_field (by rw [hk]; rfl)]
    cases field <;> simp [Field.index]

/-- A buffer of `Void` is not touched, but there is only one such value. -/
theorem readsBack_void (hU : U = .void)
    (hk : w.accessor.kind = .numeric ∨ w.accessor.kind = .iiii)
    (hlength : buffer.length = w.accessor.bufferLength) :
    ReadsBack C M w.accessor buffer S := by
  intro dst old hdst hold
  refine ⟨old, ?_, rfl, fun k hk => ?_⟩
  · rw [doPostRead, postReadValues_void hk hU]
    rfl
  · have hn := w.nElements_le
    subst hU
    rw [List.getElem?_eq_getElem (by omega), List.getElem?_eq_getElem (by omega)]
    rfl

theorem readsBack (hw : Writable w.accessor) (h : Stores K C w.accessor buffer R S) :
    ReadsBack C M w.accessor buffer S := by
  by_cases hvoid : U = .void ∧ w.accessor.kind.field? = none
  · obtain ⟨hf, hk⟩ | ⟨field, hk⟩ := Kind.cases_of_fits w.fits
    · exact readsBack_void hvoid.1 hk h.length
    · rw [hk] at hvoid
      cases hvoid.2
  intro dst old hdst hold
  subst hdst
  have hwritten := w.written hw h
  have hfitsR : w.accessor.kind.fits R.type := h.addresses.type ▸ w.fits
  have hn : w.accessor.nElements ≤ buffer.length := h.length ▸ w.nElements_le
  have hlength := hwritten.length hfitsR hn
  have hend := w.first_add_lt hw
  have hlt := h.addresses.length_lt
  have hvalues : postReadValues C M w.accessor dst =
      .ok ((w.accessor.writes C R buffer).map (C.toUser U)) := by
    rw [postReadValues_eq (hwritten.type ▸ hfitsR) w.nElements_of_field
      (fun hU => Option.isSome_iff_ne_none.mpr fun hf => hvoid ⟨hU, hf⟩) (by omega) (by omega),
      hwritten.cells]
    congr 2
    have htake : ((Range.write (K.fillNumber R) w.accessor.first (w.accessor.writes C R buffer)
        R.cells).drop w.accessor.first).take (w.accessor.writes C R buffer).length =
          w.accessor.writes C R buffer := Range.take_drop_write
    rwa [length_writes hn] at htake
  refine ⟨_, by rw [doPostRead, hvalues]; rfl, ?_, fun k hk => ?_⟩
  · have hbuffer := w.nElements_le
    rw [List.length_append, List.length_drop, List.length_map, length_writes hn]
    omega
  · rw [List.getElem?_append_left (by rw [List.length_map, length_writes hn]; exact hk),
      List.getElem?_map, getElem?_writes hk, Option.map_map,
      Payload.cellType_congr (hwritten.type ▸ hfitsR) hwritten.type]
    rfl

/-- A read of other cells gives the same before and after a write. -/
theorem readsAlike {a : RegisterAccessor U} (hmodify : ReadModifyWrite C a buffer R S)
    (b : Writer M typeOf V) (hb : b.accessor.src.type = R.type) (hapart : Apart a b.accessor)
    (hlt : S.length < 2 ^ 64) : ReadsAlike C M b.accessor R S := by
  intro dst dst' old new hdst hdst' hread
  subst hdst hdst'
  have hfits : b.accessor.kind.fits dst.payload.type := hb ▸ b.fits
  have hfits' : b.accessor.kind.fits dst'.payload.type := hmodify.type ▸ hfits
  have hsame : postReadValues C M b.accessor dst' = postReadValues C M b.accessor dst := by
    by_cases hvoid : V = .void ∧ b.accessor.kind.field? = none
    · obtain ⟨hf, hk⟩ | ⟨field, hk⟩ := Kind.cases_of_fits hfits
      · rw [postReadValues_void hk hvoid.1, postReadValues_void hk hvoid.1]
      · rw [hk] at hvoid
        cases hvoid.2
    · have hV (h : V = .void) : b.accessor.kind.field?.isSome :=
        Option.isSome_iff_ne_none.mpr fun hf => hvoid ⟨h, hf⟩
      cases hr : postReadValues C M b.accessor dst with
      | error e =>
        rw [doPostRead, hr] at hread
        cases hread
      | ok values =>
        obtain ⟨hl, rfl⟩ := postReadValues_ok hfits b.nElements_of_field hV hr
        rw [postReadValues_eq hfits' b.nElements_of_field hV
          (by rw [hmodify.length]; omega) hlt]
        congr 2
        apply Range.take_drop_congr
        intro k hk
        exact hmodify.outside _ (by omega) fun ha => hapart _ ⟨ha, by unfold InRange; omega⟩
  rw [doPostRead, hsame]
  exact hread

theorem writesInPlace (hw : Writable w.accessor) : WritesInPlace K C M w where
  succeeds R s src buffer haddresses hready hprepared hlength := by
    obtain ⟨src', hok, -⟩ := w.doPreWrite_written hw haddresses hready hprepared hlength
    exact ⟨src', hok⟩
  modifies buffer R S h :=
    (w.written hw h).readModifyWrite (h.addresses.type ▸ w.fits) (h.length ▸ w.nElements_le)
  readsBack buffer R S h := w.readsBack hw h
  others buffer R S h V b hb hapart := by
    have hfits : w.accessor.kind.fits R.type := h.addresses.type ▸ w.fits
    have hn : w.accessor.nElements ≤ buffer.length := h.length ▸ w.nElements_le
    have hwritten := w.written hw h
    have hlength := hwritten.length hfits hn
    have hend := w.first_add_lt hw
    have hlt := h.addresses.length_lt
    exact readsAlike (hwritten.readModifyWrite hfits hn) b hb hapart (by omega)

theorem fillNumber_congr {k : Kind U} (h : k.fits R.type) (hRS : R.type = S.type) :
    K.fillNumber R = K.fillNumber S := by
  obtain ⟨-, t, xs, rfl⟩ | ⟨-, i1, i2, i3, i4, rfl⟩ | ⟨field, -, i1, f1, f2, f3, rfl⟩ :=
    Payload.eq_of_fits h
  · obtain ⟨ys, rfl⟩ := Payload.array_of_type hRS.symm
    rfl
  · obtain ⟨j1, j2, j3, j4, rfl⟩ := Payload.iiii_of_type hRS.symm
    rfl
  · obtain ⟨j1, g1, g2, g3, rfl⟩ := Payload.ifff_of_type hRS.symm
    rfl

/-- The second of two writes, in terms of the content before the first. -/
theorem written_twice {x : Writer M typeOf V} {X : Payload} {v : List V.Val}
    (hw : Writable w.accessor) (hx : Writable x.accessor) (hRS : Stores K C w.accessor buffer R S)
    (hSX : Stores K C x.accessor v S X) :
    X.type = R.type ∧ X.cells = Range.write (K.fillNumber R) x.accessor.first
      (x.accessor.writes C R v) (Range.write (K.fillNumber R) w.accessor.first
        (w.accessor.writes C R buffer) R.cells) := by
  have hS := w.written hw hRS
  have hX := x.written hx hSX
  have hfits : w.accessor.kind.fits R.type := hRS.addresses.type ▸ w.fits
  refine ⟨hX.type.trans hS.type, ?_⟩
  rw [hX.cells, hS.cells, ← fillNumber_congr hfits hS.type.symm, RegisterAccessor.writes,
    ← Payload.cellType_congr hfits hS.type.symm]
  rfl

theorem commute {x : Writer M typeOf V} (hw : Writable w.accessor) (hx : Writable x.accessor) :
    Commute K C w.accessor x.accessor := by
  intro hapart u v R S T X Y hRS hSX hRT hTY
  obtain ⟨hX, hcellsX⟩ := written_twice hw hx hRS hSX
  obtain ⟨hY, hcellsY⟩ := written_twice hx hw hRT hTY
  apply Payload.ext_cells (k := w.accessor.kind) (by rw [hX, hRS.addresses.type]; exact w.fits)
    (hX.trans hY.symm)
  rw [hcellsX, hcellsY]
  apply Range.write_comm
  intro i hi
  rw [length_writes (hRS.length ▸ w.nElements_le), length_writes (hSX.length ▸ x.nElements_le)] at hi
  exact hapart i hi

end Writer

end Sufficient

section Necessary
variable {K : EqDataLibrary} {C : Conversions} {M : ImageLayout} {typeOf : ℤ → DoocsType}
  {U : UserType} {w : Writer M typeOf U} {R S : Payload} {buffer : List U.Val}

/-- A writable property of an open backend, whose server answers with `R`. -/
def answering (R : Payload) : WriteState where
  backend := { opened := true }
  isWriteable := true
  rc := .ok
  dst := R

theorem ready_answering (R : Payload) : Ready R (answering R) := ⟨rfl, rfl, rfl, rfl, rfl⟩

/-- The shortest content an accessor which reads can write to. -/
theorem addresses_blank (hneeds : w.accessor.needsRead = true) :
    Addresses w.accessor (.blank 1 w.accessor.src.type) := by
  have hlength : 0 < (Payload.blank 1 w.accessor.src.type).length ∧
      (Payload.blank 1 w.accessor.src.type).length < 2 ^ 31 := by
    obtain ⟨a, -, hfits⟩ := w
    dsimp only
    obtain ⟨-, hk | hk⟩ | ⟨field, hk⟩ := Kind.cases_of_fits hfits
    · rw [hk] at hfits
      obtain ⟨t, ht⟩ := hfits
      rw [← ht, blank_array]
      simp [Payload.length]
    · rw [hk] at hfits
      rw [show a.src.type = .iiii from hfits]
      simp [Payload.blank, Payload.length]
    · rw [hk] at hfits
      rw [show a.src.type = .ifff from hfits]
      simp [Payload.blank, Payload.length]
  refine ⟨Payload.type_blank _ _, hlength.1, hlength.2, fun hp hf => ?_⟩
  simp [RegisterAccessor.needsRead, hp, hf] at hneeds

/-- A first write. -/
theorem exists_write (h : WritesInPlace K C M w) (hR : Addresses w.accessor R) :
    ∃ buffer S, kindPreWrite K C w.accessor (answering R) w.accessor.src buffer = .ok S ∧
      ReadModifyWrite C w.accessor buffer R S := by
  have hlength := List.length_replicate (n := w.accessor.bufferLength) (a := U.zero)
  obtain ⟨S, hS⟩ := h.succeeds R (answering R) w.accessor.src _ hR (ready_answering R)
    .constructed hlength
  exact ⟨_, S, doPreWrite_ok hS,
    h.modifies _ R S ⟨hR, hlength, _, _, ready_answering R, .constructed, hS⟩⟩

theorem exists_ne_zero (c : CType) : ∃ v : c.Val, v ≠ c.zero := by
  cases c with
  | bool => exact ⟨true, (by decide : true ≠ false)⟩
  | int16 => exact ⟨(1 : Int16), (by decide : (1 : Int16) ≠ 0)⟩
  | uint16 => exact ⟨(1 : UInt16), (by decide : (1 : UInt16) ≠ 0)⟩
  | int32 => exact ⟨(1 : Int32), (by decide : (1 : Int32) ≠ 0)⟩
  | uint32 => exact ⟨(1 : UInt32), (by decide : (1 : UInt32) ≠ 0)⟩
  | int64 => exact ⟨(1 : Int64), (by decide : (1 : Int64) ≠ 0)⟩
  | uint64 => exact ⟨(1 : UInt64), (by decide : (1 : UInt64) ≠ 0)⟩
  | float => exact ⟨1#32, (by decide : 1#32 ≠ 0#32)⟩
  | double => exact ⟨1#64, (by decide : 1#64 ≠ 0#64)⟩

/-- A part of a property leaves a cell out. -/
theorem exists_outside {a : RegisterAccessor U} {actualLength : ℕ} (hshape : Shaped a actualLength)
    (hk : a.kind = .numeric) (hp : a.isPartial = true)
    (hrange : a.elementOffset + a.nElements ≤ actualLength) :
    ∃ i < actualLength, ¬ InRange a i := by
  have hf : a.kind.field? = none := by rw [hk]; rfl
  have hnot : ¬ (a.nElements = actualLength ∧ a.elementOffset = 0) := fun h => by
    simp [(hshape.isPartial hf).mpr h] at hp
  unfold InRange
  rw [first_numbers (.inl hk)]
  by_cases ho : a.elementOffset = 0
  · exact ⟨a.nElements, by omega, by omega⟩
  · by_cases hn : a.nElements = 0
    · exact ⟨0, by omega, by omega⟩
    · exact ⟨0, by omega, by omega⟩

/-- A `Void` is written without reading the rest of the array. -/
theorem ne_void_of_writesInPlace (h : WritesInPlace K C M w) (hp : w.accessor.isPartial = true)
    (hk : w.accessor.kind = .numeric) : U ≠ .void := by
  intro hU
  obtain ⟨actualLength, hshape⟩ := w.shaped
  obtain ⟨a, hconstructed, hfits⟩ := w
  dsimp only at *
  have hf : a.kind.field? = none := by rw [hk]; rfl
  have hlt := hshape.length_lt
  have hfits' := hfits
  rw [hk] at hfits'
  obtain ⟨t, ht⟩ := hfits'
  have hsrc : a.src = .array t (List.replicate actualLength t.elem.zero) := by
    rw [hshape.src, ← ht, blank_array]
  obtain ⟨v, hv⟩ := exists_ne_zero t.elem
  -- `src` is the same whatever the property holds
  have hmodify {m : ℕ} (hm : 0 < m) (hmlt : m < 2 ^ 31) :
      ∃ buffer, ReadModifyWrite C a buffer (.array t (List.replicate m v)) a.src := by
    have haddresses : Addresses a (.array t (List.replicate m v)) :=
      ⟨ht, by simpa [Payload.length] using hm, by simpa [Payload.length] using hmlt,
        fun hp' => by rw [hp] at hp'; cases hp'⟩
    obtain ⟨buffer, S, hS, hmodify⟩ := exists_write h haddresses
    dsimp only at hS hmodify
    rw [kindPreWrite_numeric hk, numericPreWrite, if_pos hU, hsrc, K.set_zeros, ← hsrc] at hS
    cases hS
    exact ⟨buffer, hmodify⟩
  by_cases hrange : a.elementOffset + a.nElements < 2 ^ 64
  · obtain ⟨i, hi, hout⟩ := exists_outside hshape hk hp (hshape.range hf hrange)
    obtain ⟨buffer, hmodify⟩ := hmodify (Nat.zero_lt_of_lt hi) hlt
    have hcell := hmodify.outside i (by simpa [Payload.length] using hi) hout
    rw [hsrc] at hcell
    simp only [Payload.cells, List.map_replicate, List.getElem?_replicate, if_pos hi,
      Option.some.injEq, Sigma.mk.injEq, heq_eq_eq, true_and] at hcell
    exact hv hcell.symm
  · obtain ⟨buffer, hmodify⟩ := hmodify Nat.one_pos (by norm_num)
    have hlength := hmodify.length
    rw [hsrc, first_numbers (.inl hk)] at hlength
    simp only [Payload.length, List.length_replicate] at hlength
    omega

theorem doReadTransferSynchronously_useZMQ {a : RegisterAccessor U} {s : WriteState}
    (h : Ready R s) (hz : a.useZMQ = true) :
    doReadTransferSynchronously C a s = .error .assertion := by
  simp [doReadTransferSynchronously, h.functional, hz]

theorem isPartial_of_needsRead {a : RegisterAccessor U} (hneeds : a.needsRead = true)
    (hf : a.kind.field? = none) : a.isPartial = true := by
  simpa [RegisterAccessor.needsRead, hf] using hneeds

/-- Nothing can be read by an accessor which waits for new data. -/
theorem polled_of_writesInPlace (h : WritesInPlace K C M w) (hneeds : w.accessor.needsRead = true) :
    w.accessor.useZMQ = false := by
  by_contra hz
  have hfailed : doReadTransferSynchronously C w.accessor
      (answering (.blank 1 w.accessor.src.type)) = .error .assertion :=
    doReadTransferSynchronously_useZMQ (ready_answering _) (by simpa using hz)
  obtain ⟨buffer, S, hS, -⟩ := exists_write h (addresses_blank hneeds)
  obtain ⟨hf, hk | hk⟩ | ⟨field, hk⟩ := Kind.cases_of_fits w.fits
  · have hp := isPartial_of_needsRead hneeds hf
    rw [kindPreWrite_numeric hk, numericPreWrite, if_neg (ne_void_of_writesInPlace h hp hk),
      if_pos hp, hfailed] at hS
    cases hS
  · obtain ⟨actualLength, hshape⟩ := w.shaped
    have harray : w.accessor.isArray = true := by simp [hshape.isArray hf, hshape.iiii hk]
    rw [kindPreWrite_iiii hk, iiiiPreWrite, if_neg (by simp [harray]),
      if_pos (isPartial_of_needsRead hneeds hf), hfailed] at hS
    cases hS
  · rw [kindPreWrite_ifff hk, ifffPreWrite, hfailed] at hS
    cases hS

/-- A write through a pointer or with an index changes neither type nor length of an array. -/
theorem writeNumbers_array_ok {a : RegisterAccessor U} {t : ArrayType} {xs : List t.elem.Val}
    (hpos : 0 < xs.length) (h : writeNumbers K C a buffer (.array t xs) = .ok S) :
    ∃ ys, S = .array t ys ∧ ys.length = xs.length := by
  have hstore {vs ys : List t.elem.Val} (h : store a.elementOffset vs xs = .ok ys) :
      ys.length = xs.length := by
    unfold store at h
    split at h
    · cases h
      exact Range.length_overwrite ‹_›
    · cases h
  have hcopy {ys : List t.elem.Val} (h : copyToTarget C a t.elem buffer xs = .ok ys) :
      ys.length = xs.length := by
    unfold copyToTarget at h
    split at h
    · split at h
      · exact hstore h
      · cases h
    · exact hstore h
  rw [writeNumbers] at h
  split at h
  · cases hc : copyToTarget C a t.elem buffer xs with
    | error e =>
      rw [hc] at h
      cases h
    | ok ys =>
      rw [hc] at h
      cases h
      exact ⟨ys, rfl, hcopy hc⟩
  · rw [if_neg (by omega)] at h
    split at h
    · cases h
      exact ⟨_, rfl, length_setElements _ _ _⟩
    · cases h

/-- What is read is not made longer than the sum in the check says. -/
theorem length_lengthen {a : RegisterAccessor U} {t : ArrayType} (xs : List t.elem.Val)
    (hlt : sizeAdd a.nElements a.elementOffset < 2 ^ 31) : ∃ ys : List t.elem.Val,
      lengthen K a (.array t xs) = .array t ys ∧
        ys.length = max (sizeAdd a.nElements a.elementOffset) xs.length := by
  rw [lengthen, Payload.length]
  split
  · refine ⟨xs.rightpad (sizeAdd a.nElements a.elementOffset) (K.fill t), ?_, List.length_rightpad⟩
    rw [toInt_of_lt hlt, K.setLength_array t xs _ (by omega) hlt]
  · exact ⟨xs, rfl, by omega⟩

/-- Where the sum of length and offset has an overflow, nothing as long is written. -/
theorem range_of_writesInPlace (h : WritesInPlace K C M w) (hneeds : w.accessor.needsRead = true) :
    w.accessor.elementOffset + w.accessor.nElements < 2 ^ 64 := by
  by_contra hrange
  have hpolled := polled_of_writesInPlace h hneeds
  have hread : doReadTransferSynchronously C w.accessor
      (answering (.blank 1 w.accessor.src.type)) = .ok (.blank 1 w.accessor.src.type) :=
    doReadTransferSynchronously_ok (ready_answering _) hpolled
  obtain ⟨actualLength, hshape⟩ := w.shaped
  obtain ⟨buffer, S, hS, hmodify⟩ := exists_write h (addresses_blank hneeds)
  have hfits := w.fits
  have hlength := hmodify.length
  obtain ⟨hf, hk | hk⟩ | ⟨field, hk⟩ := Kind.cases_of_fits w.fits
  · rw [first_numbers (.inl hk)] at hlength
    have hp := isPartial_of_needsRead hneeds hf
    have hsum : sizeAdd w.accessor.nElements w.accessor.elementOffset < 2 ^ 31 :=
      (hshape.checked hf).trans_lt hshape.length_lt
    rw [hk] at hfits
    obtain ⟨t, ht⟩ := hfits
    rw [kindPreWrite_numeric hk, numericPreWrite, if_neg (ne_void_of_writesInPlace h hp hk),
      if_pos hp, hread, ok_bind, ← ht, blank_array] at hS
    obtain ⟨ys, hys, hlong⟩ := length_lengthen (K := K) (List.replicate 1 t.elem.zero) hsum
    rw [List.length_replicate] at hlong
    rw [hys] at hS
    obtain ⟨zs, rfl, hzs⟩ := writeNumbers_array_ok (by omega) hS
    have hS : (Payload.array t zs).length = zs.length := rfl
    omega
  · rw [first_numbers (.inr hk)] at hlength
    rw [hk] at hfits
    have htype : S.type = .iiii := hmodify.type.trans ((Payload.type_blank _ _).trans hfits)
    obtain ⟨i1, i2, i3, i4, rfl⟩ := Payload.iiii_of_type htype
    have hfour : (Payload.iiii i1 i2 i3 i4).length = 4 := rfl
    omega
  · obtain ⟨hn, ho, -⟩ := hshape.field (by rw [hk]; rfl)
    omega

theorem writable_of_writesInPlace (h : WritesInPlace K C M w) : Writable w.accessor where
  polled := polled_of_writesInPlace h
  range := range_of_writesInPlace h
  value hneeds hk :=
    ne_void_of_writesInPlace h (isPartial_of_needsRead hneeds (by rw [hk]; rfl)) hk

end Necessary

section Main
variable (K : EqDataLibrary) (C : Conversions) (M : ImageLayout) {typeOf : ℤ → DoocsType}
  {U V : UserType}

/-- Writes replace the range of the accessor and nothing else, are read back, are not noticed by
others and commute exactly if the accessors can read what they do not write. -/
theorem writesInPlace_iff (w : Writer M typeOf U) (x : Writer M typeOf V) :
    (WritesInPlace K C M w ∧ WritesInPlace K C M x ∧ Commute K C w.accessor x.accessor) ↔
      (Writable w.accessor ∧ Writable x.accessor) := by
  constructor
  · intro h
    exact ⟨writable_of_writesInPlace h.1, writable_of_writesInPlace h.2.1⟩
  · intro h
    exact ⟨Writer.writesInPlace h.1, Writer.writesInPlace h.2, Writer.commute h.1 h.2⟩

/-- Data objects which change only where something is defined. -/
def plainEqData : EqDataLibrary where
  fill t := t.elem.zero
  setLength n
    | .array t xs =>
      if 0 ≤ n ∧ n < 2 ^ 31 then .array t ((xs.take n.toNat).rightpad n.toNat t.elem.zero)
      else .array t xs
    | p => p
  setLength_array t xs n h hlt := by
    dsimp only
    rw [if_pos (by omega), Int.toNat_natCast, List.take_of_length_le h]
  set c v
    | .scalar d w => if c = d then .scalar c v else .scalar d w
    | p => p
  set_zeros _ _ := rfl
  getInt
    | .iiii i1 i2 i3 i4, idx => [i1, i2, i3, i4].getD idx 0
    | _, _ => 0
  getInt_iiii _ _ _ _ := ⟨rfl, rfl, rfl, rfl⟩

/-- Two elements from index 3 on of an array of ten integers, to be read with ZeroMQ. -/
def partialArguments : Arguments where
  path := "FACILITY/DEVICE/LOCATION/A".toList
  numberOfWords := 2
  wordOffsetInRegister := 3
  flags := { waitForNewData := true }
  info := some ⟨"/LOCATION/A".toList, 10, Catalogue.DoocsBackendRegisterCatalogue.signedInteger 11,
    { waitForNewData := true }, Catalogue.plainLibraries.id .aInt, true, true⟩
  isOpen := true
  rc := .ok
  dst := .array .aInt (List.replicate 10 (0 : Int32))
  attachError := none
  numberOfWords_lt := by decide
  wordOffset_lt := by decide

theorem partialArguments_fromDoocs :
    partialArguments.FromDoocs Catalogue.plainLibraries.type where
  dst := by decide
  info _ h := by
    cases h
    exact ⟨by decide, by decide, by decide⟩

def waitingWriter : Writer plainImageLayout Catalogue.plainLibraries.type .int32 where
  accessor := initialised plainImageLayout .numeric partialArguments true (10, .aInt)
  constructed := ⟨.numeric, partialArguments, partialArguments_fromDoocs, rfl⟩
  fits := ⟨.aInt, rfl⟩

/-- The write stops at the assertion that the accessor does not use ZeroMQ. -/
theorem not_writesInPlace :
    ¬ WritesInPlace plainEqData plainConversions plainImageLayout waitingWriter := by
  intro h
  obtain ⟨src', hsrc⟩ := h.succeeds (.array .aInt (List.replicate 10 (0 : Int32)))
    (answering (.array .aInt (List.replicate 10 (0 : Int32)))) waitingWriter.accessor.src
    [(1 : Int32), (2 : Int32)] ⟨rfl, by decide, by decide, fun h => by cases h⟩ (ready_answering _) .constructed rfl
  cases hsrc

end Main

end DoocsBackend.Accessor
