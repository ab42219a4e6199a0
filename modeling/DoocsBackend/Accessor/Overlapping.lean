import DoocsBackend.Accessor.PartialWrite
import DoocsBackend.Library.Runs

/-! # Writes which overlap

Between the read of a write and its transfer the property can be changed, by another accessor or by
another client. What has been changed outside of the range of the accessor is taken back then.
-/
namespace DoocsBackend.Accessor

/-- The accessors of a property whose shape is the same for all of them. -/
structure Property (M : ImageLayout) (typeOf : ℤ → DoocsType) (ι : Type) where
  type : DoocsType
  length : ℕ
  userType : ι → UserType
  writer : (i : ι) → Writer M typeOf (userType i)
  writable : ∀ i, Writable (writer i).accessor
  type_eq : ∀ i, type = (writer i).accessor.src.type
  range_le : ∀ i, (writer i).accessor.first + (writer i).accessor.nElements ≤ length
  whole : ∀ i, (writer i).accessor.isPartial = false → (writer i).accessor.kind.field? = none →
    length = (writer i).accessor.nElements
  length_pos : 0 < length
  length_lt : length < 2 ^ 31

namespace Property
variable {M : ImageLayout} {typeOf : ℤ → DoocsType} {ι : Type}

/-- A content of the property in the server. -/
structure Holds (x : Property M typeOf ι) (R : Payload) : Prop where
  type : R.type = x.type
  length : R.length = x.length

instance (x : Property M typeOf ι) (R : Payload) : Decidable (x.Holds R) :=
  decidable_of_iff (R.type = x.type ∧ R.length = x.length) ⟨fun h => ⟨h.1, h.2⟩, fun h => ⟨h.1, h.2⟩⟩

inductive Event (x : Property M typeOf ι) where
  /-- `doPreWrite`, which reads the property if it has to. -/
  | preWrite (i : ι) (buffer : List (x.userType i).Val)
  /-- `doWriteTransfer`; the server need not accept the value. -/
  | writeTransfer (i : ι) (accepted : Bool)
  /-- Another client sets the property. -/
  | foreignSet (R : Payload)

/-- The property, and the writes which have been prepared: what is written, and the content at that
time. -/
structure State (x : Property M typeOf ι) where
  content : Payload
  src : ι → Payload
  prepared : (i : ι) → Option (List (x.userType i).Val × Payload)

variable [DecidableEq ι] (K : EqDataLibrary) (C : Conversions) (x : Property M typeOf ι)

/-- Nothing has been written yet. -/
def initial (R : Payload) : State x where
  content := R
  src i := (x.writer i).accessor.src
  prepared _ := none

/-- One accessor does one write after the other. -/
def step (s : State x) : Event x → Option (State x)
  | .preWrite i buffer =>
    if (s.prepared i).isSome ∨ buffer.length ≠ (x.writer i).accessor.bufferLength then none
    else match doPreWrite K C (x.writer i).accessor (answering s.content) (s.src i) buffer with
      | .error _ => none
      | .ok src => some
        { s with
          src := Function.update s.src i src
          prepared := Function.update s.prepared i (some (buffer, s.content)) }
  | .writeTransfer i accepted =>
    match s.prepared i with
    | none => none
    | some _ => some
      { s with
        content := if accepted then s.src i else s.content
        prepared := Function.update s.prepared i none }
  | .foreignSet R => if x.Holds R then some { s with content := R } else none

/-- The value which is stored replaces the cells of its accessor, and nothing else. -/
def Atomic (s : State x) (e : Event x) (t : State x) : Prop :=
  ∀ i buffer R, e = .writeTransfer i true → s.prepared i = some (buffer, R) →
    ReadModifyWrite C (x.writer i).accessor buffer s.content t.content

/-- When a value is stored, the other cells are what they were when it was prepared. -/
def Undisturbed (s : State x) (e : Event x) (_ : State x) : Prop :=
  ∀ i buffer R, e = .writeTransfer i true → s.prepared i = some (buffer, R) →
    ∀ k < x.length, ¬ InRange (x.writer i).accessor k → s.content.cells[k]? = R.cells[k]?

omit [DecidableEq ι] in
/-- Nothing is stored when a value is prepared. -/
theorem undisturbed_preWrite {x : Property M typeOf ι} (s t : State x) (i : ι)
    (buffer : List (x.userType i).Val) : Undisturbed x s (.preWrite i buffer) t := by
  intro j buffer' R he
  cases he

/-- What holds of every state: each prepared value is the content at that time with the cells of its
accessor replaced. -/
structure Consistent (s : State x) : Prop where
  content : x.Holds s.content
  src : ∀ i, Prepared K C (x.writer i).accessor (s.src i)
  prepared : ∀ i buffer R, s.prepared i = some (buffer, R) → x.Holds R ∧
    buffer.length = (x.writer i).accessor.bufferLength ∧
    Written K C (x.writer i).accessor R buffer (s.src i)

variable {K C x} {s t : State x}

omit [DecidableEq ι] in
theorem Holds.addresses {R : Payload} (h : x.Holds R) (i : ι) : Addresses (x.writer i).accessor R where
  type := h.type.trans (x.type_eq i)
  nonempty := h.length ▸ x.length_pos
  length_lt := h.length ▸ x.length_lt
  same hp hf := h.length.trans (x.whole i hp hf)

omit [DecidableEq ι] in
/-- A value which has been prepared has the shape of the property. -/
theorem holds_of_written {i : ι} {R S : Payload} {buffer : List (x.userType i).Val} (hR : x.Holds R)
    (hbuffer : buffer.length = (x.writer i).accessor.bufferLength)
    (h : Written K C (x.writer i).accessor R buffer S) : x.Holds S where
  type := h.type.trans hR.type
  length := by
    rw [h.length ((hR.addresses i).type ▸ (x.writer i).fits) (hbuffer ▸ (x.writer i).nElements_le),
      hR.length]
    exact max_eq_left (x.range_le i)

/-- What a step does: a write is prepared from what the server answers, a prepared value is sent, or the
property is set by someone else. -/
theorem Consistent.step_cases (hs : Consistent K C x s) {e : Event x} (h : x.step K C s e = some t) :
    (∃ i buffer src, e = .preWrite i buffer ∧
      buffer.length = (x.writer i).accessor.bufferLength ∧ Prepared K C (x.writer i).accessor src ∧
      Written K C (x.writer i).accessor s.content buffer src ∧
      t = { s with
        src := Function.update s.src i src
        prepared := Function.update s.prepared i (some (buffer, s.content)) }) ∨
    (∃ i accepted buffer R, e = .writeTransfer i accepted ∧ s.prepared i = some (buffer, R) ∧
      t = { s with
        content := if accepted then s.src i else s.content
        prepared := Function.update s.prepared i none }) ∨
    ∃ R, e = .foreignSet R ∧ x.Holds R ∧ t = { s with content := R } := by
  cases e with
  | preWrite i buffer =>
    simp only [Property.step] at h
    split at h
    · cases h
    · rename_i hnew
      rw [not_or, not_ne_iff] at hnew
      obtain ⟨src, hsrc, hwritten⟩ := (x.writer i).doPreWrite_written (x.writable i)
        (hs.content.addresses i) (ready_answering s.content) (hs.src i) hnew.2
      rw [hsrc] at h
      cases h
      exact .inl ⟨i, buffer, src, rfl, hnew.2, .written (hs.src i) hnew.2 hsrc, hwritten, rfl⟩
  | writeTransfer i accepted =>
    simp only [Property.step] at h
    split at h
    · cases h
    · rename_i value hvalue
      cases h
      exact .inr (.inl ⟨i, accepted, value.1, value.2, rfl, hvalue, rfl⟩)
  | foreignSet R =>
    simp only [Property.step] at h
    split at h
    · rename_i hR
      cases h
      exact .inr (.inr ⟨R, rfl, hR, rfl⟩)
    · cases h

theorem Consistent.step (hs : Consistent K C x s) {e : Event x} (h : x.step K C s e = some t) :
    Consistent K C x t := by
  obtain ⟨i, buffer, src, rfl, hbuffer, hsrc, hwritten, rfl⟩ |
    ⟨i, accepted, buffer, R, rfl, hvalue, rfl⟩ | ⟨R, rfl, hR, rfl⟩ := hs.step_cases h
  · refine ⟨hs.content, fun j => ?_, fun j buffer' R hj => ?_⟩
    · dsimp only
      by_cases hji : j = i
      · subst hji
        rw [Function.update_self]
        exact hsrc
      · rw [Function.update_of_ne hji]
        exact hs.src j
    · dsimp only at hj ⊢
      by_cases hji : j = i
      · subst hji
        rw [Function.update_self] at hj ⊢
        cases hj
        exact ⟨hs.content, hbuffer, hwritten⟩
      · rw [Function.update_of_ne hji] at hj ⊢
        exact hs.prepared j buffer' R hj
  · obtain ⟨hR, hbuffer, hwritten⟩ := hs.prepared i buffer R hvalue
    refine ⟨?_, hs.src, fun j buffer' R' hj => ?_⟩
    · cases accepted with
      | true => exact holds_of_written hR hbuffer hwritten
      | false => exact hs.content
    · dsimp only at hj
      by_cases hji : j = i
      · subst hji
        rw [Function.update_self] at hj
        cases hj
      · rw [Function.update_of_ne hji] at hj
        exact hs.prepared j buffer' R' hj
  · exact ⟨hR, hs.src, hs.prepared⟩

omit [DecidableEq ι] in
theorem consistent_initial {R : Payload} (hR : x.Holds R) : Consistent K C x (x.initial R) where
  content := hR
  src i := .constructed
  prepared i buffer R' h := by cases h

/-- A write is atomic exactly if nobody has changed the other cells in the meantime. -/
theorem Consistent.atomic_iff (hs : Consistent K C x s) {e : Event x} (h : x.step K C s e = some t) :
    Atomic C x s e t ↔ Undisturbed x s e t := by
  apply forall_congr'
  intro i
  apply forall_congr'
  intro buffer
  apply forall_congr'
  intro R
  apply forall_congr'
  intro he
  apply forall_congr'
  intro hprepared
  subst he
  obtain ⟨hR, hbuffer, hwritten⟩ := hs.prepared i buffer R hprepared
  have hn : (x.writer i).accessor.nElements ≤ buffer.length := hbuffer ▸ (x.writer i).nElements_le
  have hfits : (x.writer i).accessor.kind.fits R.type := (hR.addresses i).type ▸ (x.writer i).fits
  have hmodify := hwritten.readModifyWrite hfits hn
  have hstored : t.content = s.src i := by
    simp only [Property.step, hprepared] at h
    cases h
    rfl
  have htype : s.content.type = R.type := hs.content.type.trans hR.type.symm
  have hlength : s.content.length = R.length := hs.content.length.trans hR.length.symm
  rw [hstored]
  constructor
  · intro hatomic k hk hout
    rw [← hatomic.outside k (hs.content.length ▸ hk) hout, hmodify.outside k (hR.length ▸ hk) hout]
  · intro hundisturbed
    refine ⟨hmodify.type.trans htype.symm, hmodify.length.trans (by rw [hlength]), fun k hk => ?_,
      fun k hk hout => ?_⟩
    · rw [hmodify.inside k hk, Payload.cellType_congr hfits htype.symm]
    · rw [hmodify.outside k (hlength ▸ hk) hout, hundisturbed k (hs.content.length ▸ hk) hout]

/-- However the writes of any number of accessors of a property overlap with each other and with those
of other clients, all of them are atomic exactly if no cell outside of the range of an accessor is
different when its value is stored from what it was when the value was prepared. -/
theorem overlapping_writes_iff {R : Payload} (hR : x.Holds R) (es : List (Event x)) :
    Runs.Along (x.step K C) (Atomic C x) (x.initial R) es ↔
      Runs.Along (x.step K C) (Undisturbed x) (x.initial R) es := by
  apply Runs.Along.iff_of_invariant (I := Consistent K C x)
  · exact fun s e t _ hs h => hs.atomic_iff h
  · exact fun s e t _ hs h _ => hs.step h
  · exact consistent_initial hR
  · exact fun e _ => trivial

/-- Arguments for one of the elements of an array of two integers. -/
def elementArguments (second : Bool) : Arguments where
  path := "FACILITY/DEVICE/LOCATION/A".toList
  numberOfWords := 1
  wordOffsetInRegister := second.toNat
  flags := {}
  info := some ⟨"/LOCATION/A".toList, 2, Catalogue.DoocsBackendRegisterCatalogue.signedInteger 11, {},
    Catalogue.plainLibraries.id .aInt, true, true⟩
  isOpen := true
  rc := .ok
  dst := .array .aInt (List.replicate 2 (0 : Int32))
  attachError := none
  numberOfWords_lt := Arguments.one_lt
  wordOffset_lt := by cases second <;> decide

theorem elementArguments_fromDoocs (second : Bool) :
    (elementArguments second).FromDoocs Catalogue.plainLibraries.type where
  dst := by
    change 2 < 2 ^ 31
    decide
  info _ h := by
    cases h
    exact ⟨by decide, by decide, by decide⟩

/-- The accessor of the first element and that of the second. -/
def elementWriter (second : Bool) : Writer plainImageLayout Catalogue.plainLibraries.type .int32 where
  accessor := initialised plainImageLayout .numeric (elementArguments second) false (2, .aInt)
  constructed := ⟨.numeric, elementArguments second, elementArguments_fromDoocs second,
    by cases second <;> rfl⟩
  fits := (⟨.aInt, rfl⟩ : ∃ t : ArrayType, t.type = DoocsType.aInt)

def twoElements : Property plainImageLayout Catalogue.plainLibraries.type Bool where
  type := .aInt
  length := 2
  userType _ := .int32
  writer := elementWriter
  writable i := ⟨fun _ => rfl, fun _ => by cases i <;> decide, fun _ _ => by simp⟩
  type_eq i := by cases i <;> rfl
  range_le i := by cases i <;> decide
  whole i h := by cases i <;> cases h
  length_pos := by decide
  length_lt := by decide

/-- Both elements are written at the same time. -/
def bothElements : List (Event twoElements) :=
  [.preWrite false [(1 : Int32)], .preWrite true [(2 : Int32)], .writeTransfer false true,
    .writeTransfer true true]

/-- The write to the first element is taken back. -/
theorem not_atomic_bothElements :
    ¬ Runs.Along (twoElements.step plainEqData plainConversions) (Atomic plainConversions twoElements)
      (twoElements.initial (.array .aInt (List.replicate 2 (0 : Int32)))) bothElements := by
  have hR : twoElements.Holds (.array .aInt (List.replicate 2 (0 : Int32))) := ⟨rfl, rfl⟩
  rw [overlapping_writes_iff hR]
  intro h
  have hlast := (((h _ rfl).2 _ rfl).2 _ rfl).2 _ rfl
  have hcell := hlast.1 true [(2 : Int32)] _ rfl rfl 0 (by decide) (by unfold InRange; decide)
  cases hcell

/-! ## The property as an atomic memory -/

/-- The cells of the property, and the buffers which are to be written into them. -/
structure Memory (x : Property M typeOf ι) where
  cells : List Number
  buffer : (i : ι) → Option (List (x.userType i).Val)

/-- A write takes place when its value is sent, all at once and in the cells of its accessor only. -/
def Memory.step (C : Conversions) (m : Memory x) : Event x → Memory x
  | .preWrite i buffer => { m with buffer := Function.update m.buffer i (some buffer) }
  | .writeTransfer i accepted =>
    { cells := if accepted then Range.overwrite (x.writer i).accessor.first
          ((x.writer i).accessor.writes C (.blank x.length x.type) ((m.buffer i).getD [])) m.cells
        else m.cells
      buffer := Function.update m.buffer i none }
  | .foreignSet R => { m with cells := R.cells }

/-- What the accessors and the server make of the memory. -/
def State.memory (s : State x) : Memory x := ⟨s.content.cells, fun i => (s.prepared i).map Prod.fst⟩

/-- The buffers of the memory follow what has been prepared. -/
theorem buffer_update (prepared : (i : ι) → Option (List (x.userType i).Val × Payload)) (i : ι)
    (value : Option (List (x.userType i).Val × Payload)) :
    (fun j => (Function.update prepared i value j).map Prod.fst) =
      Function.update (fun j => (prepared j).map Prod.fst) i (value.map Prod.fst) := by
  funext j
  exact Function.apply_update (fun _ => Option.map Prod.fst) prepared i value j

omit [DecidableEq ι] in
/-- The cells after a value which nobody has disturbed has been stored. -/
theorem Consistent.stored_cells (hs : Consistent K C x s) {i : ι} {buffer : List (x.userType i).Val}
    {R : Payload} (hvalue : s.prepared i = some (buffer, R))
    (hsame : ∀ k < x.length, ¬ InRange (x.writer i).accessor k → s.content.cells[k]? = R.cells[k]?) :
    (s.src i).cells = Range.overwrite (x.writer i).accessor.first
      ((x.writer i).accessor.writes C (.blank x.length x.type) buffer) s.content.cells := by
  obtain ⟨hR, hbuffer, hwritten⟩ := hs.prepared i buffer R hvalue
  have hn : (x.writer i).accessor.nElements ≤ buffer.length := hbuffer ▸ (x.writer i).nElements_le
  have hfits : (x.writer i).accessor.kind.fits R.type := (hR.addresses i).type ▸ (x.writer i).fits
  have hcells {P : Payload} (hP : x.Holds P) : P.cells.length = x.length := by
    rw [Payload.length_cells (hP.type.trans hR.type.symm ▸ hfits), hP.length]
  have hwrites : (x.writer i).accessor.writes C (.blank x.length x.type) buffer =
      (x.writer i).accessor.writes C R buffer := by
    rw [RegisterAccessor.writes, RegisterAccessor.writes, Payload.cellType_congr hfits
      (hR.type.trans (Payload.type_blank _ _).symm)]
  have hfit : (x.writer i).accessor.first + ((x.writer i).accessor.writes C R buffer).length ≤
      R.cells.length := by
    rw [length_writes hn, hcells hR]
    exact x.range_le i
  rw [hwrites, hwritten.cells, Range.write_eq_overwrite hfit]
  apply Range.overwrite_congr hfit ((hcells hR).trans (hcells hs.content).symm)
  intro k hk hout
  rw [length_writes hn] at hout
  exact (hsame k (hcells hR ▸ hk) hout).symm

/-- A step of a write which is not disturbed is one of the memory. -/
theorem Consistent.memory_step (hs : Consistent K C x s) {e : Event x} (h : x.step K C s e = some t)
    (hundisturbed : Undisturbed x s e t) : t.memory = s.memory.step C e := by
  obtain ⟨i, buffer, src, rfl, -, -, -, rfl⟩ | ⟨i, accepted, buffer, R, rfl, hvalue, rfl⟩ |
    ⟨R, rfl, -, rfl⟩ := hs.step_cases h
  · simp only [State.memory, Memory.step, buffer_update, Option.map_some]
  · simp only [State.memory, Memory.step, buffer_update, Option.map_none, hvalue, Option.map_some,
      Option.getD_some, Memory.mk.injEq, and_true]
    cases accepted with
    | false => rfl
    | true => exact hs.stored_cells hvalue (hundisturbed i buffer R rfl hvalue)
  · rfl

/-- Writes which are not disturbed leave the property as an atomic memory does: each takes place when
its value is sent, however many others have been prepared by then. -/
theorem overlapping_writes_refine {R : Payload} (hR : x.Holds R) {es : List (Event x)}
    (run : Runs.exec (x.step K C) (x.initial R) es = some t)
    (h : Runs.Along (x.step K C) (Undisturbed x) (x.initial R) es) :
    t.memory = es.foldl (Memory.step C) (x.initial R).memory := by
  have hend : Consistent K C x t ∧ t.memory = es.foldl (Memory.step C) (x.initial R).memory := by
    apply h.simulation (R := fun s m => Consistent K C x s ∧ s.memory = m) run
    · rintro s e u m ⟨hs, rfl⟩ hu hundisturbed
      exact ⟨hs.step hu, hs.memory_step hu hundisturbed⟩
    · exact ⟨consistent_initial hR, rfl⟩
  exact hend.2

/-- One element is written after the other. -/
theorem elements_refine : ∃ t, Runs.exec (twoElements.step plainEqData plainConversions)
    (twoElements.initial (.array .aInt (List.replicate 2 (0 : Int32))))
    [.preWrite false [(1 : Int32)], .writeTransfer false true] = some t ∧
      t.content.cells = [⟨.int32, (1 : Int32)⟩, ⟨.int32, (0 : Int32)⟩] := by
  have hR : twoElements.Holds (.array .aInt (List.replicate 2 (0 : Int32))) := ⟨rfl, rfl⟩
  obtain ⟨t, ht⟩ : ∃ t, Runs.exec (twoElements.step plainEqData plainConversions)
    (twoElements.initial (.array .aInt (List.replicate 2 (0 : Int32))))
    [.preWrite false [(1 : Int32)], .writeTransfer false true] = some t := ⟨_, rfl⟩
  refine ⟨t, ht, ?_⟩
  have h := overlapping_writes_refine hR ht ?_
  · exact congrArg Memory.cells h
  · intro u hu
    cases hu
    refine ⟨undisturbed_preWrite _ _ _ _, ?_⟩
    intro u hu
    cases hu
    refine ⟨?_, trivial⟩
    intro i buffer R he hprepared k _ _
    cases he
    cases hprepared
    rfl

/-! ## What is read -/

/-- Where the value of a cell comes from. -/
inductive Origin (x : Property M typeOf ι) where
  | initial
  | foreignSet (R : Payload)
  | write (i : ι) (buffer : List (x.userType i).Val)

/-- The buffers which are to be written, and the last one to set each cell. -/
structure History (x : Property M typeOf ι) where
  buffer : (i : ι) → Option (List (x.userType i).Val) := fun _ => none
  origin : ℕ → Origin x := fun _ => .initial

def History.step (h : History x) : Event x → History x
  | .preWrite i buffer => { h with buffer := Function.update h.buffer i (some buffer) }
  | .writeTransfer i accepted =>
    { buffer := Function.update h.buffer i none
      origin :=
        if accepted then fun k =>
          if (x.writer i).accessor.first ≤ k ∧
              k < (x.writer i).accessor.first + (x.writer i).accessor.nElements then
            .write i ((h.buffer i).getD [])
          else h.origin k
        else h.origin }
  | .foreignSet R => { h with origin := fun _ => .foreignSet R }

omit [DecidableEq ι] in
/-- The number in a cell, given the initial content of the property. -/
def Origin.number (C : Conversions) (R : Payload) (k : ℕ) : Origin x → Option Number
  | .initial => R.cells[k]?
  | .foreignSet S => S.cells[k]?
  | .write i buffer => buffer[k - (x.writer i).accessor.first]?.map fun v =>
    C.toNumber ((Payload.blank x.length x.type).cellType k) v

/-- Every cell holds what was set last. -/
structure Latest (C : Conversions) (R : Payload) (s : State x) (h : History x) : Prop where
  buffer : ∀ i, h.buffer i = (s.prepared i).map Prod.fst
  cells : ∀ k < x.length, s.content.cells[k]? = (h.origin k).number C R k

theorem Latest.step {R : Payload} {h : History x} (hs : Consistent K C x s) (hlatest : Latest C R s h)
    {e : Event x} (hstep : x.step K C s e = some t) (hundisturbed : Undisturbed x s e t) :
    Latest C R t (h.step e) := by
  have hatomic := (hs.atomic_iff hstep).mpr hundisturbed
  have hprepared : h.buffer = fun i => (s.prepared i).map Prod.fst := funext hlatest.buffer
  obtain ⟨i, buffer, src, rfl, -, -, -, rfl⟩ | ⟨i, accepted, buffer, R', rfl, hvalue, rfl⟩ |
    ⟨R', rfl, -, rfl⟩ := hs.step_cases hstep
  · refine ⟨fun j => ?_, hlatest.cells⟩
    simp only [History.step, hprepared]
    exact (congrFun (buffer_update s.prepared i (some (buffer, s.content))) j).symm
  · refine ⟨fun j => ?_, fun k hk => ?_⟩
    · simp only [History.step, hprepared]
      exact (congrFun (buffer_update s.prepared i none) j).symm
    · cases accepted with
      | false => exact hlatest.cells k hk
      | true =>
        have hbuffer : h.buffer i = some buffer := by rw [hlatest.buffer, hvalue, Option.map_some]
        have hmodify := hatomic i buffer R' rfl hvalue
        simp only [History.step, if_true]
        by_cases hin : (x.writer i).accessor.first ≤ k ∧
            k < (x.writer i).accessor.first + (x.writer i).accessor.nElements
        · have hfits : (x.writer i).accessor.kind.fits s.content.type :=
            (hs.content.addresses i).type ▸ (x.writer i).fits
          have htype : s.content.type = (Payload.blank x.length x.type).type :=
            hs.content.type.trans (Payload.type_blank _ _).symm
          have hcell := hmodify.inside (k - (x.writer i).accessor.first) (by omega)
          rw [Nat.add_sub_cancel' hin.1, Payload.cellType_congr hfits htype] at hcell
          rw [if_pos hin, hbuffer, Option.getD_some]
          exact hcell
        · rw [if_neg hin, ← hlatest.cells k hk]
          exact hmodify.outside k (hs.content.length ▸ hk) hin
  · exact ⟨hlatest.buffer, fun k _ => rfl⟩

theorem Latest.run {R : Payload} {h : History x} (hs : Consistent K C x s)
    (hlatest : Latest C R s h) {es : List (Event x)} (run : Runs.exec (x.step K C) s es = some t)
    (hundisturbed : Runs.Along (x.step K C) (Undisturbed x) s es) :
    Consistent K C x t ∧ Latest C R t (es.foldl History.step h) := by
  exact hundisturbed.simulation (R := fun s h => Consistent K C x s ∧ Latest C R s h) run
    (fun s e u h hs hu hundisturbed => ⟨hs.1.step hu, hs.2.step hs.1 hu hundisturbed⟩) ⟨hs, hlatest⟩

omit [DecidableEq ι] in
/-- A read of an accessor takes the cells it stands for. -/
theorem read_cells (hs : Consistent K C x s) (i : ι) {dst : EqData} (hdst : dst.payload = s.content)
    {old : List (x.userType i).Val} (hold : old.length = (x.writer i).accessor.bufferLength) :
    ∃ new, doPostRead C M (x.writer i).accessor dst old = .ok new ∧
      ∀ k < (x.writer i).accessor.nElements, new[k]? =
        (s.content.cells[(x.writer i).accessor.first + k]?).map (C.toUser (x.userType i)) := by
  have hn := (x.writer i).nElements_le
  have hrange := x.range_le i
  have hfits : (x.writer i).accessor.kind.fits dst.payload.type := by
    rw [hdst, (hs.content.addresses i).type]
    exact (x.writer i).fits
  have hlength : dst.payload.cells.length = x.length := by
    rw [Payload.length_cells hfits, hdst, hs.content.length]
  rw [← hdst]
  by_cases hvoid : x.userType i = .void ∧ (x.writer i).accessor.kind.field? = none
  · -- nothing is put into a buffer of `Void`, but there is only one such value
    obtain ⟨hf, hk⟩ | ⟨field, hk⟩ := Kind.cases_of_fits hfits
    · refine ⟨old, by rw [doPostRead, postReadValues_void hk hvoid.1]; rfl, ?_⟩
      intro k hk
      have hunit : Subsingleton (x.userType i).Val := by
        rw [hvoid.1]
        exact inferInstanceAs (Subsingleton Unit)
      rw [List.getElem?_eq_getElem (by omega), List.getElem?_eq_getElem (by omega), Option.map_some]
      exact congrArg some (Subsingleton.elim _ _)
    · rw [hk] at hvoid
      cases hvoid.2
  · have hvalues : postReadValues C M (x.writer i).accessor dst =
        .ok (((dst.payload.cells.drop (x.writer i).accessor.first).take
          (x.writer i).accessor.nElements).map (C.toUser (x.userType i))) := by
      apply postReadValues_eq hfits (x.writer i).nElements_of_field
      · exact fun hU => Option.isSome_iff_ne_none.mpr fun hf => hvoid ⟨hU, hf⟩
      · rw [hdst, hs.content.length]
        exact hrange
      · rw [hdst, hs.content.length]
        exact x.length_lt.trans (by decide)
    refine ⟨_, by rw [doPostRead, hvalues]; rfl, ?_⟩
    intro k hk
    rw [List.getElem?_append_left (by simp; omega), List.getElem?_map, List.getElem?_take_of_lt hk,
      List.getElem?_drop]

/-- After writes which are not disturbed, a read through any of the accessors gives in each element
what was set last: by the last accepted write to this cell, by another client since then, or at the
beginning. -/
theorem reads_latest {R : Payload} (hR : x.Holds R) {es : List (Event x)}
    (run : Runs.exec (x.step K C) (x.initial R) es = some t)
    (hundisturbed : Runs.Along (x.step K C) (Undisturbed x) (x.initial R) es) (i : ι) {dst : EqData}
    (hdst : dst.payload = t.content) (old : List (x.userType i).Val)
    (hold : old.length = (x.writer i).accessor.bufferLength) :
    ∃ new, doPostRead C M (x.writer i).accessor dst old = .ok new ∧
      ∀ k < (x.writer i).accessor.nElements, new[k]? =
        (((es.foldl History.step ({} : History x)).origin ((x.writer i).accessor.first + k)).number C R
          ((x.writer i).accessor.first + k)).map (C.toUser (x.userType i)) := by
  have hinitial : Latest C R (x.initial R) ({} : History x) := ⟨fun _ => rfl, fun _ _ => rfl⟩
  obtain ⟨ht, hlatest⟩ := hinitial.run (consistent_initial hR) run hundisturbed
  obtain ⟨new, hread, hnew⟩ := read_cells ht i hdst hold
  refine ⟨new, hread, ?_⟩
  intro k hk
  have hrange := x.range_le i
  rw [hnew k hk, hlatest.cells _ (by omega)]

/-- One write after the other. -/
def secondThenFirst : List (Event twoElements) :=
  [.preWrite true [(2 : Int32)], .writeTransfer true true, .preWrite false [(1 : Int32)],
    .writeTransfer false true]

theorem undisturbed_secondThenFirst :
    Runs.Along (twoElements.step plainEqData plainConversions) (Undisturbed twoElements)
      (twoElements.initial (.array .aInt (List.replicate 2 (0 : Int32)))) secondThenFirst := by
  intro u hu
  cases hu
  refine ⟨undisturbed_preWrite _ _ _ _, ?_⟩
  intro u hu
  cases hu
  constructor
  · intro i buffer R he hprepared k _ _
    cases he
    cases hprepared
    rfl
  · intro u hu
    cases hu
    refine ⟨undisturbed_preWrite _ _ _ _, ?_⟩
    intro u hu
    cases hu
    refine ⟨?_, trivial⟩
    intro i buffer R he hprepared k _ _
    cases he
    cases hprepared
    rfl

/-- The second element keeps its value when the first one is written. -/
theorem second_read : ∃ new, doPostRead plainConversions plainImageLayout (elementWriter true).accessor
    ⟨.array .aInt [(1 : Int32), (2 : Int32)], 0, 0, 0⟩ [(0 : Int32)] = .ok new ∧
      new[0]? = some (2 : Int32) := by
  have hR : twoElements.Holds (.array .aInt (List.replicate 2 (0 : Int32))) := ⟨rfl, rfl⟩
  obtain ⟨t, ht, hcontent⟩ : ∃ t, Runs.exec (twoElements.step plainEqData plainConversions)
      (twoElements.initial (.array .aInt (List.replicate 2 (0 : Int32)))) secondThenFirst = some t ∧
      (⟨.array .aInt [(1 : Int32), (2 : Int32)], 0, 0, 0⟩ : EqData).payload = t.content :=
    ⟨_, rfl, rfl⟩
  obtain ⟨new, hread, hnew⟩ := reads_latest hR ht undisturbed_secondThenFirst true hcontent
    [(0 : Int32)] rfl
  exact ⟨new, hread, hnew 0 (by decide)⟩

end Property

end DoocsBackend.Accessor
