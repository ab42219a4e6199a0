import DoocsBackend.Catalogue.Completeness

/-! # The algebra of addProperty

A sequence of calls registers what all of them offer, first come first served. Hence a
register stays as it is once it is there, a repeated call is absorbed, also if some of its
names were taken by others before, and calls which share no name commute.
-/
namespace DoocsBackend.Catalogue
open FirstWins

variable {L : Libraries}

namespace DoocsBackendRegisterCatalogue

theorem ext_registers {c d : DoocsBackendRegisterCatalogue} (h : c.registers = d.registers)
    (hc : c.isCatalogueComplete = d.isCatalogueComplete) : c = d := by
  cases c
  cases d
  cases h
  cases hc
  rfl

theorem foldl_addNew_isCatalogueComplete (c : DoocsBackendRegisterCatalogue)
    (infos : List DoocsBackendRegisterInfo) :
    (infos.foldl addNew c).isCatalogueComplete = c.isCatalogueComplete := by
  induction infos generalizing c with
  | nil => rfl
  | cons info infos ih => exact ih (c.addNew info)

/-- A call never touches the flag of a complete catalogue. -/
theorem addProperty_isCatalogueComplete (c : DoocsBackendRegisterCatalogue) (name : Text)
    (length : ℕ) (doocsType : ℤ) (flags : AccessModeFlags) :
    (addProperty L c name length doocsType flags).isCatalogueComplete = c.isCatalogueComplete :=
  foldl_addNew_isCatalogueComplete c (propertyRegisters L name length doocsType flags)

end DoocsBackendRegisterCatalogue

/-- Some calls together are one first-wins registration. -/
theorem addAll_registers (c : DoocsBackendRegisterCatalogue) (calls : List PropertyCall) :
    (addAll L c calls).registers =
      insertAll DoocsBackendRegisterInfo.name c.registers (calls.flatMap (·.offered L)) := by
  induction calls generalizing c with
  | nil => rfl
  | cons p calls ih =>
    have hstep : addAll L c (p :: calls) =
        addAll L (c.addProperty L p.name p.length p.doocsType p.flags) calls := rfl
    rw [hstep, ih, DoocsBackendRegisterCatalogue.addProperty_registers, List.flatMap_cons,
      insertAll_append]
    rfl

theorem fill_registers (calls : List PropertyCall) :
    (fill L calls).registers =
      insertAll DoocsBackendRegisterInfo.name [] (calls.flatMap (·.offered L)) :=
  addAll_registers .empty calls

theorem fill_append (calls more : List PropertyCall) :
    fill L (calls ++ more) = addAll L (fill L calls) more :=
  List.foldl_append

theorem fill_append_registers (calls more : List PropertyCall) :
    (fill L (calls ++ more)).registers =
      insertAll DoocsBackendRegisterInfo.name (fill L calls).registers
        (more.flatMap (·.offered L)) := by
  rw [fill_append, addAll_registers]

/-- Every name a call of the sequence expands to is taken afterwards. -/
theorem has_fill_of_offered {calls : List PropertyCall} {p : PropertyCall} (hp : p ∈ calls)
    {info : DoocsBackendRegisterInfo} (hinfo : info ∈ p.offered L) :
    has DoocsBackendRegisterInfo.name (fill L calls).registers info.name = true := by
  rw [fill_registers]
  exact has_insertAll_of_offered (List.mem_flatMap.mpr ⟨p, hp, hinfo⟩)

/-- A call whose names are all taken, by whichever calls, changes nothing. -/
theorem fill_concat_of_taken {calls : List PropertyCall} {p : PropertyCall}
    (h : ∀ info ∈ p.offered L, (fill L calls).hasRegister info.name = true) :
    fill L (calls ++ [p]) = fill L calls := by
  apply DoocsBackendRegisterCatalogue.ext_registers
  · rw [fill_append_registers, List.flatMap_singleton]
    exact insertAll_of_has h
  · rw [fill_append]
    exact DoocsBackendRegisterCatalogue.addProperty_isCatalogueComplete _ _ _ _ _

/-- No name is among the expanded names of both calls. -/
def NamesDisjoint (L : Libraries) (p q : PropertyCall) : Prop :=
  ∀ info ∈ p.offered L, ∀ other ∈ q.offered L, info.name ≠ other.name

theorem fill_perm {calls calls' : List PropertyCall} (hp : calls.Perm calls')
    (h : calls.Pairwise (NamesDisjoint L)) :
    (fill L calls).registers.Perm (fill L calls').registers := by
  rw [fill_registers, fill_registers, List.flatMap_def, List.flatMap_def]
  exact insertAll_flatten_perm (hp.map _) (List.pairwise_map.mpr h)

/-- The laws of a sequence of calls on an initially empty catalogue. -/
structure AddPropertyAlgebra (L : Libraries) (calls : List PropertyCall) : Prop where
  unique : ((fill L calls).registers.map (·.name)).Nodup
  /-- Later calls neither modify nor remove an entry. -/
  kept : ∀ more, (fill L calls).registers <+: (fill L (calls ++ more)).registers
  /-- Repeating one of the calls changes nothing. -/
  absorbed : ∀ p ∈ calls, fill L (calls ++ [p]) = fill L calls
  /-- The order of calls without a common name does not matter for the set of entries. -/
  commutes : calls.Pairwise (NamesDisjoint L) → ∀ calls', calls.Perm calls' →
    (fill L calls).registers.Perm (fill L calls').registers

/-- Whatever the calls are, and however the names they expand to collide, the laws hold. -/
theorem addProperty_algebra (L : Libraries) (calls : List PropertyCall) :
    AddPropertyAlgebra L calls where
  unique := (fill L calls).nodup
  kept := by
    intro more
    rw [fill_append_registers]
    exact prefix_insertAll
  absorbed := by
    intro p hp
    apply fill_concat_of_taken
    intro info hinfo
    exact has_fill_of_offered hp hinfo
  commutes := by
    intro hdisjoint calls' hperm
    exact fill_perm hperm hdisjoint

end DoocsBackend.Catalogue
