import DoocsBackend.Library.Runs

/-! # Lock orders

Threads which acquire locks, release them and sleep in condition variables. Where every lock is
acquired above all locks its thread holds already, no threads can wait for each other in a circle.
-/
namespace LockOrder

variable {τ ℓ ρ : Type*}

inductive Action (ℓ : Type*) where
  | acquire (l : ℓ)
  | release (l : ℓ)
  /-- Go to sleep in a condition variable, which releases the lock. -/
  | wait (l : ℓ)
  /-- Asleep: what follows is to acquire the lock again. -/
  | asleep (l : ℓ)
  deriving DecidableEq, Repr

/-- The lock of the condition variable an action sleeps in. -/
def Action.sleepsIn : Action ℓ → Option ℓ
  | .wait l | .asleep l => some l
  | _ => none

/-- A region under a lock. -/
def underLock (l : ℓ) (p : List (Action ℓ)) : List (Action ℓ) := .acquire l :: p ++ [.release l]

structure State (τ ℓ : Type*) where
  /-- What is left of the program of each thread. -/
  todo : τ → List (Action ℓ)
  owner : ℓ → Option τ

inductive Event (τ ℓ : Type*) where
  /-- An idle thread starts with a program. -/
  | start (t : τ) (program : List (Action ℓ))
  | next (t : τ)

namespace State
variable [DecidableEq τ] [DecidableEq ℓ]

/-- No thread has started, all locks are free. -/
def initial : State τ ℓ where
  todo _ := []
  owner _ := none

/-- The next action of a thread. A sleeping thread may wake up at any time. -/
def next (s : State τ ℓ) (t : τ) : Option (State τ ℓ) :=
  match s.todo t with
  | [] => none
  | .acquire l :: p =>
    if s.owner l = none then
      some { todo := Function.update s.todo t p, owner := Function.update s.owner l (some t) }
    else none
  | .release l :: p =>
    some { todo := Function.update s.todo t p, owner := Function.update s.owner l none }
  | .wait l :: p =>
    some { todo := Function.update s.todo t (.asleep l :: p), owner := Function.update s.owner l none }
  | .asleep l :: p => some { s with todo := Function.update s.todo t (.acquire l :: p) }

def step (s : State τ ℓ) : Event τ ℓ → Option (State τ ℓ)
  | .start t program =>
    if s.todo t = [] then some { s with todo := Function.update s.todo t program } else none
  | .next t => s.next t

/-- The thread is about to acquire the lock. -/
def Wants (s : State τ ℓ) (t : τ) (l : ℓ) : Prop := ∃ p, s.todo t = .acquire l :: p

/-- The first thread waits for a lock the second one holds. -/
def WaitsFor (s : State τ ℓ) (t u : τ) : Prop := ∃ l, s.Wants t l ∧ s.owner l = some u

/-- Threads wait for each other in a circle. -/
def Deadlocked (s : State τ ℓ) : Prop := ∃ t, Relation.TransGen s.WaitsFor t t

end State

variable [DecidableEq ℓ] [Preorder ρ] (rank : ℓ → ρ)

/-- A program keeps to the order and leads from the locks held before to those held after it. -/
def Ordered (after : Finset ℓ) : Finset ℓ → List (Action ℓ) → Prop
  | held, [] => held = after
  | held, .acquire l :: p => (∀ m ∈ held, rank m < rank l) ∧ Ordered after (insert l held) p
  | held, .release l :: p => l ∈ held ∧ Ordered after (held.erase l) p
  | held, .wait l :: p =>
    l ∈ held ∧ (∀ m ∈ held.erase l, rank m < rank l) ∧ Ordered after held p
  | held, .asleep l :: p => (∀ m ∈ held, rank m < rank l) ∧ Ordered after (insert l held) p

variable {rank}

theorem Ordered.append {held mid after : Finset ℓ} {p q : List (Action ℓ)}
    (hp : Ordered rank mid held p) (hq : Ordered rank after mid q) :
    Ordered rank after held (p ++ q) := by
  induction p generalizing held with
  | nil =>
    obtain rfl : held = mid := hp
    exact hq
  | cons a p ih =>
    cases a with
    | acquire l => exact ⟨hp.1, ih hp.2⟩
    | release l => exact ⟨hp.1, ih hp.2⟩
    | wait l => exact ⟨hp.1, hp.2.1, ih hp.2.2⟩
    | asleep l => exact ⟨hp.1, ih hp.2⟩

/-- A loop whose body gives back what it takes. -/
theorem Ordered.flatMap {ι : Type*} {held : Finset ℓ} {body : ι → List (Action ℓ)}
    (h : ∀ i, Ordered rank held held (body i)) (is : List ι) :
    Ordered rank held held (is.flatMap body) := by
  induction is with
  | nil => rfl
  | cons i is ih => exact (h i).append ih

theorem Ordered.underLock {held : Finset ℓ} {l : ℓ} {p : List (Action ℓ)}
    (hl : ∀ m ∈ held, rank m < rank l) (hp : Ordered rank (insert l held) (insert l held) p) :
    Ordered rank held held (underLock l p) := by
  refine ⟨hl, hp.append ⟨Finset.mem_insert_self l held, ?_⟩⟩
  exact Finset.erase_insert fun hmem => lt_irrefl _ (hl l hmem)

/-- A loop around a condition variable. -/
theorem Ordered.waits {held : Finset ℓ} {l : ℓ} (hl : l ∈ held)
    (hbelow : ∀ m ∈ held.erase l, rank m < rank l) (n : ℕ) :
    Ordered rank held held (List.replicate n (.wait l)) := by
  induction n with
  | zero => rfl
  | succ n ih => exact ⟨hl, hbelow, ih⟩

section Threads
variable [DecidableEq τ]

/-- The locks a thread holds. -/
def Holds (owner : ℓ → Option τ) (t : τ) (held : Finset ℓ) : Prop := ∀ l, l ∈ held ↔ owner l = some t

variable {owner : ℓ → Option τ} {t u : τ} {held : Finset ℓ} {l : ℓ}

section
omit [DecidableEq τ]

theorem Holds.insert (h : Holds owner t held) :
    Holds (Function.update owner l (some t)) t (insert l held) := by
  intro m
  by_cases hm : m = l
  · subst hm
    simp
  · simp [hm, h m]

theorem Holds.erase (h : Holds owner t held) :
    Holds (Function.update owner l none) t (held.erase l) := by
  intro m
  by_cases hm : m = l
  · subst hm
    simp
  · simp [hm, h m]

/-- A lock which passes between others. -/
theorem Holds.update (h : Holds owner u held) {o : Option τ} (hold : owner l ≠ some u)
    (hnew : o ≠ some u) : Holds (Function.update owner l o) u held := by
  intro m
  by_cases hm : m = l
  · subst hm
    simp [h m, hold, hnew]
  · simp [hm, h m]

end

variable {s s' : State τ ℓ}

/-- Every thread holds the locks its program accounts for. -/
def InOrder (rank : ℓ → ρ) (s : State τ ℓ) : Prop :=
  ∀ t, ∃ held, Holds s.owner t held ∧ Ordered rank ∅ held (s.todo t)

/-- Threads start with programs of the given kind. -/
def Starts (Q : List (Action ℓ) → Prop) : Event τ ℓ → Prop
  | .start _ program => Q program
  | .next _ => True

/-- One thread goes on, and the locks of the others stay what they are. -/
theorem InOrder.update (h : InOrder rank s) {p : List (Action ℓ)}
    (ht : ∃ held, Holds owner t held ∧ Ordered rank ∅ held p)
    (hu : ∀ u ≠ t, ∀ held, Holds s.owner u held → Holds owner u held) :
    InOrder rank { todo := Function.update s.todo t p, owner := owner } := by
  intro u
  by_cases hut : u = t
  · subst hut
    simpa using ht
  · obtain ⟨held, hheld, hp⟩ := h u
    exact ⟨held, hu u hut held hheld, by simpa [hut] using hp⟩

theorem inOrder_next (h : InOrder rank s) (hs : s.next t = some s') : InOrder rank s' := by
  obtain ⟨held, hheld, hp⟩ := h t
  unfold State.next at hs
  split at hs
  · cases hs
  · rename_i l p htodo
    rw [htodo] at hp
    split at hs
    · rename_i hfree
      cases hs
      refine h.update ⟨_, hheld.insert, hp.2⟩ fun u hut held hu => hu.update ?_ ?_
      · simp [hfree]
      · simpa using Ne.symm hut
    · cases hs
  · rename_i l p htodo
    rw [htodo] at hp
    cases hs
    have howner : s.owner l = some t := (hheld l).mp hp.1
    refine h.update ⟨_, hheld.erase, hp.2⟩ fun u hut held hu => hu.update ?_ (by simp)
    rw [howner]
    simpa using Ne.symm hut
  · rename_i l p htodo
    rw [htodo] at hp
    cases hs
    have howner : s.owner l = some t := (hheld l).mp hp.1
    refine h.update ⟨_, hheld.erase, hp.2.1, ?_⟩ fun u hut held hu => hu.update ?_ (by simp)
    · rw [Finset.insert_erase hp.1]
      exact hp.2.2
    · rw [howner]
      simpa using Ne.symm hut
  · rename_i l p htodo
    rw [htodo] at hp
    cases hs
    exact h.update ⟨held, hheld, hp⟩ fun _ _ _ hu => hu

theorem inOrder_step {e : Event τ ℓ} (h : InOrder rank s) (he : Starts (Ordered rank ∅ ∅) e)
    (hs : s.step e = some s') : InOrder rank s' := by
  cases e with
  | start t program =>
    simp only [State.step] at hs
    split at hs
    · rename_i hidle
      cases hs
      obtain ⟨held, hheld, hp⟩ := h t
      rw [hidle] at hp
      obtain rfl : held = ∅ := hp
      exact h.update ⟨∅, hheld, he⟩ fun _ _ _ hu => hu
    · cases hs
  | next t => exact inOrder_next h hs

section
omit [DecidableEq τ]

/-- All locks a thread holds are below the one it wants. -/
theorem InOrder.lt_of_wants (h : InOrder rank s) {m : ℓ} (hm : s.owner m = some t)
    (hl : s.Wants t l) : rank m < rank l := by
  obtain ⟨held, hheld, hp⟩ := h t
  obtain ⟨p, htodo⟩ := hl
  rw [htodo] at hp
  exact hp.1 m ((hheld m).mpr hm)

/-- Along a chain of waiting threads, the wanted locks go up. -/
theorem InOrder.lt_of_waits (h : InOrder rank s) {m : ℓ}
    (htu : Relation.TransGen s.WaitsFor t u) (hl : s.Wants t l) (hm : s.Wants u m) :
    rank l < rank m := by
  have direct {v w : τ} {k n : ℓ} (hvw : s.WaitsFor v w) (hk : s.Wants v k) (hn : s.Wants w n) :
      rank k < rank n := by
    obtain ⟨k', ⟨p', hp'⟩, howner⟩ := hvw
    obtain ⟨p, hp⟩ := hk
    rw [hp] at hp'
    cases hp'
    exact h.lt_of_wants howner hn
  induction htu generalizing m with
  | single hvw => exact direct hvw hl hm
  | tail _ hvw ih =>
    obtain ⟨k, hk, howner⟩ := hvw
    exact (ih hk).trans (h.lt_of_wants howner hm)

theorem InOrder.not_deadlocked (h : InOrder rank s) : ¬ s.Deadlocked := by
  rintro ⟨t, ht⟩
  obtain ⟨u, ⟨l, hl, -⟩, -⟩ := Relation.TransGen.head'_iff.mp ht
  exact lt_irrefl _ (h.lt_of_waits ht hl hl)

/-- Whoever sleeps holds only locks below the one it is going to acquire again. -/
theorem InOrder.lt_of_asleep (h : InOrder rank s) {m : ℓ} {p : List (Action ℓ)}
    (hp : s.todo t = .asleep l :: p) (hm : s.owner m = some t) : rank m < rank l := by
  obtain ⟨held, hheld, ho⟩ := h t
  rw [hp] at ho
  exact ho.1 m ((hheld m).mpr hm)

end

variable {Q : List (Action ℓ) → Prop} {es : List (Event τ ℓ)}

/-- Threads whose programs keep to an order are in order at all times. -/
theorem inOrder_of_run (hQ : ∀ p, Q p → Ordered rank ∅ ∅ p)
    (run : Runs.Run State.step (fun _ e => Starts Q e) State.initial es s) : InOrder rank s := by
  refine run.invariant (fun s e s' h he hs => inOrder_step h ?_ hs)
    fun _ => ⟨∅, by simp [Holds, State.initial], rfl⟩
  cases e with
  | start t program => exact hQ program he
  | next t => trivial

/-- A program sleeps only where it may. -/
def SleepsAt (P : ℓ → Prop) (p : List (Action ℓ)) : Prop := ∀ a ∈ p, ∀ l ∈ a.sleepsIn, P l

variable {P : ℓ → Prop} {p : List (Action ℓ)}

section
omit [DecidableEq ℓ]

@[simp] theorem sleepsAt_nil : SleepsAt P ([] : List (Action ℓ)) := by simp [SleepsAt]

@[simp] theorem sleepsAt_cons {a : Action ℓ} :
    SleepsAt P (a :: p) ↔ (∀ l ∈ a.sleepsIn, P l) ∧ SleepsAt P p := List.forall_mem_cons

@[simp] theorem sleepsAt_append {q : List (Action ℓ)} :
    SleepsAt P (p ++ q) ↔ SleepsAt P p ∧ SleepsAt P q := List.forall_mem_append

@[simp] theorem sleepsAt_underLock {l : ℓ} : SleepsAt P (underLock l p) ↔ SleepsAt P p := by
  simp [underLock, Action.sleepsIn]

theorem SleepsAt.flatMap {ι : Type*} {body : ι → List (Action ℓ)} (h : ∀ i, SleepsAt P (body i))
    (is : List ι) : SleepsAt P (is.flatMap body) := by
  intro a ha
  obtain ⟨i, -, ha⟩ := List.mem_flatMap.mp ha
  exact h i a ha

theorem SleepsAt.update (hs : ∀ u, SleepsAt P (s.todo u)) (hp : SleepsAt P p) (u : τ) :
    SleepsAt P (Function.update s.todo t p u) := by
  by_cases hut : u = t
  · subst hut
    simpa using hp
  · simpa [hut] using hs u

end

theorem sleepsAt_next (h : ∀ u, SleepsAt P (s.todo u)) (hs : s.next t = some s') :
    ∀ u, SleepsAt P (s'.todo u) := by
  have ht := h t
  unfold State.next at hs
  split at hs
  · cases hs
  · rename_i l p htodo
    rw [htodo] at ht
    split at hs
    · cases hs
      exact SleepsAt.update h (sleepsAt_cons.mp ht).2
    · cases hs
  · rename_i l p htodo
    rw [htodo] at ht
    cases hs
    exact SleepsAt.update h (sleepsAt_cons.mp ht).2
  · rename_i l p htodo
    rw [htodo] at ht
    cases hs
    obtain ⟨hl, hp⟩ := sleepsAt_cons.mp ht
    exact SleepsAt.update h (sleepsAt_cons.mpr ⟨hl, hp⟩)
  · rename_i l p htodo
    rw [htodo] at ht
    cases hs
    exact SleepsAt.update h (by simpa [Action.sleepsIn] using (sleepsAt_cons.mp ht).2)

/-- Threads whose programs sleep only where they may do so at all times. -/
theorem sleepsAt_of_run (hQ : ∀ p, Q p → SleepsAt P p)
    (run : Runs.Run State.step (fun _ e => Starts Q e) State.initial es s) (t : τ) :
    SleepsAt P (s.todo t) := by
  refine run.invariant (I := fun s => ∀ u, SleepsAt P (s.todo u)) ?_ ?_ t
  · intro s e s' hs he h
    cases e with
    | start t program =>
      simp only [State.step] at h
      split at h
      · cases h
        exact SleepsAt.update hs (hQ program he)
      · cases h
    | next t => exact sleepsAt_next hs h
  · intro u a ha
    simp [State.initial] at ha

end Threads

end LockOrder
