import DoocsBackend.Zmq.ExceptionLast
import DoocsBackend.Zmq.Lists

/-! # The order of publication

The callback pushes values in the order of their publication, a poll pushes what was newest
at the time of its RPC. A listener is left with an old value if the callback gets ahead of a
poll on its way, if it is behind a poll which has been pushed, or if one poll overtakes
another.
-/
namespace DoocsBackend.Zmq

/-- The value in the buffer after the queue has been read. -/
def lastData : List Notification → Option ℕ → Option ℕ
  | [], buffer => buffer
  | .data value :: queue, _ => lastData queue (some value)
  | .exception _ :: queue, buffer => lastData queue buffer

theorem lastData_append (queue queue' : List Notification) (buffer : Option ℕ) :
    lastData (queue ++ queue') buffer = lastData queue' (lastData queue buffer) := by
  induction queue generalizing buffer with
  | nil => rfl
  | cons x queue ih => cases x <;> exact ih _

theorem lastData_pushOverwrite (Q : FutureQueue) (queue : List Notification) (value : ℕ)
    (buffer : Option ℕ) : lastData (Q.pushOverwrite queue (.data value)) buffer = some value := by
  obtain ⟨kept, -, heq⟩ := Q.pushOverwrite_eq queue (.data value)
  rw [heq, lastData_append]
  rfl

namespace Listener

/-- The values pushed, in the order of the pushes. -/
def pushed (l : Listener) : List Happening := l.history.filter Happening.isData

variable (Q : FutureQueue) (l : Listener)

/-- Read until the queue is empty. -/
def drain : Listener := (read Q)^[l.notifications.length] l

theorem drain_buffer : (l.drain Q).buffer = lastData l.notifications l.buffer := by
  unfold drain
  cases l with
  | mk active queue buffer history =>
    induction queue generalizing buffer with
    | nil => rfl
    | cons x queue ih =>
      rw [List.length_cons, Function.iterate_succ_apply]
      cases x with
      | data value => rw [read_data rfl]; exact ih _
      | exception message => rw [read_exception rfl]; exact ih _

@[simp] theorem pushed_activate (got : Bool) : (l.activate got).pushed = l.pushed := by
  unfold activate
  split
  · rfl
  · simp [pushed, Happening.isData]

@[simp] theorem pushed_deactivate : l.deactivate.pushed = l.pushed := rfl

@[simp] theorem pushed_subscribed (flag got : Bool) :
    (l.subscribed flag got).pushed = l.pushed := by
  cases flag
  · rfl
  · exact l.pushed_activate got

@[simp] theorem pushed_pushPolled (value : ℕ) :
    (l.pushPolled Q value).pushed = l.pushed ++ [.polled value] := by
  simp [pushed, pushPolled, Happening.isData]

theorem pushed_deliver (hactive : l.isActiveZMQ = true) (value : ℕ) :
    (l.deliver Q value).pushed = l.pushed ++ [.delivered value] := by
  simp [pushed, deliver, hactive, Happening.isData]

theorem deliver_inactive (hactive : l.isActiveZMQ = false) (value : ℕ) : l.deliver Q value = l := by
  rw [deliver, if_neg (by simp [hactive])]

@[simp] theorem pushed_pushException (message : Text) :
    (l.pushException Q message).pushed = l.pushed := by
  simp [pushed, pushException, Happening.isData]

@[simp] theorem pushed_pushError (message : Text) : (l.pushError Q message).pushed = l.pushed := by
  unfold pushError
  split
  · rw [pushed_pushException, pushed_deactivate]
  · rfl

@[simp] theorem pushed_read : (l.read Q).pushed = l.pushed := by
  unfold read
  split <;> rfl

/-- The values have been pushed in the order of their publication. -/
def NeverBack : Prop := l.pushed.Pairwise fun x y => x.value ≤ y.value

/-- The queue and the buffer still hold the value pushed last, unless exceptions came in. -/
def Kept : Prop :=
  (∀ x ∈ l.history, x.isException = false) →
    lastData l.notifications l.buffer = l.pushed.getLast?.map Happening.value

end Listener

namespace Listener.Kept
variable {Q : FutureQueue} {l : Listener}

theorem activate (h : l.Kept) (got : Bool) : (l.activate got).Kept := by
  intro hexc
  rw [pushed_activate]
  revert hexc
  unfold Listener.activate
  split
  · exact h
  · exact fun hexc => h fun x hx => hexc x (List.mem_append_left _ hx)

theorem pushPolled (value : ℕ) : (l.pushPolled Q value).Kept := by
  intro _
  rw [pushed_pushPolled, List.getLast?_concat]
  exact lastData_pushOverwrite Q l.notifications value l.buffer

theorem deliver (h : l.Kept) (value : ℕ) : (l.deliver Q value).Kept := by
  cases hactive : l.isActiveZMQ with
  | false => rwa [deliver_inactive Q l hactive]
  | true =>
    intro _
    rw [pushed_deliver Q l hactive, List.getLast?_concat, Listener.deliver, if_pos hactive]
    exact lastData_pushOverwrite Q l.notifications value l.buffer

theorem pushException (message : Text) : (l.pushException Q message).Kept := by
  intro hexc
  have hlast := hexc (.exception message) (by simp [Listener.pushException])
  cases hlast

theorem pushError (h : l.Kept) (message : Text) : (l.pushError Q message).Kept := by
  unfold Listener.pushError
  split
  · exact pushException message
  · exact h

theorem read (h : l.Kept) : (l.read Q).Kept := by
  intro hexc
  rw [pushed_read]
  cases hqueue : l.notifications with
  | nil =>
    rw [read_nil hqueue] at hexc ⊢
    exact h hexc
  | cons n queue =>
    cases n with
    | data value =>
      rw [read_data hqueue] at hexc ⊢
      rw [← h hexc, hqueue]
      rfl
    | exception message =>
      rw [read_exception hqueue] at hexc ⊢
      rw [← h hexc, hqueue]
      rfl

end Listener.Kept

/-- What has been pushed last is the newest there is. -/
theorem Listener.NeverBack.max?_eq {l : Listener} (h : l.NeverBack) :
    (l.pushed.map Happening.value).max? = l.pushed.getLast?.map Happening.value := by
  cases hlast : l.pushed.getLast? with
  | none => rw [List.getLast?_eq_none_iff.mp hlast]; rfl
  | some x =>
    obtain ⟨front, hfront⟩ := List.getLast?_eq_some_iff.mp hlast
    rw [Listener.NeverBack, hfront, List.pairwise_append] at h
    rw [hfront, Option.map_some, List.max?_eq_some_iff]
    refine ⟨by simp, fun v hv => ?_⟩
    obtain ⟨y, hy, rfl⟩ := List.mem_map.mp hv
    obtain hy | hy := List.mem_append.mp hy
    · exact h.2.2 y hy x (by simp)
    · rw [List.mem_singleton.mp hy]

namespace State
variable {τ α β : Type} [DecidableEq τ] [DecidableEq α] [DecidableEq β]

/-- The value a thread has polled and not yet pushed into the listener. -/
def inFlight : Pc α β → α → Option ℕ
  | .pushInitialValue _ (.ok value) accessors _, a => if a ∈ accessors then some value else none
  | _, _ => none

/-- The property a thread is about to poll for the listener. -/
def polling : Pc α β → α → Option Text
  | .pollInitialValue p accessors _, a => if a ∈ accessors then some p else none
  | _, _ => none

/-- The callback delivers a value to a listener after all older and before all newer values which
have been polled for it, and of two threads the one with the older value pushes first. -/
structure InTurn (s : State τ α β) (e : Event τ α β) : Prop where
  delivers : ∀ d ∈ e.delivery?, ∀ a ∈ s.listenersAt d.1, (s.listener a).isActiveZMQ = true →
    (∀ x ∈ (s.listener a).history, x.isPolled = true → x.value ≤ d.2) ∧
      ∀ t, ∀ v ∈ inFlight (s.pc t) a, d.2 ≤ v
  pushes : ∀ t ∈ e.thread?, ∀ a ∈ pushTarget (s.pc t), ∀ value ∈ inFlight (s.pc t) a,
    ∀ u ≠ t, ∀ v ∈ inFlight (s.pc u) a, value ≤ v

instance [Fintype τ] (s : State τ α β) (e : Event τ α β) : Decidable (InTurn s e) :=
  decidable_of_iff (_ ∧ _) ⟨fun h => ⟨h.1, h.2⟩, fun h => ⟨h.delivers, h.pushes⟩⟩

/-- Values on their way are newer than those in the queue. -/
structure InOrder (L : Layout α β) (s : State τ α β) (a : α) : Prop where
  neverBack : (s.listener a).NeverBack
  delivered : ∀ v, .delivered v ∈ (s.listener a).pushed → v ≤ s.delivered (L.path a)
  published : ∀ x ∈ (s.listener a).pushed, x.value ≤ s.published (L.path a)
  inFlight_ge : ∀ t, ∀ v ∈ inFlight (s.pc t) a, ∀ x ∈ (s.listener a).pushed, x.value ≤ v
  inFlight_le : ∀ t, ∀ v ∈ inFlight (s.pc t) a, v ≤ s.published (L.path a)
  polling : ∀ t, ∀ p ∈ polling (s.pc t) a, L.path a = p

variable {L : Layout α β} {s s' : State τ α β} {a : α}

namespace InOrder

omit [DecidableEq τ] [DecidableEq β] in
/-- Nothing is pushed into the listener and nothing polled for it. -/
theorem of_same (h : InOrder L s a) (hpushed : (s'.listener a).pushed = (s.listener a).pushed)
    (hdelivered : s.delivered (L.path a) ≤ s'.delivered (L.path a))
    (hpublished : s.published (L.path a) ≤ s'.published (L.path a))
    (hinFlight : ∀ t, ∀ v ∈ inFlight (s'.pc t) a, v ∈ inFlight (s.pc t) a)
    (hpolling : ∀ t, ∀ p ∈ State.polling (s'.pc t) a, p ∈ State.polling (s.pc t) a ∨ L.path a = p) :
    InOrder L s' a where
  neverBack := by rw [Listener.NeverBack, hpushed]; exact h.neverBack
  delivered v hv := (h.delivered v (hpushed ▸ hv)).trans hdelivered
  published x hx := (h.published x (hpushed ▸ hx)).trans hpublished
  inFlight_ge t v hv x hx := h.inFlight_ge t v (hinFlight t v hv) x (hpushed ▸ hx)
  inFlight_le t v hv := (h.inFlight_le t v (hinFlight t v hv)).trans hpublished
  polling t p hp := (hpolling t p hp).elim (h.polling t p) id

omit [DecidableEq β] in
/-- A thread goes on. -/
theorem moves (h : InOrder L s a) {t : τ} {pc : Pc α β}
    (hpushed : (s'.listener a).pushed = (s.listener a).pushed)
    (hdelivered : s'.delivered = s.delivered) (hpublished : s'.published = s.published)
    (hpc : s'.pc = Function.update s.pc t pc)
    (hinFlight : ∀ v ∈ inFlight pc a, v ∈ inFlight (s.pc t) a)
    (hpolling : ∀ p ∈ State.polling pc a, p ∈ State.polling (s.pc t) a ∨ L.path a = p) :
    InOrder L s' a := by
  refine h.of_same hpushed (by rw [hdelivered]) (by rw [hpublished]) ?_ ?_
  · rw [hpc]
    exact (Function.forall_update_iff s.pc fun u pc =>
      ∀ v ∈ inFlight pc a, v ∈ inFlight (s.pc u) a).mpr ⟨hinFlight, fun _ _ _ => id⟩
  · rw [hpc]
    exact (Function.forall_update_iff s.pc fun u pc =>
      ∀ p ∈ State.polling pc a, p ∈ State.polling (s.pc u) a ∨ L.path a = p).mpr
        ⟨hpolling, fun _ _ _ => .inl⟩

omit [DecidableEq β] in
/-- A thread goes on which neither polls nor pushes. -/
theorem goes (h : InOrder L s a) {t : τ} {pc : Pc α β}
    (hpushed : (s'.listener a).pushed = (s.listener a).pushed)
    (hdelivered : s'.delivered = s.delivered) (hpublished : s'.published = s.published)
    (hpc : s'.pc = Function.update s.pc t pc) (hinFlight : inFlight pc a = none)
    (hpolling : State.polling pc a = none) : InOrder L s' a :=
  h.moves hpushed hdelivered hpublished hpc (by simp [hinFlight]) (by simp [hpolling])

end InOrder

omit [DecidableEq τ] [DecidableEq β] in
theorem pushed_each {as : List α} {f : Listener → Listener} (hf : ∀ l, (f l).pushed = l.pushed) :
    (Each.each f as s.listener a).pushed = (s.listener a).pushed :=
  Each.each_preserves (P := fun l : Listener => l.pushed = (s.listener a).pushed)
    (fun l hl => (hf l).trans hl) rfl

omit [DecidableEq τ] [DecidableEq β] in
theorem pushed_entered {b : α} (active : Bool) :
    ((s.entered L b active).listener a).pushed = (s.listener a).pushed := by
  by_cases hab : a = b
  · subst hab
    simp [entered]
  · simp [entered, hab]

omit [DecidableEq β] in
theorem InOrder.serveError (h : InOrder L s a) (t : τ) (p text : Text) (k n : ℕ) :
    InOrder L (s.serveError L t p text k n) a := by
  obtain ⟨b, -, heq⟩ | heq | heq := serveError_cases L s t p text k n
  all_goals rw [heq]
  · exact h.goes (pushed_each fun l => l.pushed_pushError L.queue _) rfl rfl rfl rfl rfl
  · exact h.goes rfl rfl rfl rfl rfl rfl
  · exact h.of_same rfl le_rfl le_rfl (fun _ _ => id) fun _ _ => .inl

omit [DecidableEq τ] [DecidableEq β] in
/-- The callback delivers to a listener which is active. -/
theorem InOrder.deliver (h : InOrder L s a) {p : Text} {value : ℕ} {as : List α}
    (hpath : L.path a = p) (hlow : s.delivered p ≤ value) (hhigh : value ≤ s.published p)
    (hpolled : ∀ x ∈ (s.listener a).history, x.isPolled = true → x.value ≤ value)
    (hinFlight : ∀ t, ∀ v ∈ inFlight (s.pc t) a, value ≤ v)
    (hlistener : s'.listener a = Each.each (Listener.deliver L.queue value) as s.listener a)
    (hdelivered : s'.delivered p = value) (hpublished : s'.published = s.published)
    (hpc : s'.pc = s.pc) : InOrder L s' a := by
  subst hpath
  have hold : ∀ x ∈ (s.listener a).pushed, x.value ≤ value := by
    intro x hx
    obtain ⟨hmem, hdata⟩ := List.mem_filter.mp hx
    cases x with
    | polled v => exact hpolled _ hmem rfl
    | delivered v => exact (h.delivered v hx).trans hlow
    | activated got | exception message => cases hdata
  have hnew : (s'.listener a).NeverBack ∧ ∀ x ∈ (s'.listener a).pushed, x.value ≤ value := by
    rw [hlistener]
    refine Each.each_preserves
      (P := fun l : Listener => l.NeverBack ∧ ∀ x ∈ l.pushed, x.value ≤ value)
      (fun l ⟨hback, hle⟩ => ?_) ⟨h.neverBack, hold⟩
    cases hactive : l.isActiveZMQ with
    | false => rw [l.deliver_inactive L.queue hactive]; exact ⟨hback, hle⟩
    | true =>
      rw [Listener.NeverBack, l.pushed_deliver L.queue hactive]
      refine ⟨List.pairwise_append.mpr ⟨hback, List.pairwise_singleton _ _, ?_⟩, ?_⟩
      · simpa [Happening.value] using hle
      · simpa [or_imp, forall_and, Happening.value] using hle
  exact {
    neverBack := hnew.1
    delivered := fun v hv => hdelivered ▸ hnew.2 _ hv
    published := fun x hx => (hnew.2 x hx).trans (hpublished ▸ hhigh)
    inFlight_ge := fun t v hv x hx => (hnew.2 x hx).trans (hinFlight t v (by rwa [hpc] at hv))
    inFlight_le := fun t v hv => by
      rw [hpublished]
      exact h.inFlight_le t v (by rwa [hpc] at hv)
    polling := fun t q hq => h.polling t q (by rwa [hpc] at hq) }

section
omit [DecidableEq β]

/-- A thread which is pushing does not poll. -/
theorem polling_of_goto_push {t u : τ} {p q : Text} {reply : Except Text ℕ} {accessors : List α}
    {ret : Return β}
    (hq : q ∈ polling ((s.goto t (.pushInitialValue p reply accessors ret)).pc u) a) :
    q ∈ polling (s.pc u) a :=
  mem_place_of_goto (fun pc => polling pc a) rfl rfl hq

/-- A thread polls. -/
theorem InOrder.polled (h : InOrder L s a) {t : τ} {p : Text} {accessors : List α} {ret : Return β}
    (hpc : s.pc t = .pollInitialValue p accessors ret) :
    InOrder L (s.goto t (.pushInitialValue p (.ok (s.published p)) accessors ret)) a := by
  have hflight (u : τ) (v : ℕ) (hv : v ∈ inFlight
      ((s.goto t (.pushInitialValue p (.ok (s.published p)) accessors ret)).pc u) a) :
      v = s.published (L.path a) ∨ v ∈ inFlight (s.pc u) a := by
    obtain ⟨rfl, hself⟩ | hbefore := mem_place_goto (fun pc => inFlight pc a) rfl hv
    · dsimp only [inFlight] at hself
      split at hself
      · rename_i hmem
        cases hself
        rw [h.polling u p (by simp [hpc, State.polling, hmem])]
        exact .inl rfl
      · cases hself
    · exact .inr hbefore
  refine ⟨h.neverBack, h.delivered, h.published, fun u v hv x hx => ?_, fun u v hv => ?_,
    fun u q hq => ?_⟩
  · obtain rfl | hold := hflight u v hv
    · exact h.published x hx
    · exact h.inFlight_ge u v hold x hx
  · obtain rfl | hold := hflight u v hv
    · exact le_rfl
    · exact h.inFlight_le u v hold
  · exact h.polling u q (polling_of_goto_push hq)

/-- A thread pushes the value it has polled. -/
theorem InOrder.pushPolled (h : InOrder L s a) {t : τ} {p : Text} {value : ℕ} {as : List α}
    {ret : Return β} (hpc : s.pc t = .pushInitialValue p (.ok value) (a :: as) ret)
    (hother : ∀ u ≠ t, ∀ v ∈ inFlight (s.pc u) a, value ≤ v) :
    InOrder L ((s.eachListener [a] (Listener.pushPolled L.queue value)).goto t
      (.pushInitialValue p (.ok value) as ret)) a := by
  have hself : value ∈ inFlight (s.pc t) a := by simp [hpc, inFlight]
  have hpushed : (((s.eachListener [a] (Listener.pushPolled L.queue value)).goto t
      (.pushInitialValue p (.ok value) as ret)).listener a).pushed =
        (s.listener a).pushed ++ [.polled value] := by
    simp [Each.each]
  have hflight (u : τ) (v : ℕ) (hv : v ∈ inFlight
      (((s.eachListener [a] (Listener.pushPolled L.queue value)).goto t
        (.pushInitialValue p (.ok value) as ret)).pc u) a) :
      value ≤ v ∧ v ∈ inFlight (s.pc u) a := by
    rw [goto_pc] at hv
    by_cases hu : u = t
    · subst hu
      rw [Function.update_self, inFlight] at hv
      split at hv
      · cases hv
        exact ⟨le_rfl, hself⟩
      · cases hv
    · rw [Function.update_of_ne hu] at hv
      exact ⟨hother u hu v hv, hv⟩
  refine ⟨?_, fun v hv => ?_, fun x hx => ?_, fun u v hv x hx => ?_, fun u v hv => ?_,
    fun u q hq => ?_⟩
  · rw [Listener.NeverBack, hpushed]
    refine List.pairwise_append.mpr ⟨h.neverBack, List.pairwise_singleton _ _, fun x hx y hy => ?_⟩
    rw [List.mem_singleton.mp hy]
    exact h.inFlight_ge t value hself x hx
  · rw [hpushed] at hv
    exact h.delivered v (by simpa using hv)
  · rw [hpushed] at hx
    obtain hx | hx := List.mem_append.mp hx
    · exact h.published x hx
    · rw [List.mem_singleton.mp hx]
      exact h.inFlight_le t value hself
  · rw [hpushed] at hx
    obtain hx | hx := List.mem_append.mp hx
    · exact h.inFlight_ge u v (hflight u v hv).2 x hx
    · rw [List.mem_singleton.mp hx]
      exact (hflight u v hv).1
  · exact h.inFlight_le u v (hflight u v hv).2
  · exact h.polling u q (polling_of_goto_push hq)

end

theorem inOrder_step {e : Event τ α β} (hplaced : Placed L s) (h : InOrder L s a) (hok : InTurn s e)
    (hstep : Transition L s e s') : InOrder L s' a := by
  cases hstep with
  | subscribeFails =>
    exact h.of_same (pushed_entered false) le_rfl le_rfl (fun _ _ => id) fun _ _ => .inl
  | subscribeNew => exact h.goes (pushed_entered true) rfl rfl rfl rfl rfl
  | @subscribeJoins t b attachFails e hpc hfree hcall hold =>
    refine h.moves (pushed_entered e.active) rfl rfl rfl (fun v hv => ?_) fun p hp => .inr ?_
    · split at hv <;> cases hv
    · split at hp
      · simp only [polling, List.mem_singleton] at hp
        split at hp
        · rename_i hab
          cases hp
          rw [hab]
        · cases hp
      · cases hp
  | unsubscribeLeaves =>
    refine h.moves rfl rfl rfl rfl (fun v hv => ?_) fun p hp => ?_
    · split at hv <;> cases hv
    · split at hp <;> cases hp
  | @data t p value e hpc hattached hlow hhigh hold =>
    have hdelivered : s.delivered (L.path a) ≤
        Function.update s.delivered p value (L.path a) := by
      by_cases hp : L.path a = p
      · rw [hp, Function.update_self]
        exact hlow
      · rw [Function.update_of_ne hp]
    have hlist : s.listenersAt p = e.listeners := listenersAt_of_lookup hold
    by_cases hmem : a ∈ e.listeners
    · have hpath := hplaced p a (hlist ▸ hmem)
      cases hactive : (s.listener a).isActiveZMQ with
      | true =>
        obtain ⟨hpolled, hinFlight⟩ := hok.delivers _ rfl a (hlist ▸ hmem) hactive
        exact h.deliver hpath hlow hhigh hpolled hinFlight rfl (Function.update_self _ _ _) rfl rfl
      | false =>
        have hsame : Each.each (Listener.deliver L.queue value) e.listeners s.listener a = s.listener a :=
          Each.each_preserves (P := fun l => l = s.listener a)
            (fun l hl => by rw [hl, Listener.deliver_inactive L.queue _ hactive]) rfl
        exact h.of_same (congrArg Listener.pushed hsame) hdelivered le_rfl (fun _ _ => id)
          fun _ _ => .inl
    · exact h.of_same (congrArg Listener.pushed (Each.each_of_notMem hmem)) hdelivered le_rfl
        (fun _ _ => id) fun _ _ => .inl
  | @error t p text e =>
    have hset : InOrder L (s.setSubscription p { e with started := true, gotInitialValue := false })
      a := h.of_same rfl le_rfl le_rfl (fun _ _ => id) fun _ _ => .inl
    exact hset.serveError _ _ _ _ _
  | errorLoop => exact h.serveError _ _ _ _ _
  | @activateListeners t r b p todo e hpc hold =>
    refine h.moves (pushed_each fun l => l.pushed_activate _) rfl rfl rfl (fun v hv => ?_)
      fun q hq => .inr ?_
    · split at hv <;> cases hv
    · split at hq
      · rw [polling] at hq
        split at hq
        · rename_i hmem
          cases hq
          exact hplaced p a (listenersAt_of_lookup hold ▸ (mem_ownedBy.mp hmem).1)
        · cases hq
      · cases hq
  | @poll t r p accessors ret hpc =>
    cases r with
    | some text => exact h.goes rfl rfl rfl rfl rfl rfl
    | none => exact h.polled hpc
  | @pushPolled t r p value b as ret hpc =>
    by_cases hab : a = b
    · subst hab
      have hinFlight : inFlight (s.pc t) a = some value := by simp [hpc, inFlight]
      exact h.pushPolled hpc (hok.pushes t rfl a (by rw [hpc]; rfl) value hinFlight)
    · refine h.moves (congrArg Listener.pushed (Function.update_of_ne hab _ _)) rfl rfl rfl
        (fun v hv => ?_) (by simp [polling])
      rw [hpc]
      simp only [inFlight, List.mem_cons, hab, false_or] at hv ⊢
      exact hv
  | @pushDone t r p reply ret hpc =>
    exact h.goes rfl rfl rfl rfl (by cases ret <;> rfl) (by cases ret <;> rfl)
  | close | clearIsActiveZMQ =>
    exact h.goes (pushed_each fun l => l.pushed_deactivate) rfl rfl rfl rfl rfl
  | pushException =>
    exact h.goes (pushed_each fun l => l.pushed_pushException L.queue _) rfl rfl rfl rfl rfl
  | pushExceptionsAt =>
    exact h.goes (pushed_each fun l => l.pushed_pushError L.queue _) rfl rfl rfl rfl rfl
  | read =>
    exact h.of_same (pushed_each fun l => l.pushed_read L.queue) le_rfl le_rfl (fun _ _ => id) fun _ _ => .inl
  | @publish p =>
    refine h.of_same rfl le_rfl ?_ (fun _ _ => id) fun _ _ => .inl
    by_cases hp : L.path a = p
    · subst hp
      simp
    · simp [hp]
  | activateIgnored | openSucceeds | dangling | eraseMissing | informMissing | unsubscribeIgnored =>
    exact h.of_same rfl le_rfl le_rfl (fun _ _ => id) fun _ _ => .inl
  | activateChecked | openFails | setException | detach | deactivateInactive | deactivateActive
  | deactivateWaits | awaitStarted | pushErrorIgnored | pushErrorChecked | eraseSubscription
  | exchangeSet | exchangeUnset | activateAllListeners | activateDone | activateSkips
  | clearOpened | clearAsyncRead | clearLastFailedAddress | setExceptionImpl | pushExceptions
  | pushExceptionsDone | informRuntimeError => exact h.goes rfl rfl rfl rfl rfl rfl

theorem kept_step {e : Event τ α β} (hs : (s.listener a).Kept) (h : Transition L s e s') :
    (s'.listener a).Kept :=
  listener_step h hs (fun _ _ got hl => hl.activate got) (fun _ hl => hl)
    (fun _ _ _ value _ _ _ _ => Listener.Kept.pushPolled value)
    (fun _ _ _ _ _ _ message _ _ => Listener.Kept.pushException message)
    (fun _ value hl => hl.deliver value) (fun _ message hl => hl.pushError message) fun _ hl => hl.read

omit [DecidableEq τ] [DecidableEq β] in
theorem inOrder_initial (backend : β → Backend.BackendState) (a : α) :
    InOrder L (initial backend : State τ α β) a where
  neverBack := .nil
  delivered v hv := by cases hv
  published x hx := by cases hx
  inFlight_ge t v hv := by cases hv
  inFlight_le t v hv := by cases hv
  polling t p hp := by cases hp

/-- If values are delivered and pushed in turn, no queue ever goes back in the order of
publication, and an accessor which has emptied its queue, without an exception having come in,
holds the newest value it was given. -/
theorem values_never_back {backend : β → Backend.BackendState} {es : List (Event τ α β)}
    (run : Runs.Run (step L) InTurn (initial backend) es s) (a : α) :
    (s.listener a).NeverBack ∧
      ((∀ x ∈ (s.listener a).history, x.isException = false) →
        ((s.listener a).drain L.queue).buffer = ((s.listener a).pushed.map Happening.value).max?) := by
  obtain ⟨hplaced, horder, hkept⟩ := run.invariant
    (I := fun s => Placed L s ∧ (∀ a, InOrder L s a) ∧ ∀ a, (s.listener a).Kept)
    (fun _ _ _ hs hok h =>
      have h := transition_of_step h
      ⟨placed_step hs.1 h, fun a => inOrder_step hs.1 (hs.2.1 a) hok h, fun a => kept_step (hs.2.2 a) h⟩)
    ⟨placed_initial backend, inOrder_initial backend, fun _ _ => rfl⟩
  refine ⟨(horder a).neverBack, fun hexc => ?_⟩
  rw [Listener.drain_buffer, hkept a hexc, (horder a).neverBack.max?_eq]

/-- Between the RPC and the push of its value, the callback delivers the next value. -/
theorem not_values_never_back :
    ∃ s, Runs.exec (step oneListener) (initial fun _ => { opened := true })
      (pollThen [.publish "F/D/L/P".toList, .call false (.data "F/D/L/P".toList 1),
        .next true none, .next true none, .next true none]) = some s ∧ (∀ t, s.pc t = .idle) ∧
      (s.listener ()).pushed = [.delivered 1, .polled 0] ∧ ((s.listener ()).drain plainQueue).buffer = some 0 := by
  refine ⟨_, rfl, fun t => ?_, by decide, by decide⟩
  cases t <;> rfl

/-- The callback delivers the next value after the push. -/
def deliversAfterwards : List (Event Bool Unit Unit) :=
  pollThen [.next true none, .publish "F/D/L/P".toList, .call false (.data "F/D/L/P".toList 1),
    .next true none, .next true none]

theorem values_never_back_afterwards :
    ∃ s, Runs.exec (step oneListener) (initial fun _ => { opened := true }) deliversAfterwards =
      some s ∧ ((s.listener ()).drain plainQueue).buffer = some 1 := by
  have run : Runs.Run (step oneListener) InTurn (initial fun _ => { opened := true })
      deliversAfterwards _ := Runs.Along.run (by decide) rfl
  exact ⟨_, run.exec_eq, (values_never_back run ()).2 (by decide)⟩

end State

end DoocsBackend.Zmq
