import Fieldwork.Proofs.Async.Unseen
import Fieldwork.Proofs.Async.Within

/-!
A snapshot that is installed inside itself, with another current context around. What runs inside
cannot tell, and neither can what comes after: the two stores are the same, up to what traced
accessors write to the log.
-/
namespace Fieldwork

namespace Accessor

theorem trace_untraced {a : Accessor} (h : a.traced = false) (st : Store)
    (entry : List Json.Value) : a.trace st entry = st := by
  simp [trace, h]

theorem log_write {a : Accessor} (h : a.traced = false) (v : Option Json.Value) (st : Store) :
    (a.write v st).log = st.log := by
  cases v <;> simp only [write, trace_untraced h] <;> rfl

end Accessor

namespace Scope

theorem opening_untraced {writes : List (Accessor × Option Json.Value)}
    (h : ∀ e ∈ writes, e.1.traced = false) (scope : Scope) (st : Store)
    (before : ∀ e ∈ scope.saved, e.1.traced = false) :
    (opening writes scope st).2.log = st.log ∧
      ∀ e ∈ (opening writes scope st).1.saved, e.1.traced = false := by
  induction writes generalizing scope st with
  | nil => exact ⟨rfl, before⟩
  | cons e rest ih =>
    obtain ⟨a, v⟩ := e
    have quiet : a.traced = false := h (a, v) List.mem_cons_self
    have later : ∀ e ∈ rest, e.1.traced = false := fun e mem => h e (List.mem_cons_of_mem _ mem)
    simp only [opening, Accessor.read, Accessor.trace_untraced quiet]
    have saved : ∀ e ∈ (a, st.slots a.slot) :: scope.saved, e.1.traced = false :=
      List.forall_mem_cons.mpr ⟨quiet, before⟩
    obtain ⟨log, kept⟩ := ih later ⟨(a, st.slots a.slot) :: scope.saved⟩ (a.write v st) saved
    exact ⟨log.trans (Accessor.log_write quiet v st), kept⟩

theorem close_untraced {scope : Scope} (h : ∀ e ∈ scope.saved, e.1.traced = false) (st : Store) :
    (scope.close st).log = st.log := by
  obtain ⟨saved⟩ := scope
  unfold close
  induction saved generalizing st with
  | nil => rfl
  | cons e rest ih =>
    have later := ih (e.1.write e.2 st) fun e mem => h e (List.mem_cons_of_mem _ mem)
    exact later.trans (Accessor.log_write (h e List.mem_cons_self) e.2 st)

end Scope

namespace Snapshot

/-- Whether some accessor notes that the snapshot is installed. -/
def Traced (s : Snapshot) : Prop := ∃ e ∈ s.captured, e.1.traced = true

def UpToTraces (s : Snapshot) : StoreRelation := fun st st' =>
  ∃ log, st' = { st with log } ∧ (¬ s.Traced → log = st.log)

def shown (s : Snapshot) (slots : Nat → Option Json.Value) : Nat → Option Json.Value := fun i =>
  ((lastWith (·.1.slot) s.writes i).map (·.2)).getD (slots i)

def restored (s : Snapshot) (before last : Nat → Option Json.Value) : Nat → Option Json.Value :=
  fun i => if s.Covers i then before i else last i

variable {s : Snapshot} {st st' st'' inner inner' : Store}

theorem shown_shown (slots : Nat → Option Json.Value) : s.shown (s.shown slots) = s.shown slots := by
  funext i
  unfold shown
  cases lastWith (·.1.slot) s.writes i <;> rfl

/-- Restoring from a scope inside another one and then from that is restoring from the latter. -/
theorem restored_restored (before between last : Nat → Option Json.Value) :
    s.restored before (s.restored between last) = s.restored before last := by
  funext i
  unfold restored
  split <;> rfl

namespace UpToTraces

theorem refl (s : Snapshot) (st : Store) : s.UpToTraces st st := ⟨st.log, rfl, fun _ => rfl⟩

theorem symm (h : s.UpToTraces st st') : s.UpToTraces st' st := by
  obtain ⟨log, rfl, same⟩ := h
  exact ⟨st.log, rfl, fun untraced => (same untraced).symm⟩

theorem trans (h : s.UpToTraces st st') (h' : s.UpToTraces st' st'') : s.UpToTraces st st'' := by
  obtain ⟨log, rfl, same⟩ := h
  obtain ⟨log', rfl, same'⟩ := h'
  exact ⟨log', rfl, fun untraced => (same' untraced).trans (same untraced)⟩

instance : Trans s.UpToTraces s.UpToTraces s.UpToTraces := ⟨trans⟩

theorem eq (h : s.UpToTraces st st') (untraced : ¬ s.Traced) : st' = st := by
  obtain ⟨log, rfl, same⟩ := h
  rw [same untraced]

theorem slots (h : s.UpToTraces st st') : st'.slots = st.slots := by
  obtain ⟨log, rfl, _⟩ := h
  rfl

theorem current (h : s.UpToTraces st st') : st'.current = st.current := by
  obtain ⟨log, rfl, _⟩ := h
  rfl

theorem agrees (s : Snapshot) (k : Nat) : StoreRelation.Agrees s.UpToTraces k := by
  rintro st _ ⟨log, rfl, _⟩
  rfl

theorem withSlots (h : s.UpToTraces st st') (slots : Nat → Option Json.Value) :
    s.UpToTraces { st with slots } { st' with slots } := by
  obtain ⟨log, rfl, same⟩ := h
  exact ⟨log, rfl, same⟩

theorem withCurrent (h : s.UpToTraces st st') (current : Option RequestContext) :
    s.UpToTraces { st with current } { st' with current } := by
  obtain ⟨log, rfl, same⟩ := h
  exact ⟨log, rfl, same⟩

theorem unseen (s : Snapshot) : StoreRelation.Unseen s.UpToTraces where
  apart := by
    rintro st _ ⟨log, rfl, _⟩
    exact ⟨st.signals, log, rfl⟩
  change := by
    rintro st _ ⟨log, rfl, same⟩ slots bags tasks channels
    exact ⟨log, rfl, same⟩
  note := by
    rintro st _ ⟨log, rfl, same⟩ v
    exact ⟨log ++ [v], rfl, fun untraced => congrArg (· ++ [v]) (same untraced)⟩

theorem sets (s : Snapshot) : StoreRelation.Sets s.UpToTraces := by
  rintro st _ ⟨log, rfl, same⟩ k
  exact ⟨log, rfl, same⟩

end UpToTraces

theorem untraced_writes (h : ¬ s.Traced) : ∀ e ∈ s.writes, e.1.traced = false := by
  intro e mem
  cases traced : e.1.traced with
  | false => rfl
  | true => exact absurd ⟨e, (List.mem_filter.mp mem).1, traced⟩ h

theorem upToTraces_install (s : Snapshot) (st : Store) :
    s.UpToTraces { st with slots := s.shown st.slots } (s.install st).2 := by
  have slots : (s.install st).2.slots = s.shown st.slots := funext (s.slots_install st)
  refine ⟨(s.install st).2.log, ?_, ?_⟩
  · rw [← slots]
    exact s.install_frame st
  · intro untraced
    exact (Scope.opening_untraced (untraced_writes untraced) ⟨[]⟩ st (by simp)).1

theorem upToTraces_close (s : Snapshot) (st last : Store) :
    s.UpToTraces { last with slots := s.restored st.slots last.slots }
      ((s.install st).1.close last) := by
  have slots : ((s.install st).1.close last).slots = s.restored st.slots last.slots :=
    funext (s.close_restores st last)
  refine ⟨((s.install st).1.close last).log, ?_, ?_⟩
  · rw [← slots]
    exact (s.install st).1.close_frame last
  · intro untraced
    exact Scope.close_untraced
      (Scope.opening_untraced (untraced_writes untraced) ⟨[]⟩ st (by simp)).2 last

theorem upToTraces_enter (s : Snapshot) (c : RequestContext) (st : Store) :
    s.UpToTraces { st with slots := s.shown st.slots, current := some c } (s.enter c st) :=
  s.upToTraces_install { st with current := some c }

theorem upToTraces_leave (s : Snapshot) (c : RequestContext) (st inner : Store) :
    s.UpToTraces { inner with slots := s.restored st.slots inner.slots, current := st.current }
      (s.leave c st inner) :=
  (s.upToTraces_close { st with current := some c } inner).withCurrent st.current

namespace UpToTraces

theorem install (h : s.UpToTraces st st') :
    s.UpToTraces (s.install st).2 (s.install (s.install st').2).2 := by
  have outer := s.upToTraces_install st'
  have slots : s.shown (s.install st').2.slots = s.shown st.slots := by
    rw [outer.slots, shown_shown, h.slots]
  calc s.UpToTraces (s.install st).2 { st with slots := s.shown st.slots } :=
        (s.upToTraces_install st).symm
    s.UpToTraces _ { st' with slots := s.shown st.slots } := h.withSlots _
    s.UpToTraces _ { (s.install st').2 with slots := s.shown st.slots } := outer.withSlots _
    s.UpToTraces _ { (s.install st').2 with slots := s.shown (s.install st').2.slots } := by
        rw [slots]
        exact refl s _
    s.UpToTraces _ (s.install (s.install st').2).2 := s.upToTraces_install _

theorem enter (h : s.UpToTraces st st') (c c' : RequestContext) :
    s.UpToTraces (s.enter c st) (s.enter c (s.enter c' st')) := by
  have outer := s.upToTraces_enter c' st'
  have slots : s.shown (s.enter c' st').slots = s.shown st.slots := by
    rw [outer.slots, shown_shown, h.slots]
  calc s.UpToTraces (s.enter c st) { st with slots := s.shown st.slots, current := some c } :=
        (s.upToTraces_enter c st).symm
    s.UpToTraces _ { st' with slots := s.shown st.slots, current := some c } := (h.withSlots _).withCurrent _
    s.UpToTraces _ { s.enter c' st' with slots := s.shown st.slots, current := some c } :=
        (outer.withSlots _).withCurrent _
    s.UpToTraces _ { s.enter c' st' with slots := s.shown (s.enter c' st').slots, current := some c } := by
        rw [slots]
        exact refl s _
    s.UpToTraces _ (s.enter c (s.enter c' st')) := s.upToTraces_enter c _

theorem enter_other (h : s.UpToTraces st st') (c c' : RequestContext) :
    s.UpToTraces { s.enter c st with current := some c' } (s.enter c' st') := by
  calc s.UpToTraces { s.enter c st with current := some c' }
        { st with slots := s.shown st.slots, current := some c' } :=
        (s.upToTraces_enter c st).symm.withCurrent _
    s.UpToTraces _ { st' with slots := s.shown st.slots, current := some c' } := (h.withSlots _).withCurrent _
    s.UpToTraces _ { st' with slots := s.shown st'.slots, current := some c' } := by
        rw [h.slots]
        exact refl s _
    s.UpToTraces _ (s.enter c' st') := s.upToTraces_enter c' st'

theorem leave_other (h : s.UpToTraces st st') (c c' : RequestContext) {x : Option RequestContext}
    (inside : s.UpToTraces { inner with current := x } inner') :
    s.UpToTraces (s.leave c st inner) (s.leave c' st' inner') := by
  have slots : inner'.slots = inner.slots := inside.slots
  calc s.UpToTraces (s.leave c st inner)
        { inner with slots := s.restored st.slots inner.slots, current := st.current } :=
        (s.upToTraces_leave c st inner).symm
    s.UpToTraces _ { inner' with slots := s.restored st.slots inner.slots, current := st.current } :=
        (inside.withSlots _).withCurrent _
    s.UpToTraces _ { inner' with slots := s.restored st'.slots inner'.slots, current := st'.current } := by
        rw [h.slots, h.current, slots]
        exact refl s _
    s.UpToTraces _ (s.leave c' st' inner') := s.upToTraces_leave c' st' inner'

theorem leave (h : s.UpToTraces st st') (c c' : RequestContext)
    (inside : s.UpToTraces inner inner') :
    s.UpToTraces (s.leave c st inner)
      (s.leave c' st' (s.leave c (s.enter c' st') inner')) := by
  have first := s.upToTraces_leave c (s.enter c' st') inner'
  have slots : s.restored st'.slots (s.leave c (s.enter c' st') inner').slots =
      s.restored st.slots inner.slots := by
    rw [first.slots, restored_restored, h.slots, inside.slots]
  calc s.UpToTraces (s.leave c st inner)
        { inner with slots := s.restored st.slots inner.slots, current := st.current } :=
        (s.upToTraces_leave c st inner).symm
    s.UpToTraces _ { inner' with slots := s.restored st.slots inner.slots, current := st.current } :=
        (inside.withSlots _).withCurrent _
    s.UpToTraces _ { s.leave c (s.enter c' st') inner' with
        slots := s.restored st.slots inner.slots, current := st.current } :=
        (first.withSlots _).withCurrent _
    s.UpToTraces _ { s.leave c (s.enter c' st') inner' with
        slots := s.restored st'.slots (s.leave c (s.enter c' st') inner').slots
        current := st'.current } := by
        rw [slots, h.current]
        exact refl s _
    s.UpToTraces _ (s.leave c' st' (s.leave c (s.enter c' st') inner')) := s.upToTraces_leave c' st' _

end UpToTraces
end Snapshot
end Fieldwork
