import Fieldwork.Proofs.Async.Polls
import Fieldwork.Proofs.Async.Related
import Fieldwork.Proofs.Async.Within

/-!
Two runs of the same code in stores that differ in their signals only. Code respects a relation
between signals if stores that it relates are taken to stores that it relates, with the same
answer. Binding, recovering, instrumenting and converting keep this up; only the signal that a
source is bound to must be the same on both sides.

With one store on both sides the relation says what code does to signals: that it sets signals and
never unsets them, or that it leaves one alone. With one more signal set on the other side it says
that code does not look at that signal.
-/
namespace Fieldwork

abbrev SignalRelation := Pool Bool → Pool Bool → Prop

namespace SignalRelation

def Agrees (S : SignalRelation) (k : Nat) : Prop := ∀ p q, S p q → p.cell k = q.cell k

def same (keeps : Pool Bool → Prop) : SignalRelation := fun p q => p = q ∧ keeps p

def Grown (p q : Pool Bool) : Prop :=
  p.size ≤ q.size ∧ ∀ k, k < p.size → p.cell k = true → q.cell k = true

namespace Grown

variable {p q r : Pool Bool}

theorem refl (p : Pool Bool) : Grown p p :=
  ⟨Nat.le_refl _, fun _ _ set => set⟩

theorem trans (first : Grown p q) (second : Grown q r) : Grown p r := by
  refine ⟨Nat.le_trans first.1 second.1, ?_⟩
  intro k bound set
  exact second.2 k (Nat.lt_of_lt_of_le bound first.1) (first.2 k bound set)

theorem alloc (p : Pool Bool) : Grown p (p.alloc false).2 := by
  refine ⟨Nat.le_succ _, ?_⟩
  intro k bound set
  rw [Pool.cell_alloc_of_lt p bound]
  exact set

theorem set (p : Pool Bool) (j : Nat) : Grown p (p.set j true) := by
  refine ⟨Nat.le_refl _, ?_⟩
  intro k _ set
  rw [Pool.cell_set]
  split
  · rfl
  · exact set

end Grown

def above (p : Pool Bool) : SignalRelation := same (Grown p)

def sparing (k : Nat) : SignalRelation := same fun p => k < p.size ∧ p.cell k = false

def raised (k : Nat) : SignalRelation := fun p q => q = p.set k true

theorem agrees_same (keeps : Pool Bool → Prop) (k : Nat) : (same keeps).Agrees k := by
  intro p q related
  rw [related.1]

end SignalRelation

namespace Store

/-- Stores that differ in their signals only, which `S` relates. -/
def Alike (S : SignalRelation) (st st' : Store) : Prop :=
  ∃ signals, st' = { st with signals } ∧ S st.signals signals

def Parallel (S : SignalRelation) {α : Type u} (r r' : α × Store) : Prop :=
  r'.1 = r.1 ∧ r.2.Alike S r'.2

namespace Alike

variable {S : SignalRelation} {st st' : Store}

theorem isSet (h : st.Alike S st') {k : Nat} (agrees : S.Agrees k) : st'.isSet k = st.isSet k := by
  obtain ⟨signals, rfl, related⟩ := h
  exact (agrees _ _ related).symm

theorem change (h : st.Alike S st') (f : Store → Store)
    (apart : ∀ (st : Store) (signals : Pool Bool), f { st with signals } = { f st with signals })
    (frame : ∀ st : Store, (f st).signals = st.signals) : (f st).Alike S (f st') := by
  obtain ⟨signals, rfl, related⟩ := h
  refine ⟨signals, apart st signals, ?_⟩
  rw [frame]
  exact related

theorem of_same {keeps : Pool Bool → Prop} (h : keeps st.signals) :
    st.Alike (.same keeps) st :=
  ⟨st.signals, rfl, rfl, h⟩

theorem keeps {keeps : Pool Bool → Prop} (h : st.Alike (.same keeps) st') :
    st' = st ∧ keeps st.signals := by
  obtain ⟨signals, rfl, rfl, holds⟩ := h
  exact ⟨rfl, holds⟩

theorem setSignal (st : Store) (k : Nat) : st.Alike (.raised k) (st.setSignal k) :=
  ⟨st.signals.set k true, rfl, rfl⟩

end Alike
end Store

namespace Snapshot

theorem install_signals (s : Snapshot) (st : Store) (signals : Pool Bool) :
    s.install { st with signals } =
      ((s.install st).1, { (s.install st).2 with signals }) := by
  have same := s.install_onto st { st with signals }
  rw [s.install_frame st]
  exact same

theorem enter_signals (s : Snapshot) (c : RequestContext) (st : Store) (signals : Pool Bool) :
    s.enter c { st with signals } = { s.enter c st with signals } :=
  congrArg Prod.snd (s.install_signals { st with current := some c } signals)

theorem close_signals (scope : Scope) (st : Store) (signals : Pool Bool) :
    scope.close { st with signals } = { scope.close st with signals } := by
  have same := scope.close_onto st { st with signals }
  rw [scope.close_frame st]
  exact same

end Snapshot

namespace Store.Alike

variable {S : SignalRelation} {st st' inner inner' : Store}

theorem enter (h : st.Alike S st') (s : Snapshot) (c : RequestContext) :
    (s.enter c st).Alike S (s.enter c st') :=
  h.change (s.enter c) (s.enter_signals c) (s.signals_enter c)

theorem close (h : st.Alike S st') (scope : Scope) : (scope.close st).Alike S (scope.close st') :=
  h.change scope.close (Snapshot.close_signals scope) fun st => by rw [scope.close_frame]; rfl

theorem leave (h : st.Alike S st') (inside : inner.Alike S inner') (s : Snapshot)
    (c : RequestContext) : (s.leave c st inner).Alike S (s.leave c st' inner') := by
  obtain ⟨signals, rfl, _⟩ := h
  have scope := congrArg Prod.fst (s.install_signals { st with current := some c } signals)
  have closed := inside.close (s.install { st with current := some c }).1
  unfold Snapshot.leave
  rw [scope]
  exact closed.change (fun st'' => { st'' with current := st.current }) (fun _ _ => rfl)
    fun _ => rfl

theorem install (h : st.Alike S st') (s : Snapshot) :
    (s.install st').1 = (s.install st).1 ∧ (s.install st).2.Alike S (s.install st').2 := by
  obtain ⟨signals, rfl, related⟩ := h
  rw [s.install_signals]
  refine ⟨rfl, signals, rfl, ?_⟩
  rw [s.install_frame]
  exact related

theorem wrap {α : Type u} (h : st.Alike S st') (s : Snapshot) (work : Store → α × Store)
    (parallel : Parallel S (work (s.install st).2) (work (s.install st').2)) :
    Parallel S (s.wrap work st) (s.wrap work st') := by
  obtain ⟨same, left⟩ := parallel
  refine ⟨same, ?_⟩
  unfold Snapshot.wrap
  simp only [(h.install s).1]
  exact left.close _

theorem overlay (h : st.Alike S st') (s : Snapshot) (c : RequestContext) :
    Parallel S (s.overlay st c) (s.overlay st' c) := by
  obtain ⟨signals, rfl, related⟩ := h
  exact ⟨rfl, signals, rfl, related⟩

end Store.Alike

namespace Poll

def Parallel (S : SignalRelation) {α σ : Type} (r r' : Poll α × σ × Store) : Prop :=
  ∃ p x after after', r = (p, x, after) ∧ r' = (p, x, after') ∧ after.Alike S after'

end Poll

/-- A source respects `S` if it does the same in stores whose signals `S` relates. -/
structure Source.Respects {α : Type} (S : SignalRelation) (s : Source α) : Prop where
  poll : ∀ x st st', st.Alike S st' → Poll.Parallel S (s.poll x st) (s.poll x st')
  release : ∀ x st st', st.Alike S st' → (s.release x st).Alike S (s.release x st')

structure Stream.Respects (S : SignalRelation) (t : Stream) : Prop where
  source : t.toSource.Respects S
  burst : ∀ x st st', st.Alike S st' → t.burst x st' = t.burst x st

def Resolver.Respects (S : SignalRelation) (r : Resolver) : Prop :=
  ∀ y st st', st.Alike S st' → Poll.Parallel S (r.poll y st) (r.poll y st')

variable {S : SignalRelation} {k : Nat}

theorem Source.Respects.pollWithin {α : Type} {inner : Source α} (h : inner.Respects S)
    (s : Snapshot) (c : RequestContext) (x : inner.State) {st st' : Store} (alike : st.Alike S st') :
    Poll.Parallel S (s.pollWithin c inner x st) (s.pollWithin c inner x st') := by
  obtain ⟨p, x', after, after', one, other, left⟩ := h.poll x _ _ (alike.enter s c)
  rw [Snapshot.pollWithin_eq, Snapshot.pollWithin_eq, one, other]
  exact ⟨p, x', _, _, rfl, rfl, alike.leave left s c⟩

theorem Source.Respects.keeps {α : Type} {s : Source α} (h : s.Respects S) :
    s.Keeps (Store.Alike S) := ⟨h.poll, h.release⟩

theorem Source.Keeps.respects {α : Type} {s : Source α} (h : s.Keeps (Store.Alike S)) :
    s.Respects S := ⟨h.poll, h.release⟩

theorem Stream.Respects.keeps {t : Stream} (h : t.Respects S) : t.Keeps (Store.Alike S) :=
  ⟨h.source.keeps, h.burst⟩

theorem Stream.Keeps.respects {t : Stream} (h : t.Keeps (Store.Alike S)) : t.Respects S :=
  ⟨h.source.respects, h.burst⟩

theorem SignalRelation.Agrees.alike (agrees : S.Agrees k) : StoreRelation.Agrees (Store.Alike S) k :=
  fun _ _ alike => alike.isSet agrees

namespace Source.Respects

variable {f : Future}

theorem bind (h : f.Respects S) (agrees : S.Agrees k) : (f.bind k).Respects S :=
  (h.keeps.bind agrees.alike).respects

theorem instrumentedBy (h : f.Respects S) (s : Snapshot) (c : RequestContext) :
    (f.instrumentedBy s c).Respects S where
  poll := by
    intro x st st' alike
    exact h.pollWithin s c x alike
  release := h.release

theorem asStream (h : f.Respects S) : f.asStream.Respects S := h.keeps.asStream.respects

end Source.Respects

namespace Stream.Respects

variable {t : Stream}

theorem bind (h : t.Respects S) (agrees : S.Agrees k) : (t.bind k).Respects S :=
  (h.keeps.bind agrees.alike).respects

theorem instrumentedBy (h : t.Respects S) (s : Snapshot) (c : RequestContext) :
    (t.instrumentedBy s c).Respects S where
  source.poll := by
    intro x st st' alike
    exact h.source.pollWithin s c x alike
  source.release := h.source.release
  burst := h.burst

theorem recover {r : Resolver} (h : t.Respects S) (resolver : r.Respects S) :
    (t.recover r).Respects S := (h.keeps.recover resolver).respects

theorem collect (h : t.Respects S) : t.collect.Respects S := h.keeps.collect.respects

end Stream.Respects
end Fieldwork
