import Fieldwork.Proofs.Async.Sources
import Fieldwork.Proofs.Field.Holding

/-!
Field values, adapters and fetchers in stores that differ in their signals only. A decorated fetcher
of code that respects a relation between signals respects it, if the signal of the request is the
same on both sides; a context that is handed down counts with its entries only.
-/
namespace Fieldwork

variable {S : SignalRelation} {st st' : Store}

namespace FieldValue

def Respects (S : SignalRelation) : FieldValue → Prop
  | value _ => True
  | result data _ _ => data.Respects S
  | future f => Source.Respects S f
  | stream t => t.Respects S
  | foreign _ => True

theorem respects_iff {v : FieldValue} :
    v.Respects S ↔ v.Holds (Source.Respects S) (Stream.Respects S) := by
  induction v with
  | result data errors handed ih => exact ih
  | value v => exact Iff.rfl
  | future f => exact Iff.rfl
  | stream t => exact Iff.rfl
  | foreign x => exact Iff.rfl

theorem Respects.drops {v : FieldValue} (h : v.Respects S) : v.Drops (Store.Alike S) := by
  induction v with
  | result data errors handed ih => exact ih h
  | value v => exact trivial
  | future f => exact Source.Respects.release h
  | stream t => exact h.source.release
  | foreign x => exact trivial

theorem Respects.drop {v : FieldValue} (h : v.Respects S) (alike : st.Alike S st') :
    (v.drop st).Alike S (v.drop st') :=
  h.drops.drop (fun id _ _ alike => (Store.Alike.unseen S).closeReceiver alike id) alike

end FieldValue

def Adapted.Respects (S : SignalRelation) : Adapted → Prop
  | single f => Source.Respects S f
  | stream t => t.Respects S

namespace Adapters

def Respects (S : SignalRelation) (as : Adapters) : Prop :=
  ∀ a ∈ as, ∀ x y, a x = some y → y.Respects S

variable {as : Adapters}

theorem respects_iff : as.Respects S ↔ as.Hold (Source.Respects S) (Stream.Respects S) := by
  have same : ∀ y : Adapted, y.Respects S ↔ y.Holds (Source.Respects S) (Stream.Respects S) := by
    intro y
    cases y <;> exact Iff.rfl
  simp only [Respects, Hold, same]

theorem Respects.asSingle (h : as.Respects S) {v : FieldValue} (respects : v.Respects S) :
    match as.asSingle v with
    | .future f => Source.Respects S f
    | .passthrough v => v.Respects S := by
  have sorted := (respects_iff.mp h).asSingle (fun _ => Stream.Respects.collect)
    (FieldValue.respects_iff.mp respects)
  cases single : as.asSingle v with
  | future f =>
    rw [single] at sorted
    exact sorted
  | passthrough w =>
    rw [single] at sorted
    exact FieldValue.respects_iff.mpr sorted

theorem Respects.asStream (h : as.Respects S) {v : FieldValue} (respects : v.Respects S)
    {t : Stream} (streamable : as.asStream v = .ok t) : t.Respects S := by
  have sorted := (respects_iff.mp h).asStream (fun _ => Source.Respects.asStream)
    (FieldValue.respects_iff.mp respects)
  rw [streamable] at sorted
  exact sorted

end Adapters

structure Fetcher.Respects (S : SignalRelation) (f : Fetcher) : Prop where
  value : ∀ call st v, (f.fetch call st).1 = .ok v → v.Respects S
  fetch : ∀ call st st', st.Alike S st' → Store.Parallel S (f.fetch call st) (f.fetch call st')

structure Decorator.Respects (S : SignalRelation) (d : Decorator) : Prop where
  delegate : d.delegate.Respects S
  resolver : d.resolver.Respects S
  adapters : d.adapters.Respects S

theorem Store.Alike.snapshot (alike : st.Alike S st') (call : Call) :
    call.snapshot st' = call.snapshot st := by
  obtain ⟨signals, rfl, _⟩ := alike
  rfl

namespace Decorator.Respects

variable {d : Decorator} {call : Call} {s : Snapshot}

theorem settle_value (h : d.Respects S) (agrees : S.Agrees call.context.signal) {v w : FieldValue}
    (respects : v.Respects S) (settled : (d.settle s call v st).1 = .ok w) : w.Respects S := by
  have ways := d.settled s call v st
  generalize d.settle s call v st = r at settled ways
  cases ways with
  | absent absent => exact Except.ok.inj settled ▸ respects
  | cancelled set => exact Except.ok.inj settled ▸ trivial
  | unstreamable h => cases settled
  | stream streamable =>
    have source := h.adapters.asStream respects streamable
    exact Except.ok.inj settled ▸ ((source.recover h.resolver).bind agrees).instrumentedBy s _
  | passthrough plain =>
    have same := h.adapters.asSingle respects
    rw [plain] at same
    exact Except.ok.inj settled ▸ same
  | future awaitable =>
    have source := h.adapters.asSingle respects
    rw [awaitable] at source
    exact Except.ok.inj settled ▸ (source.bind agrees).instrumentedBy s _

theorem settleResult (agrees : S.Agrees call.context.signal) {r : Except Failure FieldValue}
    (respects : ∀ v, r = .ok v → v.Respects S) (alike : st.Alike S st') :
    Store.Parallel S (d.settleResult s call r st) (d.settleResult s call r st') := by
  have ambient : StoreRelation.Ambient (Store.Alike S) s call.context :=
    ⟨agrees.alike, fun _ _ alike => alike.overlay s call.context,
      fun id _ _ alike => (Store.Alike.unseen S).closeReceiver alike id⟩
  exact settleResult_matched ambient (fun v given => (respects v given).drops) alike

theorem value (h : d.Respects S) (agrees : S.Agrees call.context.signal) {w : FieldValue}
    (fetched : (d.fetch call st).1 = .ok w) : w.Respects S := by
  have delegated := h.delegate.value call ((call.snapshot st).install st).2
  rcases settleResult_eq_ok fetched with
    ⟨data, errors, handed, w', answered, settled, rfl⟩ | ⟨v, answered, _, settled⟩
  · have inner : data.Respects S := delegated (.result data errors handed) answered
    exact h.settle_value (w := w') agrees inner settled
  · exact h.settle_value agrees (delegated v answered) settled

theorem fetch (h : d.Respects S) (agrees : S.Agrees call.context.signal)
    (alike : st.Alike S st') : Store.Parallel S (d.fetch call st) (d.fetch call st') := by
  have delegated := h.delegate.fetch call _ _ (alike.install (call.snapshot st)).2
  obtain ⟨same, left⟩ := alike.wrap (call.snapshot st) (d.delegate.fetch call) delegated
  simp only [Decorator.fetch, alike.snapshot call, same]
  exact settleResult agrees (h.delegate.value call _) left

end Decorator.Respects
end Fieldwork
