import Fieldwork.Proofs.Async.Related
import Fieldwork.Proofs.Field.Settled

/-!
What holds of the futures and streams of which a field value is made, and of those that adapters
make. If reading a future as a stream and collecting a stream keep it up, it holds of all that a
value is sorted into.

A value is settled in the same way in two stores that a relation ties together, if dropping it keeps
the relation and the signal of the request is the same.
-/
namespace Fieldwork

variable {P : Future → Prop} {Q : Stream → Prop}

def FieldValue.Holds (P : Future → Prop) (Q : Stream → Prop) : FieldValue → Prop
  | value _ => True
  | result data _ _ => data.Holds P Q
  | future f => P f
  | stream t => Q t
  | foreign _ => True

def Adapted.Holds (P : Future → Prop) (Q : Stream → Prop) : Adapted → Prop
  | single f => P f
  | stream t => Q t

namespace Adapters

def Hold (P : Future → Prop) (Q : Stream → Prop) (as : Adapters) : Prop :=
  ∀ a ∈ as, ∀ x y, a x = some y → y.Holds P Q

variable {as : Adapters} {v : FieldValue}

theorem Hold.adapt (h : as.Hold P Q) {x : Foreign} {y : Adapted} (adapted : as.adapt x = some y) :
    y.Holds P Q := by
  obtain ⟨a, mem, takes⟩ := List.exists_of_findSome?_eq_some adapted
  exact h a mem x y takes

theorem Hold.classify (h : as.Hold P Q) (holds : v.Holds P Q) :
    match as.classify v with
    | .single f => P f
    | .stream t => Q t
    | .passthrough v => v.Holds P Q := by
  cases v with
  | value v => exact trivial
  | result data errors handed => exact holds
  | future f => exact holds
  | stream t => exact holds
  | foreign x =>
    simp only [Adapters.classify]
    cases adapted : as.adapt x with
    | none => exact trivial
    | some y => cases y <;> exact h.adapt adapted

theorem Hold.asSingle (h : as.Hold P Q) (collect : ∀ t, Q t → P t.collect) (holds : v.Holds P Q) :
    match as.asSingle v with
    | .future f => P f
    | .passthrough v => v.Holds P Q := by
  have sorted := h.classify holds
  simp only [Adapters.asSingle]
  cases classified : as.classify v with
  | single f => simpa only [classified] using sorted
  | stream t =>
    simp only [classified] at sorted
    exact collect t sorted
  | passthrough v => simpa only [classified] using sorted

theorem Hold.asStream (h : as.Hold P Q) (read : ∀ f, P f → Q f.asStream) (holds : v.Holds P Q) :
    match as.asStream v with
    | .ok t => Q t
    | .error v => v.Holds P Q := by
  have sorted := h.classify holds
  simp only [Adapters.asStream]
  cases classified : as.classify v with
  | single f =>
    simp only [classified] at sorted
    exact read f sorted
  | stream t => simpa only [classified] using sorted
  | passthrough v => simpa only [classified] using sorted

theorem typed_holds (kind : ForeignKind) {adapt : Foreign → Adapted}
    (h : ∀ x, (adapt x).Holds P Q) (x : Foreign) (y : Adapted)
    (adapted : Adapter.typed kind adapt x = some y) : y.Holds P Q := by
  unfold Adapter.typed at adapted
  split at adapted
  · exact Option.some.inj adapted ▸ h x
  · cases adapted

theorem standard_hold (ready : ∀ o, P (.ready o)) (task : ∀ id, P (.ofTask id))
    (first : ∀ id closed, P (.ofChannel id closed)) (list : ∀ items, Q (.ofList items))
    (channel : ∀ id, Q (.ofChannel id)) : standard.Hold P Q := by
  have single : ∀ x, (once x).Holds P Q := by
    intro x
    cases x with
    | receiver kind id => exact first id _
    | other type content => exact ready _
    | task id => exact ready _
  have many : ∀ x, (queue x).Holds P Q := by
    intro x
    cases x with
    | receiver kind id => exact channel id
    | other type content => exact list _
    | task id => exact list _
  have running : ∀ x, (Adapters.task x).Holds P Q := by
    intro x
    cases x with
    | task id => exact task id
    | receiver kind id => exact ready _
    | other type content => exact ready _
  intro a mem
  simp only [standard, List.mem_cons, List.not_mem_nil, or_false] at mem
  rcases mem with rfl | rfl | rfl | rfl | rfl | rfl
  · exact typed_holds _ single
  · exact typed_holds _ single
  · exact typed_holds _ running
  · exact typed_holds _ many
  · exact typed_holds _ many
  · exact typed_holds _ many

theorem asSingle_passthrough {w : FieldValue} (h : as.asSingle v = .passthrough w) :
    w = v ∧ v.isFuture = false ∧ v.isStream = false := by
  cases v with
  | future f => simp [asSingle, classify] at h
  | stream t => simp [asSingle, classify] at h
  | value v => simp_all [asSingle, classify, FieldValue.isFuture, FieldValue.isStream]
  | result data errors handed =>
    simp_all [asSingle, classify, FieldValue.isFuture, FieldValue.isStream]
  | foreign x =>
    simp only [asSingle, classify] at h
    cases adapted : as.adapt x with
    | none => simp_all [FieldValue.isFuture, FieldValue.isStream]
    | some y => cases y <;> simp [adapted, Classified.ofAdapted] at h

theorem asStream_error {w : FieldValue} (h : as.asStream v = .error w) : w = v := by
  cases v with
  | future f => simp [asStream, classify] at h
  | stream t => simp [asStream, classify] at h
  | value v => simp_all [asStream, classify]
  | result data errors handed => simp_all [asStream, classify]
  | foreign x =>
    simp only [asStream, classify] at h
    cases adapted : as.adapt x with
    | none => simp_all
    | some y => cases y <;> simp [adapted, Classified.ofAdapted] at h

end Adapters

variable {R : StoreRelation} {st st' : Store}

def StoreRelation.Matched (R : StoreRelation) {β : Type u} (r r' : β × Store) : Prop :=
  r'.1 = r.1 ∧ R r.2 r'.2

def Source.Drops (R : StoreRelation) {α : Type} (src : Source α) : Prop :=
  ∀ x st st', R st st' → R (src.release x st) (src.release x st')

def FieldValue.Drops (R : StoreRelation) (v : FieldValue) : Prop :=
  v.Holds (Source.Drops R) fun t => t.toSource.Drops R

/-- The relation is kept by what decorators do to the store. -/
structure StoreRelation.Ambient (R : StoreRelation) (s : Snapshot) (c : RequestContext) : Prop where
  agrees : R.Agrees c.signal
  overlay : ∀ st st', R st st' → R.Matched (s.overlay st c) (s.overlay st' c)
  close : ∀ id st st', R st st' → R (st.closeReceiver id) (st'.closeReceiver id)

theorem FieldValue.Drops.drop {v : FieldValue} (h : v.Drops R)
    (close : ∀ id st st', R st st' → R (st.closeReceiver id) (st'.closeReceiver id))
    (related : R st st') : R (v.drop st) (v.drop st') := by
  induction v with
  | value v => exact related
  | result data errors handed ih => exact ih h
  | future f => exact h f.state _ _ related
  | stream t => exact h t.state _ _ related
  | foreign x =>
    cases x with
    | receiver kind channel => exact close channel _ _ related
    | other type content => exact related
    | task id => exact related

namespace Decorator

variable {d : Decorator} {s : Snapshot} {call : Call} (ambient : R.Ambient s call.context)

include ambient

theorem settle_matched {v : FieldValue} (drops : v.Drops R) (related : R st st') :
    R.Matched (d.settle s call v st) (d.settle s call v st') := by
  have same : st'.isCancelled call.context = st.isCancelled call.context :=
    ambient.agrees _ _ related
  have dropped := drops.drop ambient.close related
  obtain ⟨copied, left⟩ := ambient.overlay _ _ related
  simp only [settle, same]
  by_cases absent : v.isAbsent = true
  · simp only [absent]
    exact ⟨rfl, related⟩
  by_cases cancelled : st.isCancelled call.context = true
  · simp only [absent, cancelled]
    exact ⟨rfl, dropped⟩
  by_cases subscription : d.subscription = true
  · simp only [absent, cancelled, subscription, settleStream]
    cases streamable : d.adapters.asStream v with
    | error w =>
      rw [← Adapters.asStream_error streamable] at dropped
      exact ⟨rfl, dropped⟩
    | ok t =>
      simp only [subscribe, Stream.instrument, copied]
      exact ⟨rfl, left⟩
  · simp only [absent, cancelled, subscription, settleSingle]
    cases d.adapters.asSingle v with
    | passthrough w => exact ⟨rfl, related⟩
    | future f =>
      simp only [await, Future.instrument, copied]
      exact ⟨rfl, left⟩

theorem settleResult_matched {r : Except Failure FieldValue} (drops : ∀ v, r = .ok v → v.Drops R)
    (related : R st st') : R.Matched (d.settleResult s call r st) (d.settleResult s call r st') := by
  match r, drops with
  | .error e, _ => exact ⟨rfl, related⟩
  | .ok (.result data errors handed), drops =>
    have inner : data.Drops R := drops (.result data errors handed) rfl
    obtain ⟨same, left⟩ := settle_matched (d := d) ambient inner related
    exact ⟨congrArg (Except.map fun data => FieldValue.result data errors handed) same, left⟩
  | .ok (.value v), drops => exact settle_matched ambient (drops _ rfl) related
  | .ok (.future f), drops => exact settle_matched ambient (drops _ rfl) related
  | .ok (.stream t), drops => exact settle_matched ambient (drops _ rfl) related
  | .ok (.foreign x), drops => exact settle_matched ambient (drops _ rfl) related

end Decorator
end Fieldwork
