import Fieldwork.Proofs.Field.InFlight
import Fieldwork.Proofs.Field.Taken

/-!
What a decorated fetch comes to. The delegate is called at one point of it, and all else follows
from what it gives and leaves: null is given as it is, also on a cancelled request; on a cancelled
request everything else makes way for the error of the cancel; and on one that is not cancelled what
the adapters take for asynchronous is bound and given unpolled.

The outcome for the data of a structured result takes the place of the data. The error of a cancel
is therefore one of the result's own errors only if the delegate's value was not structured.
-/
namespace Fieldwork

theorem FieldValue.isAbsent_iff {v : FieldValue} : v.isAbsent = true ↔ v = .null := by
  cases v with
  | value v => cases v <;> simp [isAbsent, null]
  | result data errors handed => simp [isAbsent, null]
  | future f => simp [isAbsent, null]
  | stream t => simp [isAbsent, null]
  | foreign x => simp [isAbsent, null]

theorem FieldValue.structured_or_plain (v : FieldValue) :
    (∃ data errors handed, v = .result data errors handed) ∨
      (v.isResult = false ∧ v.content = v) := by
  cases v with
  | result data errors handed => exact .inl ⟨data, errors, handed, rfl⟩
  | value v => exact .inr ⟨rfl, rfl⟩
  | future f => exact .inr ⟨rfl, rfl⟩
  | stream t => exact .inr ⟨rfl, rfl⟩
  | foreign x => exact .inr ⟨rfl, rfl⟩

def FieldValue.withContent (v u : FieldValue) : FieldValue :=
  match v with
  | result _ errors handed => result u errors handed
  | _ => u

theorem FieldValue.withContent_plain {u v : FieldValue} (plain : v.isResult = false) :
    v.withContent u = u := by
  cases v with
  | result data errors handed => cases plain
  | value v => rfl
  | future f => rfl
  | stream t => rfl
  | foreign x => rfl

inductive FieldValue.Comes : FieldValue → Prop
  | future (f : Future) : Comes (.future f)
  | stream (t : Stream) : Comes (.stream t)

namespace Decorator

/-- The outcome for a value, or for the data of a structured one, and the store that it leaves.
`cancelled` says whether the request has been cancelled when the delegate is done, and `st` is what
it has left outside. -/
inductive Outcome (d : Decorator) (s : Snapshot) (call : Call) (cancelled : Bool) (st : Store) :
    FieldValue → Except Failure FieldValue × Store → Prop
  | null : Outcome d s call cancelled st .null (.ok .null, st)
  | cancelled (present : v ≠ .null) (set : cancelled = true) :
      Outcome d s call cancelled st v
        (.ok (.result .null [.cancelledByClient] none), v.drop st)
  | stream (unset : cancelled = false) (subscription : d.subscription = true)
      (taken : d.adapters.Takes v y) :
      Outcome d s call cancelled st v
        (.ok (.stream (y.overTime.subscribed d.resolver call.context.signal s
          (s.overlay st call.context).1)), (s.overlay st call.context).2)
  | unstreamable (present : v ≠ .null) (unset : cancelled = false)
      (subscription : d.subscription = true) (refused : ∀ y, ¬ d.adapters.Takes v y) :
      Outcome d s call cancelled st v (.error (.notStreamable call.field), v.drop st)
  | future (unset : cancelled = false) (single : d.subscription = false)
      (taken : d.adapters.Takes v y) :
      Outcome d s call cancelled st v
        (.ok (.future (y.atLast.awaited call.context.signal s (s.overlay st call.context).1)),
          (s.overlay st call.context).2)
  | untouched (present : v ≠ .null) (unset : cancelled = false) (single : d.subscription = false)
      (refused : ∀ y, ¬ d.adapters.Takes v y) :
      Outcome d s call cancelled st v (.ok v, st)

/-- What the fetch for `st` gives and leaves when the delegate has given and left `given`. -/
inductive Answers (d : Decorator) (call : Call) (st : Store) :
    Except Failure FieldValue × Store → Except Failure FieldValue × Store → Prop
  | failed : Answers d call st (.error e, after) (.error e, call.outside st after)
  | plain (unstructured : v.isResult = false)
      (outcome : d.Outcome (call.snapshot st) call (after.isCancelled call.context)
        (call.outside st after) v r) :
      Answers d call st (.ok v, after) r
  | structured
      (outcome : d.Outcome (call.snapshot st) call (after.isCancelled call.context)
        (call.outside st after) data (r, left)) :
      Answers d call st (.ok (.result data errors handed), after)
        (r.map fun data => .result data errors handed, left)

variable {d : Decorator} {s : Snapshot} {call : Call} {cancelled : Bool} {st : Store}
  {v : FieldValue} {r : Except Failure FieldValue × Store}

theorem Outcome.settle_eq (h : d.Outcome s call cancelled st v r)
    (looked : st.isCancelled call.context = cancelled) : d.settle s call v st = r := by
  cases h with
  | null => rfl
  | cancelled present set =>
    have present : ¬ v.isAbsent = true := mt FieldValue.isAbsent_iff.mp present
    simp only [settle, present, looked, set]
    rfl
  | stream unset subscription taken =>
    exact (settle_of_asStream subscription (looked.trans unset)
      (Adapters.asStream_of_takes taken)).2
  | unstreamable present unset subscription refused =>
    have present : ¬ v.isAbsent = true := mt FieldValue.isAbsent_iff.mp present
    simp only [settle, present, looked, unset, subscription, settleStream,
      Adapters.asStream_of_not_takes refused]
    rfl
  | future unset single taken =>
    exact (settle_of_asSingle single (looked.trans unset) (Adapters.asSingle_of_takes taken)).2
  | untouched present unset single refused =>
    have present : ¬ v.isAbsent = true := mt FieldValue.isAbsent_iff.mp present
    simp only [settle, present, looked, unset, single, settleSingle,
      Adapters.asSingle_of_not_takes refused]
    rfl

theorem outcome_exists (d : Decorator) (s : Snapshot) (call : Call) (cancelled : Bool) (st : Store)
    (v : FieldValue) : ∃ r, d.Outcome s call cancelled st v r := by
  by_cases present : v = .null
  · subst present
    exact ⟨_, .null⟩
  cases set : cancelled with
  | true => exact ⟨_, .cancelled present rfl⟩
  | false =>
    by_cases taken : ∃ y, d.adapters.Takes v y
    · obtain ⟨y, taken⟩ := taken
      cases subscription : d.subscription with
      | true => exact ⟨_, .stream rfl subscription taken⟩
      | false => exact ⟨_, .future rfl subscription taken⟩
    · have refused : ∀ y, ¬ d.adapters.Takes v y := not_exists.mp taken
      cases subscription : d.subscription with
      | true => exact ⟨_, .unstreamable present rfl subscription refused⟩
      | false => exact ⟨_, .untouched present rfl subscription refused⟩

theorem settle_eq_iff (looked : st.isCancelled call.context = cancelled) :
    d.settle s call v st = r ↔ d.Outcome s call cancelled st v r := by
  constructor
  · intro settled
    obtain ⟨r', outcome⟩ := d.outcome_exists s call cancelled st v
    rw [← settled, outcome.settle_eq looked]
    exact outcome
  · intro outcome
    exact outcome.settle_eq looked

theorem settleResult_eq_iff {given : Except Failure FieldValue × Store} :
    d.settleResult (call.snapshot st) call given.1 (call.outside st given.2) = r ↔
      d.Answers call st given r := by
  obtain ⟨q, after⟩ := given
  have looked : (call.outside st after).isCancelled call.context =
      after.isCancelled call.context := call.isSet_outside st after _
  constructor
  · rintro rfl
    cases q with
    | error e => exact .failed
    | ok v =>
      rcases v.structured_or_plain with ⟨data, errors, handed, rfl⟩ | ⟨unstructured, _⟩
      · exact .structured ((settle_eq_iff looked).mp rfl)
      · rw [settleResult_plain unstructured]
        exact .plain unstructured ((settle_eq_iff looked).mp rfl)
  · intro answers
    cases answers with
    | failed => rfl
    | plain unstructured outcome =>
      rw [settleResult_plain unstructured]
      exact outcome.settle_eq looked
    | structured outcome =>
      simp only [settleResult, outcome.settle_eq looked]

theorem fetch_of_answers {after : Store}
    (fetched : d.delegate.fetch call (call.inside st) = (.ok v, after))
    (answers : d.Answers call st (.ok v, after) r) : d.fetch call st = r := by
  rw [d.fetch_eq rfl, fetched]
  exact settleResult_eq_iff.mpr answers

theorem fetch_of_content {after left : Store} {u : FieldValue}
    (fetched : d.delegate.fetch call (call.inside st) = (.ok v, after))
    (outcome : d.Outcome (call.snapshot st) call (after.isCancelled call.context)
      (call.outside st after) v.content (.ok u, left)) :
    d.fetch call st = (.ok (v.withContent u), left) := by
  rcases v.structured_or_plain with ⟨data, errors, handed, rfl⟩ | ⟨unstructured, plain⟩
  · exact fetch_of_answers fetched (.structured outcome)
  · rw [plain] at outcome
    rw [FieldValue.withContent_plain unstructured]
    exact fetch_of_answers fetched (.plain unstructured outcome)

theorem Outcome.content_eq {w : FieldValue} {left : Store}
    (h : d.Outcome s call cancelled st v (.ok w, left)) (unstructured : v.isResult = false)
    (comes : w.content.Comes) : w.content = w := by
  cases h with
  | null => rfl
  | cancelled => cases comes
  | stream => rfl
  | future => rfl
  | untouched =>
    rcases v.structured_or_plain with ⟨data, errors, handed, rfl⟩ | ⟨_, plain⟩
    · cases unstructured
    · exact plain

theorem fetch_outcome {w : FieldValue} (fetched : (d.fetch call st).1 = .ok w)
    (comes : w.content.Comes) :
    ∃ v after, d.delegate.fetch call (call.inside st) = (.ok v, after) ∧
      d.Outcome (call.snapshot st) call (after.isCancelled call.context) (call.outside st after)
        v.content (.ok w.content, (d.fetch call st).2) := by
  have answers : d.Answers call st (d.delegate.fetch call (call.inside st)) (d.fetch call st) :=
    settleResult_eq_iff.mp (d.fetch_eq rfl).symm
  generalize d.delegate.fetch call (call.inside st) = given at answers ⊢
  rcases answered : d.fetch call st with ⟨r, left⟩
  rw [answered] at answers fetched
  cases answers with
  | failed => cases fetched
  | @plain after v _ unstructured outcome =>
    cases fetched
    rcases v.structured_or_plain with ⟨data, errors, handed, rfl⟩ | ⟨_, plain⟩
    · cases unstructured
    · rw [← plain] at outcome
      rw [outcome.content_eq (plain.symm ▸ unstructured) comes]
      exact ⟨v, after, rfl, outcome⟩
  | structured outcome =>
    obtain ⟨data, rfl, rfl⟩ := exceptMap_eq_ok fetched
    exact ⟨_, _, rfl, outcome⟩

end Decorator

/-- A decorated fetch calls its delegate once, inside of the snapshot, whether or not the request is
cancelled: what it gives and leaves is determined by what the delegate gives and leaves there. -/
theorem fetch_answers (d : Decorator) (call : Call) (st : Store) :
    ∃ finish : Except Failure FieldValue × Store → Except Failure FieldValue × Store,
      (∀ delegate : Fetcher, { d with delegate }.fetch call st =
        finish (delegate.fetch call (call.inside st))) ∧
      ∀ given r, finish given = r ↔ d.Answers call st given r := by
  refine ⟨fun given => d.settleResult (call.snapshot st) call given.1 (call.outside st given.2),
    ?_, ?_⟩
  · intro delegate
    exact { d with delegate }.fetch_eq rfl
  · intro given r
    exact Decorator.settleResult_eq_iff

/-- The value is a result without data, and `e` is one of its own errors. -/
def FieldValue.Reports (e : Response.Error) (v : FieldValue) : Prop :=
  ∃ errors handed, v = .result .null errors handed ∧ e ∈ errors

/-- On a request that is cancelled when the delegate is done, a field with data gets the error of the
cancel for it. Only where the delegate's value is not structured is that an error of the field's own
value; otherwise the result keeps the delegate's errors, and the error stands inside of its data. -/
theorem cancelled_reports_iff {d : Decorator} {call : Call} {st after : Store} {v : FieldValue}
    (fetched : d.delegate.fetch call (call.inside st) = (.ok v, after))
    (set : after.isCancelled call.context = true) (present : v.content ≠ .null) :
    ∃ w, (d.fetch call st).1 = .ok w ∧
      (v.isResult = false → w = .cancelled) ∧
      (∀ data errors handed, v = .result data errors handed →
        w = .result .cancelled errors handed) ∧
      (w.Reports .cancelledByClient ↔ v.isResult = false) := by
  refine ⟨v.withContent .cancelled, ?_, FieldValue.withContent_plain, ?_, ?_⟩
  · rw [Decorator.fetch_of_content fetched (.cancelled present set)]
    rfl
  · rintro data errors handed rfl
    rfl
  · rcases v.structured_or_plain with ⟨data, errors, handed, rfl⟩ | ⟨unstructured, _⟩
    · constructor
      · rintro ⟨_, _, same, _⟩
        cases same
      · intro unstructured
        cases unstructured
    · rw [FieldValue.withContent_plain unstructured]
      exact ⟨fun _ => unstructured, fun _ => ⟨_, _, rfl, List.mem_singleton_self _⟩⟩

/-- A result with an error of its own. -/
theorem cancelled_reports_iff_late :
    let late : Response.Error := .build "late" [] none none
    let v : FieldValue := .result (.value (.int 1)) [late] (some (.text "below"))
    let d : Decorator := {
      delegate := { fetch := fun _ st => (.ok v, st) }
      subscription := false
      resolver := .unresolved
      adapters := .standard }
    let call : Call := { context := ⟨0, 0, none⟩, field := ⟨"Query", "total"⟩ }
    let st := Store.empty.setSignal 0
    d.delegate.fetch call (call.inside st) = (.ok v, st) ∧
    st.isCancelled call.context = true ∧ v.content ≠ .null ∧
    ∃ w, (d.fetch call st).1 = .ok w ∧
      (v.isResult = false → w = .cancelled) ∧
      (∀ data errors handed, v = .result data errors handed →
        w = .result .cancelled errors handed) ∧
      (w.Reports .cancelledByClient ↔ v.isResult = false) := by
  intro late v d call st
  have fetched : d.delegate.fetch call (call.inside st) = (.ok v, st) := rfl
  have present : v.content ≠ .null := by
    intro absent
    cases absent
  exact ⟨fetched, rfl, present, cancelled_reports_iff (d := d) fetched rfl present⟩

/-- Not every field with data of a cancelled request reports the cancel by itself. -/
theorem structured_result_hides_cancel :
    let late : Response.Error := .build "late" [] none none
    let v : FieldValue := .result (.value (.int 1)) [late] (some (.text "below"))
    let d : Decorator := {
      delegate := { fetch := fun _ st => (.ok v, st) }
      subscription := false
      resolver := .unresolved
      adapters := .standard }
    let call : Call := { context := ⟨0, 0, none⟩, field := ⟨"Query", "total"⟩ }
    let st := Store.empty.setSignal 0
    st.isCancelled call.context = true ∧
      (d.delegate.fetch call (call.inside st)).1 = .ok v ∧ v.content ≠ .null ∧
      ¬ ∃ w, (d.fetch call st).1 = .ok w ∧ w.Reports .cancelledByClient := by
  intro late v d call st
  refine ⟨rfl, rfl, ?_, ?_⟩
  · intro absent
    cases absent
  · rintro ⟨w, given, errors, handed, rfl, mem⟩
    have nested : (d.fetch call st).1 = .ok (.result .cancelled [late] (some (.text "below"))) := rfl
    rw [nested] at given
    cases given

end Fieldwork
