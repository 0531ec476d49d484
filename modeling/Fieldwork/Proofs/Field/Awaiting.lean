import Fieldwork.Proofs.Async.Bound
import Fieldwork.Proofs.Async.Polls
import Fieldwork.Proofs.Field.Settled

/-!
Whole runs of a single value that comes later. As long as the signal is unset a poll is a poll of
the source; the first poll that starts with the signal set gives null instead and drops the source.
-/
namespace Fieldwork

def upToDone {α : Type} : List (Poll α) → List (Poll α)
  | [] => []
  | .pending :: rest => .pending :: upToDone rest
  | p :: _ => [p]

def spent (s : Snapshot) (c : RequestContext) (starts : List Store) : List (Poll Outcome × Store) :=
  starts.map fun st => (.broken, s.leave c st (s.enter c st))

/-- A run, poll by poll, of a future that is bound to `signal` and has `s` and `c` installed in each
poll. `x` is the state of its source at the first of them. -/
inductive Awaits (f : Future) (signal : Nat) (s : Snapshot) (c : RequestContext) :
    f.State → List Store → List (Poll Outcome × Store) → Prop
  | nil : Awaits f signal s c x [] []
  | cancelled (set : Store.isSet st signal = true) :
      Awaits f signal s c x (st :: starts)
        ((.ready (.ok .null), s.leave c st (f.release x (s.enter c st))) :: spent s c starts)
  | waits (unset : Store.isSet st signal = false)
      (asked : f.poll x (s.enter c st) = (.pending, x', after))
      (rest : Awaits f signal s c x' starts given) :
      Awaits f signal s c x (st :: starts) ((.pending, s.leave c st after) :: given)
  | done (unset : Store.isSet st signal = false)
      (asked : f.poll x (s.enter c st) = (.ready o, x', after)) :
      Awaits f signal s c x (st :: starts)
        ((.ready o, s.leave c st (f.release x' after)) :: spent s c starts)
  | broken (unset : Store.isSet st signal = false)
      (asked : f.poll x (s.enter c st) = (.broken, x', after)) :
      Awaits f signal s c x (st :: starts) ((.broken, s.leave c st after) :: given)

/-- Either every poll waits and none starts with the signal set, or one poll gives an outcome; those
before it wait and those after it break. -/
def OneOutcome (signal : Nat) (starts : List Store) (given : List (Poll Outcome)) : Prop :=
  (given = List.replicate starts.length .pending ∧ ∀ st ∈ starts, st.isSet signal = false) ∨
    ∃ n o m, given = List.replicate n .pending ++ .ready o :: List.replicate m .broken

theorem OneOutcome.cons {signal : Nat} {st : Store} {starts : List Store}
    {given : List (Poll Outcome)} (unset : st.isSet signal = false)
    (h : OneOutcome signal starts given) :
    OneOutcome signal (st :: starts) (.pending :: given) := by
  rcases h with ⟨waits, alive⟩ | ⟨n, o, m, single⟩
  · exact .inl ⟨congrArg _ waits, List.forall_mem_cons.mpr ⟨unset, alive⟩⟩
  · exact .inr ⟨n + 1, o, m, congrArg _ single⟩

theorem spent_answers (s : Snapshot) (c : RequestContext) (starts : List Store) :
    (spent s c starts).map (·.1) = List.replicate starts.length .broken := by
  simp [spent, Function.comp_def, List.map_const']

namespace Awaits

variable {f : Future} {k : Nat} {s : Snapshot} {c : RequestContext} {x : f.State}
  {starts : List Store} {given : List (Poll Outcome × Store)}

theorem oneOutcome (h : Awaits f k s c x starts given)
    (whole : .broken ∉ upToDone (given.map (·.1))) :
    OneOutcome k starts (given.map (·.1)) := by
  induction h with
  | nil => exact .inl ⟨rfl, by simp⟩
  | cancelled set => exact .inr ⟨0, _, _, congrArg _ (spent_answers s c _)⟩
  | waits unset asked rest ih =>
    exact .cons unset (ih fun mem => whole (List.mem_cons_of_mem _ mem))
  | done unset asked => exact .inr ⟨0, _, _, congrArg _ (spent_answers s c _)⟩
  | broken unset asked => exact absurd List.mem_cons_self whole

theorem uncancelled (h : Awaits f k s c x starts given) (alive : ∀ st ∈ starts, st.isSet k = false) :
    upToDone (given.map (·.1)) = upToDone (f.answers x (starts.map (s.enter c))) := by
  induction h with
  | nil => rfl
  | @cancelled st starts x set => simp [alive st List.mem_cons_self] at set
  | waits unset asked rest ih =>
    have same := ih (List.forall_mem_cons.mp alive).2
    simp [Source.answers_cons, asked, upToDone, same]
  | done unset asked => simp [Source.answers_cons, asked, upToDone]
  | broken unset asked => simp [Source.answers_cons, asked, upToDone]

theorem cancels (h : Awaits f k s c x starts given) {n : Nat} {start : Store}
    (begun : starts[n]? = some start) (set : start.isSet k = true)
    (waited : ∀ e ∈ given.take n, e.1 = .pending) :
    (given.map (·.1))[n]? = some (.ready (.ok .null)) := by
  induction h generalizing n with
  | nil => simp at begun
  | cancelled _ =>
    cases n with
    | zero => rfl
    | succ n => exact absurd (waited _ List.mem_cons_self) (by simp)
  | waits unset asked rest ih =>
    cases n with
    | zero =>
      cases begun
      exact absurd (unset.symm.trans set) (by simp)
    | succ n => exact ih begun (List.forall_mem_cons.mp waited).2
  | done unset asked =>
    cases n with
    | zero =>
      cases begun
      exact absurd (unset.symm.trans set) (by simp)
    | succ n => exact absurd (waited _ List.mem_cons_self) (by simp)
  | broken unset asked =>
    cases n with
    | zero =>
      cases begun
      exact absurd (unset.symm.trans set) (by simp)
    | succ n => exact absurd (waited _ List.mem_cons_self) (by simp)

end Awaits

namespace Future

variable {f : Future} {k : Nat} {s : Snapshot} {c : RequestContext} {st : Store}
  {y : (f.awaited k s c).State} {x : f.State}

theorem awaited_poll_spent (h : y = none) :
    (f.awaited k s c).poll y st = (.broken, none, s.leave c st (s.enter c st)) := by
  subst h
  rfl

theorem awaited_poll_set (h : y = some x) (set : st.isSet k = true) :
    (f.awaited k s c).poll y st =
      (.ready (.ok .null), none, s.leave c st (f.release x (s.enter c st))) := by
  subst h
  have set' : (s.enter c st).isSet k = true := by simpa using set
  exact congrArg (fun r => (r.1, r.2.1, s.leave c st r.2.2)) (f.bind_poll_set x set')

theorem awaited_poll_unset (h : y = some x) (unset : st.isSet k = false) :
    (f.awaited k s c).poll y st =
      match f.poll x (s.enter c st) with
      | (.pending, x', after) => (.pending, some x', s.leave c st after)
      | (.ready o, x', after) => (.ready o, none, s.leave c st (f.release x' after))
      | (.broken, x', after) => (.broken, some x', s.leave c st after) := by
  subst h
  have unset' : (s.enter c st).isSet k = false := by simpa using unset
  refine (congrArg (fun r => (r.1, r.2.1, s.leave c st r.2.2))
    (f.bind_poll_unset x unset')).trans ?_
  rcases f.poll x (s.enter c st) with ⟨p, x', after⟩
  cases p <;> rfl

theorem awaited_polls_spent (starts : List Store) (h : y = none) :
    (f.awaited k s c).polls y starts = spent s c starts := by
  induction starts generalizing y with
  | nil => rfl
  | cons st starts ih =>
    rw [Source.polls_cons, awaited_poll_spent h, ih rfl]
    rfl

theorem awaited_awaits (starts : List Store) (h : y = some x) :
    Awaits f k s c x starts ((f.awaited k s c).polls y starts) := by
  induction starts generalizing y x with
  | nil => exact .nil
  | cons st starts ih =>
    rw [Source.polls_cons]
    by_cases set : st.isSet k = true
    · rw [awaited_poll_set h set, awaited_polls_spent starts rfl]
      exact .cancelled set
    · have unset : st.isSet k = false := by simpa using set
      rw [awaited_poll_unset h unset]
      rcases asked : f.poll x (s.enter c st) with ⟨p, x', after⟩
      cases p with
      | pending => exact .waits unset asked (ih rfl)
      | ready o =>
        rw [awaited_polls_spent starts rfl]
        exact .done unset asked
      | broken => exact .broken unset asked

end Future

/-- On a field that is not a subscription, a delegate's value that comes later becomes a future. In
every run of it a poll that starts with the signal of the request unset is one poll of the source
and gives what that gives, and one that starts with the signal set gives null. There is no second
outcome, and without cancellation the source gives the same at the same poll. -/
theorem await_follows_source {d : Decorator} {call : Call} {st st' : Store} {v : FieldValue}
    {f : Future} (single : d.subscription = false)
    (fetched : (call.snapshot st).wrap (d.delegate.fetch call) st = (.ok v, st'))
    (alive : st'.isCancelled call.context = false) (awaitable : d.adapters.asSingle v = .future f) :
    ∃ u : Future,
      d.fetch call st =
        (.ok (.future u), ((call.snapshot st).overlay st' call.context).2) ∧
      ∀ starts : List Store,
        let s := call.snapshot st
        let copy := ((call.snapshot st).overlay st' call.context).1
        let given := u.answers u.state starts
        Awaits f call.context.signal s copy f.state starts (u.polls u.state starts) ∧
          (.broken ∉ upToDone given → OneOutcome call.context.signal starts given) ∧
          ((∀ start ∈ starts, start.isSet call.context.signal = false) →
            upToDone given = upToDone (f.answers f.state (starts.map (s.enter copy)))) := by
  refine ⟨_, Decorator.fetch_of_asSingle single fetched alive awaitable, ?_⟩
  intro starts
  have run := Future.awaited_awaits (f := f) (k := call.context.signal) (s := call.snapshot st)
    (c := ((call.snapshot st).overlay st' call.context).1) (y := some f.state) starts rfl
  exact ⟨run, run.oneOutcome, run.uncancelled⟩

/-- A value that takes one more poll, on a request with a signal of its own. -/
theorem await_follows_source_slow :
    let slow : Future := .ofScript none [.wait 1, .emit (.literal (.int 1))]
    let d : Decorator := {
      delegate := { fetch := fun _ st => (.ok (.future slow), st) }
      subscription := false
      resolver := .unresolved
      adapters := .standard }
    let call : Call := { context := ⟨0, 0, none⟩, field := ⟨"Query", "total"⟩ }
    d.subscription = false ∧
    (call.snapshot .empty).wrap (d.delegate.fetch call) .empty = (.ok (.future slow), .empty) ∧
    Store.empty.isCancelled call.context = false ∧
    d.adapters.asSingle (.future slow) = .future slow ∧
    ∃ u : Future,
      d.fetch call .empty =
        (.ok (.future u), ((call.snapshot .empty).overlay .empty call.context).2) ∧
      ∀ starts : List Store,
        let s := call.snapshot .empty
        let copy := ((call.snapshot .empty).overlay .empty call.context).1
        let given := u.answers u.state starts
        Awaits slow 0 s copy slow.state starts (u.polls u.state starts) ∧
          (.broken ∉ upToDone given → OneOutcome 0 starts given) ∧
          ((∀ start ∈ starts, start.isSet 0 = false) →
            upToDone given = upToDone (slow.answers slow.state (starts.map (s.enter copy)))) := by
  intro slow d call
  have fetched : (call.snapshot .empty).wrap (d.delegate.fetch call) .empty =
      (.ok (.future slow), .empty) := rfl
  exact ⟨rfl, fetched, rfl, rfl, await_follows_source (d := d) rfl fetched rfl rfl⟩

end Fieldwork
