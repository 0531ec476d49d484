import Fieldwork.Async.Bound

/-!
One poll of a bound source. What it does is decided by the signal as it is when the poll starts.
-/
namespace Fieldwork

def Poll.isEnd : Poll (Option Outcome) → Bool
  | ready none => true
  | _ => false

@[simp] theorem Poll.isEnd_iff {p : Poll (Option Outcome)} : p.isEnd = true ↔ p = .ready none := by
  match p with
  | .pending => simp [isEnd]
  | .broken => simp [isEnd]
  | .ready none => simp [isEnd]
  | .ready (some o) => simp [isEnd]

theorem Future.bind_poll_set (f : Future) {k : Nat} (x : f.State) {st : Store}
    (set : st.isSet k = true) :
    (f.bind k).poll (some x) st = (.ready (.ok .null), none, f.release x st) := by
  simp [bind, set]

theorem Future.bind_poll_unset (f : Future) {k : Nat} (x : f.State) {st : Store}
    (unset : st.isSet k = false) :
    (f.bind k).poll (some x) st =
      match f.poll x st with
      | (.pending, x', after) => (.pending, some x', after)
      | (.ready o, x', after) => (.ready o, none, f.release x' after)
      | (.broken, x', after) => (.broken, some x', after) := by
  simp only [bind, unset]
  rfl

theorem Future.bind_goes_on (f : Future) {k : Nat} (x : f.State) {st : Store} {x' : f.State}
    (kept : ((f.bind k).poll (some x) st).2.1 = some x') : x' = (f.poll x st).2.1 := by
  cases set : st.isSet k with
  | true =>
    rw [f.bind_poll_set x set] at kept
    cases kept
  | false =>
    rw [f.bind_poll_unset x set] at kept
    rcases polled : f.poll x st with ⟨p, y, after⟩
    rw [polled] at kept
    cases p with
    | pending => exact (Option.some.inj kept).symm
    | ready o => cases kept
    | broken => exact (Option.some.inj kept).symm

theorem Stream.bind_poll_stops (t : Stream) {k : Nat} (y : t.State × Bool) {st : Store}
    (h : y.2 = true ∨ st.isSet k = true) :
    (t.bind k).poll y st = (.ready none, (y.1, true), st) := by
  obtain ⟨x, stopped⟩ := y
  cases stopped with
  | true => rfl
  | false => simp [bind, h.resolve_left (by simp)]

theorem Stream.bind_poll_running (t : Stream) {k : Nat} (x : t.State) {st : Store}
    (unset : st.isSet k = false) :
    (t.bind k).poll (x, false) st =
      ((t.poll x st).1, ((t.poll x st).2.1, (t.poll x st).1.isEnd), (t.poll x st).2.2) := by
  simp only [bind, unset]
  rcases t.poll x st with ⟨p, x', after⟩
  match p with
  | .pending => rfl
  | .broken => rfl
  | .ready none => rfl
  | .ready (some o) => rfl

theorem Stream.bind_poll_unset (t : Stream) {k : Nat} (x : t.State) {st : Store}
    (unset : st.isSet k = false) :
    ((t.bind k).poll (x, false) st).1 = (t.poll x st).1 ∧
      ((t.poll x st).1 = .ready none → ((t.bind k).poll (x, false) st).2.1.2 = true) ∧
      ((t.poll x st).1 ≠ .ready none →
        ((t.bind k).poll (x, false) st).2.1 = ((t.poll x st).2.1, false)) := by
  rw [t.bind_poll_running x unset]
  refine ⟨rfl, Poll.isEnd_iff.mpr, ?_⟩
  intro more
  have going : (t.poll x st).1.isEnd = false := Bool.eq_false_iff.mpr (mt Poll.isEnd_iff.mp more)
  rw [going]

end Fieldwork
