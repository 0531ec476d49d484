import Fieldwork.Async.Converted
import Fieldwork.Async.Scripted

/-!
Reading a stream up to its next stop: polls one after the other, each in the store that the one
before has left, until an answer is no value. A stream whose runs of values are finite comes to a
stop from wherever it stands, and a poll of its collection is one such reading.
-/
namespace Fieldwork

def Poll.Stops (p : Poll (Option Outcome)) : Prop := ∀ v, p ≠ .ready (some (.ok v))

def Poll.collected (items : List Json.Value) : Poll (Option Outcome) → Poll Outcome
  | pending => .pending
  | ready none => .ready (.ok (.array items))
  | ready (some o) => .ready o
  | broken => .broken

inductive Stream.Drains (t : Stream) : t.State → Store → List Json.Value → Poll (Option Outcome) →
    t.State → Store → Prop
  | stop (asked : t.poll x st = (p, y, after)) (stops : p.Stops) : Drains t x st [] p y after
  | value (asked : t.poll x st = (.ready (some (.ok v)), x', mid))
      (rest : Drains t x' mid more p y after) : Drains t x st (v :: more) p y after

theorem Script.advance_shortens (call : Option Call) (s : Script) (st : Store) :
    (Script.advance call s st).1 = .waiting ∨ (Script.advance call s st).1 = .ended ∨
      (Script.advance call s st).2.1.length < s.length := by
  induction s generalizing st with
  | nil => exact .inr (.inl rfl)
  | cons m rest ih =>
    have passed : ∀ st, (Script.advance call rest st).1 = .waiting ∨
        (Script.advance call rest st).1 = .ended ∨
          (Script.advance call rest st).2.1.length < (m :: rest).length :=
      fun st => (ih st).imp_right (.imp_right Nat.lt_succ_of_lt)
    match m with
    | .act a => exact passed _
    | .wait 0 => exact passed st
    | .wait (n + 1) => exact .inl rfl
    | .forever => exact .inl rfl
    | .gate name =>
      unfold Script.advance
      split
      · exact passed st
      · exact .inl rfl
    | .emit e => exact .inr (.inr (Nat.lt_succ_self _))
    | .fail f => exact .inr (.inr (Nat.lt_succ_self _))
    | .crash => exact .inr (.inr (Nat.lt_succ_self _))

namespace Stream

variable {t : Stream} {x x' : t.State} {st after : Store} {items more : List Json.Value}
  {p : Poll (Option Outcome)}

theorem Drains.stops (h : t.Drains x st more p x' after) : p.Stops := by
  induction h with
  | stop asked stops => exact stops
  | value asked rest ih => exact ih

theorem Drains.length_le (h : t.Drains x st more p x' after) (bursts : t.Bursts) :
    more.length ≤ t.burst x st := by
  induction h with
  | stop asked stops => exact Nat.zero_le _
  | value asked rest ih =>
    have shorter := bursts _ _ _ _ _ asked
    simp only [List.length_cons]
    omega

theorem Bursts.drains (bursts : t.Bursts) (x : t.State) (st : Store) :
    ∃ more p x' after, t.Drains x st more p x' after := by
  -- The burst left is what every value makes smaller.
  induction left : t.burst x st using Nat.strongRecOn generalizing x st with
  | _ n ih =>
    rcases asked : t.poll x st with ⟨p, x', mid⟩
    by_cases value : ∃ v, p = .ready (some (.ok v))
    · obtain ⟨v, rfl⟩ := value
      have shorter := bursts _ _ _ _ _ asked
      obtain ⟨more, p, y, after, rest⟩ := ih _ (left ▸ shorter) x' mid rfl
      exact ⟨v :: more, p, y, after, .value asked rest⟩
    · exact ⟨[], p, x', mid, .stop asked (not_exists.mp value)⟩

theorem Drains.gather (h : t.Drains x st more p x' after) {fuel : Nat}
    (enough : more.length < fuel) (items : List Json.Value) :
    t.gather fuel x items st = (p.collected (items ++ more), x', items ++ more, after) := by
  induction h generalizing fuel items with
  | @stop x st p x' after asked stops =>
    cases fuel with
    | zero => exact absurd enough (Nat.not_lt_zero _)
    | succ fuel =>
      simp only [Stream.gather, asked, List.append_nil]
      match p, stops with
      | .pending, _ => rfl
      | .broken, _ => rfl
      | .ready none, _ => rfl
      | .ready (some (.error e)), _ => rfl
      | .ready (some (.ok v)), stops => exact absurd rfl (stops v)
  | @value x st x' mid v more p y after asked rest ih =>
    cases fuel with
    | zero => exact absurd enough (Nat.not_lt_zero _)
    | succ fuel =>
      have enough' : more.length < fuel := by
        simp only [List.length_cons] at enough
        omega
      simp only [Stream.gather, asked, ih enough' (items ++ [v]), List.append_assoc,
        List.singleton_append]

theorem Drains.collect_poll (h : t.Drains x st more p x' after) (bursts : t.Bursts)
    (items : List Json.Value) :
    t.collect.poll (some (x, items)) st =
      match p.collected (items ++ more) with
      | .pending => (.pending, some (x', items ++ more), after)
      | .ready o => (.ready o, none, t.release x' after)
      | .broken => (.broken, some (x', items ++ more), after) := by
  have enough : more.length < t.burst x st + 1 := Nat.lt_succ_of_le (h.length_le bursts)
  simp only [collect, h.gather enough items]
  cases p.collected (items ++ more) <;> rfl

theorem ofScript_bursts (call : Option Call) (s : Script) : (ofScript call s).Bursts := by
  intro x st o x' st' asked
  have shortens := Script.advance_shortens call x st
  simp only [ofScript] at asked
  rcases ran : Script.advance call x st with ⟨halt, rest, left⟩
  rw [ran] at asked shortens
  cases halt with
  | waiting => cases asked
  | ended => cases asked
  | crashed => cases asked
  | emitted v =>
    cases asked
    exact (shortens.resolve_left Halt.noConfusion).resolve_left Halt.noConfusion
  | failed e =>
    cases asked
    exact (shortens.resolve_left Halt.noConfusion).resolve_left Halt.noConfusion

end Stream
end Fieldwork
