import Fieldwork.Async.Bound
import Fieldwork.Async.Converted
import Fieldwork.Async.Recovered

/-!
Two runs of the same code in stores that a relation ties together. Code keeps a relation if stores
that it relates are taken to stores that it relates, with the same answer. Binding, recovering and
converting keep it up; only the signal that a source is bound to must be the same on both sides.
-/
namespace Fieldwork

abbrev StoreRelation := Store → Store → Prop

def StoreRelation.Agrees (R : StoreRelation) (k : Nat) : Prop :=
  ∀ st st', R st st' → st'.isSet k = st.isSet k

def Poll.Matched (R : StoreRelation) {α σ : Type} (r r' : Poll α × σ × Store) : Prop :=
  ∃ p x after after', r = (p, x, after) ∧ r' = (p, x, after') ∧ R after after'

structure Source.Keeps {α : Type} (R : StoreRelation) (s : Source α) : Prop where
  poll : ∀ x st st', R st st' → Poll.Matched R (s.poll x st) (s.poll x st')
  release : ∀ x st st', R st st' → R (s.release x st) (s.release x st')

structure Stream.Keeps (R : StoreRelation) (t : Stream) : Prop where
  source : t.toSource.Keeps R
  burst : ∀ x st st', R st st' → t.burst x st' = t.burst x st

def Resolver.Keeps (R : StoreRelation) (r : Resolver) : Prop :=
  ∀ y st st', R st st' → Poll.Matched R (r.poll y st) (r.poll y st')

variable {R : StoreRelation} {k : Nat}

namespace Source.Keeps

variable {f : Future}

theorem bind (h : f.Keeps R) (agrees : R.Agrees k) : (f.bind k).Keeps R where
  poll := by
    intro y st st' related
    cases y with
    | none => exact ⟨.broken, none, st, st', rfl, rfl, related⟩
    | some x =>
      have same := agrees st st' related
      simp only [Future.bind, same]
      by_cases set : st.isSet k = true
      · simp only [set]
        exact ⟨_, _, _, _, rfl, rfl, h.release x _ _ related⟩
      · obtain ⟨p, x', after, after', one, other, left⟩ := h.poll x _ _ related
        simp only [set, one, other]
        cases p with
        | pending => exact ⟨_, _, _, _, rfl, rfl, left⟩
        | ready o => exact ⟨_, _, _, _, rfl, rfl, h.release x' _ _ left⟩
        | broken => exact ⟨_, _, _, _, rfl, rfl, left⟩
  release := by
    intro y st st' related
    cases y with
    | none => exact related
    | some x => exact h.release x _ _ related

theorem asStream (h : f.Keeps R) : f.asStream.Keeps R where
  source.poll := by
    intro y st st' related
    cases y with
    | none => exact ⟨_, _, _, _, rfl, rfl, related⟩
    | some x =>
      obtain ⟨p, x', after, after', one, other, left⟩ := h.poll x _ _ related
      have released := h.release x' _ _ left
      simp only [Future.asStream, one, other]
      match p with
      | .pending => exact ⟨_, _, _, _, rfl, rfl, left⟩
      | .broken => exact ⟨_, _, _, _, rfl, rfl, left⟩
      | .ready (.error e) => exact ⟨_, _, _, _, rfl, rfl, released⟩
      | .ready (.ok v) => cases v <;> exact ⟨_, _, _, _, rfl, rfl, released⟩
  source.release := by
    intro y st st' related
    cases y with
    | none => exact related
    | some x => exact h.release x _ _ related
  burst := by
    intro y st st' related
    cases y <;> rfl

end Source.Keeps

namespace Stream.Keeps

variable {t : Stream}

theorem bind (h : t.Keeps R) (agrees : R.Agrees k) : (t.bind k).Keeps R where
  source.poll := by
    intro y st st' related
    obtain ⟨x, stopped⟩ := y
    cases stopped with
    | true => exact ⟨_, _, _, _, rfl, rfl, related⟩
    | false =>
      have same := agrees st st' related
      simp only [Stream.bind, same]
      by_cases set : st.isSet k = true
      · simp only [set]
        exact ⟨_, _, _, _, rfl, rfl, related⟩
      · obtain ⟨p, x', after, after', one, other, left⟩ := h.source.poll x _ _ related
        simp only [set, one, other]
        match p with
        | .pending => exact ⟨_, _, _, _, rfl, rfl, left⟩
        | .broken => exact ⟨_, _, _, _, rfl, rfl, left⟩
        | .ready none => exact ⟨_, _, _, _, rfl, rfl, left⟩
        | .ready (some o) => exact ⟨_, _, _, _, rfl, rfl, left⟩
  source.release := fun y => h.source.release y.1
  burst := fun y => h.burst y.1

theorem resolve {r : Resolver} (h : t.Keeps R) (resolver : r.Keeps R) (e : Failure)
    (x : t.State) (y : r.State) {st st' : Store} (related : R st st') :
    Poll.Matched R (t.resolve r e x y st) (t.resolve r e x y st') := by
  obtain ⟨p, y', after, after', one, other, left⟩ := resolver y _ _ related
  simp only [Stream.resolve, one, other]
  cases p with
  | pending => exact ⟨_, _, _, _, rfl, rfl, left⟩
  | ready errors => exact ⟨_, _, _, _, rfl, rfl, h.source.release x _ _ left⟩
  | broken => exact ⟨_, _, _, _, rfl, rfl, left⟩

theorem recover {r : Resolver} (h : t.Keeps R) (resolver : r.Keeps R) :
    (t.recover r).Keeps R where
  source.poll := by
    intro z st st' related
    cases z with
    | ended => exact ⟨_, _, _, _, rfl, rfl, related⟩
    | failed => exact ⟨_, _, _, _, rfl, rfl, related⟩
    | resolving e x y => exact h.resolve resolver e x y related
    | reading x =>
      obtain ⟨p, x', after, after', one, other, left⟩ := h.source.poll x _ _ related
      have released := h.source.release x' _ _ left
      simp only [Stream.recover, one, other]
      match p with
      | .pending => exact ⟨_, _, _, _, rfl, rfl, left⟩
      | .broken => exact ⟨_, _, _, _, rfl, rfl, left⟩
      | .ready none => exact ⟨_, _, _, _, rfl, rfl, released⟩
      | .ready (some (.ok v)) => exact ⟨_, _, _, _, rfl, rfl, left⟩
      | .ready (some (.error e)) =>
        by_cases known : e.isPublisher = true
        · simp only [known]
          exact ⟨_, _, _, _, rfl, rfl, released⟩
        · simp only [known]
          exact h.resolve resolver e x' _ left
  source.release := by
    intro z st st' related
    cases z with
    | reading x => exact h.source.release x _ _ related
    | resolving e x y => exact h.source.release x _ _ related
    | failed => exact related
    | ended => exact related
  burst := by
    intro z st st' related
    cases z with
    | reading x => exact h.burst x _ _ related
    | resolving e x y => rfl
    | failed => rfl
    | ended => rfl

theorem gather (h : t.Keeps R) (fuel : Nat) (x : t.State) (items : List Json.Value)
    {st st' : Store} (related : R st st') :
    ∃ p x' items' after after', t.gather fuel x items st = (p, x', items', after) ∧
      t.gather fuel x items st' = (p, x', items', after') ∧ R after after' := by
  induction fuel generalizing x items st st' with
  | zero => exact ⟨_, _, _, _, _, rfl, rfl, related⟩
  | succ fuel ih =>
    obtain ⟨p, x', after, after', one, other, left⟩ := h.source.poll x _ _ related
    simp only [Stream.gather, one, other]
    match p with
    | .pending => exact ⟨_, _, _, _, _, rfl, rfl, left⟩
    | .broken => exact ⟨_, _, _, _, _, rfl, rfl, left⟩
    | .ready none => exact ⟨_, _, _, _, _, rfl, rfl, left⟩
    | .ready (some (.error e)) => exact ⟨_, _, _, _, _, rfl, rfl, left⟩
    | .ready (some (.ok v)) => exact ih x' _ left

theorem collect (h : t.Keeps R) : t.collect.Keeps R where
  poll := by
    intro y st st' related
    cases y with
    | none => exact ⟨_, _, _, _, rfl, rfl, related⟩
    | some y =>
      obtain ⟨x, items⟩ := y
      obtain ⟨p, x', items', after, after', one, other, left⟩ :=
        h.gather (t.burst x st + 1) x items related
      simp only [Stream.collect, h.burst x _ _ related, one, other]
      cases p with
      | pending => exact ⟨_, _, _, _, rfl, rfl, left⟩
      | ready o => exact ⟨_, _, _, _, rfl, rfl, h.source.release x' _ _ left⟩
      | broken => exact ⟨_, _, _, _, rfl, rfl, left⟩
  release := by
    intro y st st' related
    cases y with
    | none => exact related
    | some y => exact h.source.release y.1 _ _ related

end Stream.Keeps
end Fieldwork
