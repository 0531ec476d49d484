import Fieldwork.Proofs.Async.Scripts

/-!
Relations between stores that differ in their signals and their logs only. No source that the
library knows looks at these, so all of them keep such a relation; a script does if setting a signal
on both sides keeps it.
-/
namespace Fieldwork

/-- Related stores differ in what sources write and never read. What they do read can be changed on
both sides, and so can the log. -/
structure StoreRelation.Unseen (R : StoreRelation) : Prop where
  apart : ∀ st st', R st st' → ∃ signals log, st' = { st with signals, log }
  change : ∀ st st', R st st' → ∀ slots bags tasks channels,
    R { st with slots, bags, tasks, channels } { st' with slots, bags, tasks, channels }
  note : ∀ st st', R st st' → ∀ v, R (st.note v) (st'.note v)

mutual

theorem Expr.eval_unseen (call : Option Call) (st : Store) (signals : Pool Bool)
    (log : List Json.Value) (e : Expr) : e.eval call { st with signals, log } = e.eval call st := by
  cases e with
  | array items => simp only [Expr.eval, Expr.evalItems_unseen call st signals log items]
  | object members => simp only [Expr.eval, Expr.evalMembers_unseen call st signals log members]
  | literal v => simp only [Expr.eval]
  | slot i => simp only [Expr.eval]
  | current key => simp only [Expr.eval, Store.entry?]
  | request key => simp only [Expr.eval, Store.entry?]
  | argument name => simp only [Expr.eval]
  | source => simp only [Expr.eval]
  | field => simp only [Expr.eval]
  | path => simp only [Expr.eval]
  | handed => simp only [Expr.eval]

theorem Expr.evalItems_unseen (call : Option Call) (st : Store) (signals : Pool Bool)
    (log : List Json.Value) (es : List Expr) :
    Expr.evalItems call { st with signals, log } es = Expr.evalItems call st es := by
  cases es with
  | nil => simp only [Expr.evalItems]
  | cons e es =>
    simp only [Expr.evalItems, Expr.eval_unseen call st signals log e,
      Expr.evalItems_unseen call st signals log es]

theorem Expr.evalMembers_unseen (call : Option Call) (st : Store) (signals : Pool Bool)
    (log : List Json.Value) (ms : List (String × Expr)) :
    Expr.evalMembers call { st with signals, log } ms = Expr.evalMembers call st ms := by
  cases ms with
  | nil => simp only [Expr.evalMembers]
  | cons m ms =>
    obtain ⟨k, e⟩ := m
    simp only [Expr.evalMembers, Expr.eval_unseen call st signals log e,
      Expr.evalMembers_unseen call st signals log ms]

end

namespace StoreRelation

def Sets (R : StoreRelation) : Prop :=
  ∀ st st', R st st' → ∀ k, R (st.setSignal k) (st'.setSignal k)

namespace Unseen

variable {R : StoreRelation} {st st' : Store}

theorem eval (h : R.Unseen) (related : R st st') (call : Option Call) (e : Expr) :
    e.eval call st' = e.eval call st := by
  obtain ⟨signals, log, rfl⟩ := h.apart _ _ related
  exact e.eval_unseen call st signals log

theorem cancelNamed (h : R.Unseen) (sets : R.Sets) (related : R st st') (name : String) :
    R (st.cancelNamed name) (st'.cancelNamed name) := by
  have names : st'.names = st.names := by
    obtain ⟨signals, log, rfl⟩ := h.apart _ _ related
    rfl
  unfold Store.cancelNamed
  rw [names]
  cases st.names.context name with
  | some c => exact sets _ _ related c.signal
  | none =>
    cases st.names.signal name with
    | some k => exact sets _ _ related k
    | none => exact related

theorem setChannel (h : R.Unseen) (related : R st st') (id : Nat) (c : Channel) :
    R (st.setChannel id c) (st'.setChannel id c) := by
  obtain ⟨signals, log, rfl⟩ := h.apart _ _ related
  exact h.change _ _ related st.slots st.bags st.tasks (st.channels.set id c)

theorem send (h : R.Unseen) (related : R st st') (channel : String) (o : Outcome) :
    R (st.send channel o).2 (st'.send channel o).2 := by
  have same : st'.names = st.names ∧ st'.channels = st.channels := by
    obtain ⟨signals, log, rfl⟩ := h.apart _ _ related
    exact ⟨rfl, rfl⟩
  unfold Store.send
  rw [same.1]
  cases st.names.channel channel with
  | none => exact related
  | some id =>
    simp only [same.2]
    exact h.setChannel related id _

theorem putEntry (h : R.Unseen) (related : R st st') (c : RequestContext) (key : String)
    (v : Json.Value) : R (st.putEntry c key v) (st'.putEntry c key v) := by
  obtain ⟨signals, log, rfl⟩ := h.apart _ _ related
  exact h.change _ _ related st.slots (st.putEntry c key v).bags st.tasks st.channels

theorem setSlot (h : R.Unseen) (related : R st st') (i : Nat) (v : Option Json.Value) :
    R (st.setSlot i v) (st'.setSlot i v) := by
  obtain ⟨signals, log, rfl⟩ := h.apart _ _ related
  exact h.change _ _ related (st.setSlot i v).slots st.bags st.tasks st.channels

theorem perform (h : R.Unseen) (sets : R.Sets) (call : Option Call) (a : Action) :
    a.Keeps R call := by
  intro st st' related
  have current : st'.current = st.current := by
    obtain ⟨signals, log, rfl⟩ := h.apart _ _ related
    rfl
  cases a with
  | note e =>
    simp only [Action.perform, h.eval related]
    exact h.note _ _ related _
  | setSlot i e =>
    simp only [Action.perform, h.eval related]
    exact h.setSlot related i _
  | resetSlot i => exact h.setSlot related i none
  | setRequest key e =>
    simp only [Action.perform, h.eval related]
    cases call with
    | none => exact related
    | some c => exact h.putEntry related c.context key _
  | setCurrent key e =>
    simp only [Action.perform, h.eval related, current]
    cases st.current with
    | none => exact related
    | some c => exact h.putEntry related c key _
  | cancelRequest =>
    cases call with
    | none => exact related
    | some c => exact sets _ _ related c.context.signal
  | cancelNamed name => exact h.cancelNamed sets related name
  | cancelCurrent =>
    simp only [Action.perform, current]
    cases st.current with
    | none => exact related
    | some c => exact sets _ _ related c.signal
  | send channel e =>
    simp only [Action.perform, h.eval related]
    exact h.send related channel _

theorem script (h : R.Unseen) (sets : R.Sets) (call : Option Call) (s : Script) :
    s.Keeps R call := by
  intro m _
  cases m with
  | act a => exact h.perform sets call a
  | gate name =>
    intro st st' related
    obtain ⟨signals, log, rfl⟩ := h.apart _ _ related
    rfl
  | emit e => exact fun _ _ related => h.eval related call e
  | wait n => exact trivial
  | forever => exact trivial
  | fail f => exact trivial
  | crash => exact trivial

theorem receive (h : R.Unseen) (related : R st st') (id : Nat) :
    (st'.receive id).1 = (st.receive id).1 ∧ R (st.receive id).2 (st'.receive id).2 := by
  have channels : st'.channels = st.channels := by
    obtain ⟨signals, log, rfl⟩ := h.apart _ _ related
    rfl
  unfold Store.receive
  rw [channels]
  exact ⟨rfl, h.setChannel related id _⟩

theorem closeReceiver (h : R.Unseen) (related : R st st') (id : Nat) :
    R (st.closeReceiver id) (st'.closeReceiver id) := by
  have channels : st'.channels = st.channels := by
    obtain ⟨signals, log, rfl⟩ := h.apart _ _ related
    rfl
  simp only [Store.closeReceiver, Store.changeChannel, channels]
  exact h.setChannel related id _

end Unseen
end StoreRelation

variable {R : StoreRelation}

namespace Future

theorem ready_keeps (R : StoreRelation) (o : Outcome) : Source.Keeps R (ready o) where
  poll _ _ _ related := ⟨_, _, _, _, rfl, rfl, related⟩
  release _ _ _ related := related

theorem ofTask_keeps (h : R.Unseen) (id : Nat) : Source.Keeps R (ofTask id) where
  poll := by
    intro x st st' related
    have tasks : st'.tasks = st.tasks := by
      obtain ⟨signals, log, rfl⟩ := h.apart _ _ related
      rfl
    simp only [ofTask, tasks]
    cases (st.tasks.cell id).status <;> exact ⟨_, _, _, _, rfl, rfl, related⟩
  release := by
    intro x st st' related
    obtain ⟨signals, log, rfl⟩ := h.apart _ _ related
    have stopped := fun tasks => h.change _ _ related st.slots st.bags tasks st.channels
    simp only [ofTask, Task.abort]
    cases (st.tasks.cell id).status with
    | running => exact stopped _
    | finished o => exact related
    | crashed => exact related
    | aborted => exact related

theorem ofChannel_keeps (h : R.Unseen) (id : Nat) (closed : Outcome) :
    Source.Keeps R (ofChannel id closed) where
  poll := by
    intro x st st' related
    obtain ⟨same, left⟩ := h.receive related id
    simp only [ofChannel, same]
    cases (st.receive id).1 <;> exact ⟨_, _, _, _, rfl, rfl, left⟩
  release _ _ _ related := h.closeReceiver related id

end Future

namespace Stream

theorem ofList_keeps (R : StoreRelation) (items : List Json.Value) : (ofList items).Keeps R where
  source.poll := by
    intro rest st st' related
    cases rest <;> exact ⟨_, _, _, _, rfl, rfl, related⟩
  source.release _ _ _ related := related
  burst _ _ _ _ := rfl

theorem ofChannel_keeps (h : R.Unseen) (id : Nat) : (ofChannel id).Keeps R where
  source.poll := by
    intro x st st' related
    obtain ⟨same, left⟩ := h.receive related id
    simp only [ofChannel, same]
    cases (st.receive id).1 <;> exact ⟨_, _, _, _, rfl, rfl, left⟩
  source.release _ _ _ related := h.closeReceiver related id
  burst := by
    intro x st st' related
    obtain ⟨signals, log, rfl⟩ := h.apart _ _ related
    rfl

end Stream

namespace Resolver

theorem unresolved_keeps (R : StoreRelation) : unresolved.Keeps R :=
  fun _ _ _ related => ⟨_, _, _, _, rfl, rfl, related⟩

variable {r s : Resolver} {st st' : Store}

theorem Keeps.secondPoll (second : s.Keeps R) (y : s.State) (related : R st st') :
    Poll.Matched R (r.secondPoll s y st) (r.secondPoll s y st') := by
  obtain ⟨p, y', after, after', one, other, left⟩ := second y _ _ related
  simp only [Resolver.secondPoll, one, other]
  exact ⟨_, _, _, _, rfl, rfl, left⟩

theorem Keeps.orElse (first : r.Keeps R) (second : s.Keeps R) : (r.orElse s).Keeps R := by
  intro turn st st' related
  cases turn with
  | second y => exact second.secondPoll y related
  | first f x =>
    obtain ⟨p, x', after, after', one, other, left⟩ := first x _ _ related
    simp only [Resolver.orElse, one, other]
    match p with
    | .ready [] => exact second.secondPoll (s.start f) left
    | .ready (e :: es) => exact ⟨_, _, _, _, rfl, rfl, left⟩
    | .pending => exact ⟨_, _, _, _, rfl, rfl, left⟩
    | .broken => exact ⟨_, _, _, _, rfl, rfl, left⟩

theorem composite_keeps {rs : List Resolver} (h : ∀ r ∈ rs, r.Keeps R) : (composite rs).Keeps R := by
  induction rs with
  | nil => exact unresolved_keeps R
  | cons r rs ih =>
    have rest := ih fun r' mem => h r' (List.mem_cons_of_mem r mem)
    exact (h r List.mem_cons_self).orElse rest

end Resolver
end Fieldwork
