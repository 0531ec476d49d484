import Mathlib.Data.List.Forall2
import Fieldwork.Proofs.Async.Bound
import Fieldwork.Proofs.Async.Detached
import Fieldwork.Proofs.Async.Nested
import Fieldwork.Proofs.Async.Polls
import Fieldwork.Proofs.Field.Settled

/-!
A source that is bound and instrumented, or recovered as well, twice over with the same snapshot and
signal. It goes through the states of the source that is treated once, so its source is polled in
the same stores, and as often.
-/
namespace Fieldwork

variable {R : StoreRelation} {α : Type}

def Source.after (u : Source α) (x : u.State) (starts : List Store) : u.State :=
  starts.foldl (fun x st => (u.poll x st).2.1) x

namespace Source

/-- One step: from states that `φ` ties together, `u'` gives what `u` gives and goes to the state
that `φ` ties to that of `u`; the stores that are left are related. -/
structure Mirrors (R : StoreRelation) (u u' : Source α) (φ : u.State → u'.State) : Prop where
  start : u'.state = φ u.state
  poll : ∀ x st st', R st st' → ∃ p y after after', u.poll x st = (p, y, after) ∧
    u'.poll (φ x) st' = (p, φ y, after') ∧ R after after'
  release : ∀ x st st', R st st' → R (u.release x st) (u'.release (φ x) st')

def SameRuns (R : StoreRelation) (u u' : Source α) (φ : u.State → u'.State) : Prop :=
  ∀ starts starts', List.Forall₂ R starts starts' →
    List.Forall₂ (fun q q' => q'.1 = q.1 ∧ R q.2 q'.2) (u.polls u.state starts)
      (u'.polls u'.state starts') ∧
    u'.after u'.state starts' = φ (u.after u.state starts) ∧
    ∀ st st', R st st' → R (u.release (u.after u.state starts) st)
      (u'.release (u'.after u'.state starts') st')

variable {u u' : Source α} {φ : u.State → u'.State}

theorem Mirrors.run (h : u.Mirrors R u' φ) (x : u.State) {starts starts' : List Store}
    (related : List.Forall₂ R starts starts') :
    List.Forall₂ (fun q q' => q'.1 = q.1 ∧ R q.2 q'.2) (u.polls x starts)
      (u'.polls (φ x) starts') ∧ u'.after (φ x) starts' = φ (u.after x starts) := by
  induction related generalizing x with
  | nil => exact ⟨.nil, rfl⟩
  | cons first _ ih =>
    obtain ⟨p, y, after, after', one, other, left⟩ := h.poll x _ _ first
    obtain ⟨polls, rest⟩ := ih y
    refine ⟨?_, ?_⟩
    · rw [polls_cons, polls_cons, one, other]
      exact .cons ⟨rfl, left⟩ polls
    · simp only [Source.after, List.foldl_cons, one, other]
      exact rest

theorem Mirrors.sameRuns (h : u.Mirrors R u' φ) : u.SameRuns R u' φ := by
  intro starts starts' related
  obtain ⟨polls, rest⟩ := h.run u.state related
  rw [h.start]
  refine ⟨polls, rest, ?_⟩
  intro st st' related
  rw [rest]
  exact h.release _ _ _ related

end Source

structure Stream.Mirrors (R : StoreRelation) (t t' : Stream) (φ : t.State → t'.State) : Prop where
  source : Source.Mirrors R t.toSource t'.toSource φ
  hint : ∀ x st st', R st st' → t'.hint (φ x) st' = t.hint x st
  burst : ∀ x st st', R st st' → t'.burst (φ x) st' = t.burst x st

def Stream.SameRuns (R : StoreRelation) (t t' : Stream) (φ : t.State → t'.State) : Prop :=
  Source.SameRuns R t.toSource t'.toSource φ ∧
    ∀ starts starts', List.Forall₂ R starts starts' → ∀ st st', R st st' →
      t'.hint (t'.after t'.state starts') st' = t.hint (t.after t.state starts) st

theorem Stream.Mirrors.sameRuns {t t' : Stream} {φ : t.State → t'.State}
    (h : t.Mirrors R t' φ) : t.SameRuns R t' φ := by
  refine ⟨h.source.sameRuns, ?_⟩
  intro starts starts' runs st st' related
  rw [(h.source.sameRuns starts starts' runs).2.1]
  exact h.hint _ _ _ related

def StoreRelation.Kept (R : StoreRelation) (change : Store → Store) : Prop :=
  ∀ st st', R st st' → R (change st) (change st')

/-- The source with an observer: `look` is done to the store whenever a poll of the source begins. It
may count the polls, or enter somewhere what the slots and the current context hold. -/
def Source.observed (src : Source α) (look : Store → Store) : Source α where
  State := src.State
  state := src.state
  poll x st := src.poll x (look st)
  release := src.release

def Stream.observed (t : Stream) (look : Store → Store) : Stream where
  toSource := t.toSource.observed look
  hint := t.hint
  burst := t.burst

def Resolver.observed (r : Resolver) (look : Store → Store) : Resolver where
  State := r.State
  start := r.start
  poll y st := r.poll y (look st)

section Observed

variable {look : Store → Store} (kept : R.Kept look)

include kept

theorem Source.Keeps.observed {src : Source α} (h : src.Keeps R) : (src.observed look).Keeps R where
  poll x _ _ related := h.poll x _ _ (kept _ _ related)
  release := h.release

theorem Stream.Keeps.observed {t : Stream} (h : t.Keeps R) : (t.observed look).Keeps R where
  source := h.source.observed kept
  burst := h.burst

theorem Resolver.Keeps.observed {r : Resolver} (h : r.Keeps R) : (r.observed look).Keeps R :=
  fun y _ _ related => h y _ _ (kept _ _ related)

end Observed

theorem Source.Detached.observed {src : Source α} (h : src.Detached) (look : Store → Store) :
    (src.observed look).Detached where
  slots := h.slots
  current := h.current
  kept := h.kept

section Twice

variable {s : Snapshot} {k : Nat} {c c' : RequestContext} {st st' : Store}

namespace Future

theorem awaited_stops (f : Future) (s : Snapshot) (c : RequestContext) (x : f.State)
    (set : st.isSet k = true) :
    (f.awaited k s c).poll (some x) st =
      (.ready (.ok .null), none, s.leave c st (f.release x (s.enter c st))) := by
  have set' : (s.enter c st).isSet k = true := by simpa using set
  exact congrArg (fun r => (r.1, r.2.1, s.leave c st r.2.2)) (f.bind_poll_set x set')

theorem awaited_runs (f : Future) (s : Snapshot) (c : RequestContext) (x : f.State)
    (unset : st.isSet k = false) :
    (f.awaited k s c).poll (some x) st =
      match f.poll x (s.enter c st) with
      | (.pending, x', after) => (.pending, some x', s.leave c st after)
      | (.ready o, x', after) => (.ready o, none, s.leave c st (f.release x' after))
      | (.broken, x', after) => (.broken, some x', s.leave c st after) := by
  have unset' : (s.enter c st).isSet k = false := by simpa using unset
  have inner := congrArg (fun r => (r.1, r.2.1, s.leave c st r.2.2)) (f.bind_poll_unset x unset')
  rcases polled : f.poll x (s.enter c st) with ⟨p, x', after⟩
  rw [polled] at inner
  cases p <;> exact inner

theorem awaited_mirrors {f : Future} (h : f.Keeps s.UpToTraces) (detached : f.Detached) :
    Source.Mirrors s.UpToTraces (f.awaited k s c) ((f.awaited k s c).awaited k s c')
      (Option.map some) where
  start := rfl
  poll := by
    intro y st st' related
    have same : st'.isSet k = st.isSet k := Snapshot.UpToTraces.agrees s k _ _ related
    have inside : (s.enter c' st').isSet k = st.isSet k := by rw [s.isSet_enter, same]
    cases y with
    | none => exact ⟨_, none, _, _, rfl, rfl, related.leave_other c c' (related.enter_other c c')⟩
    | some x =>
      cases set : st.isSet k with
      | true =>
        have one := f.awaited_stops s c x set
        have two := (f.awaited k s c).awaited_stops s c' (some x) (same.trans set)
        have dropped := h.release x _ _ (related.enter_other c c')
        rw [detached.current] at dropped
        exact ⟨_, none, _, _, one, two, related.leave_other c c' dropped⟩
      | false =>
        obtain ⟨p, x', after, after', polled, again, left⟩ := h.poll x _ _ (related.enter c c')
        have one := f.awaited_runs s c x set
        have inner := f.awaited_runs s c x (inside.trans set)
        have two := (f.awaited k s c).awaited_runs s c' (some x) (same.trans set)
        rw [polled] at one
        rw [again] at inner
        cases p with
        | pending =>
          rw [inner] at two
          exact ⟨_, some x', _, _, one, two, related.leave c c' left⟩
        | ready o =>
          rw [inner] at two
          exact ⟨_, none, _, _, one, two, related.leave c c' (h.release x' _ _ left)⟩
        | broken =>
          rw [inner] at two
          exact ⟨_, some x', _, _, one, two, related.leave c c' left⟩
  release := by
    intro y st st' related
    cases y with
    | none => exact related
    | some x => exact h.release x _ _ related

end Future

namespace Recovery

variable {σ ρ ρ' : Type}

def Going : Recovery σ ρ → Prop
  | reading _ => True
  | resolving _ _ _ => True
  | failed => False
  | ended => False

/-- Where a stream recovered twice stands when the stream recovered once stands at `z`: the outer
recovery reads until the inner one is over, and never resolves anything itself. -/
def doubled (z : Recovery σ ρ) : Recovery (Recovery σ ρ × Bool) ρ' :=
  match z with
  | reading x => .reading (.reading x, false)
  | resolving cause x y => .reading (.resolving cause x y, false)
  | failed => .failed
  | ended => .ended

def Follows (z : Recovery σ ρ) : Poll (Option Outcome) → Prop
  | .ready none => z = ended
  | .ready (some (.error e)) => e.isPublisher = true ∧ z = failed
  | _ => z.Going

theorem Going.doubled {z : Recovery σ ρ} (h : z.Going) :
    (z.doubled : Recovery (Recovery σ ρ × Bool) ρ') = .reading (z, false) := by
  cases z with
  | reading x => rfl
  | resolving cause x y => rfl
  | failed => cases h
  | ended => cases h

end Recovery

namespace Stream

variable {t : Stream} {r r' : Resolver}

theorem resolve_follows (t : Stream) (r : Resolver) (cause : Failure) (x : t.State) (y : r.State)
    (st : Store) : (t.resolve r cause x y st).2.1.Follows (t.resolve r cause x y st).1 := by
  rcases polled : r.poll y st with ⟨p, y', after⟩
  simp only [resolve, polled]
  cases p with
  | pending => exact trivial
  | ready errors => exact ⟨rfl, rfl⟩
  | broken => exact trivial

theorem recover_follows (t : Stream) (r : Resolver) {z : Recovery t.State r.State}
    (going : z.Going) (st : Store) :
    (((t.recover r).poll z st).2.1 : Recovery t.State r.State).Follows
      ((t.recover r).poll z st).1 := by
  cases z with
  | failed => cases going
  | ended => cases going
  | resolving cause x y => exact t.resolve_follows r cause x y st
  | reading x =>
    rcases polled : t.poll x st with ⟨p, x', after⟩
    simp only [recover, polled]
    cases p with
    | pending => exact trivial
    | broken => exact trivial
    | ready o =>
      cases o with
      | none => exact rfl
      | some q =>
        cases q with
        | ok v => exact trivial
        | error e =>
          by_cases known : e.isPublisher = true
          · simp only [known]
            exact ⟨known, rfl⟩
          · simp only [known]
            exact t.resolve_follows r e x' _ after

theorem installed_stops (v : Stream) (s : Snapshot) (c : RequestContext) (y : v.State × Bool)
    (h : y.2 = true ∨ st.isSet k = true) :
    ((v.bind k).instrumentedBy s c).poll y st =
      (.ready none, (y.1, true), s.leave c st (s.enter c st)) := by
  have h' : y.2 = true ∨ (s.enter c st).isSet k = true := by simpa using h
  exact congrArg (fun q => (q.1, q.2.1, s.leave c st q.2.2)) (v.bind_poll_stops y h')

theorem installed_runs (v : Stream) (s : Snapshot) (c : RequestContext) (x : v.State)
    (unset : st.isSet k = false) :
    ((v.bind k).instrumentedBy s c).poll (x, false) st =
      match v.poll x (s.enter c st) with
      | (.ready none, x', after) => (.ready none, (x', true), s.leave c st after)
      | (p, x', after) => (p, (x', false), s.leave c st after) := by
  have unset' : (s.enter c st).isSet k = false := by simpa using unset
  have inner : (v.bind k).poll (x, false) (s.enter c st) =
      match v.poll x (s.enter c st) with
      | (.ready none, x', after) => (.ready none, (x', true), after)
      | (p, x', after) => (p, (x', false), after) := by
    simp only [bind, unset']
    rfl
  have outer := congrArg (fun q => (q.1, q.2.1, s.leave c st q.2.2)) inner
  rcases polled : v.poll x (s.enter c st) with ⟨p, x', after⟩
  rw [polled] at outer
  match p with
  | .pending => exact outer
  | .broken => exact outer
  | .ready none => exact outer
  | .ready (some o) => exact outer

/-- While the inner stream goes on, the outer recovery reads from it. -/
theorem recover_reads (v : Stream) (r : Resolver) (x : v.State) (st : Store) :
    (v.recover r).poll (.reading x) st =
      match v.poll x st with
      | (.pending, x', after) => (.pending, .reading x', after)
      | (.broken, x', after) => (.broken, .reading x', after)
      | (.ready none, x', after) => (.ready none, .ended, v.release x' after)
      | (.ready (some (.ok o)), x', after) => (.ready (some (.ok o)), .reading x', after)
      | (.ready (some (.error e)), x', after) =>
        if e.isPublisher then (.ready (some (.error e)), .failed, v.release x' after)
        else v.resolve r e x' (r.start e) after := rfl

theorem subscribed_poll_going (h : t.Keeps s.UpToTraces) (resolver : r.Keeps s.UpToTraces)
    {z : Recovery t.State r.State} (going : z.Going) (related : s.UpToTraces st st')
    (unset : st.isSet k = false) :
    ∃ p y after after', (t.subscribed r k s c).poll (z, false) st = (p, y, after) ∧
      ((t.subscribed r k s c).subscribed r' k s c').poll (z.doubled, false) st' =
        (p, (y.1.doubled, y.2), after') ∧ s.UpToTraces after after' := by
  have same : st'.isSet k = st.isSet k := Snapshot.UpToTraces.agrees s k _ _ related
  have inside : (s.enter c' st').isSet k = st.isSet k := by rw [s.isSet_enter, same]
  -- One poll of the recovered source decides both sides.
  obtain ⟨p, z', after, after', polled, again, left⟩ :=
    (h.recover resolver).source.poll z _ _ (related.enter c c')
  have follows := t.recover_follows r going (s.enter c st)
  have one := (t.recover r).installed_runs s c z unset
  have inner := (t.recover r).installed_runs s c z (inside.trans unset)
  have outer := (t.subscribed r k s c).recover_reads r' (z, false) (s.enter c' st')
  have two := ((t.subscribed r k s c).recover r').installed_runs s c'
    (.reading (z, false)) (same.trans unset)
  have out := related.leave c c' left
  rw [polled] at one follows
  rw [again] at inner
  change (t.subscribed r k s c).poll (z, false) (s.enter c' st') = _ at inner
  rw [inner] at outer
  rw [outer] at two
  rw [going.doubled]
  match p, follows with
  | .pending, going' =>
    refine ⟨_, (z', false), _, _, one, ?_, out⟩
    rw [Recovery.Going.doubled going']
    exact two
  | .broken, going' =>
    refine ⟨_, (z', false), _, _, one, ?_, out⟩
    rw [Recovery.Going.doubled going']
    exact two
  | .ready (some (.ok v)), going' =>
    refine ⟨_, (z', false), _, _, one, ?_, out⟩
    rw [Recovery.Going.doubled going']
    exact two
  | .ready (some (.error e)), ⟨known, stopped⟩ =>
    -- The failure is a publisher's already, so the outer recovery lets it through and stops.
    subst stopped
    simp only [known] at two
    exact ⟨_, (.failed, false), _, _, one, two, out⟩
  | .ready none, stopped =>
    subst stopped
    exact ⟨_, (.ended, true), _, _, one, two, out⟩

theorem subscribed_mirrors (h : t.Keeps s.UpToTraces) (resolver : r.Keeps s.UpToTraces) :
    (t.subscribed r k s c).Mirrors s.UpToTraces ((t.subscribed r k s c).subscribed r' k s c')
      (fun y => (y.1.doubled, y.2)) where
  source.start := rfl
  source.poll := by
    intro y st st' related
    obtain ⟨z, stopped⟩ := y
    have same : st'.isSet k = st.isSet k := Snapshot.UpToTraces.agrees s k _ _ related
    have beside := related.leave_other c c' (related.enter_other c c')
    by_cases stops : stopped = true ∨ st.isSet k = true
    · have stops' : stopped = true ∨ st'.isSet k = true := same ▸ stops
      have one := (t.recover r).installed_stops s c (z, stopped) stops
      have two := ((t.subscribed r k s c).recover r').installed_stops s c'
        (z.doubled, stopped) stops'
      exact ⟨_, (z, true), _, _, one, two, beside⟩
    · obtain ⟨live, unset⟩ := not_or.mp stops
      have unset : st.isSet k = false := by simpa using unset
      have unset' : st'.isSet k = false := same.trans unset
      have live : stopped = false := by simpa using live
      subst live
      cases z with
      | reading x => exact subscribed_poll_going h resolver trivial related unset
      | resolving cause x y => exact subscribed_poll_going h resolver trivial related unset
      | failed =>
        have one := (t.recover r).installed_runs s c .failed unset
        have two := ((t.subscribed r k s c).recover r').installed_runs s c'
          .failed unset'
        exact ⟨_, (.ended, true), _, _, one, two, beside⟩
      | ended =>
        have one := (t.recover r).installed_runs s c .ended unset
        have two := ((t.subscribed r k s c).recover r').installed_runs s c'
          .ended unset'
        exact ⟨_, (.ended, false), _, _, one, two, beside⟩
  source.release := by
    intro y st st' related
    obtain ⟨z, stopped⟩ := y
    have left := (h.recover resolver).source.release z _ _ related
    cases z with
    | reading x => exact left
    | resolving cause x y => exact left
    | failed => exact left
    | ended => exact left
  hint := by
    intro y st st' _
    obtain ⟨z, stopped⟩ := y
    cases stopped <;> rfl
  burst := by
    intro y st st' related
    obtain ⟨z, stopped⟩ := y
    have same := (h.recover resolver).burst z _ _ related
    cases z with
    | reading x => exact same
    | resolving cause x y => rfl
    | failed => rfl
    | ended => rfl

end Stream
end Twice
end Fieldwork
