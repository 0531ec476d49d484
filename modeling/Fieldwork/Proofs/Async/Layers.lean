import Fieldwork.Proofs.Async.Bound
import Fieldwork.Proofs.Async.Related
import Fieldwork.Proofs.Async.Within

/-!
Streams in layers: instrumented and bound, in any order and any number of times. Between the polls of
a run other code works on the store. Each layer hands its polls on to the stream below, so in a run of
the whole the stream below has a run of its own: an instrumented stream gives in it what the one below
gives, and a bound one does so until it stops.
-/
namespace Fieldwork

/-- A run of a source: what it gives in its polls, each with the store in which the poll starts, and
where it stands in the end. `others` relates stores between which other code may work. -/
inductive Source.Runs {α : Type} (s : Source α) (others : StoreRelation) :
    s.State → Store → List (Store × Poll α) → s.State → Store → Prop
  | stay : Runs s others x st [] x st
  | poll (asked : s.poll x st = (p, y, mid)) (rest : Runs s others y mid seen z after) :
      Runs s others x st ((st, p) :: seen) z after
  | other (change : others st mid) (rest : Runs s others x mid seen z after) :
      Runs s others x st seen z after

namespace StoreRelation

structure Allows (others : StoreRelation) : Prop where
  enter : ∀ (s : Snapshot) (c : RequestContext) (st : Store), others st (s.enter c st)
  leave : ∀ (s : Snapshot) (c : RequestContext) (st inner : Store), others inner (s.leave c st inner)
  set : ∀ (st : Store) (k : Nat), others st (st.setSignal k)

def any : StoreRelation := fun _ _ => True

theorem any_allows : any.Allows := ⟨fun _ _ _ => trivial, fun _ _ _ _ => trivial, fun _ _ => trivial⟩

end StoreRelation

inductive Layer
  | installed (s : Snapshot) (c : RequestContext)
  | bound (signal : Nat)

namespace Layer

def around (t : Stream) : Layer → Stream
  | installed s c => t.instrumentedBy s c
  | bound k => t.bind k

def signal? : Layer → Option Nat
  | installed _ _ => none
  | bound k => some k

def signals (layers : List Layer) : List Nat := layers.filterMap signal?

end Layer

def Stream.layered (t : Stream) (layers : List Layer) : Stream :=
  layers.foldr (fun l u => l.around u) t

def Poll.isItem : Poll (Option Outcome) → Bool
  | ready (some _) => true
  | _ => false

abbrev Seen := List (Store × Poll (Option Outcome))

namespace Seen

def items (seen : Seen) : Nat := seen.countP fun e => e.2.isItem

def Ended (seen : Seen) : Prop := ∃ e ∈ seen, e.2 = .ready none

def Uncut (signals : List Nat) (seen : Seen) : Prop :=
  ∀ e ∈ seen, ∀ k ∈ signals, e.1.isSet k = false

variable {st : Store} {p : Poll (Option Outcome)} {seen : Seen} {ks : List Nat}

@[simp] theorem items_nil : items [] = 0 := rfl

@[simp] theorem items_cons : items ((st, p) :: seen) = items seen + p.isItem.toNat := by
  cases h : p.isItem <;> simp [items, h]

@[simp] theorem not_ended_nil : ¬ Ended [] := by
  rintro ⟨e, mem, -⟩
  cases mem

@[simp] theorem ended_cons : Ended ((st, p) :: seen) ↔ p = .ready none ∨ Ended seen := by
  simp [Ended]

theorem uncut_cons :
    Uncut ks ((st, p) :: seen) ↔ (∀ k ∈ ks, st.isSet k = false) ∧ Uncut ks seen :=
  List.forall_mem_cons

theorem uncut_nil (ks : List Nat) : Uncut ks [] := by
  rintro e ⟨⟩

theorem uncut_none (seen : Seen) : Uncut [] seen := by
  rintro e - k ⟨⟩

theorem Uncut.mono {ks' : List Nat} (h : Uncut ks seen) (sub : ∀ k ∈ ks', k ∈ ks) :
    Uncut ks' seen :=
  fun e mem k within => h e mem k (sub k within)

def within (s : Snapshot) (c : RequestContext) (seen : Seen) : Seen :=
  seen.map fun e => (s.enter c e.1, e.2)

@[simp] theorem items_within (s : Snapshot) (c : RequestContext) (seen : Seen) :
    items (within s c seen) = items seen := by
  simp only [items, within, List.countP_map]
  rfl

@[simp] theorem ended_within (s : Snapshot) (c : RequestContext) (seen : Seen) :
    Ended (within s c seen) ↔ Ended seen := by
  constructor
  · rintro ⟨_, mem, ended⟩
    obtain ⟨e, polled, rfl⟩ := List.mem_map.mp mem
    exact ⟨e, polled, ended⟩
  · rintro ⟨e, mem, ended⟩
    exact ⟨_, List.mem_map_of_mem mem, ended⟩

@[simp] theorem uncut_within (s : Snapshot) (c : RequestContext) (seen : Seen) :
    Uncut ks (within s c seen) ↔ Uncut ks seen := by
  simp only [Uncut, within, List.forall_mem_map, Snapshot.isSet_enter]

end Seen

namespace Stream

variable {u : Stream} {others : StoreRelation} {k : Nat} {st after : Store} {seen : Seen}

open Seen

theorem runs_below_instrumented {s : Snapshot} {c : RequestContext}
    {x y : (u.instrumentedBy s c).State} (allows : others.Allows)
    (h : (u.instrumentedBy s c).Runs others x st seen y after) :
    u.Runs others x st (within s c seen) y after := by
  induction h with
  | stay => exact .stay
  | @poll x st p y mid seen z after asked rest ih =>
    rw [show (u.instrumentedBy s c).poll x st = _ from s.pollWithin_eq c u.toSource x st] at asked
    cases asked
    exact .other (allows.enter s c st) (.poll rfl (.other (allows.leave s c st _) ih))
  | other change rest ih => exact .other change ih

theorem runs_stopped {y y' : (u.bind k).State} (h : (u.bind k).Runs others y st seen y' after)
    (stopped : y.2 = true) : y'.2 = true ∧ items seen = 0 := by
  induction h with
  | stay => exact ⟨stopped, rfl⟩
  | @poll y st p y₁ mid seen z after asked rest ih =>
    rw [u.bind_poll_stops y (.inl stopped)] at asked
    cases asked
    obtain ⟨still, silent⟩ := ih rfl
    exact ⟨still, by simpa [Poll.isItem] using silent⟩
  | other change rest ih => exact ih stopped

inductive RunsBelow (u : Stream) (others : StoreRelation) (k : Nat) (x : u.State) (st : Store)
    (seen : Seen) (y : u.State × Bool) (after : Store) : Prop
  | running (alive : y.2 = false) (going : ¬ Ended seen)
      (below : u.Runs others x st seen y.1 after)
  | stopped (halted : y.2 = true) (ended : Ended seen) (asked : Seen) (z : u.State) (mid : Store)
      (below : u.Runs others x st asked z mid) (same : items asked = items seen)
      (uncut : ∀ ks, Uncut ks seen → Uncut ks asked) (whole : Uncut [k] seen → Ended asked)

theorem RunsBelow.poll {x x' : u.State} {y : u.State × Bool} {p : Poll (Option Outcome)}
    {mid : Store} (polled : u.poll x st = (p, x', mid)) (more : p ≠ .ready none)
    (h : u.RunsBelow others k x' mid seen y after) :
    u.RunsBelow others k x st ((st, p) :: seen) y after := by
  cases h with
  | running alive going below => exact .running alive (by simp [more, going]) (.poll polled below)
  | stopped halted ended asked z mid below same uncut whole =>
    refine .stopped halted (by simp [ended]) ((st, p) :: asked) z mid (.poll polled below) ?_ ?_ ?_
    · simp [same]
    · intro ks h
      obtain ⟨first, later⟩ := uncut_cons.mp h
      exact uncut_cons.mpr ⟨first, uncut ks later⟩
    · intro h
      exact ended_cons.mpr (.inr (whole (uncut_cons.mp h).2))

theorem RunsBelow.other {x : u.State} {y : u.State × Bool} {mid : Store} (change : others st mid)
    (h : u.RunsBelow others k x mid seen y after) : u.RunsBelow others k x st seen y after := by
  cases h with
  | running alive going below => exact .running alive going (.other change below)
  | stopped halted ended asked z mid below same uncut whole =>
    exact .stopped halted ended asked z mid (.other change below) same uncut whole

theorem runs_below_bound {y y' : (u.bind k).State}
    (h : (u.bind k).Runs others y st seen y' after) (alive : y.2 = false) :
    u.RunsBelow others k y.1 st seen y' after := by
  induction h with
  | stay => exact .running alive not_ended_nil .stay
  | other change rest ih => exact .other change (ih alive)
  | @poll y st p y₁ mid seen z after asked rest ih =>
    obtain ⟨x, stopped⟩ := y
    cases alive
    cases set : st.isSet k with
    | true =>
      -- Nothing is asked of the stream below from here on.
      rw [u.bind_poll_stops (x, false) (.inr set)] at asked
      cases asked
      obtain ⟨halted, silent⟩ := runs_stopped rest rfl
      refine .stopped halted (by simp) [] x st .stay (by simp [silent, Poll.isItem])
        (fun ks _ => uncut_nil ks) ?_
      intro uncut
      simpa [set] using (uncut_cons.mp uncut).1
    | false =>
      rw [bind_poll_running _ x set] at asked
      rcases polled : u.poll x st with ⟨q, x', left⟩
      rw [polled] at asked
      cases asked
      cases finished : q.isEnd with
      | true =>
        obtain rfl := Poll.isEnd_iff.mp finished
        obtain ⟨halted, silent⟩ := runs_stopped rest rfl
        refine .stopped halted (by simp) [(st, .ready none)] x' left (.poll polled .stay)
          (by simp [silent]) ?_ (fun _ => by simp)
        intro ks uncut
        exact uncut_cons.mpr ⟨(uncut_cons.mp uncut).1, uncut_nil ks⟩
      | false =>
        have more : q ≠ .ready none := by
          rintro rfl
          cases finished
        exact (ih finished).poll polled more

theorem bind_poll_end (ends : ∀ x, (u.poll x st).1 = .ready none) (y : (u.bind k).State) :
    ((u.bind k).poll y st).1 = .ready none := by
  by_cases stops : y.2 = true ∨ st.isSet k = true
  · exact congrArg (·.1) (u.bind_poll_stops y stops)
  · obtain ⟨running, unset⟩ := not_or.mp stops
    obtain ⟨x, stopped⟩ := y
    obtain rfl : stopped = false := by simpa using running
    rw [bind_poll_running _ x (by simpa using unset)]
    exact ends x

theorem layered_poll_cut {t : Stream} {layers : List Layer} (bound : k ∈ Layer.signals layers)
    (set : st.isSet k = true) (y : (t.layered layers).State) :
    ((t.layered layers).poll y st).1 = .ready none := by
  induction layers generalizing st with
  | nil => cases bound
  | cons l layers ih =>
    cases l with
    | installed s c =>
      have inside : (s.enter c st).isSet k = true := by simpa using set
      exact ih (by simpa [Layer.signals, Layer.signal?] using bound) inside y
    | bound j =>
      have own : k = j ∨ k ∈ Layer.signals layers := by
        simpa [Layer.signals, Layer.signal?] using bound
      rcases own with rfl | below
      · exact congrArg (·.1) ((t.layered layers).bind_poll_stops y (.inr set))
      · exact bind_poll_end (ih below set) y

end Stream
end Fieldwork
