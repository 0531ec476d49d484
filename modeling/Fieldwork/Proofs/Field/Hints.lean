import Fieldwork.Field.Decorated
import Fieldwork.Proofs.Async.Buffered
import Fieldwork.Proofs.Async.Layers

/-!
Size hints. A bound stream may be cut short at any time, and until a poll has found the end its hint
is that of the stream below. So the upper bound is right whatever comes, but the lower bound counts on
all that the stream below has left: it is right as long as no poll starts with the signal set. A
subscription promises nothing, and what it says of its end is right.
-/
namespace Fieldwork

open Seen

def StoreRelation.sparing (name : String) (id : Nat) : StoreRelation := fun st st' =>
  st'.names.channel name = st.names.channel name ∧ st'.channels.cell id = st.channels.cell id

theorem StoreRelation.sparing_allows (name : String) (id : Nat) : (sparing name id).Allows :=
  ⟨fun _ _ _ => by simp [sparing], fun _ _ _ _ => by simp [sparing], fun _ _ => ⟨rfl, rfl⟩⟩

namespace Stream

/-- At this point of a run the hint bounds what is still given: its upper bound in any case, and its
lower bound if the end is given and no poll starts with one of the signals `ks` set. -/
structure Bounded (u : Stream) (others : StoreRelation) (ks : List Nat) (x : u.State) (st : Store) :
    Prop where
  upper : ∀ seen y after, u.Runs others x st seen y after →
    ∀ n, (u.hint x st).2 = some n → items seen ≤ n
  lower : ∀ seen y after, u.Runs others x st seen y after →
    Ended seen → Uncut ks seen → (u.hint x st).1 ≤ items seen

def Sound (u : Stream) (others : StoreRelation) (ks : List Nat) (st₀ : Store) : Prop :=
  ∀ before x st, u.Runs others u.state st₀ before x st → u.Bounded others ks x st

def Exact (t : Stream) (others : StoreRelation) (st₀ : Store) : Prop :=
  ∀ before x st, t.Runs others t.state st₀ before x st →
    ∃ n, t.hint x st = (n, some n) ∧ t.Bounded others [] x st

variable {t u : Stream} {others : StoreRelation} {ks : List Nat} {k : Nat} {st₀ st after : Store}
  {before seen : Seen} {layers : List Layer}

theorem Exact.sound (exact : t.Exact others st₀) : t.Sound others [] st₀ := by
  intro before x st run
  obtain ⟨n, -, bounded⟩ := exact before x st run
  exact bounded

section Counts

/-- `Left x st n` says that just `n` items are left. It is kept by other code, and a poll takes away
what it gives; the end comes when there is nothing left. -/
structure Counts (t : Stream) (others : StoreRelation) (Left : t.State → Store → Nat → Prop) :
    Prop where
  hint : ∀ x st n, Left x st n → t.hint x st = (n, some n)
  poll : ∀ x st n p y after, Left x st n → t.poll x st = (p, y, after) →
    ∃ m, Left y after m ∧ n = m + p.isItem.toNat ∧ (p = .ready none → n = 0)
  other : ∀ x st st' n, Left x st n → others st st' → Left x st' n

variable {Left : t.State → Store → Nat → Prop} {x y : t.State} {n : Nat}

theorem Counts.run (counts : t.Counts others Left) (h : t.Runs others x st seen y after)
    (left : Left x st n) :
    ∃ m, Left y after m ∧ n = m + items seen ∧ (Ended seen → m = 0) := by
  induction h generalizing n with
  | stay => exact ⟨n, left, rfl, fun ended => absurd ended not_ended_nil⟩
  | other change rest ih => exact ih (counts.other _ _ _ _ left change)
  | @poll x st p y mid seen z after asked rest ih =>
    obtain ⟨m, between, given, last⟩ := counts.poll _ _ _ _ _ _ left asked
    obtain ⟨m', final, more, ended⟩ := ih between
    have same : n = m' + items ((st, p) :: seen) := by
      rw [items_cons]
      omega
    refine ⟨m', final, same, ?_⟩
    intro finished
    rcases ended_cons.mp finished with now | later
    · have nothing := last now
      omega
    · exact ended later

theorem Counts.exact (counts : t.Counts others Left) (start : Left t.state st₀ n) :
    t.Exact others st₀ := by
  intro before x st run
  obtain ⟨m, left, -, -⟩ := counts.run run start
  have hint := counts.hint _ _ _ left
  refine ⟨m, hint, ?_, ?_⟩
  · intro seen y after more n high
    obtain ⟨rest, -, same, -⟩ := counts.run more left
    rw [hint] at high
    cases high
    omega
  · intro seen y after more ended _
    obtain ⟨rest, -, same, last⟩ := counts.run more left
    have nothing := last ended
    have all : m = items seen := by omega
    exact Nat.le_of_eq ((congrArg Prod.fst hint).trans all)

end Counts

theorem ofList_exact (items : List Json.Value) (others : StoreRelation) (st₀ : Store) :
    (ofList items).Exact others st₀ := by
  have counts : (ofList items).Counts others fun rest _ n => n = List.length rest := by
    refine ⟨?_, ?_, fun _ _ _ _ left _ => left⟩
    · rintro rest st _ rfl
      rfl
    · rintro rest st _ p y after rfl asked
      cases rest with
      | nil =>
        cases asked
        exact ⟨0, rfl, rfl, fun _ => rfl⟩
      | cons v rest =>
        cases asked
        exact ⟨_, rfl, rfl, by simp⟩
  exact counts.exact rfl

theorem ofChannel_hint_closed {name : String} {id : Nat} {values : List Json.Value}
    (h : st.Buffers name id false values) :
    (ofChannel id).hint () st = (values.length, some values.length) := by
  rcases h.queues.kind with bounded | unbounded
  · simp [ofChannel, Channel.hint, bounded, h.sender, h.queues.waiting]
  · simp [ofChannel, Channel.hint, unbounded, h.sender, h.queues.waiting]

theorem ofChannel_exact {name : String} {id : Nat} {values : List Json.Value}
    (buffers : st₀.Buffers name id false values) :
    (ofChannel id).Exact (.sparing name id) st₀ := by
  have counts : (ofChannel id).Counts (.sparing name id) fun _ st n =>
      ∃ values, st.Buffers name id false values ∧ n = values.length := by
    refine ⟨?_, ?_, ?_⟩
    · rintro x st _ ⟨values, buffers, rfl⟩
      exact ofChannel_hint_closed buffers
    · rintro x st _ p y after ⟨values, buffers, rfl⟩ asked
      cases values with
      | nil =>
        obtain ⟨left, received, empty⟩ := ofChannel_poll_empty buffers
        cases received.symm.trans asked
        exact ⟨0, ⟨[], empty, rfl⟩, rfl, fun _ => rfl⟩
      | cons v values =>
        obtain ⟨left, received, rest⟩ := ofChannel_poll_value buffers
        cases received.symm.trans asked
        exact ⟨_, ⟨values, rest, rfl⟩, rfl, by simp⟩
    · rintro x st st' n ⟨values, buffers, rfl⟩ ⟨named, channel⟩
      exact ⟨values, buffers.unchanged named channel, rfl⟩
  exact counts.exact ⟨values, buffers, rfl⟩

/-- Until a bound stream has given the end its hint is that of the stream below, and then it is exact. -/
theorem bind_hint {y : (u.bind k).State}
    (run : (u.bind k).Runs others (u.bind k).state st₀ before y st) :
    (Ended before → (u.bind k).hint y st = (0, some 0)) ∧
      (¬ Ended before → (u.bind k).hint y st = u.hint y.1 st) := by
  obtain ⟨x, stopped⟩ := y
  cases runs_below_bound run rfl with
  | running alive going below =>
    cases alive
    exact ⟨fun ended => absurd ended going, fun _ => rfl⟩
  | stopped halted ended asked z mid below same uncut whole =>
    cases halted
    exact ⟨fun _ => rfl, fun going => absurd ended going⟩

theorem Bounded.instrumentedBy {x : u.State} (bounded : u.Bounded others ks x st)
    (allows : others.Allows) (s : Snapshot) (c : RequestContext) :
    (u.instrumentedBy s c).Bounded others ks x st where
  upper seen y after more n high := by
    have below := bounded.upper _ y after (runs_below_instrumented allows more) n high
    rwa [items_within] at below
  lower seen y after more ended uncut := by
    have below := bounded.lower _ y after (runs_below_instrumented allows more)
      (by simpa using ended) (by simpa using uncut)
    rwa [items_within] at below

theorem Bounded.bind {x : u.State} (bounded : u.Bounded others ks x st) (k : Nat) :
    (u.bind k).Bounded others (k :: ks) (x, false) st where
  upper seen y after more n high := by
    cases runs_below_bound more rfl with
    | running alive going below => exact bounded.upper seen _ after below n high
    | stopped halted ended asked z mid below same uncut whole =>
      rw [← same]
      exact bounded.upper asked z mid below n high
  lower seen y after more ended uncut := by
    cases runs_below_bound more rfl with
    | running alive going below => exact absurd ended going
    | stopped halted ended asked z mid below same kept whole =>
      have own : Uncut [k] seen := uncut.mono (by simp)
      have others : Uncut ks seen := uncut.mono fun j mem => List.mem_cons_of_mem k mem
      rw [← same]
      exact bounded.lower asked z mid below (whole own) (kept ks others)

theorem bounded_stopped (x : u.State) : (u.bind k).Bounded others ks (x, true) st where
  upper seen y after more n _ := by
    rw [(runs_stopped more rfl).2]
    exact Nat.zero_le n
  lower seen _ _ _ _ _ := Nat.zero_le (items seen)

theorem Sound.instrumentedBy (sound : u.Sound others ks st₀) (allows : others.Allows) (s : Snapshot)
    (c : RequestContext) : (u.instrumentedBy s c).Sound others ks st₀ := by
  intro before x st run
  exact (sound _ x st (runs_below_instrumented allows run)).instrumentedBy allows s c

theorem Sound.bind (sound : u.Sound others ks st₀) (k : Nat) :
    (u.bind k).Sound others (k :: ks) st₀ := by
  intro before y st run
  obtain ⟨x, stopped⟩ := y
  cases runs_below_bound run rfl with
  | running alive going below =>
    cases alive
    exact (sound before x st below).bind k
  | stopped halted ended asked z mid below same uncut whole =>
    cases halted
    exact bounded_stopped x

theorem Sound.layered (sound : t.Sound others [] st₀) (allows : others.Allows)
    (layers : List Layer) : (t.layered layers).Sound others (Layer.signals layers) st₀ := by
  induction layers with
  | nil => exact sound
  | cons l layers ih =>
    cases l with
    | installed s c => exact ih.instrumentedBy allows s c
    | bound k => exact ih.bind k

theorem layered_hint_ended {x : (t.layered layers).State} (allows : others.Allows)
    (bound : Layer.signals layers ≠ [])
    (run : (t.layered layers).Runs others (t.layered layers).state st₀ before x st)
    (ended : Ended before) : (t.layered layers).hint x st = (0, some 0) := by
  induction layers generalizing before with
  | nil => exact absurd rfl bound
  | cons l layers ih =>
    cases l with
    | installed s c =>
      exact ih bound (runs_below_instrumented allows run) (by simpa using ended)
    | bound k => exact (bind_hint (u := t.layered layers) run).1 ended

/-- Where a layer is bound, a cancellation makes every lower bound wrong but zero. -/
theorem layered_lower_iff {x : (t.layered layers).State} (allows : others.Allows)
    (bounded : (t.layered layers).Bounded others (Layer.signals layers) x st) :
    (∀ seen y after, (t.layered layers).Runs others x st seen y after → Ended seen →
        ((t.layered layers).hint x st).1 ≤ items seen) ↔
      ((t.layered layers).hint x st).1 = 0 ∨ Layer.signals layers = [] := by
  constructor
  · intro right
    rcases signals : Layer.signals layers with _ | ⟨k, ks⟩
    · exact .inr rfl
    · left
      have bound : k ∈ Layer.signals layers := by simp [signals]
      have cut := layered_poll_cut bound (st.isSet_setSignal_self k) x
      have run : (t.layered layers).Runs others x st [(st.setSignal k, .ready none)] _ _ :=
        .other (allows.set st k) (.poll (Prod.ext cut rfl) .stay)
      exact Nat.le_zero.mp (right _ _ _ run (by simp))
  · intro either seen y after run ended
    rcases either with zero | unbound
    · rw [zero]
      exact Nat.zero_le _
    · refine bounded.lower seen y after run ended ?_
      rw [unbound]
      exact uncut_none seen

theorem subscribe_sound (d : Decorator) (s : Snapshot) (c : RequestContext) (t : Stream) (st : Store) :
    let (u, after) := d.subscribe s c t st
    u.Sound .any [] after ∧
      ∀ before x st', u.Runs .any u.state after before x st' →
        u.hint x st' = (0, none) ∧ ¬ Ended before ∨ u.hint x st' = (0, some 0) ∧ Ended before := by
  let copy := (s.overlay st c).1
  let recovered := t.recover d.resolver
  have silent : recovered.Sound .any [] (s.overlay st c).2 :=
    fun _ _ _ _ => ⟨fun _ _ _ _ _ high => (nomatch high), fun _ _ _ _ _ _ => Nat.zero_le _⟩
  have hints : ∀ before x st', ((recovered.bind c.signal).instrumentedBy s copy).Runs .any
      (recovered.state, false) (s.overlay st c).2 before x st' →
        (recovered.bind c.signal).hint x st' = (0, none) ∧ ¬ Ended before ∨
          (recovered.bind c.signal).hint x st' = (0, some 0) ∧ Ended before := by
    intro before x st' run
    have below := bind_hint (u := recovered) (runs_below_instrumented StoreRelation.any_allows run)
    rw [ended_within] at below
    by_cases ended : Ended before
    · exact .inr ⟨below.1 ended, ended⟩
    · exact .inl ⟨below.2 ended, ended⟩
  refine ⟨?_, hints⟩
  intro before x st' run
  have bounded := (silent.bind c.signal).instrumentedBy StoreRelation.any_allows s copy before x st' run
  have low : ((recovered.bind c.signal).hint x st').1 = 0 := by
    rcases hints before x st' run with ⟨hint, -⟩ | ⟨hint, -⟩ <;> rw [hint]
  exact ⟨bounded.upper, fun seen _ _ _ _ _ => low ▸ Nat.zero_le (items seen)⟩

end Stream

/-- Size hints. Of a source whose own hint is exact, in any layers, the upper bound is right at every
moment. The lower bound is right as long as no poll starts with the signal of a bound layer set. If
it is to stand a cancellation too, it must be zero or no layer may be bound: until a poll has found
the end, the hint of a bound stream is that of the stream below, and only then it is exact. A snapshot
around a stream changes neither bound, and a subscription to any source promises nothing. -/
theorem size_hints_bound {t : Stream} {others : StoreRelation} {st₀ : Store}
    (allows : others.Allows) (exact : t.Exact others st₀) (layers : List Layer) :
    let u := t.layered layers
    let ks := Layer.signals layers
    (∀ before x st, u.Runs others u.state st₀ before x st →
      u.Bounded others ks x st ∧
      ((∀ seen y after, u.Runs others x st seen y after → Ended seen →
          (u.hint x st).1 ≤ items seen) ↔ (u.hint x st).1 = 0 ∨ ks = []) ∧
      (Ended before → ks ≠ [] → u.hint x st = (0, some 0))) ∧
    (∀ (v : Stream) (s : Snapshot) (c : RequestContext) (x : v.State) (st : Store),
      (v.instrumentedBy s c).hint x st = v.hint x st) ∧
    (∀ (v : Stream) (k : Nat) before y st,
      (v.bind k).Runs others (v.bind k).state st₀ before y st →
        (Ended before → (v.bind k).hint y st = (0, some 0)) ∧
          (¬ Ended before → (v.bind k).hint y st = v.hint y.1 st)) ∧
    ∀ (d : Decorator) (s : Snapshot) (c : RequestContext) (v : Stream) (st : Store),
      let (u, after) := d.subscribe s c v st
      u.Sound .any [] after ∧
        ∀ before x st', u.Runs .any u.state after before x st' →
          u.hint x st' = (0, none) ∧ ¬ Ended before ∨ u.hint x st' = (0, some 0) ∧ Ended before := by
  intro u ks
  refine ⟨?_, fun _ _ _ _ _ => rfl, fun _ _ _ _ _ run => Stream.bind_hint run,
    Stream.subscribe_sound⟩
  intro before x st run
  have bounded := exact.sound.layered allows layers before x st run
  refine ⟨bounded, Stream.layered_lower_iff allows bounded, ?_⟩
  intro ended bound
  exact Stream.layered_hint_ended allows bound run ended

/-- A queue with two values and no sender, bound and then instrumented. -/
theorem size_hints_bound_queue :
    let queue : Channel := {
      kind := .bounded, capacity := 2, queue := [.ok (.int 1), .ok (.int 2)], senderOpen := false }
    let st := Store.empty.newSignal.2.newChannel "ticks" queue
    let t : Stream := .ofChannel 0
    let layers : List Layer :=
      [.installed ⟨[(⟨"tenant", 0, false⟩, some (.int 7))], false⟩ ⟨0, 0, none⟩, .bound 0]
    let u := t.layered layers
    StoreRelation.Allows (.sparing "ticks" 0) ∧ t.Exact (.sparing "ticks" 0) st ∧
      u.hint u.state st = (2, some 2) ∧ u.Bounded (.sparing "ticks" 0) [0] u.state st ∧
      ¬ ∀ seen y after, u.Runs (.sparing "ticks" 0) u.state st seen y after → Ended seen →
        2 ≤ items seen := by
  intro queue st t layers u
  have allows := StoreRelation.sparing_allows "ticks" 0
  have buffers : st.Buffers "ticks" 0 false [.int 1, .int 2] := ⟨rfl, ⟨.inl rfl, rfl, rfl⟩, rfl⟩
  have exact : t.Exact (.sparing "ticks" 0) st := Stream.ofChannel_exact buffers
  obtain ⟨bounded, stands, -⟩ := (size_hints_bound allows exact layers).1 [] u.state st .stay
  refine ⟨allows, exact, rfl, bounded, ?_⟩
  intro right
  rcases stands.mp right with zero | unbound
  · cases zero
  · cases unbound

/-- Three values are announced and the signal is set: the next poll gives the end. -/
theorem bound_hint_overstates :
    let t : Stream := .ofList [.int 1, .int 2, .int 3]
    let u := t.bind 0
    let st := Store.empty.newSignal.2.setSignal 0
    t.Exact .any st ∧ u.hint u.state st = (3, some 3) ∧
      ∃ seen y after, u.Runs .any u.state st seen y after ∧ Ended seen ∧
        ¬ (u.hint u.state st).1 ≤ items seen := by
  intro t u st
  have run : u.Runs .any u.state st [(st, .ready none)] (u.state.1, true) st := .poll rfl .stay
  refine ⟨Stream.ofList_exact _ .any st, rfl, _, _, _, run, by simp, ?_⟩
  simp [u, t, Stream.bind, Stream.ofList, Poll.isItem]

end Fieldwork
