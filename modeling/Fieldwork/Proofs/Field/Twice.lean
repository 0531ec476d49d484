import Fieldwork.Proofs.Async.Mirrored
import Fieldwork.Proofs.Field.Holding

/-!
A decorator around a decorator. The delegate is called in the store in which it would be called if
it were decorated once, since a snapshot that is installed inside itself changes nothing. What the
inner decorator gives is then settled once more: plain values stay what they are, and futures and
streams are bound and instrumented again, which nothing that is polled can tell.
-/
namespace Fieldwork

def Pool.Extends {α : Type} (p q : Pool α) : Prop :=
  p.size ≤ q.size ∧ ∀ i, i < p.size → q.cell i = p.cell i

theorem Pool.Extends.refl {α : Type} (p : Pool α) : p.Extends p :=
  ⟨Nat.le_refl _, fun _ _ => rfl⟩

theorem Pool.Extends.alloc {α : Type} (p : Pool α) (x : α) : p.Extends (p.alloc x).2 :=
  ⟨Nat.le_succ _, fun _ bound => p.cell_alloc_of_lt bound x⟩

/-- Fetching in related stores gives the same, which keeps the relation. -/
structure Fetcher.Keeps (R : StoreRelation) (f : Fetcher) : Prop where
  value : ∀ call st v, (f.fetch call st).1 = .ok v → v.Holds (Source.Keeps R) (Stream.Keeps R)
  fetch : ∀ call st st', R st st' → R.Matched (f.fetch call st) (f.fetch call st')

structure Decorator.Keeps (R : StoreRelation) (d : Decorator) : Prop where
  delegate : d.delegate.Keeps R
  resolver : d.resolver.Keeps R
  adapters : d.adapters.Hold (Source.Keeps R) (Stream.Keeps R)

structure Decorator.Detached (d : Decorator) : Prop where
  delegate : ∀ call st v, (d.delegate.fetch call st).1 = .ok v →
    v.Holds Source.Detached fun t => t.toSource.Detached
  adapters : d.adapters.Hold Source.Detached fun t => t.toSource.Detached

/-- What is asked of the code that a decorator runs: drops are detached, and where accessors write
to the log no code looks at it. -/
structure Decorator.Repeatable (d : Decorator) (s : Snapshot) : Prop where
  detached : d.Detached
  keeps : s.Traced → d.Keeps s.UpToTraces

section Untraced

variable {R : StoreRelation} (eq : ∀ st st', R st st' → st' = st)

include eq

theorem Source.keeps_of_eq {α : Type} (refl : ∀ st, R st st) (src : Source α) : src.Keeps R where
  poll x st st' related := by
    rw [eq st st' related]
    exact ⟨_, _, _, _, rfl, rfl, refl _⟩
  release x st st' related := by
    rw [eq st st' related]
    exact refl _

theorem Stream.keeps_of_eq (refl : ∀ st, R st st) (t : Stream) : t.Keeps R where
  source := Source.keeps_of_eq eq refl t.toSource
  burst x st st' related := by rw [eq st st' related]

theorem Decorator.keeps_of_eq (refl : ∀ st, R st st) (d : Decorator) : d.Keeps R := by
  have all : ∀ v : FieldValue, v.Holds (Source.Keeps R) (Stream.Keeps R) := by
    intro v
    induction v with
    | value v => exact trivial
    | result data errors handed ih => exact ih
    | future f => exact Source.keeps_of_eq eq refl f
    | stream t => exact Stream.keeps_of_eq eq refl t
    | foreign x => exact trivial
  refine ⟨⟨fun _ _ v _ => all v, ?_⟩, ?_, ?_⟩
  · intro call st st' related
    rw [eq st st' related]
    exact ⟨rfl, refl _⟩
  · intro y st st' related
    rw [eq st st' related]
    exact ⟨_, _, _, _, rfl, rfl, refl _⟩
  · intro a _ x y _
    cases y with
    | single f => exact Source.keeps_of_eq eq refl f
    | stream t => exact Stream.keeps_of_eq eq refl t

end Untraced

theorem Decorator.Repeatable.keepsTraces {d : Decorator} {s : Snapshot} (h : d.Repeatable s) :
    d.Keeps s.UpToTraces := by
  by_cases traced : s.Traced
  · exact h.keeps traced
  · exact d.keeps_of_eq (fun _ _ related => related.eq traced) (.refl s)

variable {s : Snapshot} {st st' st'' : Store}

namespace Snapshot

/-- `st'` is `st` with something else in the slots, where restoring what was there before brings
back what `st` has. -/
def Beneath (s : Snapshot) (before : Nat → Option Json.Value) : StoreRelation := fun st st' =>
  s.UpToTraces { st with slots := st'.slots } st' ∧ s.restored before st'.slots = st.slots

variable {before : Nat → Option Json.Value}

theorem Beneath.ambient (s : Snapshot) (before : Nat → Option Json.Value) (c : RequestContext) :
    StoreRelation.Ambient (s.Beneath before) s c where
  agrees := by
    rintro st st' ⟨⟨log, form, _⟩, _⟩
    rw [form]
    rfl
  overlay := by
    rintro st st' ⟨⟨log, form, same⟩, back⟩
    rw [form]
    exact ⟨rfl, ⟨log, rfl, same⟩, back⟩
  close := by
    rintro id st st' ⟨⟨log, form, same⟩, back⟩
    rw [form]
    exact ⟨⟨log, rfl, same⟩, back⟩

theorem Beneath.close (h : s.Beneath st''.slots st st') :
    s.UpToTraces st ((s.install st'').1.close st') := by
  obtain ⟨beneath, back⟩ := h
  have closed := s.upToTraces_close st'' st'
  rw [back] at closed
  exact (beneath.withSlots st.slots).trans closed

theorem Beneath.drops {α : Type} {src : Source α} (keeps : src.Keeps s.UpToTraces)
    (detached : src.Detached) : src.Drops (s.Beneath before) := by
  rintro x st st' ⟨beneath, back⟩
  have dropped := keeps.release x _ _ beneath
  rw [detached.slots] at dropped
  have slots : (src.release x st').slots = st'.slots := detached.slots_release x st'
  refine ⟨?_, ?_⟩
  · rw [slots]
    exact dropped
  · rw [slots, detached.slots_release]
    exact back

end Snapshot

theorem FieldValue.Holds.and {P P' : Future → Prop} {Q Q' : Stream → Prop} {v : FieldValue}
    (h : v.Holds P Q) (h' : v.Holds P' Q') :
    v.Holds (fun f => P f ∧ P' f) fun t => Q t ∧ Q' t := by
  induction v with
  | value v => exact trivial
  | result data errors handed ih => exact ih h h'
  | future f => exact ⟨h, h'⟩
  | stream t => exact ⟨h, h'⟩
  | foreign x => exact trivial

theorem FieldValue.Holds.mono {P P' : Future → Prop} {Q Q' : Stream → Prop} {v : FieldValue}
    (h : v.Holds P Q) (future : ∀ f, P f → P' f) (stream : ∀ t, Q t → Q' t) : v.Holds P' Q' := by
  induction v with
  | value v => exact trivial
  | result data errors handed ih => exact ih h
  | future f => exact future f h
  | stream t => exact stream t h
  | foreign x => exact trivial

/-- A value of a fetcher that is decorated once, and that of the fetcher decorated twice. Plain
values are the same. Futures and streams behave in the same way over whole runs, whoever observes
the polls of their source and of their resolver. -/
inductive FieldValue.Repeated (s : Snapshot) (k : Nat) (r r' : Resolver) :
    FieldValue → FieldValue → Prop
  | same (v : FieldValue) : Repeated s k r r' v v
  | result (h : Repeated s k r r' data data') (errors : List Response.Error)
      (handed : Option LocalContext) :
      Repeated s k r r' (.result data errors handed) (.result data' errors handed)
  | future (f : Future) (c c' : RequestContext)
      (runs : ∀ look, StoreRelation.Kept s.UpToTraces look →
        let once := Future.awaited (f.observed look) k s c
        once.SameRuns s.UpToTraces (once.awaited k s c') (Option.map some)) :
      Repeated s k r r' (.future (f.awaited k s c)) (.future ((f.awaited k s c).awaited k s c'))
  | stream (t : Stream) (c c' : RequestContext)
      (runs : ∀ look look', StoreRelation.Kept s.UpToTraces look →
        StoreRelation.Kept s.UpToTraces look' →
        let once := (t.observed look).subscribed (r.observed look') k s c
        once.SameRuns s.UpToTraces (once.subscribed r' k s c') fun y => (y.1.doubled, y.2)) :
      Repeated s k r r' (.stream (t.subscribed r k s c))
        (.stream ((t.subscribed r k s c).subscribed r' k s c'))

/-- What a fetcher gives and leaves when it is decorated once, and what it gives and leaves when it
is decorated twice: there may be one more context. -/
structure Repeats (s : Snapshot) (k : Nat) (r r' : Resolver)
    (once twice : Except Failure FieldValue × Store) : Prop where
  failed : ∀ e, once.1 = .error e → twice.1 = .error e
  given : ∀ v, once.1 = .ok v → ∃ v', twice.1 = .ok v' ∧ v.Repeated s k r r' v'
  left : ∃ bags, once.2.bags.Extends bags ∧ s.UpToTraces { once.2 with bags } twice.2

theorem FieldValue.Holds.drop_kept {v : FieldValue}
    (h : v.Holds Source.Detached fun t => t.toSource.Detached) {k : Nat} (set : st.isSet k = true) :
    (v.drop st).isSet k = true := by
  induction v with
  | value v => exact set
  | result data errors handed ih => exact ih h
  | future f => exact h.kept f.state st k set
  | stream t => exact h.kept t.state st k set
  | foreign x => cases x <;> exact set

namespace Decorator

variable {d : Decorator} {r' : Resolver} {call : Call} {v w : FieldValue}

def again (d : Decorator) (r' : Resolver) : Decorator :=
  { d with delegate := d.fetcher, resolver := r' }

theorem repeats_same {s : Snapshot} {k : Nat} {r r' : Resolver} {q q' : Except Failure FieldValue}
    (related : s.UpToTraces st st') (same : q' = q) : Repeats s k r r' (q, st) (q', st') where
  failed _ failed := same.trans failed
  given v given := ⟨v, same.trans given, .same v⟩
  left := ⟨st.bags, .refl _, related⟩

theorem left_overlay (related : s.UpToTraces st st') (s' : Snapshot) (c : RequestContext) :
    ∃ bags, st.bags.Extends bags ∧ s.UpToTraces { st with bags } (s'.overlay st' c).2 := by
  obtain ⟨log, rfl, same⟩ := related
  exact ⟨(s'.overlay { st with log } c).2.bags, .alloc _ _, log, rfl, same⟩

theorem repeats_future {f : Future} (keeps : f.Keeps s.UpToTraces) (detached : f.Detached)
    (related : s.UpToTraces st st') (k : Nat) (r r' : Resolver) (c c' origin : RequestContext) :
    Repeats s k r r' (.ok (.future (f.awaited k s c)), st)
      (.ok (.future ((f.awaited k s c).awaited k s c')), (s.overlay st' origin).2) where
  failed _ failed := by cases failed
  given _ given := by
    cases given
    refine ⟨_, rfl, .future f c c' ?_⟩
    intro look observes
    exact (Future.awaited_mirrors (keeps.observed observes) (detached.observed look)).sameRuns
  left := left_overlay related s origin

theorem repeats_stream {t : Stream} {r : Resolver} (keeps : t.Keeps s.UpToTraces)
    (resolver : r.Keeps s.UpToTraces) (related : s.UpToTraces st st') (k : Nat) (r' : Resolver)
    (c c' origin : RequestContext) :
    Repeats s k r r' (.ok (.stream (t.subscribed r k s c)), st)
      (.ok (.stream ((t.subscribed r k s c).subscribed r' k s c')), (s.overlay st' origin).2) where
  failed _ failed := by cases failed
  given _ given := by
    cases given
    refine ⟨_, rfl, .stream t c c' ?_⟩
    intro look look' observes observes'
    exact (Stream.subscribed_mirrors (keeps.observed observes) (resolver.observed observes')).sameRuns
  left := left_overlay related s origin

theorem again_settleStream (r' : Resolver) (keeps : d.Keeps s.UpToTraces)
    (kept : v.Holds (Source.Keeps s.UpToTraces) (Stream.Keeps s.UpToTraces))
    (subscription : d.subscription = true) (alive : st.isCancelled call.context = false)
    (settled : d.settleStream s call v st = (.ok w, st')) (related : s.UpToTraces st' st'') :
    Repeats s call.context.signal d.resolver r' (.ok w, st') ((d.again r').settle s call w st'') := by
  unfold settleStream at settled
  cases streamable : d.adapters.asStream v with
  | error w' =>
    simp only [streamable] at settled
    cases settled
  | ok t =>
    simp only [streamable] at settled
    cases settled
    have alive' : st''.isCancelled call.context = false :=
      (Snapshot.UpToTraces.agrees s _ _ _ related).trans alive
    have source := keeps.adapters.asStream (fun _ => Source.Keeps.asStream) kept
    rw [streamable] at source
    rw [(settle_of_asStream (d := d.again r') subscription alive' rfl).2]
    exact repeats_stream source keeps.resolver related _ _ _ _ _

theorem again_settleSingle (r' : Resolver) (keeps : d.Keeps s.UpToTraces) (detached : d.Detached)
    (kept : v.Holds (Source.Keeps s.UpToTraces) (Stream.Keeps s.UpToTraces))
    (apart : v.Holds Source.Detached fun t => t.toSource.Detached) (present : ¬ v.isAbsent = true)
    (single : d.subscription = false) (alive : st.isCancelled call.context = false)
    (settled : d.settleSingle s call v st = (.ok w, st')) (related : s.UpToTraces st' st'') :
    Repeats s call.context.signal d.resolver r' (.ok w, st') ((d.again r').settle s call w st'') := by
  unfold settleSingle at settled
  cases sorted : d.adapters.asSingle v with
  | passthrough w' =>
    simp only [sorted] at settled
    cases settled
    obtain ⟨rfl, _⟩ := Adapters.asSingle_passthrough sorted
    have alive' : st''.isCancelled call.context = false :=
      (Snapshot.UpToTraces.agrees s _ _ _ related).trans alive
    simp only [settle, present, alive', again, single, settleSingle, sorted]
    exact repeats_same related rfl
  | future f =>
    simp only [sorted] at settled
    cases settled
    have alive' : st''.isCancelled call.context = false :=
      (Snapshot.UpToTraces.agrees s _ _ _ related).trans alive
    have source := keeps.adapters.asSingle (fun _ => Stream.Keeps.collect) kept
    have loose := detached.adapters.asSingle (fun _ => Source.Detached.collect) apart
    rw [sorted] at source loose
    rw [(settle_of_asSingle (d := d.again r') single alive' rfl).2]
    exact repeats_future source loose related _ _ _ _ _ _

theorem again_settle (r' : Resolver) (keeps : d.Keeps s.UpToTraces) (detached : d.Detached)
    (kept : v.Holds (Source.Keeps s.UpToTraces) (Stream.Keeps s.UpToTraces))
    (apart : v.Holds Source.Detached fun t => t.toSource.Detached)
    (settled : d.settle s call v st = (.ok w, st')) (related : s.UpToTraces st' st'') :
    Repeats s call.context.signal d.resolver r' (.ok w, st') ((d.again r').settle s call w st'') := by
  unfold settle at settled
  by_cases absent : v.isAbsent = true
  · simp only [absent] at settled
    cases settled
    simp only [settle, absent]
    exact repeats_same related rfl
  by_cases cancelled : st.isCancelled call.context = true
  · simp only [absent, cancelled] at settled
    cases settled
    have still : st''.isCancelled call.context = true :=
      (Snapshot.UpToTraces.agrees s _ _ _ related).trans (apart.drop_kept cancelled)
    -- Dropping unsets no signal, so what stands for a cancelled request is settled as one again.
    simp only [settle, FieldValue.cancelled, FieldValue.isAbsent, still]
    exact repeats_same related rfl
  have alive : st.isCancelled call.context = false := by simpa using cancelled
  by_cases subscription : d.subscription = true
  · simp only [absent, cancelled, subscription] at settled
    exact again_settleStream r' keeps kept subscription alive settled related
  · simp only [absent, cancelled, subscription] at settled
    have single : d.subscription = false := Bool.eq_false_iff.mpr subscription
    exact again_settleSingle r' keeps detached kept apart absent single alive settled related

theorem settle_plain (plain : v.isResult = false) (settled : d.settle s call v st = (.ok w, st')) :
    w = .cancelled ∨ w.isResult = false := by
  have ways := d.settled s call v st
  rw [settled] at ways
  cases ways with
  | absent absent => exact .inr plain
  | cancelled set => exact .inl rfl
  | stream streamable => exact .inr rfl
  | passthrough h =>
    obtain ⟨rfl, _⟩ := Adapters.asSingle_passthrough h
    exact .inr plain
  | future awaitable => exact .inr rfl

theorem repeats_result {k : Nat} {r : Resolver} {q : Except Failure FieldValue}
    (h : Repeats s k r r' (.ok w, st) (q, st')) (errors : List Response.Error)
    (handed : Option LocalContext) :
    Repeats s k r r' (.ok (.result w errors handed), st)
      (q.map fun data => .result data errors handed, st') where
  failed _ failed := by cases failed
  given _ given := by
    cases given
    obtain ⟨w', same, repeated⟩ := h.given w rfl
    exact ⟨.result w' errors handed, congrArg (Except.map _) same, repeated.result errors handed⟩
  left := h.left

theorem again_settleResult (r' : Resolver) {r : Except Failure FieldValue}
    (keeps : d.Keeps s.UpToTraces) (detached : d.Detached)
    (kept : ∀ v, r = .ok v → v.Holds (Source.Keeps s.UpToTraces) (Stream.Keeps s.UpToTraces))
    (apart : ∀ v, r = .ok v → v.Holds Source.Detached fun t => t.toSource.Detached)
    {x : Except Failure FieldValue} (settled : d.settleResult s call r st = (x, st'))
    (related : s.UpToTraces st' st'') :
    Repeats s call.context.signal d.resolver r' (x, st')
      ((d.again r').settleResult s call x st'') := by
  cases x with
  | error e => exact repeats_same related rfl
  | ok w =>
    have left : (d.settleResult s call r st).2 = st' := congrArg Prod.snd settled
    rcases settleResult_eq_ok (congrArg Prod.fst settled) with
      ⟨data, errors, handed, w', rfl, answered, rfl⟩ | ⟨v, rfl, plain, answered⟩
    · have inner : d.settle s call data st = (.ok w', st') := Prod.ext answered left
      have kept' : data.Holds (Source.Keeps s.UpToTraces) (Stream.Keeps s.UpToTraces) :=
        kept (.result data errors handed) rfl
      have apart' : data.Holds Source.Detached fun t => t.toSource.Detached :=
        apart (.result data errors handed) rfl
      exact repeats_result (again_settle r' keeps detached kept' apart' inner related) errors handed
    · rw [settleResult_plain plain] at left
      have inner : d.settle s call v st = (.ok w, st') := Prod.ext answered left
      have again := again_settle r' keeps detached (kept v rfl) (apart v rfl) inner related
      rcases settle_plain plain inner with rfl | plain'
      · exact repeats_same related rfl
      · rw [settleResult_plain plain']
        exact again

end Decorator

theorem Call.snapshot_upToTraces {call : Call} (related : s.UpToTraces st st') :
    call.snapshot st' = call.snapshot st := by
  obtain ⟨log, rfl, _⟩ := related
  rfl

theorem Call.snapshot_inside (call : Call) (st : Store) :
    call.snapshot (call.inside st) = call.snapshot st := by
  unfold Call.inside
  rw [Snapshot.install_frame]
  rfl

theorem Snapshot.UpToTraces.beneath (h : s.UpToTraces st st') {inner inner' : Store}
    (inside : s.UpToTraces inner inner') :
    s.Beneath st'.slots ((s.install st).1.close inner)
      ((s.install (s.install st').2).1.close inner') := by
  have one := s.upToTraces_close st inner
  have two := s.upToTraces_close (s.install st').2 inner'
  refine ⟨?_, ?_⟩
  · calc s.UpToTraces
          { (s.install st).1.close inner with
            slots := ((s.install (s.install st').2).1.close inner').slots }
          { inner with slots := ((s.install (s.install st').2).1.close inner').slots } :=
          one.symm.withSlots _
      s.UpToTraces _ { inner' with slots := ((s.install (s.install st').2).1.close inner').slots } :=
          inside.withSlots _
      s.UpToTraces _ ((s.install (s.install st').2).1.close inner') := two.withSlots _
  · rw [one.slots, two.slots, restored_restored, h.slots, inside.slots]

/-- The delegate is called in the same store, and what is given once is given twice. -/
theorem Decorator.again_fetch {d : Decorator} {call : Call} (snapshot : call.snapshot st = s)
    (repeatable : d.Repeatable s) (related : s.UpToTraces st st') (r' : Resolver) :
    s.UpToTraces (call.inside st) (call.inside (call.inside st')) ∧
      Repeats s call.context.signal d.resolver r' (d.fetch call st)
        ((d.again r').fetch call st') := by
  have keeps := repeatable.keepsTraces
  have detached := repeatable.detached
  have snapshot' : call.snapshot st' = s := (call.snapshot_upToTraces related).trans snapshot
  have snapshot'' : call.snapshot (call.inside st') = s :=
    (call.snapshot_inside st').trans snapshot'
  have nested := call.inside_eq snapshot'
  have inside : s.UpToTraces (call.inside st) (call.inside (call.inside st')) := by
    rw [call.inside_eq snapshot, call.inside_eq snapshot'', nested]
    exact related.install
  refine ⟨inside, ?_⟩
  obtain ⟨same, left⟩ := keeps.delegate.fetch call _ _ inside
  have kept := keeps.delegate.value call (call.inside st)
  have apart := detached.delegate call (call.inside st)
  have drops : ∀ v, (d.delegate.fetch call (call.inside st)).1 = .ok v →
      v.Drops (s.Beneath st'.slots) := by
    intro v given
    exact ((kept v given).and (apart v given)).mono (fun f h => Snapshot.Beneath.drops h.1 h.2)
      fun t h => Snapshot.Beneath.drops h.1.source h.2
  -- What the inner decorator drops is dropped in an open scope; closing that brings the slots back.
  have beneath := related.beneath left
  rw [← nested] at beneath
  obtain ⟨again, below⟩ := settleResult_matched (d := d)
    (Snapshot.Beneath.ambient s st'.slots call.context) drops beneath
  have inner : (d.again r').delegate.fetch call (call.inside st') = _ := d.fetch_eq snapshot''
  rw [same] at inner
  rw [d.fetch_eq snapshot, (d.again r').fetch_eq snapshot', inner, again]
  exact again_settleResult r' keeps detached kept apart rfl below.close

end Fieldwork
