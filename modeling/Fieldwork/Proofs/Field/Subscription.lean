import Fieldwork.Proofs.Async.Bound
import Fieldwork.Proofs.Async.Polls
import Fieldwork.Proofs.Field.Settled

/-!
Whole runs of a subscription. What its subscriber gets follows from what its source and, after the
first failure, its resolver say in the same polls: the values of the source in their order, at most
one failure, and then the end in every poll. Only a poll that starts with the signal set cuts this
short. The recovery must not be polled after its end, and the binding above it never does so.
-/
namespace Fieldwork

def ends (n : Nat) : List (Poll (Option Outcome)) := List.replicate n (.ready none)

namespace Poll

def isPending {α : Type} : Poll α → Bool
  | pending => true
  | _ => false

@[simp] theorem isPending_pending {α : Type} : (pending : Poll α).isPending = true := rfl

@[simp] theorem isPending_ready {α : Type} (x : α) : (ready x).isPending = false := rfl

def Passes : Poll (Option Outcome) → Prop
  | pending => True
  | ready (some (.ok _)) => True
  | _ => False

end Poll

/-- What a subscriber gets for the failure `cause` once the resolver does not wait any more;
`answers` are what the resolver says in the polls that start in `starts`. -/
inductive Resolution (signal : Nat) (cause : Failure) :
    List Store → List (Poll (List Response.Error)) → List (Poll (Option Outcome)) → Prop
  | nil : Resolution signal cause [] answers []
  | cancelled (set : Store.isSet st signal = true) :
      Resolution signal cause (st :: starts) answers (ends (starts.length + 1))
  | resolved (unset : Store.isSet st signal = false) :
      Resolution signal cause (st :: starts) (.ready errors :: answers)
        (.ready (some (.error (.publisher errors cause))) :: ends starts.length)
  | broken (unset : Store.isSet st signal = false) :
      Resolution signal cause (st :: starts) (.broken :: answers) (.broken :: given)

/-- What a subscriber gets from the poll on in which the source neither waits nor gives a value.
`asked` is what the source says in the polls that start in `starts`, with the store that it leaves;
`inside` makes the store in which sources and resolvers are polled. The resolver is first polled in
the store that the failing source has left. -/
inductive Closing (r : Resolver) (signal : Nat) (inside : Store → Store) :
    List Store → List (Poll (Option Outcome) × Store) → List (Poll (Option Outcome)) → Prop
  | nil : Closing r signal inside [] asked []
  | cancelled (set : Store.isSet st signal = true) :
      Closing r signal inside (st :: starts) asked (ends (starts.length + 1))
  | ended (unset : Store.isSet st signal = false) :
      Closing r signal inside (st :: starts) ((.ready none, after) :: asked)
        (ends (starts.length + 1))
  | publisher (unset : Store.isSet st signal = false) (known : Failure.isPublisher e = true) :
      Closing r signal inside (st :: starts) ((.ready (some (.error e)), after) :: asked)
        (.ready (some (.error e)) :: ends starts.length)
  | failure (unset : Store.isSet st signal = false) (unknown : Failure.isPublisher e = false)
      (waits : Nat) (answers : List (Poll (List Response.Error)))
      (resolving : answers = r.answers (r.start e) (after :: starts.map inside))
      (waiting : ∀ p ∈ answers.take waits, p = .pending)
      (alive : ∀ st' ∈ (st :: starts).take waits, Store.isSet st' signal = false)
      (rest : Resolution signal e ((st :: starts).drop waits) (answers.drop waits) given) :
      Closing r signal inside (st :: starts) ((.ready (some (.error e)), after) :: asked)
        (List.replicate waits .pending ++ given)
  | broken (unset : Store.isSet st signal = false) :
      Closing r signal inside (st :: starts) ((.broken, after) :: asked) (.broken :: given)

/-- The subscriber gets what the source says for `n` polls, all of which start with the signal unset
and give values or nothing yet, and from then on what `Closing` says. -/
def Delivers (r : Resolver) (signal : Nat) (inside : Store → Store) (starts : List Store)
    (asked : List (Poll (Option Outcome) × Store)) (given : List (Poll (Option Outcome))) : Prop :=
  ∃ n, given.take n = (asked.take n).map (·.1) ∧ (∀ p ∈ given.take n, p.Passes) ∧
    (∀ st ∈ starts.take n, st.isSet signal = false) ∧
    Closing r signal inside (starts.drop n) (asked.drop n) (given.drop n)

/-- Apart from the polls that wait: values, at most one failure, and then the end only. -/
def Orderly (given : List (Poll (Option Outcome))) : Prop :=
  ∃ (items : List Json.Value) (failure : Option Failure) (n : Nat),
    given.filter (fun p => !p.isPending) =
      items.map (fun v => .ready (some (.ok v))) ++
        failure.toList.map (fun e => .ready (some (.error e))) ++ ends n

theorem ends_filter (n : Nat) : (ends n).filter (fun p => !p.isPending) = ends n := by
  simp [ends]

theorem ends_orderly (n : Nat) : Orderly (ends n) :=
  ⟨[], none, n, by simp [ends_filter]⟩

theorem failure_orderly (e : Failure) (n : Nat) :
    Orderly (.ready (some (.error e)) :: ends n) :=
  ⟨[], some e, n, by simp [ends_filter]⟩

theorem Orderly.waits_append (n : Nat) {given : List (Poll (Option Outcome))}
    (h : Orderly given) : Orderly (List.replicate n .pending ++ given) := by
  obtain ⟨items, failure, m, same⟩ := h
  refine ⟨items, failure, m, ?_⟩
  rw [List.filter_append, same]
  simp

theorem Orderly.passing_append {before given : List (Poll (Option Outcome))} (h : Orderly given)
    (passing : ∀ p ∈ before, p.Passes) : Orderly (before ++ given) := by
  induction before with
  | nil => exact h
  | cons p before ih =>
    obtain ⟨first, later⟩ := List.forall_mem_cons.mp passing
    obtain ⟨items, failure, m, same⟩ := ih later
    match p, first with
    | .pending, _ => exact ⟨items, failure, m, by simpa using same⟩
    | .ready (some (.ok v)), _ => exact ⟨v :: items, failure, m, by simpa using same⟩

theorem Resolution.orderly {signal : Nat} {cause : Failure} {starts : List Store}
    {answers : List (Poll (List Response.Error))} {given : List (Poll (Option Outcome))}
    (h : Resolution signal cause starts answers given) (whole : .broken ∉ given) :
    Orderly given := by
  cases h with
  | nil => exact ends_orderly 0
  | cancelled => exact ends_orderly _
  | resolved => exact failure_orderly _ _
  | broken => exact absurd List.mem_cons_self whole

theorem Closing.orderly {r : Resolver} {signal : Nat} {inside : Store → Store}
    {starts : List Store} {asked : List (Poll (Option Outcome) × Store)}
    {given : List (Poll (Option Outcome))} (h : Closing r signal inside starts asked given)
    (whole : .broken ∉ given) : Orderly given := by
  cases h with
  | nil => exact ends_orderly 0
  | cancelled => exact ends_orderly _
  | ended => exact ends_orderly _
  | publisher => exact failure_orderly _ _
  | failure _ _ waits _ _ _ _ rest =>
    have quiet := fun mem => whole (List.mem_append_right _ mem)
    exact (rest.orderly quiet).waits_append waits
  | broken => exact absurd List.mem_cons_self whole

namespace Delivers

variable {r : Resolver} {signal : Nat} {inside : Store → Store} {st : Store} {starts : List Store}
  {asked : List (Poll (Option Outcome) × Store)} {given : List (Poll (Option Outcome))}

theorem of_closing (h : Closing r signal inside starts asked given) :
    Delivers r signal inside starts asked given :=
  ⟨0, rfl, by simp, by simp, h⟩

theorem cons {p : Poll (Option Outcome)} {after : Store} (unset : st.isSet signal = false)
    (passes : p.Passes) (h : Delivers r signal inside starts asked given) :
    Delivers r signal inside (st :: starts) ((p, after) :: asked) (p :: given) := by
  obtain ⟨n, same, all, alive, closing⟩ := h
  refine ⟨n + 1, ?_, ?_, ?_, closing⟩
  · simp [same]
  · exact List.forall_mem_cons.mpr ⟨passes, all⟩
  · exact List.forall_mem_cons.mpr ⟨unset, alive⟩

theorem orderly (h : Delivers r signal inside starts asked given) (whole : .broken ∉ given) :
    Orderly given := by
  obtain ⟨n, _, passing, _, closing⟩ := h
  have quiet : .broken ∉ given.drop n := fun mem => whole (List.mem_of_mem_drop mem)
  have rest := (closing.orderly quiet).passing_append passing
  rwa [List.take_append_drop] at rest

end Delivers

namespace Stream

variable {t : Stream} {r : Resolver} {k : Nat} {s : Snapshot} {c : RequestContext}

theorem recover_poll_resolving {z : (t.recover r).State} {e : Failure} {x : t.State} {w : r.State}
    (h : z = .resolving e x w) (st : Store) : (t.recover r).poll z st = t.resolve r e x w st := by
  subst h
  rfl

theorem resolve_of_pending {e : Failure} {x : t.State} {w : r.State} {mid : Store}
    (h : (r.poll w mid).1 = .pending) :
    (t.resolve r e x w mid).1 = .pending ∧
      (t.resolve r e x w mid).2.1 = .resolving e x (r.poll w mid).2.1 := by
  unfold resolve
  generalize r.poll w mid = polled at h ⊢
  obtain ⟨p, w', after⟩ := polled
  cases h
  exact ⟨rfl, rfl⟩

theorem resolve_of_ready {e : Failure} {x : t.State} {w : r.State} {mid : Store}
    {errors : List Response.Error} (h : (r.poll w mid).1 = .ready errors) :
    (t.resolve r e x w mid).1 = .ready (some (.error (.publisher errors e))) ∧
      (t.resolve r e x w mid).2.1 = .failed := by
  unfold resolve
  generalize r.poll w mid = polled at h ⊢
  obtain ⟨p, w', after⟩ := polled
  cases h
  exact ⟨rfl, rfl⟩

theorem resolve_of_broken {e : Failure} {x : t.State} {w : r.State} {mid : Store}
    (h : (r.poll w mid).1 = .broken) : (t.resolve r e x w mid).1 = .broken := by
  unfold resolve
  generalize r.poll w mid = polled at h ⊢
  obtain ⟨p, w', after⟩ := polled
  cases h
  rfl

theorem resolve_ne_end (e : Failure) (x : t.State) (w : r.State) (mid : Store) :
    (t.resolve r e x w mid).1 ≠ .ready none := by
  unfold resolve
  rcases r.poll w mid with ⟨p, w', after⟩
  cases p <;> simp

section Reading

variable {z : (t.recover r).State} {x : t.State} {st : Store}

theorem recover_poll_passes (h : z = .reading x) (passes : (t.poll x st).1.Passes) :
    ((t.recover r).poll z st).1 = (t.poll x st).1 ∧
      ((t.recover r).poll z st).2.1 = .reading (t.poll x st).2.1 := by
  subst h
  simp only [recover]
  generalize t.poll x st = polled at passes ⊢
  obtain ⟨p, x', after⟩ := polled
  match p, passes with
  | .pending, _ => exact ⟨rfl, rfl⟩
  | .ready (some (.ok v)), _ => exact ⟨rfl, rfl⟩

theorem recover_poll_end (h : z = .reading x) (ended : (t.poll x st).1 = .ready none) :
    ((t.recover r).poll z st).1 = .ready none := by
  subst h
  simp only [recover]
  generalize t.poll x st = polled at ended ⊢
  obtain ⟨p, x', after⟩ := polled
  cases ended
  rfl

theorem recover_poll_publisher (h : z = .reading x) {e : Failure}
    (failed : (t.poll x st).1 = .ready (some (.error e))) (known : e.isPublisher = true) :
    ((t.recover r).poll z st).1 = .ready (some (.error e)) ∧
      ((t.recover r).poll z st).2.1 = .failed := by
  subst h
  simp only [recover]
  generalize t.poll x st = polled at failed ⊢
  obtain ⟨p, x', after⟩ := polled
  cases failed
  simp [known]

theorem recover_poll_failure (h : z = .reading x) {e : Failure}
    (failed : (t.poll x st).1 = .ready (some (.error e))) (unknown : e.isPublisher = false) :
    (t.recover r).poll z st =
      t.resolve r e (t.poll x st).2.1 (r.start e) (t.poll x st).2.2 := by
  subst h
  simp only [recover]
  generalize t.poll x st = polled at failed ⊢
  obtain ⟨p, x', after⟩ := polled
  cases failed
  simp [unknown]

theorem recover_poll_broken (h : z = .reading x) (broken : (t.poll x st).1 = .broken) :
    ((t.recover r).poll z st).1 = .broken := by
  subst h
  simp only [recover]
  generalize t.poll x st = polled at broken ⊢
  obtain ⟨p, x', after⟩ := polled
  cases broken
  rfl

end Reading

theorem subscribed_stops (y : (t.subscribed r k s c).State) (st : Store)
    (h : y.2 = true ∨ st.isSet k = true) :
    ((t.subscribed r k s c).poll y st).1 = .ready none ∧
      ((t.subscribed r k s c).poll y st).2.1.2 = true := by
  have stops := (t.recover r).bind_poll_stops y (h.imp_right (s.isSet_enter c st k).trans)
  exact ⟨congrArg (·.1) stops, congrArg (·.2.1.2) stops⟩

/-- With the signal unset a subscription that has not stopped gives what its recovery gives, and
stops at the end of it. -/
theorem subscribed_relays (y : (t.subscribed r k s c).State) (st : Store) (running : y.2 = false)
    (unset : st.isSet k = false) :
    ((t.subscribed r k s c).poll y st).1 = ((t.recover r).poll y.1 (s.enter c st)).1 ∧
      (((t.recover r).poll y.1 (s.enter c st)).1 = .ready none →
        ((t.subscribed r k s c).poll y st).2.1.2 = true) ∧
      (((t.recover r).poll y.1 (s.enter c st)).1 ≠ .ready none →
        ((t.subscribed r k s c).poll y st).2.1.1 = ((t.recover r).poll y.1 (s.enter c st)).2.1 ∧
          ((t.subscribed r k s c).poll y st).2.1.2 = false) := by
  obtain ⟨x, stopped⟩ := y
  cases running
  have unset' : (s.enter c st).isSet k = false := by simpa using unset
  obtain ⟨same, stops, runs⟩ := (t.recover r).bind_poll_unset x unset'
  refine ⟨same, stops, ?_⟩
  intro more
  exact Prod.ext_iff.mp (runs more)

theorem subscribed_answers_stopped (starts : List Store) (y : (t.subscribed r k s c).State)
    (h : y.2 = true) : (t.subscribed r k s c).answers y starts = ends starts.length := by
  induction starts generalizing y with
  | nil => rfl
  | cons st rest ih =>
    obtain ⟨first, stopped⟩ := subscribed_stops y st (.inl h)
    rw [Source.answers_cons, first, ih _ stopped]
    rfl

theorem subscribed_answers_ends {st : Store} {y : (t.subscribed r k s c).State}
    (first : ((t.subscribed r k s c).poll y st).1 = .ready none)
    (stopped : ((t.subscribed r k s c).poll y st).2.1.2 = true) (starts : List Store) :
    (t.subscribed r k s c).answers y (st :: starts) = ends (starts.length + 1) := by
  rw [Source.answers_cons, first, subscribed_answers_stopped starts _ stopped]
  rfl

theorem subscribed_answers_set {st : Store} (set : st.isSet k = true)
    (y : (t.subscribed r k s c).State) (starts : List Store) :
    (t.subscribed r k s c).answers y (st :: starts) = ends (starts.length + 1) := by
  obtain ⟨first, stopped⟩ := subscribed_stops y st (.inr set)
  exact subscribed_answers_ends first stopped starts

theorem subscribed_answers_failed (starts : List Store) (y : (t.subscribed r k s c).State)
    (failed : y.1 = .failed) (running : y.2 = false) :
    (t.subscribed r k s c).answers y starts = ends starts.length := by
  cases starts with
  | nil => rfl
  | cons st starts =>
    by_cases set : st.isSet k = true
    · exact subscribed_answers_set set y starts
    · obtain ⟨first, stops, _⟩ := subscribed_relays y st running (by simpa using set)
      have ended : ((t.recover r).poll y.1 (s.enter c st)).1 = .ready none := by
        rw [failed]
        rfl
      exact subscribed_answers_ends (first.trans ended) (stops ended) starts

theorem subscribed_resolution (e : Failure) (x : t.State) (starts : List Store) (st mid : Store)
    (w : r.State) (y : (t.subscribed r k s c).State) (unset : st.isSet k = false)
    (given : ((t.subscribed r k s c).poll y st).1 = (t.resolve r e x w mid).1)
    (state : ((t.subscribed r k s c).poll y st).2.1.1 = (t.resolve r e x w mid).2.1)
    (running : ((t.subscribed r k s c).poll y st).2.1.2 = false)
    (done : (r.poll w mid).1 ≠ .pending) (answers : List (Poll (List Response.Error))) :
    Resolution k e (st :: starts) ((r.poll w mid).1 :: answers)
      ((t.subscribed r k s c).answers y (st :: starts)) := by
  rw [Source.answers_cons, given]
  cases answer : (r.poll w mid).1 with
  | pending => exact absurd answer done
  | ready errors =>
    obtain ⟨resolved, failed⟩ := resolve_of_ready (t := t) (e := e) (x := x) answer
    rw [resolved, subscribed_answers_failed _ _ (state.trans failed) running]
    exact .resolved unset
  | broken =>
    rw [resolve_of_broken answer]
    exact .broken unset

theorem subscribed_resolves (e : Failure) (x : t.State) (starts : List Store) (st mid : Store)
    (w : r.State) (y : (t.subscribed r k s c).State) (unset : st.isSet k = false)
    (given : ((t.subscribed r k s c).poll y st).1 = (t.resolve r e x w mid).1)
    (state : ((t.subscribed r k s c).poll y st).2.1.1 = (t.resolve r e x w mid).2.1)
    (running : ((t.subscribed r k s c).poll y st).2.1.2 = false) :
    ∃ waits rest, (t.subscribed r k s c).answers y (st :: starts) =
        List.replicate waits .pending ++ rest ∧
      (∀ p ∈ (r.answers w (mid :: starts.map (s.enter c))).take waits, p = .pending) ∧
      (∀ st' ∈ (st :: starts).take waits, st'.isSet k = false) ∧
      Resolution k e ((st :: starts).drop waits)
        ((r.answers w (mid :: starts.map (s.enter c))).drop waits) rest := by
  -- The resolver's answers are read off one by one; `starts` shrinks as long as it waits.
  induction starts generalizing st mid w y with
  | nil =>
    by_cases answer : (r.poll w mid).1 = .pending
    · obtain ⟨waits, _⟩ := resolve_of_pending (t := t) (e := e) (x := x) answer
      refine ⟨1, [], ?_, ?_, by simp [unset], .nil⟩
      · rw [Source.answers_cons, given, waits]
        rfl
      · simp [Resolver.answers_cons, answer]
    · exact ⟨0, _, rfl, by simp, by simp,
        subscribed_resolution e x [] st mid w y unset given state running answer _⟩
  | cons next starts ih =>
    by_cases answer : (r.poll w mid).1 = .pending
    · obtain ⟨waits, resolving⟩ := resolve_of_pending (t := t) (e := e) (x := x) answer
      have whole : (t.subscribed r k s c).answers y (st :: next :: starts) =
          .pending :: (t.subscribed r k s c).answers
            ((t.subscribed r k s c).poll y st).2.1 (next :: starts) := by
        rw [Source.answers_cons, given, waits]
      by_cases set : next.isSet k = true
      · have stops := subscribed_answers_set set ((t.subscribed r k s c).poll y st).2.1 starts
        refine ⟨1, _, whole.trans (congrArg _ stops), ?_, by simp [unset], .cancelled set⟩
        simp [Resolver.answers_cons, answer]
      · have unset' : next.isSet k = false := by simpa using set
        obtain ⟨same, _, on⟩ := subscribed_relays _ next running unset'
        rw [recover_poll_resolving (state.trans resolving)] at same on
        obtain ⟨state', running'⟩ := on (resolve_ne_end e x _ _)
        obtain ⟨n, rest, answers, waiting, alive, resolution⟩ :=
          ih next (s.enter c next) (r.poll w mid).2.1 _ unset' same state' running'
        refine ⟨n + 1, rest, whole.trans (congrArg _ answers), ?_, ?_, resolution⟩
        · exact List.forall_mem_cons.mpr ⟨answer, waiting⟩
        · exact List.forall_mem_cons.mpr ⟨unset, alive⟩
    · exact ⟨0, _, rfl, by simp, by simp,
        subscribed_resolution e x (next :: starts) st mid w y unset given state running answer _⟩

theorem subscribed_closes (st : Store) (starts : List Store) (y : (t.subscribed r k s c).State)
    (x : t.State) (reading : y.1 = .reading x) (running : y.2 = false)
    (unset : st.isSet k = false) (last : ¬ (t.poll x (s.enter c st)).1.Passes)
    (asked : List (Poll (Option Outcome) × Store)) :
    Closing r k (s.enter c) (st :: starts)
      (((t.poll x (s.enter c st)).1, (t.poll x (s.enter c st)).2.2) :: asked)
      ((t.subscribed r k s c).answers y (st :: starts)) := by
  obtain ⟨given, stops, on⟩ := subscribed_relays y st running unset
  match answer : (t.poll x (s.enter c st)).1 with
  | .pending => simp [answer, Poll.Passes] at last
  | .ready (some (.ok v)) => simp [answer, Poll.Passes] at last
  | .broken =>
    rw [Source.answers_cons, given, recover_poll_broken reading answer]
    exact .broken unset
  | .ready none =>
    have ended := recover_poll_end reading answer
    rw [subscribed_answers_ends (given.trans ended) (stops ended)]
    exact .ended unset
  | .ready (some (.error e)) =>
    by_cases known : e.isPublisher = true
    · obtain ⟨gives, failed⟩ := recover_poll_publisher reading answer known
      obtain ⟨state, running'⟩ := on (by simp [gives])
      rw [Source.answers_cons, given, gives,
        subscribed_answers_failed starts _ (state.trans failed) running']
      exact .publisher unset known
    · have unknown : e.isPublisher = false := by simpa using known
      rw [recover_poll_failure reading answer unknown] at given on
      obtain ⟨state, running'⟩ := on (resolve_ne_end _ _ _ _)
      obtain ⟨waits, rest, whole, waiting, alive, resolution⟩ :=
        subscribed_resolves e _ starts st _ _ y unset given state running'
      rw [whole]
      exact .failure unset unknown waits _ rfl waiting alive resolution

theorem subscribed_delivers (starts : List Store) (y : (t.subscribed r k s c).State)
    (x : t.State) (reading : y.1 = .reading x) (running : y.2 = false) :
    Delivers r k (s.enter c) starts (t.polls x (starts.map (s.enter c)))
      ((t.subscribed r k s c).answers y starts) := by
  induction starts generalizing y x with
  | nil => exact .of_closing .nil
  | cons st starts ih =>
    by_cases set : st.isSet k = true
    · rw [subscribed_answers_set set]
      exact .of_closing (.cancelled set)
    · have unset : st.isSet k = false := by simpa using set
      by_cases passes : (t.poll x (s.enter c st)).1.Passes
      · obtain ⟨given, _, on⟩ := subscribed_relays y st running unset
        obtain ⟨gives, reading'⟩ := recover_poll_passes (r := r) reading passes
        obtain ⟨state, running'⟩ := on (by
          rw [gives]
          intro ended
          simp [ended, Poll.Passes] at passes)
        rw [Source.answers_cons, given, gives]
        exact .cons unset passes (ih _ _ (state.trans reading') running')
      · exact .of_closing (subscribed_closes st starts y x reading running unset passes _)

end Stream

/-- On a subscription field, a delegate's value that is given over time or later becomes a stream.
In every run of it the subscriber gets the values of the source before its first failure, then the
failure, as it is or resolved, and then the end; only the signal of the request cuts this short. -/
theorem subscription_delivers {d : Decorator} {call : Call} {st st' : Store} {v : FieldValue}
    {t : Stream} (subscription : d.subscription = true)
    (fetched : (call.snapshot st).wrap (d.delegate.fetch call) st = (.ok v, st'))
    (alive : st'.isCancelled call.context = false) (streamable : d.adapters.asStream v = .ok t) :
    ∃ u : Stream,
      d.fetch call st =
        (.ok (.stream u), ((call.snapshot st).overlay st' call.context).2) ∧
      ∀ starts : List Store,
        let inside := (call.snapshot st).enter ((call.snapshot st).overlay st' call.context).1
        Delivers d.resolver call.context.signal inside starts
            (t.polls t.state (starts.map inside)) (u.answers u.state starts) ∧
          (.broken ∉ u.answers u.state starts → Orderly (u.answers u.state starts)) := by
  refine ⟨_, Decorator.fetch_of_asStream subscription fetched alive streamable, ?_⟩
  intro starts
  have delivers := Stream.subscribed_delivers (r := d.resolver) (k := call.context.signal)
    (s := call.snapshot st) (c := ((call.snapshot st).overlay st' call.context).1) starts
    (.reading t.state, false) t.state rfl rfl
  exact ⟨delivers, delivers.orderly⟩

/-- A value and then a failure that no resolver knows, on a request with a signal of its own. -/
theorem subscription_delivers_failure :
    let failing : Stream := .ofScript none [.emit (.literal (.int 1)), .fail (.other "gone")]
    let d : Decorator := {
      delegate := { fetch := fun _ st => (.ok (.stream failing), st) }
      subscription := true
      resolver := .unresolved
      adapters := .standard }
    let call : Call := { context := ⟨0, 0, none⟩, field := ⟨"Subscription", "ticks"⟩ }
    d.subscription = true ∧
    (call.snapshot .empty).wrap (d.delegate.fetch call) .empty = (.ok (.stream failing), .empty) ∧
    Store.empty.isCancelled call.context = false ∧
    d.adapters.asStream (.stream failing) = .ok failing ∧
    ∃ u : Stream,
      d.fetch call .empty =
        (.ok (.stream u), ((call.snapshot .empty).overlay .empty call.context).2) ∧
      ∀ starts : List Store,
        let inside := (call.snapshot .empty).enter
          ((call.snapshot .empty).overlay .empty call.context).1
        Delivers .unresolved 0 inside starts
            (failing.polls failing.state (starts.map inside)) (u.answers u.state starts) ∧
          (.broken ∉ u.answers u.state starts → Orderly (u.answers u.state starts)) := by
  intro failing d call
  have fetched : (call.snapshot .empty).wrap (d.delegate.fetch call) .empty =
      (.ok (.stream failing), .empty) := rfl
  exact ⟨rfl, fetched, rfl, rfl, subscription_delivers (d := d) rfl fetched rfl rfl⟩

end Fieldwork
