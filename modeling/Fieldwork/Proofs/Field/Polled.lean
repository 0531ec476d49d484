import Fieldwork.Proofs.Field.Outcome

/-!
Polls of what a decorated fetcher gives. The source is the one that the adapters take the delegate's
value for. Every poll of the given value is a poll of that source, once bound and recovered, in a
store that has been prepared for it, and what the source leaves there is put back in order.
-/
namespace Fieldwork

/-- For each store `before` in which a poll starts there are a store `inside`, in which `inner` is
polled instead, and what is made of the store that it leaves. -/
def Source.PollsInside {α : Type} (inner : Source α) (Q : Store → Store → (Store → Store) → Prop)
    (poll : inner.State → Store → Poll α × inner.State × Store) : Prop :=
  ∀ before, ∃ (inside : Store) (leave : Store → Store), Q before inside leave ∧ ∀ x,
    poll x before =
      ((inner.poll x inside).1, (inner.poll x inside).2.1, leave (inner.poll x inside).2.2)

/-- What the fetch gives for the content `v` of its delegate's value, and how that is polled. The
resolver of a stream that has failed is polled in the same way as the stream. -/
inductive Decorator.PolledInside (d : Decorator) (call : Call) (st : Store)
    (Q : Store → Store → (Store → Store) → Prop) (v : FieldValue) : FieldValue → Prop
  | future (single : d.subscription = false) (taken : d.adapters.asSingle v = .future f)
      (polls : Source.PollsInside (f.bind call.context.signal) Q
        (f.awaited call.context.signal (call.snapshot st) (d.copy call st)).poll) :
      PolledInside d call st Q v
        (.future (f.awaited call.context.signal (call.snapshot st) (d.copy call st)))
  | stream (subscription : d.subscription = true) (taken : d.adapters.asStream v = .ok t)
      (polls : Source.PollsInside ((t.recover d.resolver).bind call.context.signal).toSource Q
        (t.subscribed d.resolver call.context.signal (call.snapshot st) (d.copy call st)).poll)
      (resolves : ∀ cause x w before, before.isSet call.context.signal = false →
        ∃ inside leave, Q before inside leave ∧
          ((t.subscribed d.resolver call.context.signal (call.snapshot st) (d.copy call st)).poll
            (.resolving cause x w, false) before).1 = (t.resolve d.resolver cause x w inside).1) :
      PolledInside d call st Q v (.stream
        (t.subscribed d.resolver call.context.signal (call.snapshot st) (d.copy call st)))
  | still (noFuture : u.isFuture = false) (noStream : u.isStream = false) :
      PolledInside d call st Q v u

theorem Stream.subscribed_poll_resolving (t : Stream) (r : Resolver) {k : Nat} (s : Snapshot)
    (c : RequestContext) (cause : Failure) (x : t.State) (w : r.State) {st : Store}
    (unset : st.isSet k = false) :
    ((t.subscribed r k s c).poll (.resolving cause x w, false) st).1 =
      (t.resolve r cause x w (s.enter c st)).1 := by
  have unset' : (s.enter c st).isSet k = false := by simpa using unset
  exact ((t.recover r).bind_poll_unset (.resolving cause x w) unset').1

theorem Source.pollsInside_pollWithin {α : Type} (inner : Source α) {s : Snapshot}
    {c : RequestContext} {Q : Store → Store → (Store → Store) → Prop}
    (enters : ∀ before, Q before (s.enter c before) (s.leave c before)) :
    inner.PollsInside Q (s.pollWithin c inner) := by
  intro before
  exact ⟨s.enter c before, s.leave c before, enters before, fun _ => rfl⟩

theorem FieldValue.still_of_not_comes {u : FieldValue} (h : ¬ u.Comes) :
    u.isFuture = false ∧ u.isStream = false := by
  cases u with
  | future f => exact absurd (.future f) h
  | stream t => exact absurd (.stream t) h
  | value v => exact ⟨rfl, rfl⟩
  | result data errors handed => exact ⟨rfl, rfl⟩
  | foreign x => exact ⟨rfl, rfl⟩

namespace Decorator

variable {d : Decorator} {call : Call} {st after : Store} {v w : FieldValue}
  {Q : Store → Store → (Store → Store) → Prop}

theorem fetch_given_value (fetched : (d.fetch call st).1 = .ok w) :
    ∃ v after, d.delegate.fetch call (call.inside st) = (.ok v, after) := by
  rw [d.fetch_eq rfl] at fetched
  rcases given : d.delegate.fetch call (call.inside st) with ⟨r, after⟩
  rw [given] at fetched
  cases r with
  | error e => cases fetched
  | ok v => exact ⟨v, after, rfl⟩

theorem copy_eq (given : d.delegate.fetch call (call.inside st) = (.ok v, after)) :
    ((call.snapshot st).overlay (call.outside st after) call.context).1 = d.copy call st := by
  have left : (d.delegate.fetch call (call.inside st)).2 = after := congrArg Prod.snd given
  rw [← left]
  rfl

/-- If `Q` holds of the installed snapshot with the copied context, it holds of every poll. -/
theorem fetch_polled (fetched : (d.fetch call st).1 = .ok w)
    (given : d.delegate.fetch call (call.inside st) = (.ok v, after))
    (enters : ∀ before, Q before ((call.snapshot st).enter (d.copy call st) before)
      ((call.snapshot st).leave (d.copy call st) before)) :
    d.PolledInside call st Q v.content w.content := by
  by_cases comes : w.content.Comes
  · obtain ⟨v', after', given', outcome⟩ := fetch_outcome fetched comes
    cases given.symm.trans given'
    generalize (d.fetch call st).2 = left at outcome
    generalize w.content = u at outcome comes ⊢
    generalize v.content = x at outcome ⊢
    cases outcome with
    | null => cases comes
    | cancelled present set => cases comes
    | stream unset subscription taken =>
      rw [copy_eq given]
      refine .stream subscription (Adapters.asStream_of_takes taken)
        (Source.pollsInside_pollWithin _ enters) ?_
      intro cause x y before unset
      exact ⟨_, _, enters before, Stream.subscribed_poll_resolving _ _ _ _ cause x y unset⟩
    | future unset single taken =>
      rw [copy_eq given]
      exact .future single (Adapters.asSingle_of_takes taken)
        (Source.pollsInside_pollWithin _ enters)
    | untouched present unset single refused =>
      cases comes with
      | future f => exact absurd (.future f) (refused _)
      | stream t => exact absurd (.stream t) (refused _)
  · obtain ⟨noFuture, noStream⟩ := FieldValue.still_of_not_comes comes
    exact .still noFuture noStream

end Decorator
end Fieldwork
