import Fieldwork.Proofs.Async.Drained
import Fieldwork.Proofs.Field.Awaiting
import Fieldwork.Proofs.Field.Outcome
import Fieldwork.Proofs.Field.Subscription

/-!
Whole runs of a field with one value whose delegate gives a stream. Each poll reads the stream up to
its next stop and keeps the values, so what the field gives at last follows from what the stream has
said in the run with the waits left out: the list of all values when it ends, and else its first
failure.
-/
namespace Fieldwork

def said (items : List Json.Value) : List (Option Outcome) := items.map fun v => some (.ok v)

def Stream.gives (items : List Json.Value) : List (Poll (Option Outcome)) :=
  (said items).map .ready

namespace Poll

def ready? {α : Type} : Poll α → Option α
  | ready x => some x
  | _ => none

end Poll

/-- A run, poll by poll, of a future that collects `t`, is bound to `signal` and has `s` and `c`
installed in each poll. `x` is the state of the stream at the first of them, `items` what has been
collected until then, and `heard` what the stream says in the polls of it that are made. -/
inductive Collects (t : Stream) (signal : Nat) (s : Snapshot) (c : RequestContext) :
    t.State → List Json.Value → List Store → List (Poll (Option Outcome)) →
    List (Poll Outcome × Store) → Prop
  | nil : Collects t signal s c x items [] [] []
  | cancelled (set : Store.isSet st signal = true) :
      Collects t signal s c x items (st :: starts) []
        ((.ready (.ok .null), s.leave c st (t.release x (s.enter c st))) :: spent s c starts)
  | waits (unset : Store.isSet st signal = false)
      (drains : t.Drains x (s.enter c st) more .pending x' after)
      (rest : Collects t signal s c x' (items ++ more) starts heard given) :
      Collects t signal s c x items (st :: starts) (Stream.gives more ++ .pending :: heard)
        ((.pending, s.leave c st after) :: given)
  | ended (unset : Store.isSet st signal = false)
      (drains : t.Drains x (s.enter c st) more (.ready none) x' after) :
      Collects t signal s c x items (st :: starts) (Stream.gives more ++ [.ready none])
        ((.ready (.ok (.array (items ++ more))), s.leave c st (t.release x' after)) ::
          spent s c starts)
  | failed (unset : Store.isSet st signal = false)
      (drains : t.Drains x (s.enter c st) more (.ready (some (.error e))) x' after) :
      Collects t signal s c x items (st :: starts)
        (Stream.gives more ++ [.ready (some (.error e))])
        ((.ready (.error e), s.leave c st (t.release x' after)) :: spent s c starts)
  | broken (unset : Store.isSet st signal = false)
      (drains : t.Drains x (s.enter c st) more .broken x' after) :
      Collects t signal s c x items (st :: starts) (Stream.gives more ++ [.broken])
        ((.broken, s.leave c st after) :: given)

def value? : Option Outcome → Option Json.Value
  | some (.ok v) => some v
  | _ => none

/-- What a stream that has said all this comes to: nothing as long as it has given values only, then
the list of all values if it has ended, and its failure if it has failed. -/
def comesTo (all : List (Option Outcome)) : Option Outcome :=
  match all.find? fun o => (value? o).isNone with
  | none => none
  | some none => some (.ok (.array (all.filterMap value?)))
  | some (some o) => some o

variable {t : Stream} {k : Nat} {s : Snapshot} {c : RequestContext} {x : t.State}
  {items : List Json.Value} {starts : List Store} {heard : List (Poll (Option Outcome))}
  {given : List (Poll Outcome × Store)}

theorem Awaits.collects {y : t.collect.State} (h : Awaits t.collect k s c y starts given)
    (standing : y = some (x, items)) (bursts : t.Bursts) :
    ∃ heard, Collects t k s c x items starts heard given := by
  induction h generalizing x items with
  | nil => exact ⟨[], .nil⟩
  | cancelled set =>
    subst standing
    exact ⟨[], .cancelled set⟩
  | @waits st _ _ _ _ _ unset asked rest ih =>
    subst standing
    obtain ⟨more, p, x', left, drains⟩ := bursts.drains x (s.enter c st)
    rw [drains.collect_poll bursts] at asked
    match p, drains with
    | .pending, drains =>
      cases asked
      obtain ⟨heard, onward⟩ := ih rfl
      exact ⟨_, .waits unset drains onward⟩
    | .ready none, _ => cases asked
    | .ready (some o), _ => cases asked
    | .broken, _ => cases asked
  | @done st _ _ _ _ _ unset asked =>
    subst standing
    obtain ⟨more, p, x', left, drains⟩ := bursts.drains x (s.enter c st)
    rw [drains.collect_poll bursts] at asked
    match p, drains with
    | .pending, _ => cases asked
    | .ready none, drains =>
      cases asked
      exact ⟨_, .ended unset drains⟩
    | .ready (some (.error e)), drains =>
      cases asked
      exact ⟨_, .failed unset drains⟩
    | .ready (some (.ok v)), drains => exact absurd rfl (drains.stops v)
    | .broken, _ => cases asked
  | @broken st _ _ _ _ _ unset asked =>
    subst standing
    obtain ⟨more, p, x', left, drains⟩ := bursts.drains x (s.enter c st)
    rw [drains.collect_poll bursts] at asked
    match p, drains with
    | .pending, _ => cases asked
    | .ready none, _ => cases asked
    | .ready (some o), _ => cases asked
    | .broken, drains =>
      cases asked
      exact ⟨_, .broken unset drains⟩

theorem said_append (items more : List Json.Value) :
    said (items ++ more) = said items ++ said more :=
  List.map_append

theorem values_said (items : List Json.Value) : (said items).filterMap value? = items := by
  simp [said, List.filterMap_map, Function.comp_def, value?]

theorem find_said (items : List Json.Value) (rest : List (Option Outcome)) :
    (said items ++ rest).find? (fun o => (value? o).isNone) =
      rest.find? fun o => (value? o).isNone := by
  have values : (said items).find? (fun o => (value? o).isNone) = none := by
    simp [said, value?]
  rw [List.find?_append, values, Option.none_or]

theorem comesTo_said (items : List Json.Value) : comesTo (said items) = none := by
  have first := find_said items []
  rw [List.append_nil] at first
  simp [comesTo, first]

theorem comesTo_ended (items : List Json.Value) :
    comesTo (said items ++ [none]) = some (.ok (.array items)) := by
  unfold comesTo
  rw [find_said, List.filterMap_append, values_said]
  simp [value?]

theorem comesTo_failed (items : List Json.Value) (e : Failure) :
    comesTo (said items ++ [some (.error e)]) = some (.error e) := by
  unfold comesTo
  rw [find_said]
  simp [value?]

namespace Stream

@[simp] theorem ready_gives (items : List Json.Value) :
    (gives items).filterMap Poll.ready? = said items := by
  simp [gives, Poll.ready?, Function.comp_def]

@[simp] theorem waits_gives (items : List Json.Value) :
    (gives items).countP Poll.isPending = 0 := by
  simp [gives, List.countP_map, Function.comp_def]

theorem gives_passes {items : List Json.Value} : ∀ p ∈ gives items, p.Passes := by
  simp [gives, said, Poll.Passes]

end Stream

namespace Collects

theorem passes (h : Collects t k s c x items starts heard given) :
    ∀ p ∈ heard.dropLast, p.Passes := by
  induction h with
  | nil => simp
  | cancelled set => simp
  | @waits _ _ _ _ _ _ _ heard _ unset drains rest ih =>
    intro p mem
    rw [List.dropLast_append_cons] at mem
    rcases List.mem_append.mp mem with before | onward
    · exact Stream.gives_passes p before
    · cases heard with
      | nil => cases onward
      | cons q heard =>
        rw [List.dropLast_cons_of_ne_nil (List.cons_ne_nil q heard)] at onward
        rcases List.mem_cons.mp onward with rfl | later
        · exact trivial
        · exact ih p later
  | ended unset drains => simpa using Stream.gives_passes
  | failed unset drains => simpa using Stream.gives_passes
  | broken unset drains => simpa using Stream.gives_passes

theorem comes (h : Collects t k s c x items starts heard given)
    (alive : ∀ st ∈ starts, st.isSet k = false) (whole : .broken ∉ heard) :
    upToDone (given.map (·.1)) =
      List.replicate (heard.countP Poll.isPending) .pending ++
        ((comesTo (said items ++ heard.filterMap Poll.ready?)).map .ready).toList := by
  induction h with
  | nil => simp [comesTo_said, upToDone]
  | cancelled set => simp [alive _ List.mem_cons_self] at set
  | waits unset drains rest ih =>
    have quiet := fun mem => whole (List.mem_append_right _ (List.mem_cons_of_mem _ mem))
    have onward := ih (List.forall_mem_cons.mp alive).2 quiet
    simp [upToDone, onward, List.countP_cons, List.replicate_succ, List.filterMap_cons, Poll.ready?,
      said_append]
  | ended unset drains =>
    simp [upToDone, Poll.ready?, comesTo_ended, ← List.append_assoc, ← said_append]
  | failed unset drains =>
    simp [upToDone, Poll.ready?, comesTo_failed, ← List.append_assoc, ← said_append]
  | broken unset drains => simp at whole

end Collects

/-- Each poll takes what the stream gives up to its next stop, and nothing after its end or its
first failure. Without cancellation the future waits as often as the stream and then gives what the
stream comes to, in which the waits play no part. The first poll that starts with the signal set
gives null, whatever has been collected. -/
def FollowsStream (t : Stream) (signal : Nat) (s : Snapshot) (c : RequestContext)
    (starts : List Store) (given : List (Poll Outcome × Store)) : Prop :=
  ∃ heard : List (Poll (Option Outcome)),
    Collects t signal s c t.state [] starts heard given ∧
    (∀ p ∈ heard.dropLast, p.Passes) ∧
    ((∀ st ∈ starts, st.isSet signal = false) → .broken ∉ heard →
      upToDone (given.map (·.1)) =
        List.replicate (heard.countP Poll.isPending) .pending ++
          ((comesTo (heard.filterMap Poll.ready?)).map .ready).toList) ∧
    ∀ n st, starts[n]? = some st → st.isSet signal = true →
      (∀ e ∈ given.take n, e.1 = .pending) → (given.map (·.1))[n]? = some (.ready (.ok .null))

theorem Future.awaited_followsStream (bursts : t.Bursts) (starts : List Store) :
    FollowsStream t k s c starts
      ((t.collect.awaited k s c).polls (t.collect.awaited k s c).state starts) := by
  have awaits := Future.awaited_awaits (f := t.collect) (k := k) (s := s) (c := c)
    (y := some (some (t.state, []))) starts rfl
  obtain ⟨heard, collects⟩ := awaits.collects rfl bursts
  refine ⟨heard, collects, collects.passes, collects.comes, ?_⟩
  intro n st begun set waited
  exact awaits.cancels begun set waited

/-- On a field that is not a subscription, a stream of the delegate, by itself or as the data of a
structured result, becomes a future that follows it. -/
theorem collected_follows_stream {d : Decorator} {call : Call} {st after : Store} {w : FieldValue}
    {t : Stream} (single : d.subscription = false)
    (fetched : d.delegate.fetch call (call.inside st) = (.ok w, after))
    (alive : after.isCancelled call.context = false)
    (taken : d.adapters.Takes w.content (.stream t)) (bursts : t.Bursts) :
    ∃ u : Future,
      d.fetch call st = (.ok (w.withContent (.future u)),
        ((call.snapshot st).overlay (call.outside st after) call.context).2) ∧
      ∀ starts : List Store,
        FollowsStream t call.context.signal (call.snapshot st)
          ((call.snapshot st).overlay (call.outside st after) call.context).1 starts
          (u.polls u.state starts) :=
  ⟨_, Decorator.fetch_of_content fetched (.future alive single taken),
    Future.awaited_followsStream bursts⟩

/-- A stream that waits in between and fails after two values, as the data of a structured
result. -/
theorem collected_follows_stream_failure :
    let t : Stream := .ofScript none
      [.emit (.literal (.int 1)), .wait 1, .emit (.literal (.int 2)), .fail (.other "gone")]
    let w : FieldValue := .result (.stream t) [] none
    let d : Decorator := {
      delegate := { fetch := fun _ st => (.ok w, st) }
      subscription := false
      resolver := .unresolved
      adapters := .standard }
    let call : Call := { context := ⟨0, 0, none⟩, field := ⟨"Query", "ticks"⟩ }
    d.subscription = false ∧
    d.delegate.fetch call (call.inside .empty) = (.ok w, .empty) ∧
    Store.empty.isCancelled call.context = false ∧
    d.adapters.Takes w.content (.stream t) ∧ t.Bursts ∧
    ∃ u : Future,
      d.fetch call .empty = (.ok (.result (.future u) [] none),
        ((call.snapshot .empty).overlay .empty call.context).2) ∧
      ∀ starts : List Store,
        FollowsStream t 0 (call.snapshot .empty)
          ((call.snapshot .empty).overlay .empty call.context).1 starts
          (u.polls u.state starts) := by
  intro t w d call
  have fetched : d.delegate.fetch call (call.inside .empty) = (.ok w, .empty) := rfl
  have bursts : t.Bursts := Stream.ofScript_bursts none _
  exact ⟨rfl, fetched, rfl, .stream t, bursts,
    collected_follows_stream (d := d) rfl fetched rfl (.stream t) bursts⟩

end Fieldwork
