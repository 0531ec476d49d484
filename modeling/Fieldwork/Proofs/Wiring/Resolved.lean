import Fieldwork.Proofs.Async.Turns
import Fieldwork.Proofs.Field.Outcome
import Fieldwork.Proofs.Wiring.Install
import Fieldwork.Field.Built

/-!
How subscriptions of an installed wiring fail. All of them have one resolver, which asks those that
the installer has been given in turn, and a subscription fails with what it makes of the first
failure of its source, which stays the cause.
-/
namespace Fieldwork

/-- In every run `r` asks the resolvers in turn, and waits as often as those that it asks. Its
answer is never empty: it is that of the last resolver that is asked, and those before it have no
errors, or it is that of none of them, and all of them have been asked and have no errors. -/
def Resolver.AsksInTurn (r : Resolver) (rs : List Resolver) : Prop :=
  ∀ (f : Failure) (st : Store) (starts : List Store), ∃ turns,
    let given := r.tells f (st :: starts)
    Consults f rs (st :: starts) turns given ∧ waits given = waits turns.flatten ∧
    ∀ errors after, (.ready errors, after) ∈ given → errors ≠ [] ∧
      ((∃ earlier last, turns = earlier ++ [last] ∧ (.ready errors, after) ∈ last ∧
          ∀ turn ∈ earlier, ∃ left, (.ready [], left) ∈ turn) ∨
        (errors = [.unresolvedSubscription] ∧ turns.length = rs.length ∧
          ∀ turn ∈ turns, ∃ left, (.ready [], left) ∈ turn))

theorem Resolver.composite_asksInTurn (rs : List Resolver) : (composite rs).AsksInTurn rs := by
  intro f st starts
  obtain ⟨turns, consults⟩ := composite_consults rs f st starts
  exact ⟨turns, consults, consults.waits_eq, fun errors after => consults.answered⟩

/-- In a run a source gives values or nothing yet in its first `n` polls, fails with `e` in the next
one, and leaves `after`. -/
def FailsAt (asked : List (Poll (Option Outcome) × Store)) (n : Nat) (e : Failure) (after : Store) :
    Prop :=
  (∀ said ∈ asked.take n, said.1.Passes) ∧ asked[n]? = some (.ready (some (.error e)), after)

/-- What a subscription fails with if `asked` is what its source says in the polls that start in
`starts`: the failure of the source, if it carries errors already, or some errors that the
resolvers, which are asked in turn from that poll on, have for it. -/
inductive FailsWith (rs : List Resolver) (starts : List Store)
    (asked : List (Poll (Option Outcome) × Store)) : Failure → Prop
  | publisher (fails : FailsAt asked n e after) (known : e.isPublisher = true) :
      FailsWith rs starts asked e
  | resolved (fails : FailsAt asked n cause after) (unknown : cause.isPublisher = false)
      (consults : Resolver.Consults cause rs (after :: starts.drop (n + 1)) turns given)
      (answered : (.ready errors, left) ∈ given) (present : errors ≠ []) :
      FailsWith rs starts asked (.publisher errors cause)

section Runs

variable {r : Resolver} {rs : List Resolver} {signal : Nat} {inside : Store → Store}
  {starts : List Store} {asked : List (Poll (Option Outcome) × Store)}
  {given : List (Poll (Option Outcome))} {e : Failure}

theorem not_mem_ends (e : Failure) (n : Nat) : .ready (some (.error e)) ∉ ends n := by
  simp [ends]

theorem not_mem_waits (e : Failure) (n : Nat) :
    .ready (some (.error e)) ∉ List.replicate n (.pending : Poll (Option Outcome)) := by
  simp

theorem Resolution.fails {cause : Failure} {answers : List (Poll (List Response.Error))}
    (h : Resolution signal cause starts answers given) (whole : .broken ∉ given)
    (failed : .ready (some (.error e)) ∈ given) :
    ∃ errors later, answers = .ready errors :: later ∧ e = .publisher errors cause := by
  cases h with
  | nil => cases failed
  | cancelled => exact absurd failed (not_mem_ends e _)
  | resolved =>
    rcases List.mem_cons.mp failed with same | later
    · cases same
      exact ⟨_, _, rfl, rfl⟩
    · exact absurd later (not_mem_ends e _)
  | broken => exact absurd List.mem_cons_self whole

theorem Closing.fails (h : Closing r signal inside starts asked given) (whole : .broken ∉ given)
    (failed : .ready (some (.error e)) ∈ given) :
    ∃ cause after, asked[0]? = some (.ready (some (.error cause)), after) ∧
      (e = cause ∧ e.isPublisher = true ∨
        cause.isPublisher = false ∧ ∃ errors left, e = .publisher errors cause ∧
          (.ready errors, left) ∈ r.tells cause (after :: (starts.drop 1).map inside)) := by
  cases h with
  | nil => cases failed
  | cancelled => exact absurd failed (not_mem_ends e _)
  | ended => exact absurd failed (not_mem_ends e _)
  | publisher unset known =>
    rcases List.mem_cons.mp failed with same | later
    · cases same
      exact ⟨_, _, rfl, .inl ⟨rfl, known⟩⟩
    · exact absurd later (not_mem_ends e _)
  | failure unset unknown waits answers resolving waiting alive rest =>
    have quiet := fun mem => whole (List.mem_append_right _ mem)
    obtain ⟨errors, later, answered, same⟩ :=
      rest.fails quiet ((List.mem_append.mp failed).resolve_left (not_mem_waits e waits))
    rw [resolving] at waiting answered
    obtain ⟨left, mem⟩ := Resolver.mem_tellsFrom waiting answered
    exact ⟨_, _, rfl, .inr ⟨unknown, errors, left, same, mem⟩⟩
  | broken => exact absurd List.mem_cons_self whole

theorem Delivers.fails (h : Delivers r signal inside starts asked given) (turn : r.AsksInTurn rs)
    (whole : .broken ∉ given) (failed : .ready (some (.error e)) ∈ given) :
    FailsWith rs (starts.map inside) asked e := by
  obtain ⟨n, same, passing, _, closing⟩ := h
  have quiet : .broken ∉ given.drop n := fun mem => whole (List.mem_of_mem_drop mem)
  have late : .ready (some (.error e)) ∉ given.take n := fun mem => passing _ mem
  rw [← List.take_append_drop n given] at failed
  obtain ⟨cause, after, fails, ways⟩ :=
    closing.fails quiet ((List.mem_append.mp failed).resolve_left late)
  have failsAt : FailsAt asked n cause after := by
    refine ⟨?_, by simpa using fails⟩
    intro said mem
    exact passing _ (same ▸ List.mem_map_of_mem mem)
  rcases ways with ⟨rfl, known⟩ | ⟨unknown, errors, left, rfl, mem⟩
  · exact .publisher failsAt known
  · rw [List.drop_drop, List.map_drop] at mem
    obtain ⟨turns, consults, _, answers⟩ := turn cause after ((starts.map inside).drop (n + 1))
    exact .resolved failsAt unknown consults mem (answers errors left mem).1

end Runs

namespace Decorator

variable {d : Decorator} {call : Call} {st : Store} {v w : FieldValue} {u : Stream}

theorem fetch_streams (subscription : d.subscription = true)
    (fetched : (d.fetch call st).1 = .ok w) (streams : w.content = .stream u) :
    ∃ v y, (d.delegate.fetch call (call.inside st)).1 = .ok v ∧ d.adapters.Takes v.content y ∧
      u = y.overTime.subscribed d.resolver call.context.signal (call.snapshot st)
        (d.copy call st) := by
  obtain ⟨v, after, given, outcome⟩ := fetch_outcome fetched (streams ▸ .stream u)
  have own : d.copy call st =
      ((call.snapshot st).overlay (call.outside st after) call.context).1 := by
    rw [show after = (d.delegate.fetch call (call.inside st)).2 from congrArg (·.2) given.symm]
    rfl
  rw [streams] at outcome
  refine ⟨v, ?_⟩
  rw [given, own]
  generalize (d.fetch call st).2 = left at outcome
  generalize v.content = x at outcome ⊢
  cases outcome with
  | stream unset _ taken => exact ⟨_, rfl, taken, rfl⟩
  | untouched present unset single => simp [single] at subscription

end Decorator

/-- The fetcher `g` is that of a subscription field for `f`: whatever stream it gives has been made
of what the value of `f` is taken for, and fails as `FailsWith` says, as long as nothing breaks. -/
def Installer.Resolves (i : Installer) (f g : Fetcher) : Prop :=
  ∀ call st w u, (g.fetch call st).1 = .ok w → w.content = .stream u →
    ∃ v t, (f.fetch call (call.inside st)).1 = .ok v ∧ i.adapters.asStream v.content = .ok t ∧
      ∀ starts : List Store, .broken ∉ u.answers u.state starts →
        let inside := starts.map ((call.snapshot st).enter ((i.decorator true f).copy call st))
        ∀ e, .ready (some (.error e)) ∈ u.answers u.state starts →
          FailsWith i.resolvers inside (t.polls t.state inside) e

theorem Installer.decorator_resolves (i : Installer) (f : Fetcher) :
    i.Resolves f (i.decorator true f).fetcher := by
  intro call st w u fetched streams
  obtain ⟨v, y, given, taken, same⟩ :=
    Decorator.fetch_streams (d := i.decorator true f) rfl fetched streams
  refine ⟨v, y.overTime, given, Adapters.asStream_of_takes taken, ?_⟩
  intro starts whole inside e failed
  subst same
  have delivers := Stream.subscribed_delivers (t := y.overTime) (r := .composite i.resolvers)
    (k := call.context.signal) (s := call.snapshot st)
    (c := (i.decorator true f).copy call st) starts (.reading y.overTime.state, false) _ rfl rfl
  exact delivers.fails (Resolver.composite_asksInTurn _) whole failed

open Wiring Installer

/-- A composite resolver asks its resolvers in turn, and each subscription field of an installed
wiring has one for those of the installer. What such a field gives fails with a failure of its
source that carries errors already, or with some errors of the resolvers and the failure of its
source as their cause. -/
theorem failures_resolved (i : Installer) (doc : Schema.Document)
    (registrations : List (Fetcher × List Schema.Coordinates)) :
    (∀ rs, (Resolver.composite rs).AsksInTurn rs) ∧
    ∀ c f, Dict.get? (built registrations) c = some f → Decorates doc c f →
      doc.subscription = some c.type →
      ∃ g, Dict.get? (i.install doc (built registrations)) c = some g ∧ i.Resolves f g := by
  refine ⟨Resolver.composite_asksInTurn, ?_⟩
  intro c f wired decorates root
  refine ⟨(i.decorator true f).fetcher, ?_, i.decorator_resolves f⟩
  have subscription : doc.isSubscription c = true := by simp [Schema.Document.isSubscription, root]
  rw [get?_install nodup_built, wired, Option.map_some, decorate_eq, if_pos decorates, subscription]

/-- A field of the subscription root, with a resolver that has no errors before one that has some.
-/
theorem failures_resolved_second :
    let failing : Stream := .ofScript none [.emit (.literal (.int 1)), .fail (.other "gone")]
    let f : Fetcher := { fetch := fun _ st => (.ok (.stream failing), st) }
    let i : Installer := {
      resolvers := [
        ResolverSpec.resolver (.slow 1 []),
        ResolverSpec.resolver (.single "seen: " none none none)] }
    let doc : Schema.Document := .ofEntries [⟨"Subscription", ⟨.object, ["ticks"]⟩, false⟩] none
    let c : Schema.Coordinates := ⟨"Subscription", "ticks"⟩
    Dict.get? (built [(f, [c])]) c = some f ∧ Decorates doc c f ∧ doc.subscription = some c.type ∧
    ∃ g, Dict.get? (i.install doc (built [(f, [c])])) c = some g ∧ i.Resolves f g := by
  intro failing f i doc c
  have wired : Dict.get? (built [(f, [c])]) c = some f := rfl
  have decorates : Decorates doc c f := by
    refine ⟨by decide, ?_⟩
    simp [f]
  have root : doc.subscription = some c.type := by decide
  exact ⟨wired, decorates, root, (failures_resolved i doc _).2 c f wired decorates root⟩

end Fieldwork
