import Fieldwork.Proofs.Field.InFlight
import Fieldwork.Proofs.Field.Known
import Fieldwork.Proofs.Wiring.Install

/-!
Installing over a wiring in which fetchers have been decorated. A decorated fetcher is of its
delegate's kind, so it is decorated once more; what it gives then is what it gave before.
-/
namespace Fieldwork

namespace Installer

variable {i : Installer} {doc : Schema.Document} {w : Wiring}

theorem decorate_again (resolvers : List Resolver) (c : Schema.Coordinates) (f : Fetcher) :
    { i with resolvers }.decorate doc.fields c (i.decorate doc.fields c f) =
      if Decorates doc c f then
        ((i.decorator (doc.isSubscription c) f).again (.composite resolvers)).fetcher
      else f := by
  rw [decorate_eq, decorate_eq]
  by_cases decorates : Decorates doc c f
  · have still : Decorates doc c (i.decorator (doc.isSubscription c) f).fetcher := decorates
    rw [if_pos decorates, if_pos decorates, if_pos still]
    rfl
  · rw [if_neg decorates, if_neg decorates, if_neg decorates]

theorem get?_reinstall (nodup : (Dict.keys w).Nodup) (resolvers : List Resolver)
    (c : Schema.Coordinates) :
    Dict.get? ({ i with resolvers }.install doc (i.install doc w)) c =
      (Dict.get? w c).map fun f =>
        if Decorates doc c f then
          ((i.decorator (doc.isSubscription c) f).again (.composite resolvers)).fetcher
        else f := by
  have nodup' : (Dict.keys (i.install doc w)).Nodup := keys_install nodup ▸ nodup
  rw [get?_install nodup', get?_install nodup, Option.map_map]
  congr 1
  funext f
  exact decorate_again resolvers c f

end Installer

open Wiring Installer

/-- Decorating a decorated fetcher that is repeatable, with the same adapters and on the same field,
changes nothing but what accessors note. The delegate is called in the same store and gives what it
gave; futures and streams answer the same in every run of polls, and observers of their sources and
resolvers find the same. The other resolver is never asked, as it may be any, also one that writes
to the store. Installing twice decorates the fetchers that installing once decorates, and only
these. -/
theorem decorating_twice (i : Installer) (resolvers : List Resolver) (doc : Schema.Document)
    (registrations : List (Fetcher × List Schema.Coordinates)) :
    (∀ (d : Decorator) (r' : Resolver) (call : Call) (st st' : Store),
      let s := call.snapshot st
      d.Repeatable s → s.UpToTraces st st' →
      s.UpToTraces (call.inside st) (call.inside (call.inside st')) ∧
        Repeats s call.context.signal d.resolver r' (d.fetch call st)
          ((d.again r').fetch call st')) ∧
    let once := i.install doc (built registrations)
    let twice := { i with resolvers }.install doc once
    Dict.keys twice = Dict.keys once ∧
    ∀ c f, Dict.get? (built registrations) c = some f →
      let d := i.decorator (doc.isSubscription c) f
      (Decorates doc c f →
        Dict.get? once c = some d.fetcher ∧
          Dict.get? twice c = some (d.again (.composite resolvers)).fetcher) ∧
      (¬ Decorates doc c f → Dict.get? once c = some f ∧ Dict.get? twice c = some f) := by
  have nodup : (Dict.keys (built registrations)).Nodup := nodup_built
  refine ⟨fun d r' call st st' repeatable related => d.again_fetch rfl repeatable related r', ?_⟩
  intro once twice
  have nodup' : (Dict.keys once).Nodup := keys_install nodup ▸ nodup
  refine ⟨keys_install nodup', ?_⟩
  intro c f wired d
  have first : Dict.get? once c = some (i.decorate doc.fields c f) := by
    rw [get?_install nodup, wired]
    rfl
  have second : Dict.get? twice c = _ := get?_reinstall nodup resolvers c
  rw [decorate_eq] at first
  rw [wired, Option.map_some] at second
  refine ⟨?_, ?_⟩
  · intro decorates
    rw [if_pos decorates] at first second
    exact ⟨first, second⟩
  · intro spared
    rw [if_neg spared] at first second
    exact ⟨first, second⟩

/-- A stream that writes to the slot of a traced accessor and fails, around which the other resolver
would reset that slot. -/
theorem decorating_twice_failure :
    let script : Script := [.act (.setSlot 0 (.current "tenant")), .emit (.slot 0), .fail (.other "gone")]
    let d : Decorator := {
      delegate := FetcherSpec.fetcher (.scripted .application none [] (.stream script))
      subscription := true
      resolver := ResolverSpec.resolver (.single "seen: " none none (some (.slot 0)))
      adapters := .standard }
    let resetting : Resolver := .immediate fun _ st => ([], st.setSlot 0 none)
    let call : Call := {
      context := ⟨0, 0, some { accessors := [⟨"tenant", 0, true⟩] }⟩
      field := ⟨"Subscription", "ticks"⟩ }
    let st : Store := { Store.empty with
      bags := ⟨1, fun _ => Bag.empty.insert "tenant" (.int 7)⟩ }
    d.Repeatable (call.snapshot st) ∧
    Repeats (call.snapshot st) 0 d.resolver resetting (d.fetch call st)
      ((d.again resetting).fetch call st) := by
  intro script d resetting call st
  have described : d.Described := {
    delegate := ⟨.scripted .application none [] (.stream script), rfl⟩
    resolver := ⟨.single "seen: " none none (some (.slot 0)), rfl⟩
    adapters := fun a mem => .inl mem }
  have repeatable := described.repeatable (call.snapshot st)
  have twice := (decorating_twice {} [] ⟨[], none⟩ []).1 d resetting call st st repeatable (.refl _ st)
  exact ⟨repeatable, twice.2⟩

/-- Never completes, and enters something in the current context whenever it is polled. Dropping it
puts what is entered there into two slots. -/
def Future.leaving : Future where
  State := Unit
  state := ()
  poll x st := (.pending, x, (Action.setCurrent "seen" (.literal (.int 5))).perform none st)
  release _ st :=
    (Action.setSlot 1 (.current "seen")).perform none
      ((Action.setSlot 0 (.current "seen")).perform none st)

/-- Three fetches with an accessor over slot 0. On a cancelled request the inner decorator drops the
future in the scope of the outer one, which puts the slot back. When the request is cancelled between
two polls the outer decorator drops it, and its context is not the one that the future has seen. And
a delegate that counts what a traced accessor has noted is told more. -/
theorem decorating_twice_shows :
    let call (traced : Bool) : Call := {
      context := ⟨0, 0, some { accessors := [⟨"tenant", 0, traced⟩] }⟩
      field := ⟨"Query", "tenant"⟩ }
    let st : Store := { Store.empty with
      bags := ⟨1, fun _ => Bag.empty.insert "tenant" (.int 7)⟩ }
    let d (value : Store → FieldValue) : Decorator := {
      delegate := { fetch := fun _ st => (.ok (value st), st) }
      subscription := false
      resolver := .unresolved
      adapters := .standard }
    let dropping := d fun _ => .future .leaving
    let counting := d fun st => .value (.int st.log.length)
    let left (given : Except Failure FieldValue × Store) : Option (Option Json.Value) :=
      given.1.toOption.map fun v =>
        let (v, st) := v.next given.2
        (v.next (st.setSignal 0)).2.slots 1
    let cancelled := st.setSignal 0
    ((dropping.fetch (call false) cancelled).2.slots 0 = some .null ∧
      ((dropping.again .unresolved).fetch (call false) cancelled).2.slots 0 = none) ∧
    (left (dropping.fetch (call false) st) = some (some (.array [.int 5])) ∧
      left ((dropping.again .unresolved).fetch (call false) st) = some (some (.array []))) ∧
    (counting.fetch (call true) st).1 = .ok (.value (.int 2)) ∧
      ((counting.again .unresolved).fetch (call true) st).1 = .ok (.value (.int 4)) := by
  intro call st d dropping counting left cancelled
  exact ⟨⟨rfl, rfl⟩, ⟨rfl, rfl⟩, rfl, rfl⟩

end Fieldwork
