import Fieldwork.Proofs.Field.Collected

/-!
Values read at last and over time. A field with one value reads a stream as the list of its values,
and a subscription reads a single value as a stream. The two readings of a value are runs of their
own, with polls and waits of their own, so they are compared wherever its source says the same in
both, the waits left out.
-/
namespace Fieldwork

def spoken {α : Type} (run : List (Poll α)) : List (Poll α) := run.filter fun p => !p.isPending

/-- The same is said in two runs, as far as both of them go. -/
def SaysAlike {α : Type} (run run' : List (Poll α)) : Prop :=
  spoken run <+: spoken run' ∨ spoken run' <+: spoken run

/-- What `t` says from `x` on when it is read up to its next stop in each of these stores, until it
stops without a wait. -/
inductive Stream.Heard (t : Stream) : t.State → List Store → List (Poll (Option Outcome)) → Prop
  | nil : Heard t x [] []
  | waits (drains : t.Drains x st more .pending x' after) (rest : Heard t x' starts heard) :
      Heard t x (st :: starts) (Stream.gives more ++ .pending :: heard)
  | stops (drains : t.Drains x st more p x' after) (done : p.isPending = false) :
      Heard t x (st :: starts) (Stream.gives more ++ [p])

/-- What a stream has come to that gives this in a run: the list of its values if it has ended
without a failure, and else its first failure. -/
inductive Concludes (run : List (Poll (Option Outcome))) : Outcome → Prop
  | ended (given : spoken run = Stream.gives items ++ .ready none :: rest) :
      Concludes run (.ok (.array items))
  | failed (given : spoken run = Stream.gives items ++ .ready (some (.error e)) :: rest) :
      Concludes run (.error e)

def Outcome.overTime : Outcome → List (Poll (Option Outcome))
  | .ok .null => []
  | o => [.ready (some o)]

/-- Whatever `t` concludes with in one run, `f` completes with in every other one in which `t` says
the same. It waits as often as `t`, so it goes on waiting only as long as each of its polls comes to
a wait of `t`. -/
def Future.GivesAtLast (f : Future) (t : Stream) : Prop :=
  ∀ starts, ∃ heard, t.Heard t.state starts heard ∧
    ∀ starts' o, SaysAlike heard (t.answers t.state starts') →
      Concludes (t.answers t.state starts') o →
        let waits := List.replicate (heard.countP Poll.isPending) .pending
        upToDone (f.answers f.state starts) = waits ++ [.ready o] ∨
          (f.answers f.state starts = waits ∧ waits.length = starts.length)

/-- Whatever `f` completes with in one run, `t` gives over time in every other one in which `f` says
the same, and then it ends. It waits as often as `f`. -/
def Stream.GivesOverTime (t : Stream) (f : Future) : Prop :=
  ∀ starts starts' n o, upToDone (f.answers f.state starts) = .replicate n .pending ++ [.ready o] →
    let heard := upToDone (f.answers f.state starts')
    SaysAlike (upToDone (f.answers f.state starts)) heard →
      let waits := List.replicate (heard.countP Poll.isPending) .pending
      (∃ m, t.answers t.state starts' = waits ++ Outcome.overTime o ++ ends m) ∨
        (t.answers t.state starts' = waits ∧ waits.length = starts'.length)

@[simp] theorem spoken_append {α : Type} (run more : List (Poll α)) :
    spoken (run ++ more) = spoken run ++ spoken more :=
  List.filter_append _ _

@[simp] theorem spoken_pending {α : Type} (run : List (Poll α)) :
    spoken (.pending :: run) = spoken run := rfl

@[simp] theorem spoken_waits {α : Type} (n : Nat) :
    spoken (List.replicate n (Poll.pending : Poll α)) = [] := by
  simp [spoken]

theorem spoken_single {α : Type} {p : Poll α} (done : p.isPending = false) : spoken [p] = [p] := by
  simp [spoken, done]

@[simp] theorem spoken_gives (items : List Json.Value) :
    spoken (Stream.gives items) = Stream.gives items := by
  simp [spoken, Stream.gives]

theorem upToDone_done {α : Type} {p : Poll α} (done : p.isPending = false) (rest : List (Poll α)) :
    upToDone (p :: rest) = [p] := by
  cases p with
  | pending => cases done
  | ready o => rfl
  | broken => rfl

theorem Poll.isPending_collected {p : Poll (Option Outcome)} (done : p.isPending = false)
    (items : List Json.Value) : (p.collected items).isPending = false := by
  match p, done with
  | .ready none, _ => rfl
  | .ready (some o), _ => rfl
  | .broken, _ => rfl

theorem Outcome.overTime_of_ne {o : Outcome} (h : o ≠ .ok .null) :
    o.overTime = [.ready (some o)] := by
  match o, h with
  | .error e, _ => rfl
  | .ok v, h => cases v with
    | null => exact absurd rfl h
    | _ => rfl

namespace Stream

variable {t : Stream} {x : t.State} {starts : List Store} {said : List (Poll (Option Outcome))}

theorem gives_append (items more : List Json.Value) :
    gives (items ++ more) = gives items ++ gives more := by
  simp [gives, said_append]

theorem Bursts.heard (bursts : t.Bursts) (x : t.State) (starts : List Store) :
    ∃ said, t.Heard x starts said := by
  induction starts generalizing x with
  | nil => exact ⟨[], .nil⟩
  | cons st starts ih =>
    obtain ⟨more, p, x', after, drains⟩ := bursts.drains x st
    cases p with
    | pending =>
      obtain ⟨said, rest⟩ := ih x'
      exact ⟨_, .waits drains rest⟩
    | ready o => exact ⟨_, .stops drains rfl⟩
    | broken => exact ⟨_, .stops drains rfl⟩

theorem Drains.collect_gives {x' : t.State} {st after : Store} {more : List Json.Value}
    {p : Poll (Option Outcome)} (h : t.Drains x st more p x' after) (bursts : t.Bursts)
    (items : List Json.Value) :
    (t.collect.poll (some (x, items)) st).1 = p.collected (items ++ more) := by
  rw [h.collect_poll bursts]
  cases p.collected (items ++ more) <;> rfl

theorem Heard.collected (h : t.Heard x starts said) (bursts : t.Bursts) {y : t.collect.State}
    {items : List Json.Value} (standing : y = some (x, items)) :
    (∃ more, spoken said = gives more ∧ said.countP Poll.isPending = starts.length ∧
      t.collect.answers y starts = .replicate starts.length .pending) ∨
    ∃ more p, spoken said = gives more ++ [p] ∧ p.Stops ∧ p.isPending = false ∧
      upToDone (t.collect.answers y starts) =
        .replicate (said.countP Poll.isPending) .pending ++ [p.collected (items ++ more)] := by
  induction h generalizing y items with
  | nil => exact .inl ⟨[], rfl, rfl, rfl⟩
  | @waits x st more x' after starts said drains rest ih =>
    have poll : t.collect.poll y st = (.pending, some (x', items ++ more), after) :=
      standing ▸ drains.collect_poll bursts items
    have waits : (gives more ++ .pending :: said).countP Poll.isPending =
        said.countP Poll.isPending + 1 := by
      rw [List.countP_append, waits_gives, List.countP_cons_of_pos rfl, Nat.zero_add]
    have onward := ih (y := (t.collect.poll y st).2.1) (congrArg (·.2.1) poll)
    have first : (t.collect.poll y st).1 = .pending := congrArg (·.1) poll
    rw [waits]
    rcases onward with ⟨later, spoke, count, waiting⟩ | ⟨later, p, spoke, stops, done, comes⟩
    · refine .inl ⟨more ++ later, ?_, congrArg (· + 1) count, ?_⟩
      · simp [spoke, gives_append]
      · rw [Source.answers_cons, first, waiting]
        rfl
    · refine .inr ⟨more ++ later, p, ?_, stops, done, ?_⟩
      · simp [spoke, gives_append]
      · rw [Source.answers_cons, first, upToDone, comes, List.append_assoc]
        rfl
  | @stops x st more p x' after starts drains done =>
    have first : (t.collect.poll y st).1 = p.collected (items ++ more) :=
      standing ▸ drains.collect_gives bursts items
    have quiet : (gives more ++ [p]).countP Poll.isPending = 0 := by simp [done]
    refine .inr ⟨more, p, ?_, drains.stops, done, ?_⟩
    · rw [spoken_append, spoken_gives, spoken_single done]
    · rw [quiet, Source.answers_cons, first, upToDone_done (Poll.isPending_collected done _)]
      rfl

theorem gives_stop_inj {items items' : List Json.Value} {p q : Poll (Option Outcome)}
    {rest rest' : List (Poll (Option Outcome))} (stops : p.Stops) (stops' : q.Stops)
    (same : gives items ++ p :: rest = gives items' ++ q :: rest') : items = items' ∧ p = q := by
  induction items generalizing items' with
  | nil =>
    cases items' with
    | nil => exact ⟨rfl, (List.cons.inj same).1⟩
    | cons v items' => exact absurd (List.cons.inj same).1 (stops v)
  | cons v items ih =>
    cases items' with
    | nil => exact absurd (List.cons.inj same).1.symm (stops' v)
    | cons w items' =>
      obtain ⟨first, rest⟩ := List.cons.inj same
      obtain ⟨rfl, last⟩ := ih rest
      cases first
      exact ⟨rfl, last⟩

theorem SaysAlike.stop {run run' : List (Poll (Option Outcome))} (alike : SaysAlike run run')
    {items items' : List Json.Value} {p q : Poll (Option Outcome)}
    {rest : List (Poll (Option Outcome))} (stops : p.Stops) (stops' : q.Stops)
    (spoke : spoken run = gives items ++ [p]) (spoke' : spoken run' = gives items' ++ q :: rest) :
    items = items' ∧ p = q := by
  rw [SaysAlike, spoke, spoke'] at alike
  rcases alike with ⟨more, same⟩ | ⟨more, same⟩
  · rw [List.append_assoc] at same
    exact gives_stop_inj stops stops' same
  · rw [List.append_assoc] at same
    exact gives_stop_inj stops stops' same.symm

theorem collect_givesAtLast (bursts : t.Bursts) : Future.GivesAtLast t.collect t := by
  intro starts
  obtain ⟨said, heard⟩ := bursts.heard t.state starts
  refine ⟨said, heard, ?_⟩
  intro starts' o alike concludes
  rcases heard.collected bursts (y := t.collect.state) rfl with
    ⟨more, spoke, count, waiting⟩ | ⟨more, p, spoke, stops, done, comes⟩
  · right
    rw [count]
    exact ⟨waiting, List.length_replicate⟩
  · left
    rw [comes]
    cases concludes with
    | ended given =>
      obtain ⟨rfl, rfl⟩ := SaysAlike.stop alike stops (by simp [Poll.Stops]) spoke given
      rfl
    | failed given =>
      obtain ⟨rfl, rfl⟩ := SaysAlike.stop alike stops (by simp [Poll.Stops]) spoke given
      rfl

end Stream

namespace Future

variable (f : Future)

theorem asStream_answers_given (starts : List Store) {y : f.asStream.State} (given : y = none) :
    f.asStream.answers y starts = ends starts.length := by
  induction starts generalizing y with
  | nil => rfl
  | cons st starts ih =>
    subst given
    exact congrArg (Poll.ready none :: ·) (ih rfl)

theorem asStream_poll_pending {x x' : f.State} {st after : Store}
    (asked : f.poll x st = (.pending, x', after)) :
    f.asStream.poll (some x) st = (.pending, some x', after) := by
  simp only [asStream, asked]

theorem asStream_poll_null {x x' : f.State} {st after : Store}
    (asked : f.poll x st = (.ready (.ok .null), x', after)) :
    f.asStream.poll (some x) st = (.ready none, none, f.release x' after) := by
  simp only [asStream, asked]

theorem asStream_poll_ready {x x' : f.State} {st after : Store} {o : Outcome}
    (asked : f.poll x st = (.ready o, x', after)) (value : o ≠ .ok .null) :
    f.asStream.poll (some x) st = (.ready (some o), none, f.release x' after) := by
  simp only [asStream, asked]

/-- From the poll on in which a future is done, its stream gives the outcome and the end. -/
theorem asStream_answers_done {x x' : f.State} {st after : Store} {o : Outcome}
    (asked : f.poll x st = (.ready o, x', after)) (starts : List Store) {y : f.asStream.State}
    (standing : y = some x) :
    ∃ m, f.asStream.answers y (st :: starts) = Outcome.overTime o ++ ends m := by
  rw [Source.answers_cons]
  by_cases null : o = .ok .null
  · subst null
    have poll : f.asStream.poll y st = (.ready none, none, f.release x' after) :=
      standing ▸ f.asStream_poll_null asked
    rw [f.asStream_answers_given starts (congrArg (·.2.1) poll), congrArg (·.1) poll]
    exact ⟨starts.length + 1, rfl⟩
  · have poll : f.asStream.poll y st = (.ready (some o), none, f.release x' after) :=
      standing ▸ f.asStream_poll_ready asked null
    rw [f.asStream_answers_given starts (congrArg (·.2.1) poll), congrArg (·.1) poll,
      Outcome.overTime_of_ne null]
    exact ⟨starts.length, rfl⟩

theorem asStream_answers (x : f.State) (starts : List Store) {y : f.asStream.State}
    (standing : y = some x) :
    let said := upToDone (f.answers x starts)
    let waits := List.replicate (said.countP Poll.isPending) .pending
    (spoken said = [] ∧ f.asStream.answers y starts = waits ∧ waits.length = starts.length) ∨
      (∃ o m, spoken said = [.ready o] ∧
        f.asStream.answers y starts = waits ++ Outcome.overTime o ++ ends m) ∨
      spoken said = [.broken] := by
  induction starts generalizing x y with
  | nil => exact .inl ⟨rfl, rfl, rfl⟩
  | cons st starts ih =>
    rcases asked : f.poll x st with ⟨p, x', after⟩
    rw [Source.answers_cons, asked]
    cases p with
    | pending =>
      have poll : f.asStream.poll y st = (.pending, some x', after) :=
        standing ▸ f.asStream_poll_pending asked
      have waits : (Poll.pending :: upToDone (f.answers x' starts)).countP Poll.isPending =
          (upToDone (f.answers x' starts)).countP Poll.isPending + 1 :=
        List.countP_cons_of_pos rfl
      simp only [upToDone, waits, spoken_pending]
      rw [Source.answers_cons, congrArg (·.1) poll]
      refine (ih x' (y := (f.asStream.poll y st).2.1) (congrArg (·.2.1) poll)).imp ?_ (.imp_left ?_)
      · rintro ⟨spoke, same, length⟩
        exact ⟨spoke, congrArg _ same, by simpa using length⟩
      · rintro ⟨o, m, spoke, same⟩
        exact ⟨o, m, spoke, congrArg _ same⟩
    | ready o =>
      obtain ⟨m, same⟩ := f.asStream_answers_done asked starts standing
      exact .inr (.inl ⟨o, m, rfl, same⟩)
    | broken => exact .inr (.inr rfl)

theorem asStream_givesOverTime : Stream.GivesOverTime f.asStream f := by
  intro starts starts' n o completes said alike
  rw [completes] at alike
  have only : spoken (List.replicate n .pending ++ [Poll.ready o]) = [.ready o] := by
    rw [spoken_append, spoken_waits]
    rfl
  rw [SaysAlike, only] at alike
  rcases f.asStream_answers f.state starts' (y := f.asStream.state) rfl with
    ⟨_, same, length⟩ | ⟨o', m, spoke, same⟩ | spoke
  · exact .inr ⟨same, length⟩
  · rw [spoke] at alike
    have outcome : o = o' := by simpa [eq_comm] using alike
    subst outcome
    exact .inl ⟨m, same⟩
  · rw [spoke] at alike
    simp at alike

end Future

/-- A value is read at last exactly if it can be read over time; what cannot comes back as it was.
Where it can, the two readings agree, whatever their polls are: a stream is read at last as what it
concludes with, and what is given later is read over time as its outcome, which null does not show,
and the end. -/
theorem readings_agree (as : Adapters) (v : FieldValue) :
    ((∃ w, as.asSingle v = .passthrough w) ↔ ∃ w, as.asStream v = .error w) ∧
    (∀ w, as.asSingle v = .passthrough w → w = v) ∧ (∀ w, as.asStream v = .error w → w = v) ∧
    (∀ t, as.classify v = .stream t → ∃ f, as.asSingle v = .future f ∧ as.asStream v = .ok t ∧
      (t.Bursts → f.GivesAtLast t)) ∧
    ∀ f, as.classify v = .single f → ∃ t, as.asSingle v = .future f ∧ as.asStream v = .ok t ∧
      t.GivesOverTime f := by
  refine ⟨?_, fun w h => (Adapters.asSingle_passthrough h).1, fun w h => Adapters.asStream_error h,
    ?_, ?_⟩
  · unfold Adapters.asSingle Adapters.asStream
    cases as.classify v <;> simp
  · intro t classified
    refine ⟨t.collect, ?_, ?_, Stream.collect_givesAtLast⟩
    · simp only [Adapters.asSingle, classified]
    · simp only [Adapters.asStream, classified]
  · intro f classified
    refine ⟨f.asStream, ?_, ?_, f.asStream_givesOverTime⟩
    · simp only [Adapters.asSingle, classified]
    · simp only [Adapters.asStream, classified]

/-- A stream that waits between a value and a failure. -/
theorem readings_agree_failure :
    let t : Stream := .ofScript none
      [.emit (.literal (.int 1)), .wait 1, .fail (.other "gone")]
    Adapters.standard.classify (.stream t) = .stream t ∧ t.Bursts ∧
    ∃ f, Adapters.standard.asSingle (.stream t) = .future f ∧
      Adapters.standard.asStream (.stream t) = .ok t ∧ f.GivesAtLast t := by
  intro t
  have bursts : t.Bursts := Stream.ofScript_bursts none _
  obtain ⟨f, single, stream, agree⟩ := (readings_agree .standard (.stream t)).2.2.2.1 t rfl
  exact ⟨rfl, bursts, f, single, stream, agree bursts⟩

end Fieldwork
