import Fieldwork.Proofs.Field.Subscription

/-!
Resolvers that are asked in turn. The next one is asked about the same failure in the poll in which
the one before it turns out to have no errors for it, in the store that is left by then; all later
polls go to that one. `Consults` is this protocol, and every run of a composite resolver is one of
it.
-/
namespace Fieldwork
namespace Resolver

/-- What the resolver says from `y` on until it does not wait any more, and the store that each poll
leaves. -/
def tellsFrom (r : Resolver) : r.State → List Store → List (Poll (List Response.Error) × Store)
  | _, [] => []
  | y, st :: starts =>
    match r.poll y st with
    | (.pending, y, after) => (.pending, after) :: r.tellsFrom y starts
    | (p, _, after) => [(p, after)]

def tells (r : Resolver) (f : Failure) (starts : List Store) :
    List (Poll (List Response.Error) × Store) :=
  r.tellsFrom (r.start f) starts

def waits (said : List (Poll (List Response.Error) × Store)) : Nat :=
  said.countP fun p => p.1.isPending

/-- The resolvers are asked in order about `f`, by polls that start in the stores of the second
list. `turns` are those that are asked, by what each of them says, and `given` is what comes of it.
-/
inductive Consults (f : Failure) : List Resolver → List Store →
    (turns : List (List (Poll (List Response.Error) × Store))) →
    (given : List (Poll (List Response.Error) × Store)) → Prop
  | nobody : Consults f [] (st :: starts) [] [(.ready [.unresolvedSubscription], st)]
  | keeps (said : r.tells f starts = turn) (kept : ∀ after, (.ready [], after) ∉ turn) :
      Consults f (r :: rs) starts [turn] turn
  | declines (said : r.tells f starts = before ++ [(.ready [], after)])
      (rest : Consults f rs (after :: starts.drop (before.length + 1)) turns given) :
      Consults f (r :: rs) starts ((before ++ [(.ready [], after)]) :: turns) (before ++ given)

theorem waits_append (said more : List (Poll (List Response.Error) × Store)) :
    waits (said ++ more) = waits said + waits more :=
  List.countP_append

variable {r s : Resolver} {f : Failure} {st : Store} {starts : List Store}

section Tells

variable {y y' : r.State} {after : Store}

theorem tellsFrom_pending (polled : r.poll y st = (.pending, y', after)) (starts : List Store) :
    r.tellsFrom y (st :: starts) = (.pending, after) :: r.tellsFrom y' starts := by
  simp only [tellsFrom, polled]

theorem tellsFrom_done {p : Poll (List Response.Error)} (polled : r.poll y st = (p, y', after))
    (done : p ≠ .pending) (starts : List Store) : r.tellsFrom y (st :: starts) = [(p, after)] := by
  cases p with
  | pending => exact absurd rfl done
  | ready errors => simp only [tellsFrom, polled]
  | broken => simp only [tellsFrom, polled]

theorem pending_of_tellsFrom {before : List (Poll (List Response.Error) × Store)}
    {last : Poll (List Response.Error) × Store} (said : r.tellsFrom y starts = before ++ [last]) :
    ∀ q ∈ before, q.1 = .pending := by
  induction starts generalizing y before with
  | nil => simp [tellsFrom] at said
  | cons st starts ih =>
    rcases polled : r.poll y st with ⟨p, y', after⟩
    cases before with
    | nil => exact fun _ mem => absurd mem List.not_mem_nil
    | cons q before =>
      by_cases waiting : p = .pending
      · subst waiting
        rw [tellsFrom_pending polled] at said
        obtain ⟨first, rest⟩ := List.cons.inj said
        exact List.forall_mem_cons.mpr ⟨congrArg (·.1) first.symm, ih rest⟩
      · rw [tellsFrom_done polled waiting] at said
        simp at said

theorem mem_tellsFrom {errors : List Response.Error} {n : Nat}
    {later : List (Poll (List Response.Error))}
    (waiting : ∀ p ∈ (r.answers y starts).take n, p = .pending)
    (answered : (r.answers y starts).drop n = .ready errors :: later) :
    ∃ after, (.ready errors, after) ∈ r.tellsFrom y starts := by
  induction n generalizing y starts with
  | zero =>
    cases starts with
    | nil => cases answered
    | cons st starts =>
      rcases polled : r.poll y st with ⟨p, y', after⟩
      rw [List.drop_zero, answers_cons, polled] at answered
      cases answered
      refine ⟨after, ?_⟩
      rw [tellsFrom_done polled (by simp)]
      exact List.mem_singleton_self _
  | succ n ih =>
    cases starts with
    | nil => cases answered
    | cons st starts =>
      rcases polled : r.poll y st with ⟨p, y', left⟩
      rw [answers_cons, polled] at waiting answered
      obtain ⟨first, rest⟩ := List.forall_mem_cons.mp waiting
      cases first
      obtain ⟨after, mem⟩ := ih rest answered
      refine ⟨after, ?_⟩
      rw [tellsFrom_pending polled]
      exact List.mem_cons_of_mem _ mem

end Tells

section OrElse

theorem secondPoll_of {y y' : s.State} {after : Store} {p : Poll (List Response.Error)}
    (polled : s.poll y st = (p, y', after)) : secondPoll r s y st = (p, .second y', after) := by
  simp only [secondPoll, polled]

theorem orElse_poll_second (y : s.State) (st : Store) :
    (r.orElse s).poll (.second y) st = secondPoll r s y st := rfl

theorem orElse_poll_declined {x x' : r.State} {after : Store}
    (polled : r.poll x st = (.ready [], x', after)) :
    (r.orElse s).poll (.first f x) st = secondPoll r s (s.start f) after := by
  simp only [orElse, polled]

theorem orElse_poll_kept {x x' : r.State} {after : Store} {p : Poll (List Response.Error)}
    (polled : r.poll x st = (p, x', after)) (kept : p ≠ .ready []) :
    (r.orElse s).poll (.first f x) st = (p, .first f x', after) := by
  match p, kept with
  | .pending, _ => simp only [orElse, polled]
  | .broken, _ => simp only [orElse, polled]
  | .ready (e :: errors), _ => simp only [orElse, polled]

theorem orElse_tellsFrom_second (y : s.State) (starts : List Store) :
    (r.orElse s).tellsFrom (.second y) starts = s.tellsFrom y starts := by
  induction starts generalizing y with
  | nil => rfl
  | cons st starts ih =>
    rcases polled : s.poll y st with ⟨p, y', after⟩
    have both : (r.orElse s).poll (.second y) st = (p, .second y', after) :=
      (orElse_poll_second y st).trans (secondPoll_of polled)
    by_cases waiting : p = .pending
    · subst waiting
      rw [tellsFrom_pending polled, tellsFrom_pending both, ih]
    · rw [tellsFrom_done polled waiting, tellsFrom_done both waiting]

theorem orElse_tellsFrom_declined {x x' : r.State} {after : Store}
    (polled : r.poll x st = (.ready [], x', after)) (starts : List Store) :
    (r.orElse s).tellsFrom (.first f x) (st :: starts) = s.tells f (after :: starts) := by
  rcases next : s.poll (s.start f) after with ⟨p, y, left⟩
  have both : (r.orElse s).poll (.first f x) st = (p, .second y, left) :=
    (orElse_poll_declined polled).trans (secondPoll_of next)
  by_cases waiting : p = .pending
  · subst waiting
    rw [tells, tellsFrom_pending next, tellsFrom_pending both, orElse_tellsFrom_second]
  · rw [tells, tellsFrom_done next waiting, tellsFrom_done both waiting]

theorem orElse_tellsFrom_first (x : r.State) (starts : List Store) :
    ((∀ after, (.ready [], after) ∉ r.tellsFrom x starts) ∧
      (r.orElse s).tellsFrom (.first f x) starts = r.tellsFrom x starts) ∨
    ∃ before after, r.tellsFrom x starts = before ++ [(.ready [], after)] ∧
      (r.orElse s).tellsFrom (.first f x) starts =
        before ++ s.tells f (after :: starts.drop (before.length + 1)) := by
  induction starts generalizing x with
  | nil => exact .inl ⟨fun _ => List.not_mem_nil, rfl⟩
  | cons st starts ih =>
    rcases polled : r.poll x st with ⟨p, x', left⟩
    by_cases declined : p = .ready []
    · subst declined
      refine .inr ⟨[], left, ?_, ?_⟩
      · exact tellsFrom_done polled (by simp) starts
      · exact orElse_tellsFrom_declined polled starts
    · have both := orElse_poll_kept (s := s) (f := f) polled declined
      by_cases waiting : p = .pending
      · subst waiting
        rw [tellsFrom_pending polled, tellsFrom_pending both]
        rcases ih x' with ⟨kept, same⟩ | ⟨before, after, said, same⟩
        · refine .inl ⟨?_, congrArg _ same⟩
          intro after mem
          rcases List.mem_cons.mp mem with first | later
          · cases first
          · exact kept after later
        · exact .inr ⟨(.pending, left) :: before, after, congrArg _ said, congrArg _ same⟩
      · rw [tellsFrom_done polled waiting, tellsFrom_done both waiting]
        refine .inl ⟨?_, rfl⟩
        intro after mem
        cases List.mem_singleton.mp mem
        exact declined rfl

end OrElse

theorem composite_consults (rs : List Resolver) (f : Failure) (st : Store) (starts : List Store) :
    ∃ turns, Consults f rs (st :: starts) turns ((composite rs).tells f (st :: starts)) := by
  induction rs generalizing st starts with
  | nil => exact ⟨[], .nobody⟩
  | cons r rs ih =>
    have run : (composite (r :: rs)).tells f (st :: starts) =
        (r.orElse (composite rs)).tellsFrom (.first f (r.start f)) (st :: starts) := rfl
    rw [run]
    rcases orElse_tellsFrom_first (s := composite rs) (f := f) (r.start f) (st :: starts) with
      ⟨kept, same⟩ | ⟨before, after, said, same⟩
    · rw [same]
      exact ⟨_, .keeps rfl kept⟩
    · rw [same]
      obtain ⟨turns, rest⟩ := ih after (starts.drop before.length)
      exact ⟨_, .declines said rest⟩

namespace Consults

variable {rs : List Resolver} {turns : List (List (Poll (List Response.Error) × Store))}
  {given : List (Poll (List Response.Error) × Store)}

theorem waits_eq (h : Consults f rs starts turns given) : waits given = waits turns.flatten := by
  induction h with
  | nobody => rfl
  | keeps => rw [List.flatten_singleton]
  | declines said rest ih =>
    rw [List.flatten_cons, waits_append, waits_append, waits_append, ih]
    rfl

theorem answered (h : Consults f rs starts turns given) {errors : List Response.Error}
    {after : Store} (mem : (.ready errors, after) ∈ given) :
    errors ≠ [] ∧
      ((∃ earlier last, turns = earlier ++ [last] ∧ (.ready errors, after) ∈ last ∧
          ∀ turn ∈ earlier, ∃ left, (.ready [], left) ∈ turn) ∨
        (errors = [.unresolvedSubscription] ∧ turns.length = rs.length ∧
          ∀ turn ∈ turns, ∃ left, (.ready [], left) ∈ turn)) := by
  induction h with
  | nobody =>
    cases List.mem_singleton.mp mem
    exact ⟨by simp, .inr ⟨rfl, rfl, by simp⟩⟩
  | keeps said kept =>
    refine ⟨?_, .inl ⟨[], _, rfl, mem, by simp⟩⟩
    rintro rfl
    exact kept _ mem
  | declines said rest ih =>
    rcases List.mem_append.mp mem with waited | later
    · cases pending_of_tellsFrom said _ waited
    · obtain ⟨present, origin⟩ := ih later
      refine ⟨present, origin.imp ?_ ?_⟩
      · rintro ⟨earlier, last, rfl, mem, all⟩
        refine ⟨_ :: earlier, last, rfl, mem, ?_⟩
        exact List.forall_mem_cons.mpr ⟨⟨_, List.mem_concat_self⟩, all⟩
      · rintro ⟨same, asked, all⟩
        refine ⟨same, congrArg (· + 1) asked, ?_⟩
        exact List.forall_mem_cons.mpr ⟨⟨_, List.mem_concat_self⟩, all⟩

end Consults
end Resolver
end Fieldwork
