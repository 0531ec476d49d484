import Fieldwork.Field.Decorated
/-!
Fetchers, resolvers and adapters that are given as descriptions, and what is built from them. The
state that they share is in the store.
-/
namespace Fieldwork

inductive HandedSpec
  | context (name : String)
  | text (s : String)
  | earlier (name : String)
  | other (v : Json.Value)

def HandedSpec.build (st : Store) : HandedSpec → Option LocalContext
  | context name => (st.names.context name).map .context
  | text s => some (.text s)
  | earlier name => st.names.handed name
  | other v => some (.other v)

inductive FieldSpec
  | value (e : Expr)
  | future (s : Script)
  | stream (s : Script)
  | list (items : List Json.Value)
  | foreign (type : String) (content : Json.Value)
  | channel (name : String)
  | join (s : Script)
  | fail (f : Failure)
  | result (data : FieldSpec) (errors : List Response.Error) (handed : Option HandedSpec)
  | cancelled

namespace FieldSpec

def takeReceiver (st : Store) (name : String) : FieldValue × Store :=
  match st.names.channel name with
  | none => (.null, st)
  | some id =>
    let c := st.channels.cell id
    if c.taken then (.null, st)
    else (.foreign (.receiver c.kind id), st.setChannel id { c with taken := true })

def build (call : Option Call) (st : Store) : FieldSpec → Except Failure FieldValue × Store
  | value e => (.ok (.value (e.eval call st)), st)
  | future s => (.ok (.future (.ofScript call s)), st)
  | stream s => (.ok (.stream (.ofScript call s)), st)
  | list items => (.ok (.stream (.ofList items)), st)
  | foreign type content => (.ok (.foreign (.other type content)), st)
  | channel name =>
    let (v, st) := takeReceiver st name
    (.ok v, st)
  | join s =>
    let (id, st) := Task.spawn st s call
    (.ok (.foreign (.task id)), st)
  | fail f => (.error f, st)
  | result data errors handed =>
    let (r, st) := data.build call st
    (r.map fun v => .result v errors (handed.bind (·.build st)), st)
  | cancelled => (.ok .cancelled, st)

end FieldSpec

inductive FetcherSpec
  | property
  | plain
  | scripted (kind : Schema.Kind) (about : Option About) (actions : List Action)
      (returns : FieldSpec)

namespace FetcherSpec

/-- Performs its actions and then makes its value. -/
def fetchScripted (actions : List Action) (returns : FieldSpec) (call : Call) (st : Store) :
    Except Failure FieldValue × Store :=
  returns.build (some call) (Script.perform (some call) actions st)

def fetcher : FetcherSpec → Fetcher
  | property => .property
  | plain =>
    { Fetcher.constant (.string "plain") with
      about? := some { description := "plain", returns := ⟨"u64"⟩ } }
  | scripted kind about actions returns =>
    { kind, about? := about, fetch := fetchScripted actions returns }

end FetcherSpec

inductive ResolverSpec
  | composite (rs : List ResolverSpec)
  | single (lead : String) (only : Option String) (code : Option String) (seen : Option Expr)
  | multiple (errors : List Response.Error)
  | slow (waits : Nat) (messages : List String)

namespace ResolverSpec

def answerSingle (lead : String) (only code : Option String) (seen : Option Expr) (f : Failure)
    (st : Store) : List Response.Error × Store :=
  let st := st.note (.array [.string "single", .string f.message])
  if only.any (· ≠ f.message) then ([], st)
  else
    let shown := (seen.map (·.eval none st)).getD .null
    ([.build (lead ++ f.message) [.extension "seen" shown] none code], st)

def answerSlow (messages : List String) (f : Failure) (st : Store) :
    Poll (List Response.Error) × (Failure × Option Nat) × Store :=
  let slots := Json.Value.array (st.slotList.map Json.Value.ofOption)
  (.ready (messages.map fun m => .build m [] none none), (f, some 0),
    st.note (.array [.string "resolved", slots]))

def pollSlow (waits : Nat) (messages : List String) :
    Failure × Option Nat → Store → Poll (List Response.Error) × (Failure × Option Nat) × Store
  | (f, some 0), st => answerSlow messages f st
  | (f, some (n + 1)), st => (.pending, (f, some n), st)
  | (f, none), st =>
    let st := st.note (.array [.string "resolving", .string f.message])
    match waits with
    | 0 => answerSlow messages f st
    | n + 1 => (.pending, (f, some n), st)

def slowResolver (waits : Nat) (messages : List String) : Resolver where
  State := Failure × Option Nat
  start f := (f, none)
  poll := pollSlow waits messages

mutual
def resolver : ResolverSpec → Resolver
  | composite rs => .composite (resolvers rs)
  | single lead only code seen => .immediate (answerSingle lead only code seen)
  | multiple errors => .immediate fun _ st => (errors, st)
  | slow waits messages => slowResolver waits messages
def resolvers : List ResolverSpec → List Resolver
  | [] => []
  | r :: rs => resolver r :: resolvers rs
end

mutual
def delay : ResolverSpec → Nat
  | composite rs => delays rs
  | slow waits _ => waits
  | _ => 0
def delays : List ResolverSpec → Nat
  | [] => 0
  | r :: rs => delay r + delays rs
end

end ResolverSpec

inductive AdapterSpec
  | ticksStream
  | ticksSingle
  | ticksEven
  | laterSingle
  | laterFails
  | boundedSingle

namespace AdapterSpec

def counted (key : String) (n : Nat) : Json.Value := .object [(key, .int n)]

def ticks? (x : Foreign) : Option Nat :=
  match x.content? "ticks" with
  | some (.int n) => some n.toNat
  | _ => none

def adapter : AdapterSpec → Adapter
  | ticksStream => fun x => (ticks? x).map fun n =>
    .stream (.ofList ((List.range n).map fun i => .int (i : Nat)))
  | ticksSingle => fun x => (ticks? x).map fun n => .single (.ready (.ok (counted "ticks" n)))
  | ticksEven => fun x => (ticks? x).bind fun n =>
    if n % 2 = 0 then some (.stream (.ofList ((List.range n).map (counted "even")))) else none
  | laterSingle => fun x => (x.content? "later").map fun v => .single (.ready (.ok v))
  | laterFails => fun x => (x.content? "later").map fun _ =>
    .single (.ready (.error (.other "later failed")))
  | boundedSingle => fun
    | .receiver .bounded channel => some (.single (.ofChannel channel (.ok .null)))
    | _ => none

end AdapterSpec
end Fieldwork
