import Fieldwork.Store.Basic
/-!
The channels of a store. Senders know a channel by its name, receivers by its number. A name may be
given to a new channel; the sender of the one that had it goes away then, and its receiver stays.
-/
namespace Fieldwork.Store

def setChannel (st : Store) (id : Nat) (c : Channel) : Store :=
  { st with channels := st.channels.set id c }

def changeChannel (st : Store) (id : Nat) (change : Channel → Channel) : Store :=
  st.setChannel id (change (st.channels.cell id))

def closeReceiver (st : Store) (id : Nat) : Store := st.changeChannel id .closeReceiver

def closeSender (st : Store) (name : String) : Store :=
  match st.names.channel name with
  | none => st
  | some id => st.changeChannel id .closeSender

def nameChannel (st : Store) (name : String) (id : Nat) : Store :=
  { st with names := { st.names with
    channel := fun n => if n = name then some id else st.names.channel n } }

def newChannel (st : Store) (name : String) (c : Channel) : Store :=
  let st := st.closeSender name
  let (id, channels) := st.channels.alloc c
  { st with channels }.nameChannel name id

/-- A channel that does not exist is closed. -/
def send (st : Store) (name : String) (o : Outcome) : SendReport × Store :=
  match st.names.channel name with
  | none => (.closed, st)
  | some id =>
    let (r, c) := (st.channels.cell id).send o
    (r, st.setChannel id c)

def receive (st : Store) (id : Nat) : Received × Store :=
  let (r, c) := (st.channels.cell id).receive
  (r, st.setChannel id c)

def backlog (st : Store) (id : Nat) : Nat := (st.channels.cell id).backlog

end Fieldwork.Store
