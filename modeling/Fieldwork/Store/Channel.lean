import Fieldwork.Failure
/-!
Channels: queues between one sender and one receiver. What was sent before the sender went away is
still received.
-/
namespace Fieldwork

inductive ChannelKind
  | once
  | onceResult
  | bounded
  | unbounded
  /-- When full it drops the oldest value, and the receiver is told how many it missed. -/
  | broadcast
  deriving DecidableEq, Repr

namespace ChannelKind

def name : ChannelKind → String
  | once => "oneshot"
  | onceResult => "oneshot_result"
  | bounded => "mpsc"
  | unbounded => "unbounded"
  | broadcast => "broadcast"

end ChannelKind

structure Channel where
  kind : ChannelKind
  capacity : Nat
  queue : List Outcome := []
  missed : Nat := 0
  senderOpen : Bool := true
  receiverOpen : Bool := true
  taken : Bool := false

inductive SendReport
  | sent
  | full
  | closed
  deriving DecidableEq, Repr

inductive Received
  | item (o : Outcome)
  | lagged (missed : Nat)
  | waiting
  | closed

namespace Channel

def roundUp (n : Nat) : Nat := if n ≤ 1 then 1 else Nat.pow 2 ((n - 1).log2 + 1)

def create (kind : ChannelKind) (capacity : Nat) : Channel where
  kind := kind
  capacity := if kind = .broadcast then roundUp capacity else capacity

def gone : Channel where
  kind := .once
  capacity := 0
  senderOpen := false
  receiverOpen := false

def push (c : Channel) (o : Outcome) : Channel := { c with queue := c.queue ++ [o] }

def send (c : Channel) (o : Outcome) : SendReport × Channel :=
  if !c.senderOpen || !c.receiverOpen then (.closed, c)
  else match c.kind with
    | .once | .onceResult => (.sent, { c.push o with senderOpen := false })
    | .bounded => if c.queue.length < c.capacity then (.sent, c.push o) else (.full, c)
    | .unbounded => (.sent, c.push o)
    | .broadcast =>
      if c.queue.length < c.capacity then (.sent, c.push o)
      else (.sent, { c with queue := c.queue.tail ++ [o], missed := c.missed + 1 })

def receive (c : Channel) : Received × Channel :=
  if 0 < c.missed then (.lagged c.missed, { c with missed := 0 })
  else match c.queue with
    | o :: rest => (.item o, { c with queue := rest })
    | [] => (if c.senderOpen then .waiting else .closed, c)

def backlog (c : Channel) : Nat := c.queue.length + if 0 < c.missed then 1 else 0

def hint (c : Channel) : Nat × Option Nat :=
  match c.kind with
  | .broadcast => (0, none)
  | _ => (c.queue.length, if c.senderOpen then none else some c.queue.length)

def closeSender (c : Channel) : Channel := { c with senderOpen := false }

def closeReceiver (c : Channel) : Channel := { c with receiverOpen := false }

end Channel
end Fieldwork
