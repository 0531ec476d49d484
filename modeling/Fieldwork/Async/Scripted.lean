import Fieldwork.Async.Source
import Fieldwork.Script.Run
/-!
Futures and streams that run a script, and those that wait for a task or for a channel.
-/
namespace Fieldwork

namespace Future

def ofScript (call : Option Call) (script : Script) : Future where
  State := Script
  state := script
  poll s st :=
    let (halt, s, st) := Script.advance call s st
    match halt with
    | .waiting => (.pending, s, st)
    | .emitted v => (.ready (.ok v), s, st)
    | .failed f => (.ready (.error f), s, st)
    | .ended => (.ready (.ok .null), s, st)
    | .crashed => (.broken, s, st)
  release _ st := st

/-- What the task ends with. Dropping the future stops the task. -/
def ofTask (id : Nat) : Future where
  State := Unit
  state := ()
  poll _ st := match (st.tasks.cell id).status with
    | .running => (.pending, (), st)
    | .finished o => (.ready o, (), st)
    | .crashed => (.ready (.error (.taskBroken (Task.number id) Script.breakdown)), (), st)
    | .aborted => (.ready (.error (.taskStopped (Task.number id))), (), st)
  release _ st := Task.abort st id

/-- What the channel gives first; `closed` when there will be nothing. -/
def ofChannel (id : Nat) (closed : Outcome) : Future where
  State := Unit
  state := ()
  poll _ st :=
    let (r, st) := st.receive id
    match r with
    | .item o => (.ready o, (), st)
    | .lagged n => (.ready (.error (.lagged n)), (), st)
    | .waiting => (.pending, (), st)
    | .closed => (.ready closed, (), st)
  release _ st := st.closeReceiver id

end Future

namespace Stream

def ofScript (call : Option Call) (script : Script) : Stream where
  State := Script
  state := script
  poll s st :=
    let (halt, s, st) := Script.advance call s st
    match halt with
    | .waiting => (.pending, s, st)
    | .emitted v => (.ready (some (.ok v)), s, st)
    | .failed f => (.ready (some (.error f)), s, st)
    | .ended => (.ready none, s, st)
    | .crashed => (.broken, s, st)
  release _ st := st
  hint _ _ := (0, none)
  burst s _ := s.length

def ofChannel (id : Nat) : Stream where
  State := Unit
  state := ()
  poll _ st :=
    let (r, st) := st.receive id
    match r with
    | .item o => (.ready (some o), (), st)
    | .lagged n => (.ready (some (.error (.lagged n))), (), st)
    | .waiting => (.pending, (), st)
    | .closed => (.ready none, (), st)
  release _ st := st.closeReceiver id
  hint _ st := (st.channels.cell id).hint
  burst _ st := st.backlog id

end Stream
end Fieldwork
