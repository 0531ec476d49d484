import Fieldwork.Failure
/-!
Scripts: what a fetcher, a future, a stream or a task does, one move after the other. A script is
run from where it stopped last, so what is left of it is its state.
-/
namespace Fieldwork

/-- JSON in which some parts are looked up when the expression is evaluated. -/
inductive Expr
  | literal (v : Json.Value)
  | array (items : List Expr)
  | object (members : List (String × Expr))
  | slot (i : Nat)
  | current (key : String)
  | request (key : String)
  | argument (name : String)
  | source
  | field
  | path
  | handed
  deriving Inhabited

inductive Action
  | note (e : Expr)
  | setSlot (i : Nat) (e : Expr)
  | resetSlot (i : Nat)
  | setRequest (key : String) (e : Expr)
  | setCurrent (key : String) (e : Expr)
  | cancelRequest
  | cancelNamed (name : String)
  | cancelCurrent
  | send (channel : String) (e : Expr)

inductive Move
  | act (a : Action)
  | wait (times : Nat)
  | forever
  | gate (name : String)
  | emit (e : Expr)
  | fail (f : Failure)
  | crash

abbrev Script := List Move

def Script.breakdown : String := "scripted panic"

def Move.passes : Move → Bool
  | wait _ => true
  | _ => false

end Fieldwork
