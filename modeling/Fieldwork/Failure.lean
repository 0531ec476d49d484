import Fieldwork.Response.Error
import Fieldwork.Schema.Coordinates
/-!
What can go wrong while a field is computed, as one cause each.
-/
namespace Fieldwork

inductive Failure
  | other (message : String)
  | publisher (errors : List Response.Error) (cause : Failure)
  | notStreamable (field : Schema.Coordinates)
  | channelClosed
  | lagged (missed : Nat)
  | taskBroken (number : Nat) (reason : String)
  | taskStopped (number : Nat)
  deriving DecidableEq

abbrev Outcome := Except Failure Json.Value

namespace Failure

def message : Failure → String
  | other m => m
  | publisher _ cause => "subscription publisher failed: " ++ cause.message
  | notStreamable field =>
    "subscription field '" ++ field.display ++
      "' returned a value that cannot be adapted to a stream"
  | channelClosed => "channel closed"
  | lagged n => "channel lagged by " ++ toString n
  | taskBroken n reason =>
    "task " ++ toString n ++ " panicked with message " ++ Text.quoted reason
  | taskStopped n => "task " ++ toString n ++ " was cancelled"

def isPublisher : Failure → Bool
  | publisher _ _ => true
  | _ => false

def errors? : Failure → Option (List Response.Error)
  | publisher errors _ => some errors
  | _ => none

end Failure
end Fieldwork
