import Fieldwork.Dict
import Fieldwork.Decimal.Double
import Fieldwork.Text.Quoted
/-!
JSON values. A whole number and a number with a fraction are different values, and the members of
an object keep their order.
-/
namespace Fieldwork.Json

inductive Value
  | null
  | bool (b : Bool)
  | int (n : Int)
  | float (x : Double)
  | string (s : String)
  | array (items : List Value)
  | object (members : List (String × Value))
  deriving Inhabited

abbrev Object := Dict String Value

namespace Value

mutual
def decEq : (a b : Value) → Decidable (a = b)
  | null, null => isTrue rfl
  | bool a, bool b => if h : a = b then isTrue (by rw [h]) else isFalse (by simpa using h)
  | int a, int b => if h : a = b then isTrue (by rw [h]) else isFalse (by simpa using h)
  | float a, float b => if h : a = b then isTrue (by rw [h]) else isFalse (by simpa using h)
  | string a, string b => if h : a = b then isTrue (by rw [h]) else isFalse (by simpa using h)
  | array a, array b => match decEqItems a b with
    | isTrue h => isTrue (by rw [h])
    | isFalse h => isFalse (by simpa using h)
  | object a, object b => match decEqMembers a b with
    | isTrue h => isTrue (by rw [h])
    | isFalse h => isFalse (by simpa using h)
  | null, bool _ | null, int _ | null, float _ | null, string _ | null, array _
  | null, object _ | bool _, null | bool _, int _ | bool _, float _ | bool _, string _
  | bool _, array _ | bool _, object _ | int _, null | int _, bool _ | int _, float _
  | int _, string _ | int _, array _ | int _, object _ | float _, null | float _, bool _
  | float _, int _ | float _, string _ | float _, array _ | float _, object _ | string _, null
  | string _, bool _ | string _, int _ | string _, float _ | string _, array _
  | string _, object _ | array _, null | array _, bool _ | array _, int _ | array _, float _
  | array _, string _ | array _, object _ | object _, null | object _, bool _ | object _, int _
  | object _, float _ | object _, string _ | object _, array _ => isFalse (by simp)
def decEqItems : (a b : List Value) → Decidable (a = b)
  | [], [] => isTrue rfl
  | [], _ :: _ | _ :: _, [] => isFalse (by simp)
  | a :: as, b :: bs => match decEq a b, decEqItems as bs with
    | isTrue h, isTrue h' => isTrue (by rw [h, h'])
    | isFalse h, _ => isFalse (by simp [h])
    | _, isFalse h => isFalse (by simp [h])
def decEqMembers : (a b : List (String × Value)) → Decidable (a = b)
  | [], [] => isTrue rfl
  | [], _ :: _ | _ :: _, [] => isFalse (by simp)
  | (k, a) :: as, (l, b) :: bs => match decEq a b, decEqMembers as bs with
    | isTrue h, isTrue h' => if e : k = l then isTrue (by rw [h, h', e]) else isFalse (by simp [e])
    | isFalse h, _ => isFalse (by simp [h])
    | _, isFalse h => isFalse (by simp [h])
end

instance : DecidableEq Value := decEq

def isNull : Value → Bool
  | null => true
  | _ => false

def isString : Value → Bool
  | string _ => true
  | _ => false

def string? : Value → Option String
  | string s => some s
  | _ => none

def object? : Value → Option Object
  | object m => some m
  | _ => none

mutual
def describe : Value → String
  | null => "Null"
  | bool b => Text.applied "Bool" (toString b)
  | int n => Text.applied "Number" (toString n)
  | float x => Text.applied "Number" (x.write Decimal.json)
  | string s => Text.applied "String" (Text.quoted s)
  | array items => Text.applied "Array" (Text.bracketed (describeItems items))
  | object members => Text.applied "Object" (Text.braced (describeMembers members))
def describeItems : List Value → List String
  | [] => []
  | v :: vs => describe v :: describeItems vs
def describeMembers : List (String × Value) → List String
  | [] => []
  | (k, v) :: ms => (Text.quoted k ++ ": " ++ describe v) :: describeMembers ms
end

end Value
end Fieldwork.Json
