import Fieldwork.Json.Value
/-!
JSON text without blanks. A quote, a backslash and the characters below U+0020 are escaped and
all else is written as it is.
-/
namespace Fieldwork.Json

def escapedChar (c : Char) : List Char :=
  if c = '"' then ['\\', '"']
  else if c = '\\' then ['\\', '\\']
  else if c = '\n' then ['\\', 'n']
  else if c = '\r' then ['\\', 'r']
  else if c = '\t' then ['\\', 't']
  else if c = '\x08' then ['\\', 'b']
  else if c = '\x0c' then ['\\', 'f']
  else if c.toNat < 0x10 then ['\\', 'u', '0', '0', '0'] ++ Text.hex c.toNat
  else if c.toNat < 0x20 then ['\\', 'u', '0', '0'] ++ Text.hex c.toNat
  else [c]

def stringText (s : String) : String :=
  String.ofList ('"' :: s.toList.flatMap escapedChar ++ ['"'])

namespace Value

mutual
def text : Value → String
  | null => "null"
  | bool b => toString b
  | int n => toString n
  | float x => x.write Decimal.json
  | string s => stringText s
  | array items => "[" ++ ",".intercalate (textItems items) ++ "]"
  | object members => "\x7b" ++ ",".intercalate (textMembers members) ++ "\x7d"
def textItems : List Value → List String
  | [] => []
  | v :: vs => text v :: textItems vs
def textMembers : List (String × Value) → List String
  | [] => []
  | (k, v) :: ms => (stringText k ++ ":" ++ text v) :: textMembers ms
end

end Value
end Fieldwork.Json
