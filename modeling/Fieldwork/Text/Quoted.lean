import Fieldwork.Text.Hidden
/-!
Texts as they stand in descriptions and messages: between double quotes, with an escape for the
quote, the backslash, and every character that a reader could not see.
-/
namespace Fieldwork.Text

def hex (n : Nat) : List Char := Nat.toDigits 16 n

def quotedChar (c : Char) : List Char :=
  if c = '"' then ['\\', '"']
  else if c = '\\' then ['\\', '\\']
  else if c = '\t' then ['\\', 't']
  else if c = '\r' then ['\\', 'r']
  else if c = '\n' then ['\\', 'n']
  else if c = '\x00' then ['\\', '0']
  else if c.toNat < 0x20 || c.toNat = 0x7f || (0x7f < c.toNat && isHidden c) then
    '\\' :: 'u' :: '\x7b' :: hex c.toNat ++ ['\x7d']
  else [c]

def quoted (s : String) : String :=
  String.ofList ('"' :: s.toList.flatMap quotedChar ++ ['"'])

def separated (sep : String) (items : List String) : String := sep.intercalate items

def bracketed (items : List String) : String := "[" ++ separated ", " items ++ "]"

def braced (items : List String) : String := "\x7b" ++ separated ", " items ++ "\x7d"

def record (name : String) (fields : List (String × String)) : String :=
  name ++ " \x7b " ++ separated ", " (fields.map fun f => f.1 ++ ": " ++ f.2) ++ " \x7d"

def openRecord (name : String) (fields : List (String × String)) : String :=
  name ++ " \x7b " ++ separated ", " (fields.map fun f => f.1 ++ ": " ++ f.2) ++ ", .. \x7d"

def applied (name argument : String) : String := name ++ "(" ++ argument ++ ")"

end Fieldwork.Text
