import VolumeDrain.Json

/-!
# Writing JSON text

The text of a document without spaces: quotes, backslashes and control characters of strings are
escaped, every other character stands for itself.
-/
namespace VolumeDrain.Json

/-- A hexadecimal digit below sixteen. -/
def hexDigit (n : Nat) : Char := if n < 10 then Char.ofNat (48 + n) else Char.ofNat (87 + n)

/-- A character inside a quoted text. -/
def escapeChar (c : Char) : List Char :=
  if c = '"' then ['\\', '"']
  else if c = '\\' then ['\\', '\\']
  else if c = '\n' then ['\\', 'n']
  else if c = '\r' then ['\\', 'r']
  else if c = '\t' then ['\\', 't']
  else if c.toNat < 0x20 then
    ['\\', 'u', '0', '0', hexDigit (c.toNat / 16), hexDigit (c.toNat % 16)]
  else [c]

/-- A string between quotes. -/
def quote (s : String) : String :=
  "\"" ++ String.ofList (s.toList.flatMap escapeChar) ++ "\""

mutual

/-- The text of a value. -/
def print : Json → String
  | null => "null"
  | bool b => if b then "true" else "false"
  | int n => toString n
  | decimal m e => toString m ++ "e" ++ toString e
  | str s => quote s
  | arr items => "[" ++ printItems items ++ "]"
  | obj members => "\x7b" ++ printMembers members ++ "\x7d"

/-- The items of an array with commas between them. -/
def printItems : List Json → String
  | [] => ""
  | [j] => print j
  | j :: rest => print j ++ "," ++ printItems rest

/-- The members of an object with commas between them. -/
def printMembers : List (String × Json) → String
  | [] => ""
  | [(k, j)] => quote k ++ ":" ++ print j
  | (k, j) :: rest => quote k ++ ":" ++ print j ++ "," ++ printMembers rest

end

end VolumeDrain.Json
