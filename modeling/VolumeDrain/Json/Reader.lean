import VolumeDrain.Json

/-!
# Reading JSON text

A reader for the whole grammar of RFC 8259. Of two members with one name the later counts. Text
that goes on after the value, a control character inside a string and an escape that names half a
surrogate pair are refused.
-/
namespace VolumeDrain.Json.Reader

/-- Whether a character may stand between tokens. -/
def isSpace (c : Char) : Bool := c = ' ' || c = '\t' || c = '\n' || c = '\r'

/-- The text from its first token on. -/
def skipSpace (cs : List Char) : List Char := cs.dropWhile isSpace

/-- The value of a hexadecimal digit. -/
def hexDigit? (c : Char) : Option Nat :=
  if '0' ≤ c && c ≤ '9' then some (c.toNat - '0'.toNat)
  else if 'a' ≤ c && c ≤ 'f' then some (c.toNat - 'a'.toNat + 10)
  else if 'A' ≤ c && c ≤ 'F' then some (c.toNat - 'A'.toNat + 10)
  else none

/-- The number written by four hexadecimal digits. -/
def hexUnit? (a b c d : Char) : Option Nat := do
  let a ← hexDigit? a
  let b ← hexDigit? b
  let c ← hexDigit? c
  let d ← hexDigit? d
  return ((a * 16 + b) * 16 + c) * 16 + d

/-- The character of an escape of one letter. -/
def simpleEscape? (c : Char) : Option Char :=
  if c = '"' then some '"'
  else if c = '\\' then some '\\'
  else if c = '/' then some '/'
  else if c = 'b' then some '\x08'
  else if c = 'f' then some '\x0c'
  else if c = 'n' then some '\n'
  else if c = 'r' then some '\r'
  else if c = 't' then some '\t'
  else none

/-- The characters of a string up to its closing quote, read after its opening one. The second
argument holds the characters read so far, last first. -/
def stringBody : List Char → List Char → Option (String × List Char)
  | '"' :: rest, acc => some (String.ofList acc.reverse, rest)
  | '\\' :: 'u' :: a :: b :: c :: d :: rest, acc =>
    match hexUnit? a b c d with
    | none => none
    | some u =>
      if u < 0xD800 || 0xDFFF < u then stringBody rest (Char.ofNat u :: acc)
      else
        match rest with
        | '\\' :: 'u' :: e :: f :: g :: h :: rest' =>
          match hexUnit? e f g h with
          | none => none
          | some v =>
            if u < 0xDC00 && 0xDC00 ≤ v && v ≤ 0xDFFF then
              stringBody rest'
                (Char.ofNat (0x10000 + (u - 0xD800) * 0x400 + (v - 0xDC00)) :: acc)
            else none
        | _ => none
  | '\\' :: c :: rest, acc => (simpleEscape? c).bind fun e => stringBody rest (e :: acc)
  | c :: rest, acc => if c.toNat < 0x20 then none else stringBody rest (c :: acc)
  | [], _ => none

/-- The value of a run of decimal digits. -/
def digitsValue (digits : List Char) : Nat :=
  digits.foldl (fun n c => n * 10 + (c.toNat - '0'.toNat)) 0

/-- A number without its sign: the digits before and after the point, and the exponent. -/
def unsignedNumber? (cs : List Char) :
    Option (List Char × Option (List Char) × Option Int × List Char) := do
  let whole := cs.takeWhile Char.isDigit
  let rest := cs.dropWhile Char.isDigit
  guard (whole ≠ [] && (whole.length = 1 || whole.head? ≠ some '0'))
  let (fraction, rest) ← match rest with
    | '.' :: r =>
      let f := r.takeWhile Char.isDigit
      if f = [] then none else some (some f, r.dropWhile Char.isDigit)
    | r => some (none, r)
  let signedExponent (negative : Bool) (r : List Char) : Option (Option Int × List Char) :=
    let e := r.takeWhile Char.isDigit
    let n : Int := digitsValue e
    if e = [] then none else some (some (if negative then -n else n), r.dropWhile Char.isDigit)
  let (exponent, rest) ← match rest with
    | c :: r =>
      if c = 'e' || c = 'E' then
        match r with
        | '-' :: r => signedExponent true r
        | '+' :: r => signedExponent false r
        | r => signedExponent false r
      else some (none, rest)
    | [] => some (none, rest)
  return (whole, fraction, exponent, rest)

/-- A number: an integer if it has no point, no exponent and is not `-0`. -/
def number? (negative : Bool) (cs : List Char) : Option (Json × List Char) := do
  let (whole, fraction, exponent, rest) ← unsignedNumber? cs
  let digits := whole ++ fraction.getD []
  let magnitude : Int := digitsValue digits
  let mantissa := if negative then -magnitude else magnitude
  if fraction.isNone && exponent.isNone && !(negative && magnitude == 0) then
    return (.int mantissa, rest)
  else
    return (.decimal mantissa (exponent.getD 0 - (fraction.getD []).length), rest)

mutual

/-- One value, and the text after it. -/
def value : Nat → List Char → Option (Json × List Char)
  | 0, _ => none
  | fuel + 1, cs =>
    match skipSpace cs with
    | 'n' :: 'u' :: 'l' :: 'l' :: rest => some (.null, rest)
    | 't' :: 'r' :: 'u' :: 'e' :: rest => some (.bool true, rest)
    | 'f' :: 'a' :: 'l' :: 's' :: 'e' :: rest => some (.bool false, rest)
    | '"' :: rest => (stringBody rest []).map fun r => (.str r.1, r.2)
    | '[' :: rest =>
      match skipSpace rest with
      | ']' :: rest => some (.arr [], rest)
      | rest => (items fuel rest).map fun r => (.arr r.1, r.2)
    | '{' :: rest =>
      match skipSpace rest with
      | '}' :: rest => some (.obj [], rest)
      | rest => (members fuel [] rest).map fun r => (.obj r.1, r.2)
    | '-' :: rest => number? true rest
    | rest => number? false rest

/-- The items of an array up to its closing bracket, at least one. -/
def items : Nat → List Char → Option (List Json × List Char)
  | 0, _ => none
  | fuel + 1, cs =>
    match value fuel cs with
    | none => none
    | some (item, rest) =>
      match skipSpace rest with
      | ',' :: rest => (items fuel rest).map fun r => (item :: r.1, r.2)
      | ']' :: rest => some ([item], rest)
      | _ => none

/-- The members of an object up to its closing brace, at least one, added to those read so far. -/
def members : Nat → Members → List Char → Option (Members × List Char)
  | 0, _, _ => none
  | fuel + 1, acc, cs =>
    match skipSpace cs with
    | '"' :: rest =>
      match stringBody rest [] with
      | none => none
      | some (name, rest) =>
        match skipSpace rest with
        | ':' :: rest =>
          match value fuel rest with
          | none => none
          | some (v, rest) =>
            match skipSpace rest with
            | ',' :: rest => members fuel (putMember name v acc) rest
            | '}' :: rest => some (putMember name v acc, rest)
            | _ => none
        | _ => none
    | _ => none

end

end VolumeDrain.Json.Reader

/-- The value that a text holds, if it holds exactly one. -/
def VolumeDrain.Json.read? (text : String) : Option VolumeDrain.Json :=
  let cs := text.toList
  match VolumeDrain.Json.Reader.value (2 * cs.length + 2) cs with
  | some (j, rest) => if VolumeDrain.Json.Reader.skipSpace rest = [] then some j else none
  | none => none
