/-!
# Socket addresses

An internet address and a port: reading them, and writing them in their one canonical form, in
which the longest run of zero groups of a version 6 address is left out.
-/
namespace VolumeDrain.Net

/-- An internet address, of four bytes or of eight groups. -/
inductive Address where
  | v4 (a b c d : Nat)
  | v6 (groups : List Nat) (scope : Nat)
deriving DecidableEq, Repr

/-- An address with a port. -/
structure SocketAddress where
  address : Address
  port : Nat
deriving DecidableEq, Repr

namespace SocketAddress

/-- The value of a digit in a base of up to sixteen. -/
def digit? (base : Nat) (c : Char) : Option Nat :=
  let n :=
    if '0' ≤ c && c ≤ '9' then c.toNat - 48
    else if 'a' ≤ c && c ≤ 'f' then c.toNat - 87
    else if 'A' ≤ c && c ≤ 'F' then c.toNat - 55
    else base
  if n < base then some n else none

/-- Reads a number of at most `limit`. It may be held to a number of digits, and to have no zero
in front. -/
def readNumber (base limit : Nat) (maxDigits : Option Nat) (zeroPrefix : Bool)
    (cs : List Char) : Option (Nat × List Char) :=
  let digits := cs.takeWhile fun c => (digit? base c).isSome
  let value := digits.foldl (fun n c => n * base + (digit? base c).getD 0) 0
  if digits.isEmpty || maxDigits.any (· < digits.length) || limit < value ||
      (!zeroPrefix && digits.head? = some '0' && 1 < digits.length) then none
  else some (value, cs.drop digits.length)

/-- Reads one character. -/
def readChar (expected : Char) : List Char → Option (List Char)
  | c :: rest => if c = expected then some rest else none
  | [] => none

/-- Reads four bytes with points between them. -/
def readV4 (cs : List Char) : Option ((Nat × Nat × Nat × Nat) × List Char) := do
  let byte := readNumber 10 255 (some 3) false
  let (a, cs) ← byte cs
  let (b, cs) ← byte (← readChar '.' cs)
  let (c, cs) ← byte (← readChar '.' cs)
  let (d, cs) ← byte (← readChar '.' cs)
  return ((a, b, c, d), cs)

/-- Reads up to a number of groups with colons between them; the last two may be written as four
bytes. The flag tells whether they were. -/
def readGroups (isFirst : Bool) : Nat → List Char → List Nat × Bool × List Char
  | 0, cs => ([], false, cs)
  | left + 1, cs =>
    let start := if isFirst then some cs else readChar ':' cs
    match start.bind (fun cs => if 0 < left then readV4 cs else none) with
    | some ((a, b, c, d), rest) => ([a * 256 + b, c * 256 + d], true, rest)
    | none =>
      match start.bind (readNumber 16 65535 (some 4) true) with
      | some (group, rest) =>
        let (groups, bytes, rest) := readGroups false left rest
        (group :: groups, bytes, rest)
      | none => ([], false, cs)

/-- Reads eight groups, of which a run of zeros may be left out between two colons. -/
def readV6 (cs : List Char) : Option (List Nat × List Char) := do
  let (head, bytes, rest) := readGroups true 8 cs
  if head.length = 8 then return (head, rest)
  guard !bytes
  let rest ← readChar ':' (← readChar ':' rest)
  let (tail, _, rest) := readGroups true (7 - head.length) rest
  return (head ++ List.replicate (8 - head.length - tail.length) 0 ++ tail, rest)

/-- Reads a colon and a port. -/
def readPort (cs : List Char) : Option (Nat × List Char) := do
  readNumber 10 65535 none true (← readChar ':' cs)

/-- Reads a percent sign and the number of a scope, if they are there. -/
def readScope (cs : List Char) : Option (Nat × List Char) :=
  match cs with
  | '%' :: rest => readNumber 10 4294967295 none true rest
  | _ => some (0, cs)

/-- Reads a socket address, which has to be the whole text. -/
def read? (text : String) : Option SocketAddress :=
  let cs := text.toList
  let v4 : Option SocketAddress := do
    let ((a, b, c, d), rest) ← readV4 cs
    let (port, rest) ← readPort rest
    guard rest.isEmpty
    return ⟨.v4 a b c d, port⟩
  let v6 : Option SocketAddress := do
    let (groups, rest) ← readV6 (← readChar '[' cs)
    let (scope, rest) ← readScope rest
    let (port, rest) ← readPort (← readChar ']' rest)
    guard rest.isEmpty
    return ⟨.v6 groups scope, port⟩
  v4 <|> v6

/-- The text of four bytes. -/
def bytesText (a b c d : Nat) : String :=
  toString a ++ "." ++ toString b ++ "." ++ toString c ++ "." ++ toString d

/-- The text of groups. -/
def groupsText (groups : List Nat) : String :=
  ":".intercalate (groups.map fun g => String.ofList (Nat.toDigits 16 g))

/-- The number of zeros that a list begins with. -/
def zeroRun (groups : List Nat) : Nat := (groups.takeWhile (· = 0)).length

/-- Where the first of the longest runs of zeros begins, and how long it is. -/
def longestRun : List Nat → Nat × Nat
  | [] => (0, 0)
  | g :: rest =>
    let here := zeroRun (g :: rest)
    let (start, length) := longestRun rest
    if length ≤ here then (0, here) else (start + 1, length)

/-- The text of a version 6 address. -/
def v6Text (groups : List Nat) : String :=
  match groups with
  | [0, 0, 0, 0, 0, 65535, x, y] =>
    "::ffff:" ++ bytesText (x / 256) (x % 256) (y / 256) (y % 256)
  | _ =>
    let (start, length) := longestRun groups
    if length ≤ 1 then groupsText groups
    else groupsText (groups.take start) ++ "::" ++ groupsText (groups.drop (start + length))

/-- The canonical text of a socket address. -/
def text (s : SocketAddress) : String :=
  match s.address with
  | .v4 a b c d => bytesText a b c d ++ ":" ++ toString s.port
  | .v6 groups scope =>
    "[" ++ v6Text groups ++ (if scope = 0 then "" else "%" ++ toString scope) ++ "]:" ++
      toString s.port

end SocketAddress

end VolumeDrain.Net
