import VolumeDrain.Json

/-!
# JSON pointers

Looking up a place in a document by the pointers of RFC 6901.
-/
namespace VolumeDrain.Json

/-- The parts of a text between the occurrences of a character. -/
def splitAt (sep : Char) : List Char → List (List Char)
  | [] => [[]]
  | c :: cs =>
    if c = sep then [] :: splitAt sep cs
    else
      match splitAt sep cs with
      | [] => [[c]]
      | part :: parts => (c :: part) :: parts

/-- A reference token with `~1` read as a slash and `~0` as a tilde. -/
def unescapeToken : List Char → List Char
  | '~' :: '1' :: rest => '/' :: unescapeToken rest
  | '~' :: '0' :: rest => '~' :: unescapeToken rest
  | c :: rest => c :: unescapeToken rest
  | [] => []

/-- The array index a token names: decimal digits without a sign or a leading zero. -/
def arrayIndex? (token : List Char) : Option Nat :=
  if token = [] || !token.all Char.isDigit || (token.head? = some '0' && token.length ≠ 1) then none
  else some (token.foldl (fun n c => n * 10 + (c.toNat - '0'.toNat)) 0)

/-- One step from a value to the part that a token names. -/
def child? (token : List Char) : Json → Option Json
  | obj members => members.lookup (String.ofList token)
  | arr items => (arrayIndex? token).bind fun i => items[i]?
  | _ => none

/-- The value a pointer leads to: the document itself for the empty pointer, nothing for one that
does not start with a slash. -/
def pointer? (pointer : String) (document : Json) : Option Json :=
  match pointer.toList with
  | [] => some document
  | '/' :: rest =>
    (splitAt '/' rest).foldl (fun j token => j.bind (child? (unescapeToken token))) (some document)
  | _ => none

end VolumeDrain.Json
