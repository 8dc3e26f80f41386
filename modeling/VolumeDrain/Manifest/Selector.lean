import VolumeDrain.KeyMap

/-!
# Label selectors

Equality-based selectors: writing them, reading them and matching labels against them. A term
`key=value` asks for the entry, `key!=value` asks that there is no such entry, and a key alone asks
for any value.
-/
namespace VolumeDrain.Manifest

/-- One term of a selector. -/
inductive SelectorTerm where
  | is (key value : String)
  | isNot (key value : String)
  | has (key : String)
deriving DecidableEq, Repr

/-- A selector: all of its terms have to hold. -/
abbrev Selector := List SelectorTerm

namespace SelectorTerm

/-- The text of a term. -/
def text : SelectorTerm → String
  | is key value => key ++ "=" ++ value
  | isNot key value => key ++ "!=" ++ value
  | has key => key

/-- Whether labels meet a term. -/
def holds (labels : KeyMap String) : SelectorTerm → Bool
  | is key value => labels.get? key == some value
  | isNot key value => labels.get? key != some value
  | has key => labels.contains key

/-- A text cut at its first `!=`. -/
def cutUnequal : List Char → Option (List Char × List Char)
  | '!' :: '=' :: rest => some ([], rest)
  | c :: rest => (cutUnequal rest).map fun p => (c :: p.1, p.2)
  | [] => none

/-- A text cut at its first `=`. -/
def cutEqual : List Char → Option (List Char × List Char)
  | '=' :: rest => some ([], rest)
  | c :: rest => (cutEqual rest).map fun p => (c :: p.1, p.2)
  | [] => none

/-- Reads a term: it is cut at a `!=` if it has one, else at an equals sign. -/
def read (cs : List Char) : SelectorTerm :=
  match cutUnequal cs with
  | some (key, value) => isNot (String.ofList key) (String.ofList value)
  | none =>
    match cutEqual cs with
    | some (key, value) => is (String.ofList key) (String.ofList value)
    | none => has (String.ofList cs)

end SelectorTerm

namespace Selector

/-- The selector of the labels themselves. -/
def ofLabels (labels : KeyMap String) : Selector := labels.entries.map fun e => .is e.1 e.2

/-- The text of a selector: its terms with commas between them. -/
def text (s : Selector) : String := ",".intercalate (s.map SelectorTerm.text)

/-- The parts of a text between its commas. -/
def parts : List Char → List (List Char)
  | [] => [[]]
  | ',' :: rest => [] :: parts rest
  | c :: rest =>
    match parts rest with
    | [] => [[c]]
    | part :: more => (c :: part) :: more

/-- Reads a selector; nothing between two commas is no term. -/
def read (text : String) : Selector :=
  ((parts text.toList).filter fun part => !part.isEmpty).map SelectorTerm.read

/-- Whether labels meet every term. -/
def holds (labels : KeyMap String) (s : Selector) : Bool := s.all (SelectorTerm.holds labels)

end Selector

end VolumeDrain.Manifest
