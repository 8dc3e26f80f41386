import VolumeDrain.Text.Unsigned

/-!
# Ordinals at the end of names

The objects of one worker share a number of 32 bits, which stands after the last hyphen of their
names.
-/
namespace VolumeDrain.Text

/-- The text after the last hyphen, if there is one. -/
def afterLastHyphen : List Char → Option (List Char)
  | [] => none
  | c :: rest =>
    match afterLastHyphen rest with
    | some suffix => some suffix
    | none => if c = '-' then some rest else none

/-- The largest ordinal. -/
def maxOrdinal : Nat := 4294967295

/-- The ordinal at the end of a name. -/
def trailingOrdinal? (name : String) : Option Nat :=
  (afterLastHyphen name.toList).bind (readUnsigned maxOrdinal)

end VolumeDrain.Text
