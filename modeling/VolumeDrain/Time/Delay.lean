/-!
# Delays

How long to wait before something is looked at again.
-/
namespace VolumeDrain

/-- A span of time in milliseconds. -/
structure Delay where
  millis : Nat
deriving DecidableEq, Repr

namespace Delay

/-- A span of whole seconds. -/
def seconds (n : Nat) : Delay := ⟨n * 1000⟩

/-- The shorter of two delays. -/
def min (a b : Delay) : Delay := if b.millis < a.millis then b else a

/-- The shortest delay of a list, if it has any. -/
def shortest? : List Delay → Option Delay
  | [] => none
  | d :: rest => some (rest.foldl min d)

end Delay

end VolumeDrain
