import VolumeDrain.Pool.Names
import VolumeDrain.Proofs.Numerals

/-!
# Names and ordinals

The ordinal at the end of a name can be read back from it, and the names of a pool's objects tell
ordinals apart. What a pass finds out by names alone, such as which placeholder belongs to which
volume, rests on this.
-/
namespace VolumeDrain.BufferPool

open Text

variable (p : BufferPool) {i j : Nat}

theorem claimName_inj : p.claimName i = p.claimName j ↔ i = j := by
  refine ⟨fun h => ?_, fun h => by rw [h]⟩
  exact toString_injective ((String.append_right_inj _).1 h)

theorem placeholderName_inj : p.placeholderName i = p.placeholderName j ↔ i = j := by
  refine ⟨fun h => ?_, congrArg _⟩
  exact toString_injective ((String.append_right_inj _).1 h)

theorem drainerName_inj : p.drainerName i = p.drainerName j ↔ i = j := by
  refine ⟨fun h => ?_, congrArg _⟩
  exact p.placeholderName_inj.1 ((String.append_left_inj _).1 h)

theorem trailingOrdinal?_claimName :
    trailingOrdinal? (p.claimName i) = if i ≤ maxOrdinal then some i else none :=
  trailingOrdinal?_append _ i

theorem trailingOrdinal?_placeholderName :
    trailingOrdinal? (p.placeholderName i) = if i ≤ maxOrdinal then some i else none :=
  trailingOrdinal?_append _ i

end VolumeDrain.BufferPool
