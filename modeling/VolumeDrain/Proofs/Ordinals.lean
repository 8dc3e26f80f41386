import VolumeDrain.Proofs.Objects

/-!
# What names tell of ordinals

A pool finds its objects by the numbers at the end of their names. The names of claims and of
placeholders end in their ordinal, whatever hyphens and digits the names of the pool and of its
claim hold; the names of drain jobs end in a word and so have no ordinal. Placeholders and drain
jobs of different pools or ordinals never share a name. Of claims this is only so within one pool:
the name of the claim template is part of their names, and a template's name that is made up like
the end of a pool's name lets the claims of two pools meet.
-/
namespace VolumeDrain

open Text

/-- A stem and a number can both be read off the name that they make. -/
theorem append_ordinal_inj {a b : String} {m n : Nat} :
    a ++ "-" ++ toString m = b ++ "-" ++ toString n ↔ a = b ∧ m = n := by
  constructor
  · intro h
    have hends : EndsIn (a ++ "-" ++ toString m) (toString n) := h ▸ endsIn_numbered b n
    obtain rfl := toString_injective ((endsIn_numbered a m).unique hends)
    exact ⟨(String.append_left_inj _).1 ((String.append_left_inj _).1 h), rfl⟩
  · rintro ⟨rfl, rfl⟩
    rfl

namespace BufferPool

variable {p q : BufferPool} {i j : Nat}

theorem statefulSetName_inj : p.statefulSetName = q.statefulSetName ↔ p.name = q.name :=
  String.append_left_inj _

/-- A placeholder's name tells its pool and its ordinal. -/
theorem placeholderName_eq_iff :
    p.placeholderName i = q.placeholderName j ↔ p.name = q.name ∧ i = j :=
  append_ordinal_inj.trans (and_congr_left' statefulSetName_inj)

/-- A drain job's name tells its pool and its ordinal. -/
theorem drainerName_eq_iff : p.drainerName i = q.drainerName j ↔ p.name = q.name ∧ i = j :=
  (String.append_left_inj _).trans placeholderName_eq_iff

theorem trailingOrdinal?_drainerName (p : BufferPool) (i : Nat) :
    trailingOrdinal? (p.drainerName i) = none := by
  have hlist : (p.drainerName i).toList =
      (p.placeholderName i).toList ++ '-' :: "drainer".toList := String.toList_append
  rw [trailingOrdinal?, hlist, afterLastHyphen_append (by decide)]
  rfl

end BufferPool

namespace Drain

open Manifest

/-- The largest ordinal that a worker can have. -/
def maxWorkerOrdinal : Nat := 2147483647

/-- The objects that are made for the volume of an ordinal are named after the stateful set and the
ordinal. The placeholder is always made, and the drain job wherever its claim template has a name
and its pod can be put together. -/
structure NamesDrain (p : BufferPool) (v : Claim) (i : Nat) : Prop where
  placeholder : ∃ pod, placeholderPod p v = .ok pod ∧
    pod.metadata.name = some (p.statefulSetName ++ "-" ++ toString i)
  job : ∀ job, drainerJob p v = .ok job →
    job.metadata.name = some (p.statefulSetName ++ "-" ++ toString i ++ "-drainer")
  builds : (∃ job, drainerJob p v = .ok job) ↔
    p.spec.bufferStorage.claimName.isEmpty = false ∧ ∃ pod, drainerPod p v = .ok pod

theorem namesDrain_of_name {p : BufferPool} {v : Claim} {i : Nat} (hv : nameOf v = p.claimName i)
    (hi : i ≤ maxOrdinal) : NamesDrain p v i where
  placeholder := by
    obtain ⟨pod, hpod⟩ := exists_placeholderPod hv hi
    obtain ⟨ordinal, hordinal, hmeta⟩ := metadata_placeholderPod hpod
    obtain ⟨rfl, -⟩ := (claimOrdinal_eq_ok_iff hv).1 hordinal
    exact ⟨pod, hpod, congrArg ObjectMeta.name hmeta⟩
  job job hjob := by
    obtain ⟨ordinal, -, hordinal, -, hmeta, -⟩ := metadata_drainerJob hjob
    obtain ⟨rfl, -⟩ := (claimOrdinal_eq_ok_iff hv).1 hordinal
    exact congrArg ObjectMeta.name hmeta
  builds := by
    have hordinal : claimOrdinal v = .ok i := (claimOrdinal_eq_ok_iff hv).2 ⟨rfl, hi⟩
    rw [drainerJob]
    cases p.spec.bufferStorage.claimName.isEmpty with
    | true => simp [throw, throwThe, MonadExceptOf.throw, Bind.bind, Except.bind]
    | false =>
      cases drainerPod p v with
      | error e => simp [hordinal, Bind.bind, Except.bind]
      | ok pod => simp [hordinal, Bind.bind, Except.bind, Pure.pure, Except.pure]

variable {i j m n : Nat}

/-- Ordinals are read back from the names that hold them, within the widths that ordinals have, and
never from the name of a drain job. The names of placeholders and of drain jobs tell pools and
ordinals apart, those of claims the ordinals of one pool; and what is made for a claim is named
after the claim's ordinal. -/
theorem names_tell_ordinals (p q : BufferPool) (hi : i ≤ maxOrdinal) (hn : n ≤ maxWorkerOrdinal) :
    trailingOrdinal? (p.claimName n) = some n ∧
    trailingOrdinal? (p.placeholderName i) = some i ∧
    trailingOrdinal? (p.drainerName i) = none ∧
    (p.placeholderName i = q.placeholderName j ↔ p.name = q.name ∧ i = j) ∧
    (p.drainerName i = q.drainerName j ↔ p.name = q.name ∧ i = j) ∧
    (p.claimName m = p.claimName n ↔ m = n) ∧
    ∀ v : Claim, nameOf v = p.claimName n → NamesDrain p v n := by
  have hordinal : n ≤ maxOrdinal := Nat.le_trans hn (by decide)
  refine ⟨?_, ?_, p.trailingOrdinal?_drainerName i, BufferPool.placeholderName_eq_iff,
    BufferPool.drainerName_eq_iff, p.claimName_inj, fun v hv => namesDrain_of_name hv hordinal⟩
  · rw [p.trailingOrdinal?_claimName, if_pos hordinal]
  · rw [p.trailingOrdinal?_placeholderName, if_pos hi]

/-- A pool with hyphens and numbers in its name and in that of its claim template. -/
def numberedPool : BufferPool := .ofSpec "logs-2" { bufferStorage := { claimName := "spill-7-0" } }

def twelfthClaim : Claim where
  metadata := { name := some "logs-2-spill-7-0-logs-2-buffer-12" }

theorem names_tell_ordinals_numbered :
    12 ≤ maxOrdinal ∧ 12 ≤ maxWorkerOrdinal ∧
    trailingOrdinal? "logs-2-spill-7-0-logs-2-buffer-12" = some 12 ∧
    trailingOrdinal? "logs-2-buffer-12" = some 12 ∧
    trailingOrdinal? "logs-2-buffer-12-drainer" = none ∧
    NamesDrain numberedPool twelfthClaim 12 := by
  have hordinal : 12 ≤ maxOrdinal := by decide
  have hworker : 12 ≤ maxWorkerOrdinal := by decide
  obtain ⟨hclaim, hplaceholder, hdrainer, -, -, -, hnames⟩ :=
    names_tell_ordinals (j := 0) (m := 0) numberedPool numberedPool hordinal hworker
  exact ⟨hordinal, hworker, hclaim, hplaceholder, hdrainer, hnames twelfthClaim (by decide)⟩

/-- The claims of two pools can share a name. -/
example :
    (BufferPool.ofSpec "logs-logs" { bufferStorage := { claimName := "spill" } }).claimName 0 =
      (BufferPool.ofSpec "logs"
        { bufferStorage := { claimName := "logs-spill-logs" } }).claimName 0 := by
  decide

end Drain

end VolumeDrain
