import VolumeDrain.Drain.Objects
import VolumeDrain.Proofs.ExtraVolumes
import VolumeDrain.Proofs.Names
import VolumeDrain.Proofs.Selection

/-!
# What the objects of a drain are

The names, labels and bindings of placeholders and drain jobs, as far as later passes go by them:
a placeholder holds the ordinal of its volume, and a drain job binds its volume whatever else the
pool has its pods mount.
-/
namespace VolumeDrain.Drain

open Manifest Pool Worker

variable {p : BufferPool} {v : Claim} {i : Nat}

/-- An ordinal is read from the end of a volume's name. -/
theorem trailingOrdinal_of_claimOrdinal (h : claimOrdinal v = .ok i) :
    Text.trailingOrdinal? (nameOf v) = some i := by
  rw [claimOrdinal] at h
  split at h
  · rename_i ordinal hordinal
    rw [hordinal, Except.ok.inj h]
  · cases h

theorem claimOrdinal_eq_ok_iff {ordinal : Nat} (hv : nameOf v = p.claimName i) :
    claimOrdinal v = .ok ordinal ↔ ordinal = i ∧ i ≤ Text.maxOrdinal := by
  rw [claimOrdinal, hv, p.trailingOrdinal?_claimName]
  by_cases hi : i ≤ Text.maxOrdinal
  · simp [hi, eq_comm]
  · simp [hi]

/-- The pod is a worker of the ordinal: it has the ordinal's name and the labels of workers, and
binds the ordinal's volume. -/
structure Works (p : BufferPool) (i : Nat) (pod : Pod) : Prop where
  name_eq : nameOf pod = p.placeholderName i
  plays : p.Plays .worker pod.metadata.labelMap
  binds : ∃ spec, pod.spec = some spec ∧
    spec.claimOf p.bufferVolumeName = some (p.claimName i)

/-- The pod is a placeholder of the ordinal. -/
structure Reserves (p : BufferPool) (i : Nat) (pod : Pod) : Prop where
  name_eq : nameOf pod = p.placeholderName i
  plays : p.Plays .placeholder pod.metadata.labelMap

/-- The pod is a placeholder of the ordinal and is not being deleted. -/
structure Holds (p : BufferPool) (i : Nat) (pod : Pod) : Prop extends Reserves p i pod where
  alive : pod.metadata.deletionTimestamp = none

/-- The job drains the volume of the ordinal: it has the ordinal's name and the labels of drain
jobs, and binds the volume. -/
structure Drains (p : BufferPool) (i : Nat) (job : Job) : Prop where
  name_eq : nameOf job = p.drainerName i
  plays : p.Plays .drainer job.metadata.labelMap
  binds : job.claimOf p.bufferVolumeName = some (p.claimName i)
  ordinal_le : i ≤ Text.maxOrdinal

theorem not_works_of_reserves {pod : Pod} {j : Nat} (h : Reserves p i pod) : ¬ Works p j pod :=
  fun hw => nomatch h.plays.role_eq hw.plays

/-- What a placeholder is made from. -/
theorem metadata_placeholderPod {pod : Pod} (h : placeholderPod p v = .ok pod) :
    ∃ ordinal, claimOrdinal v = .ok ordinal ∧
      pod.metadata = p.ownedMeta (p.placeholderName ordinal) .placeholder := by
  rw [placeholderPod] at h
  cases ho : claimOrdinal v with
  | error e =>
    rw [ho] at h
    cases h
  | ok ordinal =>
    rw [ho] at h
    cases h
    exact ⟨ordinal, rfl, rfl⟩

theorem holds_placeholderPod {pod : Pod} (hv : nameOf v = p.claimName i)
    (h : placeholderPod p v = .ok pod) : Holds p i pod := by
  obtain ⟨ordinal, ho, hmeta⟩ := metadata_placeholderPod h
  obtain ⟨rfl, -⟩ := (claimOrdinal_eq_ok_iff hv).1 ho
  have hname : nameOf pod = p.placeholderName ordinal :=
    congrArg ObjectMeta.nameOrStem hmeta
  have hlabels : pod.metadata.labelMap = p.labels .placeholder :=
    congrArg ObjectMeta.labelMap hmeta
  have halive : pod.metadata.deletionTimestamp = none :=
    congrArg ObjectMeta.deletionTimestamp hmeta
  exact ⟨⟨hname, hlabels ▸ BufferPool.plays_labels⟩, halive⟩

theorem exists_placeholderPod (hv : nameOf v = p.claimName i) (hi : i ≤ Text.maxOrdinal) :
    ∃ pod, placeholderPod p v = .ok pod := by
  rw [placeholderPod, (claimOrdinal_eq_ok_iff hv).2 ⟨rfl, hi⟩]
  exact ⟨_, rfl⟩

/-- Volumes are found by name in the order in which they were added. -/
theorem claimOf_addExtraVolumes {pod pod' : PodSpec} {extras : List ExtraVolume}
    {name claim : String} (h : addExtraVolumes pod extras = .ok pod')
    (hclaim : pod.claimOf name = some claim) : pod'.claimOf name = some claim := by
  obtain ⟨volume, hfind, hvolume⟩ := Option.bind_eq_some_iff.1 hclaim
  rw [PodSpec.claimOf, (adds_of_addExtraVolumes h).volumes, List.find?_append, hfind]
  exact hvolume

theorem config_ne_bufferVolumeName (p : BufferPool) : "config" ≠ p.bufferVolumeName := by
  intro h
  have hhyphen : '-' ∈ "config".toList := by
    rw [h, BufferPool.bufferVolumeName]
    simp
  exact absurd hhyphen (by decide)

theorem claimOf_drainerBasePod (p : BufferPool) (v : Claim) :
    (drainerBasePod p v).claimOf p.bufferVolumeName = some (nameOf v) := by
  have hconfig : ("config" == p.bufferVolumeName) = false :=
    beq_eq_false_iff_ne.2 (config_ne_bufferVolumeName p)
  have hvolumes : (drainerBasePod p v).volumeList =
      baseVolumes (moverSpec p.spec) ++ [drainedVolume p v] := rfl
  have hbase : (baseVolumes (moverSpec p.spec)).find? (fun v => v.name == p.bufferVolumeName) =
      none := by
    rw [baseVolumes, moverSpec]
    cases p.spec.configMap <;> simp [hconfig]
  rw [PodSpec.claimOf, hvolumes, List.find?_append, hbase]
  simp [drainedVolume]

theorem drainerPod_eq_ok_iff {pod : PodSpec} : drainerPod p v = .ok pod ↔
    addExtraVolumes (drainerBasePod p v) p.spec.extraVolumes = .ok pod := by
  rw [drainerPod]
  cases addExtraVolumes (drainerBasePod p v) p.spec.extraVolumes with
  | ok pod' =>
    exact ⟨fun h => congrArg Except.ok (Except.ok.inj h),
      fun h => congrArg Except.ok (Except.ok.inj h)⟩
  | error e => exact iff_of_false nofun nofun

/-- The pod of a drain job binds the volume, whatever else it is to mount. -/
theorem claimOf_drainerPod {pod : PodSpec} (h : drainerPod p v = .ok pod) :
    pod.claimOf p.bufferVolumeName = some (nameOf v) :=
  claimOf_addExtraVolumes (drainerPod_eq_ok_iff.1 h) (claimOf_drainerBasePod p v)

/-- A drain job goes by the name of its volume alone. -/
theorem drainerJob_congr {w : Claim} (h : nameOf v = nameOf w) :
    drainerJob p v = drainerJob p w := by
  simp only [drainerJob, claimOrdinal, drainerPod, drainerBasePod, drainedVolume, h]

/-- What a drain job is made from. -/
theorem metadata_drainerJob {job : Job} (h : drainerJob p v = .ok job) :
    ∃ ordinal pod, claimOrdinal v = .ok ordinal ∧ drainerPod p v = .ok pod ∧
      job.metadata = p.ownedMeta (p.drainerName ordinal) .drainer ∧ job.status = none ∧
        ∀ name, job.claimOf name = pod.claimOf name := by
  rw [drainerJob] at h
  split at h
  · cases h
  · cases ho : claimOrdinal v with
    | error e =>
      rw [ho] at h
      cases h
    | ok ordinal =>
      cases hpod : drainerPod p v with
      | error e =>
        rw [ho, hpod] at h
        cases h
      | ok pod =>
        rw [ho, hpod] at h
        cases h
        exact ⟨ordinal, pod, rfl, rfl, rfl, rfl, fun _ => rfl⟩

theorem drains_drainerJob {job : Job} (hv : nameOf v = p.claimName i)
    (h : drainerJob p v = .ok job) : Drains p i job := by
  obtain ⟨ordinal, pod, ho, hpod, hmeta, -, hclaim⟩ := metadata_drainerJob h
  obtain ⟨rfl, hi⟩ := (claimOrdinal_eq_ok_iff hv).1 ho
  have hname : nameOf job = p.drainerName ordinal := congrArg ObjectMeta.nameOrStem hmeta
  have hlabels : job.metadata.labelMap = p.labels .drainer :=
    congrArg ObjectMeta.labelMap hmeta
  refine ⟨hname, hlabels ▸ BufferPool.plays_labels, ?_, hi⟩
  rw [hclaim, claimOf_drainerPod hpod, hv]

/-- A drain job is made without a status, and not on its way out. -/
theorem untouched_drainerJob {job : Job} (h : drainerJob p v = .ok job) :
    job.status = none ∧ job.metadata.deletionTimestamp = none := by
  obtain ⟨ordinal, pod, -, -, hmeta, hstatus, -⟩ := metadata_drainerJob h
  exact ⟨hstatus, congrArg ObjectMeta.deletionTimestamp hmeta⟩

end VolumeDrain.Drain
