import VolumeDrain.Proofs.BrokenRules
import VolumeDrain.Proofs.ExtraVolumes
import VolumeDrain.Proofs.Members

/-!
# The names of a pod's volumes

The volumes of a pod need names of their own. A worker has volumes for its configuration and its
output logs, and one for each claim that is made for it; a drain job has its configuration and the
volume that it drains. To these come the extra volumes of the pool, in both.

A valid specification gives its extra volumes different names. It also keeps them apart from the
unqualified name of the claim, but the buffer volume goes by the name that is qualified with that of
the pool, and of the names that pods have for their other volumes nothing is said. So the volumes of
the pods of a valid pool have names of their own exactly if no extra volume takes a name that is
taken, and the claim of a pool `output` is not called `logs` while its logs are rotated.
-/
namespace VolumeDrain

open Manifest Pool Worker Drain

namespace Pool.Spec

/-- The rules that a valid specification keeps about the names of volumes. -/
theorem names_of_isValid {s : Spec} (h : s.isValid = true) :
    isDnsLabel s.bufferStorage.claimName = true ∧ (s.extraVolumes.map (·.volumeName)).Nodup := by
  have hkept := (isValid_iff s).1 h
  refine ⟨isDnsLabel_iff.2 (Decidable.not_not.1 (hkept .claimName)), ?_⟩
  rw [List.Nodup, List.pairwise_map, List.pairwise_iff_getElem]
  intro i j hi hj hlt hname
  refine hkept (.freshName j) ⟨_, List.getElem?_eq_getElem hj, s.extraVolumes[i], ?_, hname⟩
  exact List.mem_take_iff_getElem.2 ⟨i, Nat.lt_min.2 ⟨hlt, hi⟩, rfl⟩

end Pool.Spec

/-! ## The names that are taken -/

/-- The names of the volumes that a template gives its pods. -/
def Manifest.PodTemplate.volumeNames (t : PodTemplate) : List String :=
  ((t.spec.map (·.volumeList)).getD []).map (·.name)

/-- The names of the volumes of a worker: those of the template and those of its claims. -/
def Manifest.StatefulSet.volumeNames (set : StatefulSet) : List String :=
  set.podTemplate.volumeNames ++ set.claimTemplates.map nameOf

/-- The names of the volumes of a job's pods. -/
def Manifest.Job.volumeNames (job : Job) : List String := job.podTemplate.volumeNames

namespace BufferPool

/-- The name of the volume for the configuration, if there is one. -/
def configVolume (p : BufferPool) : List String :=
  if p.spec.configMap.isSome then ["config"] else []

/-- The names of the volumes that a worker has without extra volumes. -/
def workerVolumes (p : BufferPool) : List String :=
  p.configVolume ++ (if p.spec.logRotate.isSome then ["output-logs"] else []) ++
    (if p.spec.disablePvc then [] else [p.bufferVolumeName])

/-- The names of the volumes that a drain job has without extra volumes. -/
def drainVolumes (p : BufferPool) : List String := p.configVolume ++ [p.bufferVolumeName]

/-- No extra volume takes one of these names. -/
def Avoids (p : BufferPool) (names : List String) : Prop :=
  ∀ extra ∈ p.spec.extraVolumes, extra.volumeName ∉ names

instance (p : BufferPool) (names : List String) : Decidable (p.Avoids names) :=
  inferInstanceAs (Decidable (∀ extra ∈ p.spec.extraVolumes, extra.volumeName ∉ names))

/-- The names of the extra volumes. -/
def extraNames (p : BufferPool) : List String := p.spec.extraVolumes.map (·.volumeName)

end BufferPool

variable {p : BufferPool} {v : Claim} {set : StatefulSet} {job : Job} {names : List String}

theorem nodup_append_extraNames (hvalid : p.spec.isValid = true) :
    (names ++ p.extraNames).Nodup ↔ names.Nodup ∧ p.Avoids names := by
  have hextras : p.extraNames.Nodup := (Spec.names_of_isValid hvalid).2
  rw [List.nodup_append]
  constructor
  · rintro ⟨hnames, -, hapart⟩
    exact ⟨hnames, fun extra he hmem => hapart _ hmem _ (List.mem_map_of_mem he) rfl⟩
  · rintro ⟨hnames, havoids⟩
    refine ⟨hnames, hextras, fun a ha b hb heq => ?_⟩
    obtain ⟨extra, he, rfl⟩ := List.mem_map.1 hb
    exact havoids extra he (heq ▸ ha)

theorem names_baseVolumes (spec : Spec) : (baseVolumes spec).map (·.name) =
    (if spec.configMap.isSome then ["config"] else []) ++
      if spec.logRotate.isSome then ["output-logs"] else [] := by
  rw [baseVolumes]
  cases spec.configMap <;> cases spec.logRotate <;> rfl

theorem names_extraPodVolume (extras : List ExtraVolume) :
    (extras.map extraPodVolume).map (·.name) = extras.map (·.volumeName) := by
  rw [List.map_map]
  rfl

theorem volumeList_workerBasePod (p : BufferPool) :
    (workerBasePod p).volumeList = baseVolumes p.spec := by
  change (nonEmpty (baseVolumes p.spec)).getD [] = baseVolumes p.spec
  cases baseVolumes p.spec <;> rfl

/-- The claims of a worker come after its extra volumes. -/
theorem volumeNames_statefulSet (h : statefulSet p = .ok set) :
    set.volumeNames.Perm (p.workerVolumes ++ p.extraNames) := by
  obtain ⟨-, -, htemplates, spec, hpod, hspec⟩ := members_of_statefulSet h
  have hvolumes := (adds_of_addExtraVolumes hpod).volumes
  rw [volumeList_workerBasePod] at hvolumes
  have hpodNames : set.podTemplate.volumeNames =
      (p.configVolume ++ if p.spec.logRotate.isSome then ["output-logs"] else []) ++
        p.extraNames := by
    rw [PodTemplate.volumeNames, hspec, Option.map_some, Option.getD_some, hvolumes,
      List.map_append, names_baseVolumes, names_extraPodVolume]
    rfl
  have hclaims : set.claimTemplates.map nameOf =
      if p.spec.disablePvc then [] else [p.bufferVolumeName] := by
    rw [htemplates]
    cases p.spec.disablePvc <;> rfl
  rw [StatefulSet.volumeNames, hpodNames, hclaims, BufferPool.workerVolumes, List.append_assoc,
    List.append_assoc (p.configVolume ++ _)]
  exact List.perm_append_comm.append_left _

theorem volumeNames_drainerJob (h : drainerJob p v = .ok job) :
    job.volumeNames = p.drainVolumes ++ p.extraNames := by
  obtain ⟨-, spec, hpod, hspec⟩ := podTemplate_drainerJob h
  have hvolumes := (adds_of_addExtraVolumes (drainerPod_eq_ok_iff.1 hpod)).volumes
  have hbase : (drainerBasePod p v).volumeList =
      baseVolumes (moverSpec p.spec) ++ [drainedVolume p v] := rfl
  have hconfig : (baseVolumes (moverSpec p.spec)).map (·.name) = p.configVolume := by
    rw [names_baseVolumes]
    exact List.append_nil _
  rw [Job.volumeNames, PodTemplate.volumeNames, hspec, Option.map_some, Option.getD_some, hvolumes,
    hbase, List.map_append, List.map_append, hconfig, names_extraPodVolume]
  rfl

/-! ## Names of their own -/

/-- The only hyphen of this name is the one between the pool and the claim. -/
theorem bufferVolumeName_eq_outputLogs_iff : p.bufferVolumeName = "output-logs" ↔
    p.name = "output" ∧ p.spec.bufferStorage.claimName = "logs" := by
  constructor
  case mpr =>
    rintro ⟨hpool, hclaim⟩
    rw [BufferPool.bufferVolumeName, hpool, hclaim]
    rfl
  intro h
  have hchars : p.name.toList ++ '-' :: p.spec.bufferStorage.claimName.toList =
      "output".toList ++ '-' :: "logs".toList := by
    have hlist := congrArg String.toList h
    simpa [BufferPool.bufferVolumeName] using hlist
  have hlength : p.name.toList.length = 6 := by
    have hget : ("output".toList ++ '-' :: "logs".toList)[p.name.toList.length]? = some '-' := by
      rw [← hchars]
      simp
    have hlt : p.name.toList.length < 11 := by
      have h := congrArg List.length hchars
      rw [List.length_append, List.length_cons] at h
      change _ = 11 at h
      omega
    have hplace : ∀ n < 11, ("output".toList ++ '-' :: "logs".toList)[n]? = some '-' → n = 6 := by
      decide
    exact hplace _ hlt hget
  obtain ⟨hpool, hclaim⟩ := List.append_inj hchars hlength
  exact ⟨String.toList_injective hpool, String.toList_injective (List.cons.inj hclaim).2⟩

theorem nodup_drainVolumes (p : BufferPool) : p.drainVolumes.Nodup := by
  rw [BufferPool.drainVolumes, BufferPool.configVolume]
  split
  · simpa using config_ne_bufferVolumeName p
  · simp

/-- The pool rotates its logs into a volume that has the name of the buffer volume. -/
def BufferPool.RotatesIntoBuffer (p : BufferPool) : Prop :=
  p.spec.logRotate.isSome = true ∧ p.spec.disablePvc = false ∧
    p.name = "output" ∧ p.spec.bufferStorage.claimName = "logs"

instance (p : BufferPool) : Decidable p.RotatesIntoBuffer :=
  inferInstanceAs (Decidable (_ ∧ _ ∧ _ ∧ _))

theorem nodup_workerVolumes_iff : p.workerVolumes.Nodup ↔ ¬ p.RotatesIntoBuffer := by
  have hconfig := config_ne_bufferVolumeName p
  rw [BufferPool.RotatesIntoBuffer, ← bufferVolumeName_eq_outputLogs_iff, BufferPool.workerVolumes,
    BufferPool.configVolume]
  cases p.spec.configMap <;> cases p.spec.logRotate <;> cases p.spec.disablePvc <;>
    simp [hconfig, eq_comm]

theorem nodup_statefulSet_iff (hvalid : p.spec.isValid = true) (h : statefulSet p = .ok set) :
    set.volumeNames.Nodup ↔ ¬ p.RotatesIntoBuffer ∧ p.Avoids p.workerVolumes := by
  rw [(volumeNames_statefulSet h).nodup_iff, nodup_append_extraNames hvalid,
    nodup_workerVolumes_iff]

theorem nodup_drainerJob_iff (hvalid : p.spec.isValid = true) (h : drainerJob p v = .ok job) :
    job.volumeNames.Nodup ↔ p.Avoids p.drainVolumes := by
  rw [volumeNames_drainerJob h, nodup_append_extraNames hvalid,
    and_iff_right (nodup_drainVolumes p)]

/-- In a pool of a valid specification the volumes of a worker have names of their own exactly if no
extra volume takes the name of another one, and logs are not rotated into the buffer volume; those
of a drain job do exactly if no extra volume takes the name of its configuration or of the buffer
volume. -/
theorem volumes_named_apart_iff (hvalid : p.spec.isValid = true) :
    (∀ set, statefulSet p = .ok set →
      (set.volumeNames.Nodup ↔ ¬ p.RotatesIntoBuffer ∧ p.Avoids p.workerVolumes)) ∧
    ∀ v job, drainerJob p v = .ok job → (job.volumeNames.Nodup ↔ p.Avoids p.drainVolumes) :=
  ⟨fun _ => nodup_statefulSet_iff hvalid, fun _ _ => nodup_drainerJob_iff hvalid⟩

/-- A pool that makes use of everything that brings volumes with it. -/
def equippedPool : BufferPool :=
  .ofSpec "logs"
    { configMap := some "logs-config"
      logRotate := some { path := "/var/log/output" }
      bufferVolumeMetrics := some {}
      extraVolumes :=
        [{ volumeName := "certs", path := "/etc/certs", containerName := "buffer-worker"
           readOnly := true, source := { secret := some "logs-certs" } },
         { volumeName := "usage", path := "/var/usage", containerName := "buffer-metrics"
           source := { emptyDir := true } }] }

/-- The claim that is made for the second worker of a pool. -/
def secondClaim (p : BufferPool) : Claim := memberClaim p.statefulSetName 1 (claimTemplate p)

theorem volumes_named_apart_equipped : equippedPool.spec.isValid = true ∧
    ∃ set job, statefulSet equippedPool = .ok set ∧ set.volumeNames.Nodup ∧
      drainerJob equippedPool (secondClaim equippedPool) = .ok job ∧ job.volumeNames.Nodup := by
  have hvalid : equippedPool.spec.isValid = true := by decide +kernel
  obtain ⟨set, hset⟩ := ok_of_isSome
    (by decide +kernel : (statefulSet equippedPool).toOption.isSome = true)
  obtain ⟨job, hjob⟩ := ok_of_isSome
    (by decide +kernel :
      (drainerJob equippedPool (secondClaim equippedPool)).toOption.isSome = true)
  obtain ⟨hworker, hdrain⟩ := volumes_named_apart_iff hvalid
  exact ⟨hvalid, set, job, hset, (hworker set hset).2 (by decide +kernel), hjob,
    (hdrain _ job hjob).2 (by decide +kernel)⟩

/-- A pool with an extra volume of the name that its buffer volume has in pods. -/
def shadowedPool : BufferPool :=
  .ofSpec "logs"
    { extraVolumes :=
        [{ volumeName := "logs-buffer", path := "/cache", containerName := "buffer-worker"
           source := { emptyDir := true } }] }

/-- A valid specification does not keep extra volumes from taking the name of the buffer volume. -/
theorem buffer_volume_shadowed :
    isDnsLabel shadowedPool.name = true ∧ shadowedPool.spec.isValid = true ∧
      (∃ set, statefulSet shadowedPool = .ok set ∧ ¬ set.volumeNames.Nodup) ∧
      ∃ job, drainerJob shadowedPool (secondClaim shadowedPool) = .ok job ∧
        ¬ job.volumeNames.Nodup := by
  have hvalid : shadowedPool.spec.isValid = true := by decide +kernel
  obtain ⟨set, hset⟩ := ok_of_isSome
    (by decide +kernel : (statefulSet shadowedPool).toOption.isSome = true)
  obtain ⟨job, hjob⟩ := ok_of_isSome
    (by decide +kernel :
      (drainerJob shadowedPool (secondClaim shadowedPool)).toOption.isSome = true)
  refine ⟨by decide, hvalid, ⟨set, hset, ?_⟩, job, hjob, ?_⟩
  · rw [nodup_statefulSet_iff hvalid hset]
    decide +kernel
  · rw [nodup_drainerJob_iff hvalid hjob]
    decide +kernel

end VolumeDrain
