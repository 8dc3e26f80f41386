import VolumeDrain.Proofs.VolumeNames

/-!
# Mounted volumes

A pod can only start if each volume that one of its containers mounts is there, and a volume that
none mounts is of no use. What is mounted and what is there are put together at different places,
each time under conditions of their own: the configuration, the output logs, which drain jobs do
without, the buffer volume, which may be switched off, and the extra volumes. In the pods of workers
and of drain jobs they are nevertheless the same names, for every pool, be it valid or not.
-/
namespace VolumeDrain

open Manifest Pool Worker Drain

namespace Manifest

/-- A container mounts a volume of this name. -/
def Container.Mounts (c : Container) (name : String) : Prop := ∃ mount ∈ c.mounts, mount.name = name

/-- A container of the pod mounts a volume of this name. -/
def PodSpec.Mounts (pod : PodSpec) (name : String) : Prop := ∃ c ∈ pod.containers, c.Mounts name

theorem Container.mounts_addMount (c : Container) (mount : VolumeMount) (name : String) :
    (c.addMount mount).Mounts name ↔ c.Mounts name ∨ name = mount.name := by
  simp [Container.Mounts, Container.addMount, Container.mounts, or_and_right, exists_or, eq_comm]

end Manifest

/-! ## Extra volumes -/

namespace Worker

variable {pod pod' : PodSpec} {extra : ExtraVolume} {extras : List ExtraVolume}

theorem mounts_addExtraVolume (h : addExtraVolume pod extra = .ok pod') (name : String) :
    pod'.Mounts name ↔ pod.Mounts name ∨ name = extra.volumeName := by
  obtain ⟨-, added, hadded, rfl⟩ := addExtraVolume_eq_ok_iff.1 h
  obtain ⟨before, c, after, hsplit, -, -, rfl⟩ := addMountTo_eq_some_iff.1 hadded
  have hmount := c.mounts_addMount (extraMount extra) name
  simp only [PodSpec.Mounts, hsplit, List.mem_append, List.mem_cons, or_and_right, exists_or,
    exists_eq_left, hmount]
  rw [or_right_comm (a := c.Mounts name), ← or_assoc]
  exact Iff.rfl

/-- Extra volumes are mounted in addition to what was. -/
theorem mounts_addExtraVolumes (h : addExtraVolumes pod extras = .ok pod') (name : String) :
    pod'.Mounts name ↔ pod.Mounts name ∨ name ∈ extras.map (·.volumeName) := by
  induction extras generalizing pod with
  | nil =>
    cases h
    simp
  | cons extra rest ih =>
    rw [addExtraVolumes_cons] at h
    obtain ⟨next, hnext, h⟩ := bind_eq_ok.1 h
    rw [ih h, mounts_addExtraVolume hnext, List.map_cons, List.mem_cons, or_assoc]

end Worker

/-! ## What the pool itself mounts -/

variable {p : BufferPool} {v : Claim} {set : StatefulSet} {job : Job} {name : String}

/-- The worker mounts the volumes that its pod has besides the buffer volume. -/
theorem mounts_container (spec : Spec) (name : String) :
    (container spec).Mounts name ↔ name ∈ (baseVolumes spec).map (·.name) := by
  have hmounts : (container spec).mounts = baseMounts spec := by
    rw [Container.mounts, container, nonEmpty]
    cases baseMounts spec <;> rfl
  have hnames : (baseMounts spec).map (·.name) = (baseVolumes spec).map (·.name) := by
    rw [names_baseVolumes, baseMounts]
    cases spec.configMap <;> cases spec.logRotate <;> rfl
  rw [Container.Mounts, hmounts, ← hnames, List.mem_map]

theorem mounts_metricsContainer {spec : Spec} {bufferVolume : String} {c : Container}
    (h : c ∈ metricsContainer? spec bufferVolume) : c.Mounts name ↔ name = bufferVolume := by
  obtain ⟨metrics, -, rfl⟩ := Option.map_eq_some_iff.1 h
  simp [Container.Mounts, Container.mounts, eq_comm]

theorem mounts_watchContainer (drain : Draining) (bufferVolume : String) :
    (watchContainer drain bufferVolume).Mounts name ↔ name = bufferVolume := by
  simp [Container.Mounts, Container.mounts, watchContainer, eq_comm]

/-- Containers that mount nothing but what the first one mounts make no difference. -/
theorem mounts_cons_iff {c : Container} {others : List Container}
    (h : ∀ d ∈ others, d.Mounts name → c.Mounts name) :
    (∃ d ∈ c :: others, d.Mounts name) ↔ c.Mounts name := by
  refine ⟨?_, fun hc => ⟨c, List.mem_cons_self, hc⟩⟩
  rintro ⟨d, hd, hmount⟩
  rcases List.mem_cons.1 hd with rfl | hd
  · exact hmount
  · exact h d hd hmount

/-- A worker that binds the buffer volume, beside containers that mount nothing else. -/
theorem mounts_bound {spec : Spec} {mount : VolumeMount} {others : List Container}
    (hname : mount.name = p.bufferVolumeName)
    (h : ∀ d ∈ others, d.Mounts name → name = p.bufferVolumeName) :
    (∃ d ∈ (container spec).addMount mount :: others, d.Mounts name) ↔
      name ∈ (baseVolumes spec).map (·.name) ++ [p.bufferVolumeName] := by
  have hworker := (container spec).mounts_addMount mount name
  rw [hname] at hworker
  rw [mounts_cons_iff fun d hd hmount => hworker.2 (.inr (h d hd hmount)), hworker,
    mounts_container, List.mem_append, List.mem_singleton]

theorem mounts_workerBasePod (p : BufferPool) (name : String) :
    (workerBasePod p).Mounts name ↔ name ∈ p.workerVolumes := by
  change (∃ c ∈ workerContainers p, c.Mounts name) ↔ _
  rw [workerContainers, BufferPool.workerVolumes, BufferPool.configVolume, ← names_baseVolumes]
  split
  · rw [mounts_cons_iff fun d hd => absurd hd List.not_mem_nil, mounts_container, List.append_nil]
  · exact mounts_bound rfl fun c hc => (mounts_metricsContainer (Option.mem_toList.1 hc)).1

theorem mounts_drainerBasePod (p : BufferPool) (v : Claim) (name : String) :
    (drainerBasePod p v).Mounts name ↔ name ∈ p.drainVolumes := by
  have hvolumes : (baseVolumes (moverSpec p.spec)).map (·.name) = p.configVolume :=
    (names_baseVolumes _).trans (List.append_nil _)
  rw [BufferPool.drainVolumes, ← hvolumes]
  refine mounts_bound rfl fun c hc => ?_
  rcases List.mem_cons.1 hc with rfl | hc
  · exact (mounts_watchContainer _ _).1
  · exact (mounts_metricsContainer (Option.mem_toList.1 hc)).1

/-! ## Nothing is missing and nothing is left over -/

/-- In the pods of workers and of drain jobs the volumes that are mounted are those that are there,
by their names. No pod has containers of another sort, which would stand among the settings that
the operator does not know. -/
theorem mounted_iff_declared (p : BufferPool) :
    (∀ set, statefulSet p = .ok set → ∃ pod, set.podTemplate.spec = some pod ∧ pod.rest = [] ∧
      ∀ name, pod.Mounts name ↔ name ∈ set.volumeNames) ∧
    ∀ v job, drainerJob p v = .ok job → ∃ pod, job.podTemplate.spec = some pod ∧ pod.rest = [] ∧
      ∀ name, pod.Mounts name ↔ name ∈ job.volumeNames := by
  constructor
  · intro set h
    obtain ⟨-, -, -, pod, hpod, hspec⟩ := members_of_statefulSet h
    have hrest := congrArg PodSpec.rest (adds_of_addExtraVolumes hpod).settings
    refine ⟨pod, hspec, hrest, fun name => ?_⟩
    rw [(volumeNames_statefulSet h).mem_iff, List.mem_append, ← mounts_workerBasePod p name]
    exact mounts_addExtraVolumes hpod name
  · intro v job h
    obtain ⟨-, pod, hpod, hspec⟩ := podTemplate_drainerJob h
    have hadded := drainerPod_eq_ok_iff.1 hpod
    have hrest := congrArg PodSpec.rest (adds_of_addExtraVolumes hadded).settings
    refine ⟨pod, hspec, hrest, fun name => ?_⟩
    rw [volumeNames_drainerJob h, List.mem_append, ← mounts_drainerBasePod p v name]
    exact mounts_addExtraVolumes hadded name

theorem mounted_iff_declared_equipped :
    ∃ set job workerPod drainPod, statefulSet equippedPool = .ok set ∧
      drainerJob equippedPool (secondClaim equippedPool) = .ok job ∧
      set.podTemplate.spec = some workerPod ∧ job.podTemplate.spec = some drainPod ∧
      workerPod.Mounts "output-logs" ∧ ¬ drainPod.Mounts "output-logs" ∧
      drainPod.Mounts "usage" := by
  obtain ⟨set, hset⟩ := ok_of_isSome
    (by decide +kernel : (statefulSet equippedPool).toOption.isSome = true)
  obtain ⟨job, hjob⟩ := ok_of_isSome
    (by decide +kernel :
      (drainerJob equippedPool (secondClaim equippedPool)).toOption.isSome = true)
  obtain ⟨hworker, hdrain⟩ := mounted_iff_declared equippedPool
  obtain ⟨workerPod, hworkerPod, -, hworkerMounts⟩ := hworker set hset
  obtain ⟨drainPod, hdrainPod, -, hdrainMounts⟩ := hdrain _ job hjob
  refine ⟨set, job, workerPod, drainPod, hset, hjob, hworkerPod, hdrainPod, ?_, ?_, ?_⟩
  · rw [hworkerMounts, (volumeNames_statefulSet hset).mem_iff]
    decide +kernel
  · rw [hdrainMounts, volumeNames_drainerJob hjob]
    decide +kernel
  · rw [hdrainMounts, volumeNames_drainerJob hjob]
    decide +kernel

end VolumeDrain
