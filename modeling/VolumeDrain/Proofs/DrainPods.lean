import VolumeDrain.Proofs.BuildFaults
import VolumeDrain.Proofs.VolumeNames

/-!
# The pod of a drain job is that of a worker

A drain job runs the worker of its pool without log rotation, and beside it a container that watches
the volume. The two pods are built separately, and the same extra volumes are added to both. Taken
one by one these keep the pods alike: an extra volume that a worker takes is for one of the
worker's containers, which the other pod has as well, and never for the watching container.

So a pool whose workers can be built has drain jobs for all volumes that have an ordinal. What a
pass finds that it cannot build is then always a matter of the volume's name.
-/
namespace VolumeDrain

open Manifest Pool Worker Script

namespace Worker

/-! ## Pods side by side -/

/-- The second pod is the first with one more container, after the first one, and one more volume;
it does not restart, and is otherwise set up in the same way. -/
structure Beside (watch : Container) (binding : Volume) (worker drain : PodSpec) : Prop where
  containers : ∃ mover others, worker.containers = mover :: others ∧
    drain.containers = mover :: watch :: others
  volumes : ∃ before after, worker.volumeList = before ++ after ∧
    drain.volumeList = before ++ binding :: after
  settings : drain.settings = { worker.settings with restartPolicy := some "Never" }

variable {watch mover : Container} {others added : List Container} {binding : Volume}
  {worker worker' drain : PodSpec} {extra : ExtraVolume} {extras : List ExtraVolume}
  {name : String} {mount : VolumeMount}

/-- A mount that is not for the container in between goes where it went without it. -/
theorem addMountTo_beside (hwatch : watch.name ≠ name)
    (h : addMountTo name mount (mover :: others) = some added) :
    ∃ mover' others', added = mover' :: others' ∧
      addMountTo name mount (mover :: watch :: others) = some (mover' :: watch :: others') := by
  have hskip : (watch.name == name) = false := beq_eq_false_iff_ne.2 hwatch
  rw [addMountTo] at h ⊢
  cases hmover : mover.name == name with
  | true =>
    rw [hmover] at h
    cases h
    exact ⟨_, _, rfl, rfl⟩
  | false =>
    rw [hmover] at h
    obtain ⟨others', hothers, rfl⟩ := Option.map_eq_some_iff.1 h
    refine ⟨mover, others', rfl, ?_⟩
    rw [addMountTo, hskip, hothers]
    rfl

theorem Beside.addExtraVolume (h : Beside watch binding worker drain)
    (hwatch : watch.name ∉ worker.containerNames)
    (hadd : Worker.addExtraVolume worker extra = .ok worker') :
    ∃ drain', Worker.addExtraVolume drain extra = .ok drain' ∧
      Beside watch binding worker' drain' := by
  obtain ⟨hcount, added, hadded, rfl⟩ := addExtraVolume_eq_ok_iff.1 hadd
  obtain ⟨mover, others, hworker, hdrain⟩ := h.containers
  obtain ⟨before, after, hbefore, hbinding⟩ := h.volumes
  have htarget : watch.name ≠ extra.containerName := by
    have hmem := (exists_addMountTo_iff _ _ _).1 ⟨added, hadded⟩
    exact (ne_of_mem_of_not_mem hmem hwatch).symm
  rw [hworker] at hadded
  obtain ⟨mover', others', rfl, hboth⟩ := addMountTo_beside htarget hadded
  rw [← hdrain] at hboth
  refine ⟨_, addExtraVolume_eq_ok_iff.2 ⟨hcount, _, hboth, rfl⟩, ⟨mover', others', rfl, rfl⟩,
    ⟨before, after ++ [extraPodVolume extra], ?_, ?_⟩, h.settings⟩
  · rw [← List.append_assoc, ← hbefore]
    rfl
  · rw [← List.cons_append, ← List.append_assoc, ← hbinding]
    rfl

theorem Beside.addExtraVolumes (h : Beside watch binding worker drain)
    (hwatch : watch.name ∉ worker.containerNames)
    (hadd : Worker.addExtraVolumes worker extras = .ok worker') :
    ∃ drain', Worker.addExtraVolumes drain extras = .ok drain' ∧
      Beside watch binding worker' drain' := by
  induction extras generalizing worker drain with
  | nil =>
    cases hadd
    exact ⟨drain, rfl, h⟩
  | cons extra rest ih =>
    rw [addExtraVolumes_cons] at hadd
    obtain ⟨next, hnext, hadd⟩ := bind_eq_ok.1 hadd
    obtain ⟨drain', hdrain, hbeside⟩ := h.addExtraVolume hwatch hnext
    rw [← (adds_of_addExtraVolume hnext).names] at hwatch
    obtain ⟨drain'', hdrain', hbeside'⟩ := ih hbeside hwatch hadd
    rw [addExtraVolumes_cons]
    exact ⟨drain'', bind_eq_ok.2 ⟨drain', hdrain, hdrain'⟩, hbeside'⟩

end Worker

/-! ## Builders -/

namespace BufferPool

/-- The pool with the specification under which drain jobs move data. -/
def withoutRotation (p : BufferPool) : BufferPool := { p with spec := Drain.moverSpec p.spec }

end BufferPool

namespace Drain

variable {p : BufferPool} {v : Claim} {set : StatefulSet} {i : Nat}

theorem names_workerContainers (hpvc : p.spec.disablePvc = false) :
    (workerContainers p).map (·.name) =
      containerName :: (p.spec.bufferVolumeMetrics.map fun _ => metricsContainerName).toList := by
  rw [workerContainers, hpvc, if_neg Bool.false_ne_true, metricsContainer?]
  cases p.spec.bufferVolumeMetrics <;> rfl

theorem containerNames_workerPod {pod : PodSpec} (hpvc : p.spec.disablePvc = false)
    (h : workerPod p = .ok pod) : pod.containerNames =
      containerName :: (p.spec.bufferVolumeMetrics.map fun _ => metricsContainerName).toList :=
  (adds_of_addExtraVolumes h).names.trans (names_workerContainers hpvc)

/-- Whether workers can be built does not depend on log rotation. -/
theorem exists_workerPod_withoutRotation {pod : PodSpec} (hpvc : p.spec.disablePvc = false)
    (h : workerPod p = .ok pod) : ∃ worker, workerPod p.withoutRotation = .ok worker := by
  have hextras := exists_addExtraVolumes_iff.1 ⟨pod, h⟩
  refine exists_addExtraVolumes_iff.2 fun extra hextra => ?_
  have hnames : (workerContainers p.withoutRotation).map (·.name) =
      (workerContainers p).map (·.name) :=
    (names_workerContainers (p := p.withoutRotation) hpvc).trans (names_workerContainers hpvc).symm
  obtain ⟨hcount, htarget⟩ := hextras extra hextra
  refine ⟨hcount, ?_⟩
  change extra.containerName ∈ (workerContainers p.withoutRotation).map (·.name)
  rw [hnames]
  exact htarget

/-- The pods of workers and of drain jobs are written out apart from each other. Their settings are
the same, but for the restarts. -/
theorem settings_drainerBasePod (p : BufferPool) (v : Claim) :
    (drainerBasePod p v).settings =
      { (workerBasePod p).settings with restartPolicy := some "Never" } := rfl

/-- Both bind the buffer volume at the same place, and have the same sidecar. -/
theorem containers_drainerBasePod (hpvc : p.spec.disablePvc = false) :
    ∃ mover others, workerContainers p.withoutRotation = mover :: others ∧
      drainerContainers p =
        mover :: watchContainer p.spec.scaling.drain p.bufferVolumeName :: others := by
  refine ⟨_, _, ?_, rfl⟩
  rw [workerContainers, show p.withoutRotation.spec.disablePvc = false from hpvc]
  rfl

/-- Before extra volumes are added, the drain job's pod is that of a worker without log rotation,
with the watching container and the volume to drain. -/
theorem beside_base (hpvc : p.spec.disablePvc = false) (v : Claim) :
    Beside (watchContainer p.spec.scaling.drain p.bufferVolumeName) (drainedVolume p v)
      (workerBasePod p.withoutRotation) (drainerBasePod p v) where
  containers := containers_drainerBasePod hpvc
  volumes := by
    refine ⟨baseVolumes (moverSpec p.spec), [], ?_, rfl⟩
    rw [volumeList_workerBasePod, List.append_nil]
    rfl
  settings := settings_drainerBasePod p.withoutRotation v

theorem exists_drainerJob {pod : PodSpec}
    (hclaim : p.spec.bufferStorage.claimName.isEmpty = false) (hordinal : claimOrdinal v = .ok i)
    (hpod : drainerPod p v = .ok pod) :
    ∃ job, drainerJob p v = .ok job ∧ job.podTemplate.spec = some pod := by
  rw [drainerJob, hclaim, hordinal, hpod]
  exact ⟨_, rfl, rfl⟩

theorem exists_statefulSet {pod : PodSpec} (h : workerPod p = .ok pod) :
    ∃ set, statefulSet p = .ok set ∧ set.podTemplate.spec = some pod := by
  rw [statefulSet, h]
  exact ⟨_, rfl, rfl⟩

theorem isEmpty_claimName (hvalid : p.spec.isValid = true) :
    p.spec.bufferStorage.claimName.isEmpty = false := by
  have hlabel := (Spec.names_of_isValid hvalid).1
  cases hempty : p.spec.bufferStorage.claimName.isEmpty with
  | false => rfl
  | true =>
    rw [String.isEmpty_iff.1 hempty] at hlabel
    exact absurd hlabel (by decide)

/-- A drain job's pod has the containers of a worker and one that watches the buffer volume, the
volumes of a worker and the one that binds the claim to be drained, and the settings of a worker,
but does not restart. -/
structure MovesAs (p : BufferPool) (v : Claim) (worker drain : PodSpec) : Prop where
  containers : ∃ mover watch : Container, ∃ sidecar : Option Container,
    worker.containers = mover :: sidecar.toList ∧
    drain.containers = mover :: watch :: sidecar.toList ∧
    mover.name = containerName ∧
    sidecar.map (·.name) = p.spec.bufferVolumeMetrics.map (fun _ => metricsContainerName) ∧
    watch.name = watchContainerName ∧ watch.volumeMounts = some
      [{ name := p.bufferVolumeName, mountPath := bufferPath, readOnly := some true }]
  volumes : ∃ before after, worker.volumeList = before ++ after ∧
    drain.volumeList = before ++
      { name := p.bufferVolumeName, claim := some { claimName := nameOf v } } :: after
  settings : drain.settings = { worker.settings with restartPolicy := some "Never" }

theorem exists_toList {α β : Type} {f : α → β} {l : List α} {o : Option β}
    (h : l.map f = o.toList) : ∃ a : Option α, l = a.toList ∧ a.map f = o := by
  cases o with
  | none => exact ⟨none, List.map_eq_nil_iff.1 h, rfl⟩
  | some b =>
    obtain ⟨a, rfl, hb⟩ := List.map_eq_singleton_iff.1 h
    exact ⟨some a, rfl, congrArg some hb⟩

theorem movesAs_of_workerPod {pod : PodSpec} (hpvc : p.spec.disablePvc = false)
    (h : workerPod p = .ok pod) (v : Claim) :
    ∃ worker drain, workerPod p.withoutRotation = .ok worker ∧ drainerPod p v = .ok drain ∧
      MovesAs p v worker drain := by
  obtain ⟨worker, hworker⟩ := exists_workerPod_withoutRotation hpvc h
  have hnames := names_workerContainers (p := p.withoutRotation) hpvc
  -- The worker has no container of the name of the watching one.
  have hwatch : watchContainerName ∉ (workerContainers p.withoutRotation).map (·.name) := by
    rw [hnames]
    cases p.withoutRotation.spec.bufferVolumeMetrics with
    | none => decide
    | some metrics =>
      show watchContainerName ∉ [containerName, metricsContainerName]
      decide
  obtain ⟨drain, hdrain, hbeside⟩ := (beside_base hpvc v).addExtraVolumes hwatch hworker
  refine ⟨worker, drain, hworker, drainerPod_eq_ok_iff.2 hdrain, ?_, hbeside.volumes,
    hbeside.settings⟩
  obtain ⟨mover, others, hfirst, hsecond⟩ := hbeside.containers
  have hbuilt := containerNames_workerPod (p := p.withoutRotation) hpvc hworker
  rw [PodSpec.containerNames, hfirst, List.map_cons] at hbuilt
  obtain ⟨hmover, hothers⟩ := List.cons.inj hbuilt
  obtain ⟨sidecar, rfl, hsidecar⟩ := exists_toList hothers
  exact ⟨mover, _, sidecar, hfirst, hsecond, hmover, hsidecar, rfl, rfl⟩

/-- Where the workers of a valid pool can be built, a drain job fails to be built only for a volume
without an ordinal. -/
theorem error_of_drainerJob {e : BuildError} (hvalid : p.spec.isValid = true)
    (hpvc : p.spec.disablePvc = false) (hset : statefulSet p = .ok set)
    (h : drainerJob p v = .error e) : e = .noOrdinal (nameOf v) := by
  obtain ⟨-, -, -, pod, hpod, -⟩ := members_of_statefulSet hset
  obtain ⟨-, drain, -, hdrain, -⟩ := movesAs_of_workerPod hpvc hpod v
  cases hordinal : claimOrdinal v with
  | error e' =>
    rw [drainerJob, isEmpty_claimName hvalid, hordinal] at h
    cases h
    exact error_of_claimOrdinal hordinal
  | ok ordinal =>
    obtain ⟨job, hjob, -⟩ := exists_drainerJob (isEmpty_claimName hvalid) hordinal hdrain
    cases hjob.symm.trans h

theorem noOrdinal_of_pass {t : List StoreExchange} {out : PassOutcome}
    (hvalid : p.spec.isValid = true) (hpvc : p.spec.disablePvc = false)
    (hset : statefulSet p = .ok set) (h : Exchanges (drainPass p) t (.done (.ok out))) :
    ∀ o ∈ out.volumes, ∀ e, o.fault = some (.build e) → e = .noOrdinal o.volume := by
  intro o ho e hfault
  obtain ⟨v, hname, hbuild | hbuild⟩ := unbuilt_of_pass h ho hfault
  · exact hname ▸ error_of_placeholderPod hbuild
  · exact hname ▸ error_of_drainerJob hvalid hpvc hset hbuild

/-- In a valid pool with buffer volumes whose workers can be built, every volume with an ordinal has
its drain job, and the job's pod is that of a worker without log rotation beside the watching
container. Whatever a store or a server answers, a pass and a reconcile then fail to build nothing
but what is for a volume without an ordinal. -/
theorem drains_as_worker (hvalid : p.spec.isValid = true) (hpvc : p.spec.disablePvc = false)
    (hset : statefulSet p = .ok set) :
    (∀ v i, claimOrdinal v = .ok i → ∃ job rotationless worker drain,
      drainerJob p v = .ok job ∧ job.podTemplate.spec = some drain ∧
      statefulSet { p with spec := { p.spec with logRotate := none } } = .ok rotationless ∧
      rotationless.podTemplate.spec = some worker ∧ MovesAs p v worker drain) ∧
    (∀ {σ : Type} (answer : (c : StoreCall) → σ → c.Reply × σ) (s : σ) (out : PassOutcome),
      (run answer (drainPass p) s).1 = .ok out →
      ∀ o ∈ out.volumes, ∀ e, o.fault = some (.build e) → e = .noOrdinal o.volume) ∧
    ∀ {σ : Type} (answer : (act : Api.Act) → σ → act.Reply × σ) (s : σ) (now : Instant)
      (settings : Operator.Settings) (errors : List VolumeError),
      (run answer (Operator.reconcile now settings p) s).1 = .error (.drain errors) →
      ∀ error ∈ errors, ∀ e, error.fault = .build e → e = .noOrdinal error.volume := by
  refine ⟨fun v i hordinal => ?_, fun answer s out hout => ?_,
    fun answer s now settings errors herrors => ?_⟩
  · obtain ⟨-, -, -, pod, hpod, -⟩ := members_of_statefulSet hset
    obtain ⟨worker, drain, hworker, hdrain, hmoves⟩ := movesAs_of_workerPod hpvc hpod v
    obtain ⟨job, hjob, hjobPod⟩ := exists_drainerJob (isEmpty_claimName hvalid) hordinal hdrain
    obtain ⟨rotationless, hrotationless, hworkerPod⟩ := exists_statefulSet hworker
    exact ⟨job, rotationless, worker, drain, hjob, hjobPod, hrotationless, hworkerPod, hmoves⟩
  · have hpass := exchanges_transcript answer (drainPass p) s
    rw [hout] at hpass
    exact noOrdinal_of_pass hvalid hpvc hset hpass
  · have hreconcile := exchanges_transcript answer (Operator.reconcile now settings p) s
    rw [herrors] at hreconcile
    obtain ⟨-, -, -, t, out, hpass, rfl⟩ := Operator.passed_of_drain_errors hreconcile
    intro error herror e hfault
    obtain ⟨o, ho, hreported⟩ := List.mem_filterMap.1 herror
    obtain ⟨fault, hrecorded, rfl⟩ := Option.map_eq_some_iff.1 hreported
    have hbuild : o.fault = some (.build e) := hrecorded.trans (congrArg some hfault)
    exact noOrdinal_of_pass hvalid hpvc hset hpass o ho e hbuild

theorem drains_as_worker_equipped :
    equippedPool.spec.isValid = true ∧ equippedPool.spec.disablePvc = false ∧
      ∃ set, statefulSet equippedPool = .ok set ∧ ∃ job rotationless worker drain,
        drainerJob equippedPool (secondClaim equippedPool) = .ok job ∧
        job.podTemplate.spec = some drain ∧
        statefulSet { equippedPool with spec := { equippedPool.spec with logRotate := none } } =
          .ok rotationless ∧
        rotationless.podTemplate.spec = some worker ∧
        MovesAs equippedPool (secondClaim equippedPool) worker drain := by
  have hvalid : equippedPool.spec.isValid = true := by decide +kernel
  obtain ⟨set, hset⟩ := ok_of_isSome
    (by decide +kernel : (statefulSet equippedPool).toOption.isSome = true)
  have hordinal : claimOrdinal (secondClaim equippedPool) = .ok 1 := by
    have hname := nameOf_memberClaim equippedPool 1
    exact (claimOrdinal_eq_ok_iff (p := equippedPool) hname).2 ⟨rfl, by decide⟩
  exact ⟨hvalid, rfl, set, hset,
    (drains_as_worker hvalid rfl hset).1 (secondClaim equippedPool) 1 hordinal⟩

end Drain

end VolumeDrain
