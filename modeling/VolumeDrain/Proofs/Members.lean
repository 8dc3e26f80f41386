import VolumeDrain.Proofs.Documents
import VolumeDrain.Proofs.Objects

/-!
# What a cluster makes of what is built

The pods and claims of workers are not built by the operator: for each ordinal of a stateful set a
controller makes the claims and the pod that binds them, and another makes the pods of a job. What
is made keeps the name and the labels that it was made with, and may be given more labels; in the
pod of an ordinal the volume of a claim takes the place of one of the same name in the template.

From the labels it can be told for which pool an object was made, and to play which role in it.
-/
namespace VolumeDrain

open Manifest Pool Worker

/-! ## Controllers -/

namespace Manifest

/-- Each label is among the others with the same value. -/
def Within (labels others : Labels) : Prop :=
  ∀ key value, labels.get? key = some value → others.get? key = some value

/-- The labels of what is made from a template, none if unset. -/
def PodTemplate.labelMap (t : PodTemplate) : Labels := (t.metadata.map (·.labelMap)).getD ∅

namespace Job

/-- The template of the job's pods. -/
def podTemplate (j : Job) : PodTemplate := (j.spec.map (·.template)).getD {}

/-- The pod that is made for a job, but for its name. -/
def member (j : Job) : Pod where
  metadata := { labels := some j.podTemplate.labelMap }
  spec := j.podTemplate.spec

end Job

/-- The name of the pod of an ordinal in a stateful set. -/
def memberName (set : String) (i : Nat) : String := set ++ "-" ++ toString i

/-- The claim that is made from a template for the pod of an ordinal. -/
def memberClaim (set : String) (i : Nat) (template : Claim) : Claim where
  metadata :=
    { name := some (nameOf template ++ "-" ++ memberName set i)
      labels := template.metadata.labels }
  spec := template.spec

namespace StatefulSet

variable (set : StatefulSet) (i : Nat)

/-- The templates of the claims that are made for each pod. -/
def claimTemplates : List Claim := (set.spec.bind (·.volumeClaimTemplates)).getD []

/-- The template of the pods. -/
def podTemplate : PodTemplate := (set.spec.map (·.template)).getD {}

/-- The volume by which the pod of an ordinal binds the claim made from a template. -/
def claimVolume (template : Claim) : Volume where
  name := nameOf template
  claim := some { claimName := nameOf (memberClaim (nameOf set) i template) }

/-- The volumes of an ordinal's pod: its claims, and what its template has under other names. -/
def memberVolumes (spec : PodSpec) : List Volume :=
  set.claimTemplates.map (set.claimVolume i) ++
    spec.volumeList.filter fun v => set.claimTemplates.all fun t => nameOf t != v.name

/-- The pod that is made for an ordinal. -/
def member : Pod where
  metadata :=
    { name := some (memberName (nameOf set) i), labels := some set.podTemplate.labelMap }
  spec := set.podTemplate.spec.map fun spec =>
    { spec with volumes := some (set.memberVolumes i spec) }

end StatefulSet

/-- The object has the name and the labels of what was made, and perhaps more labels. -/
structure Retains {α : Type} [Resource α] (made a : α) : Prop where
  name_eq : nameOf a = nameOf made
  labels : Within (metadata made).labelMap (metadata a).labelMap

/-- The pod has the labels and the volumes of what was made, and perhaps more labels. -/
structure Copies (made pod : Pod) : Prop where
  labels : Within made.metadata.labelMap pod.metadata.labelMap
  volumes : pod.spec.map (·.volumeList) = made.spec.map (·.volumeList)

theorem Retains.refl {α : Type} [Resource α] (a : α) : Retains a a := ⟨rfl, fun _ _ => id⟩

theorem Copies.refl (pod : Pod) : Copies pod pod := ⟨fun _ _ => id, rfl⟩

/-- The claim behind a volume is found by the volumes alone. -/
theorem bind_claimOf (spec : Option PodSpec) (name : String) : spec.bind (·.claimOf name) =
    (spec.map (·.volumeList)).bind fun volumes =>
      ({ volumes := some volumes } : PodSpec).claimOf name := by
  cases spec <;> rfl

theorem Copies.claimOf_eq {made pod : Pod} (h : Copies made pod) (name : String) :
    pod.spec.bind (·.claimOf name) = made.spec.bind (·.claimOf name) := by
  rw [bind_claimOf, h.volumes, ← bind_claimOf]

theorem Job.claimOf_eq (j : Job) (name : String) :
    j.claimOf name = j.member.spec.bind (·.claimOf name) := by
  cases hspec : j.spec <;> simp [Job.claimOf, Job.member, Job.podTemplate, hspec]

end Manifest

namespace Drain

/-! ## Objects of a pool -/

/-- The claim was made for the worker of an ordinal. -/
def VolumeOf (p : BufferPool) (i : Nat) (v : Claim) : Prop :=
  Retains (memberClaim p.statefulSetName i (claimTemplate p)) v

/-- The pod was made for an ordinal of the pool's stateful set. -/
def WorkerOf (p : BufferPool) (i : Nat) (pod : Pod) : Prop :=
  ∃ set, statefulSet p = .ok set ∧ nameOf pod = nameOf (set.member i) ∧ Copies (set.member i) pod

/-- The job was built to drain the volume. -/
def DrainJobOf (p : BufferPool) (v : Claim) (job : Job) : Prop :=
  ∃ built, drainerJob p v = .ok built ∧ Retains built job ∧ Copies built.member job.member

/-- The pod was made for a job that was built to drain the volume. -/
def DrainPodOf (p : BufferPool) (v : Claim) (pod : Pod) : Prop :=
  ∃ job, DrainJobOf p v job ∧ Copies job.member pod

/-- The pod was built to hold the ordinal while a volume drains. -/
def PlaceholderOf (p : BufferPool) (i : Nat) (pod : Pod) : Prop :=
  ∃ v built, claimOrdinal v = .ok i ∧ placeholderPod p v = .ok built ∧
    nameOf pod = nameOf built ∧ Copies built pod

/-- The pod was made for the pool, to play this role in it. -/
inductive PodOf (p : BufferPool) (pod : Pod) : Role → Prop
  | worker {i : Nat} (h : WorkerOf p i pod) : PodOf p pod .worker
  | drainer {v : Claim} (h : DrainPodOf p v pod) : PodOf p pod .drainer
  | placeholder {i : Nat} (h : PlaceholderOf p i pod) : PodOf p pod .placeholder

variable {p : BufferPool} {i : Nat} {v : Claim} {pod : Pod} {job : Job} {role : Role}
  {labels : Labels} {set : StatefulSet}

theorem plays_of_within (hlabels : labels = p.labels role) {others : Labels}
    (h : Within labels others) : p.Plays role others := by
  subst hlabels
  exact h

/-! ## Claims -/

theorem nameOf_memberClaim (p : BufferPool) (i : Nat) :
    nameOf (memberClaim p.statefulSetName i (claimTemplate p)) = p.claimName i := by
  change p.bufferVolumeName ++ "-" ++ memberName p.statefulSetName i = p.claimName i
  rw [memberName, BufferPool.claimName]
  simp only [String.append_assoc]
  rfl

theorem VolumeOf.name_eq (h : VolumeOf p i v) : nameOf v = p.claimName i :=
  (Retains.name_eq h).trans (nameOf_memberClaim p i)

theorem VolumeOf.plays (h : VolumeOf p i v) : p.Plays .worker v.metadata.labelMap :=
  Retains.labels h

/-! ## Workers -/

/-- What the stateful set of a pool has its controller make. -/
theorem members_of_statefulSet (h : statefulSet p = .ok set) :
    nameOf set = p.statefulSetName ∧ set.podTemplate.labelMap = p.labels .worker ∧
      set.claimTemplates = (if p.spec.disablePvc then [] else [claimTemplate p]) ∧
        ∃ spec, workerPod p = .ok spec ∧ set.podTemplate.spec = some spec := by
  obtain ⟨spec, hpod, h⟩ := bind_eq_ok.1 h
  cases h
  refine ⟨rfl, rfl, ?_, spec, hpod, rfl⟩
  cases p.spec.disablePvc <;> simp [StatefulSet.claimTemplates]

theorem WorkerOf.plays (h : WorkerOf p i pod) : p.Plays .worker pod.metadata.labelMap := by
  obtain ⟨set, hset, -, hcopies⟩ := h
  exact plays_of_within (members_of_statefulSet hset).2.1 hcopies.labels

/-- The claim behind the buffer volume of an ordinal's worker: the one that was made for it, or
without claims what the pool itself has its workers mount under that name. -/
def workerClaim? (p : BufferPool) (i : Nat) : Option String :=
  if p.spec.disablePvc then (workerPod p).toOption.bind (·.claimOf p.bufferVolumeName)
  else some (p.claimName i)

theorem WorkerOf.claimOf_eq (h : WorkerOf p i pod) :
    pod.spec.bind (·.claimOf p.bufferVolumeName) = workerClaim? p i := by
  obtain ⟨set, hset, -, hcopies⟩ := h
  obtain ⟨hname, -, htemplates, spec, hpod, htemplate⟩ := members_of_statefulSet hset
  have hmember : (set.member i).spec =
      some { spec with volumes := some (set.memberVolumes i spec) } := by
    rw [StatefulSet.member, htemplate]
    rfl
  rw [hcopies.claimOf_eq, hmember, Option.bind_some, PodSpec.claimOf, PodSpec.volumeList,
    Option.getD_some, workerClaim?]
  by_cases hpvc : p.spec.disablePvc = true
  · have hvolumes : set.memberVolumes i spec = spec.volumeList := by
      rw [StatefulSet.memberVolumes, htemplates, if_pos hpvc]
      simp
    rw [if_pos hpvc, hvolumes, hpod]
    rfl
  · -- The claim's volume comes first, and has the name that is looked for.
    have hfirst : set.claimVolume i (claimTemplate p) =
        { name := p.bufferVolumeName, claim := some { claimName := p.claimName i } } := by
      rw [StatefulSet.claimVolume, hname, nameOf_memberClaim]
      rfl
    rw [if_neg hpvc, StatefulSet.memberVolumes, htemplates, if_neg hpvc, List.map_singleton, hfirst]
    simp

/-! ## Drain jobs -/

theorem DrainJobOf.plays (h : DrainJobOf p v job) : p.Plays .drainer job.metadata.labelMap := by
  obtain ⟨built, hbuilt, hretains, -⟩ := h
  obtain ⟨ordinal, spec, -, -, hmeta, -⟩ := metadata_drainerJob hbuilt
  exact plays_of_within (congrArg ObjectMeta.labelMap hmeta) hretains.labels

/-- A drain job binds the volume that it was built to drain. -/
theorem DrainJobOf.claimOf_eq (h : DrainJobOf p v job) :
    job.claimOf p.bufferVolumeName = some (nameOf v) := by
  obtain ⟨built, hbuilt, -, hcopies⟩ := h
  obtain ⟨ordinal, spec, -, hspec, -, -, hclaim⟩ := metadata_drainerJob hbuilt
  rw [job.claimOf_eq, hcopies.claimOf_eq, ← built.claimOf_eq, hclaim, claimOf_drainerPod hspec]

/-- What a drain job has its controller make. -/
theorem podTemplate_drainerJob (h : drainerJob p v = .ok job) :
    job.podTemplate.labelMap = p.labels .drainer ∧
      ∃ spec, drainerPod p v = .ok spec ∧ job.podTemplate.spec = some spec := by
  rw [drainerJob] at h
  split at h
  · cases h
  · obtain ⟨ordinal, -, h⟩ := bind_eq_ok.1 h
    obtain ⟨spec, hpod, h⟩ := bind_eq_ok.1 h
    cases h
    exact ⟨rfl, spec, hpod, rfl⟩

theorem DrainPodOf.plays (h : DrainPodOf p v pod) : p.Plays .drainer pod.metadata.labelMap := by
  obtain ⟨job, ⟨built, hbuilt, -, hbuiltLabels, -⟩, hlabels, -⟩ := h
  refine plays_of_within (podTemplate_drainerJob hbuilt).1 ?_
  exact fun key value hvalue => hlabels key value (hbuiltLabels key value hvalue)

/-! ## Placeholders -/

theorem PlaceholderOf.plays (h : PlaceholderOf p i pod) :
    p.Plays .placeholder pod.metadata.labelMap := by
  obtain ⟨v, built, -, hbuilt, -, hcopies⟩ := h
  obtain ⟨ordinal, -, hmeta⟩ := metadata_placeholderPod hbuilt
  exact plays_of_within (congrArg ObjectMeta.labelMap hmeta) hcopies.labels

/-- The ordinal of a placeholder can be read off its name, for it was read off one before. -/
theorem PlaceholderOf.trailingOrdinal_eq (h : PlaceholderOf p i pod) :
    Text.trailingOrdinal? (nameOf pod) = some i := by
  obtain ⟨v, built, hordinal, hbuilt, hname', -⟩ := h
  obtain ⟨ordinal, hordinal', hmeta⟩ := metadata_placeholderPod hbuilt
  obtain rfl : i = ordinal := Except.ok.inj (hordinal.symm.trans hordinal')
  have hname : nameOf built = p.placeholderName i := congrArg ObjectMeta.nameOrStem hmeta
  have hle := Text.le_of_trailingOrdinal? (trailingOrdinal_of_claimOrdinal hordinal)
  rw [hname', hname, p.trailingOrdinal?_placeholderName, if_pos hle]

end Drain

end VolumeDrain
