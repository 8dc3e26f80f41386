import VolumeDrain.Proofs.Documents
import VolumeDrain.Worker.ExtraVolume

/-!
# What extra volumes do to a pod

An extra volume comes after the volumes that a pod has, and is mounted in one container; the
containers keep their names and their order, and the settings of the pod stay as they are. Whether
extra volumes can be added depends on nothing but their sources and the names of the containers.
-/
namespace VolumeDrain

namespace Manifest

/-- What a pod is besides its containers and volumes. -/
def PodSpec.settings (pod : PodSpec) : PodSpec := { pod with containers := [], volumes := none }

/-- The names of the containers, in their order. -/
def PodSpec.containerNames (pod : PodSpec) : List String := pod.containers.map (·.name)

end Manifest

namespace Worker

open Manifest Pool

variable {pod pod' pod'' : PodSpec} {extra : ExtraVolume} {extras : List ExtraVolume}
  {name : String} {mount : VolumeMount} {containers added : List Container}

/-! ## Mounts -/

theorem names_addMountTo (h : addMountTo name mount containers = some added) :
    added.map (·.name) = containers.map (·.name) := by
  induction containers generalizing added with
  | nil => cases h
  | cons c rest ih =>
    rw [addMountTo] at h
    split at h
    · cases h
      rfl
    · obtain ⟨others, hothers, rfl⟩ := Option.map_eq_some_iff.1 h
      rw [List.map_cons, List.map_cons, ih hothers]

theorem exists_addMountTo_iff (name : String) (mount : VolumeMount)
    (containers : List Container) :
    (∃ added, addMountTo name mount containers = some added) ↔
      name ∈ containers.map (·.name) := by
  induction containers with
  | nil => exact iff_of_false nofun List.not_mem_nil
  | cons c rest ih =>
    rw [addMountTo, List.map_cons, List.mem_cons]
    by_cases hname : c.name = name
    · rw [if_pos (beq_iff_eq.2 hname)]
      exact iff_of_true ⟨_, rfl⟩ (.inl hname.symm)
    · rw [if_neg (hname ∘ beq_iff_eq.1), or_iff_right (Ne.symm hname), ← ih]
      refine ⟨fun ⟨added, h⟩ => ?_, fun ⟨others, h⟩ => ⟨c :: others, by rw [h]; rfl⟩⟩
      obtain ⟨others, hothers, -⟩ := Option.map_eq_some_iff.1 h
      exact ⟨others, hothers⟩

/-- The mount goes to the first container of the name, behind the mounts that are there. -/
theorem addMountTo_eq_some_iff : addMountTo name mount containers = some added ↔
    ∃ before c after, containers = before ++ c :: after ∧ c.name = name ∧
      (∀ d ∈ before, d.name ≠ name) ∧ added = before ++ c.addMount mount :: after := by
  induction containers generalizing added with
  | nil => exact iff_of_false nofun fun ⟨before, c, after, h, _⟩ => by cases before <;> cases h
  | cons first rest ih =>
    rw [addMountTo]
    by_cases hname : first.name = name
    · rw [if_pos (beq_iff_eq.2 hname), Option.some.injEq]
      constructor
      · rintro rfl
        exact ⟨[], first, rest, rfl, hname, nofun, rfl⟩
      · rintro ⟨_ | ⟨d, before⟩, c, after, hsplit, hc, hbefore, rfl⟩ <;> cases hsplit
        · rfl
        · exact absurd hname (hbefore _ List.mem_cons_self)
    · rw [if_neg (hname ∘ beq_iff_eq.1), Option.map_eq_some_iff]
      simp only [ih]
      constructor
      · rintro ⟨_, ⟨before, c, after, rfl, hc, hbefore, rfl⟩, rfl⟩
        exact ⟨first :: before, c, after, rfl, hc, List.forall_mem_cons.2 ⟨hname, hbefore⟩, rfl⟩
      · rintro ⟨_ | ⟨d, before⟩, c, after, hsplit, hc, hbefore, rfl⟩ <;> cases hsplit
        · exact absurd hc hname
        · exact ⟨_, ⟨before, c, after, rfl, hc, (List.forall_mem_cons.1 hbefore).2, rfl⟩, rfl⟩

/-! ## One volume -/

/-- An extra volume is added exactly if it has one source and there is its container. -/
theorem addExtraVolume_eq_ok_iff : addExtraVolume pod extra = .ok pod' ↔
    extra.source.count = 1 ∧ ∃ added,
      addMountTo extra.containerName (extraMount extra) pod.containers = some added ∧
      { pod with
        containers := added
        volumes := some (pod.volumeList ++ [extraPodVolume extra]) } = pod' := by
  rw [addExtraVolume]
  split
  · rename_i hcount
    simp [hcount]
  · rename_i hcount
    split
    · rename_i hadded
      simp [hadded]
    · rename_i added hadded
      simp [hcount, hadded]
  · rename_i hcount
    exact iff_of_false nofun fun h => hcount h.1

/-- What has become of a pod to which extra volumes were added. -/
structure Adds (extras : List ExtraVolume) (pod pod' : PodSpec) : Prop where
  volumes : pod'.volumeList = pod.volumeList ++ extras.map extraPodVolume
  names : pod'.containerNames = pod.containerNames
  settings : pod'.settings = pod.settings

theorem adds_of_addExtraVolume (h : addExtraVolume pod extra = .ok pod') :
    Adds [extra] pod pod' := by
  obtain ⟨-, added, hadded, rfl⟩ := addExtraVolume_eq_ok_iff.1 h
  exact ⟨rfl, names_addMountTo hadded, rfl⟩

theorem exists_addExtraVolume_iff : (∃ pod', addExtraVolume pod extra = .ok pod') ↔
    extra.source.count = 1 ∧ extra.containerName ∈ pod.containerNames := by
  rw [PodSpec.containerNames, ← exists_addMountTo_iff _ (extraMount extra)]
  constructor
  · rintro ⟨pod', h⟩
    obtain ⟨hcount, added, hadded, -⟩ := addExtraVolume_eq_ok_iff.1 h
    exact ⟨hcount, added, hadded⟩
  · rintro ⟨hcount, added, hadded⟩
    exact ⟨_, addExtraVolume_eq_ok_iff.2 ⟨hcount, added, hadded, rfl⟩⟩

/-! ## All volumes -/

theorem addExtraVolumes_cons (pod : PodSpec) (extra : ExtraVolume) (rest : List ExtraVolume) :
    addExtraVolumes pod (extra :: rest) =
      addExtraVolume pod extra >>= fun next => addExtraVolumes next rest :=
  List.foldlM_cons

theorem adds_of_addExtraVolumes (h : addExtraVolumes pod extras = .ok pod') :
    Adds extras pod pod' := by
  induction extras generalizing pod with
  | nil =>
    cases h
    exact ⟨(List.append_nil _).symm, rfl, rfl⟩
  | cons extra rest ih =>
    rw [addExtraVolumes_cons] at h
    obtain ⟨next, hnext, h⟩ := bind_eq_ok.1 h
    have hfirst := adds_of_addExtraVolume hnext
    have hrest := ih h
    refine ⟨?_, hrest.names.trans hfirst.names, hrest.settings.trans hfirst.settings⟩
    rw [hrest.volumes, hfirst.volumes, List.append_assoc]
    rfl

/-- Extra volumes can be added exactly if each has one source and there are their containers. -/
theorem exists_addExtraVolumes_iff : (∃ pod', addExtraVolumes pod extras = .ok pod') ↔
    ∀ extra ∈ extras, extra.source.count = 1 ∧ extra.containerName ∈ pod.containerNames := by
  induction extras generalizing pod with
  | nil => exact iff_of_true ⟨pod, rfl⟩ nofun
  | cons extra rest ih =>
    rw [List.forall_mem_cons, ← exists_addExtraVolume_iff]
    constructor
    · rintro ⟨pod', h⟩
      rw [addExtraVolumes_cons] at h
      obtain ⟨next, hnext, h⟩ := bind_eq_ok.1 h
      rw [← (adds_of_addExtraVolume hnext).names]
      exact ⟨⟨next, hnext⟩, ih.1 ⟨pod', h⟩⟩
    · rintro ⟨⟨next, hnext⟩, hrest⟩
      rw [← (adds_of_addExtraVolume hnext).names] at hrest
      obtain ⟨pod', h⟩ := ih.2 hrest
      rw [addExtraVolumes_cons]
      exact ⟨pod', bind_eq_ok.2 ⟨next, hnext, h⟩⟩

end Worker

end VolumeDrain
