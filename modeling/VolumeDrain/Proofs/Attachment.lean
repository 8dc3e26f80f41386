import VolumeDrain.Proofs.ExtraVolumes

/-!
# Extra volumes one after another

Extra volumes are added to a pod in place: first the mount, then the volume. What a volume is
refused for is found out before anything is done, so a refusal leaves the pod as it was. A volume
that is added comes behind the volumes that are there, its mount behind those of the first container
of the name, and nothing else is changed.

Whether a volume is refused depends on its sources and on the names of the containers, and neither
is changed by others. So after any number of volumes, some of them refused, the pod has gained the
volumes and mounts of those that were added, in their order, and there is no trace of the others.
-/
namespace VolumeDrain

namespace Pool

/-- What a volume can be made of. -/
inductive Source where
  | claim (name : String)
  | configMap (name : String)
  | secret (name : String)
  | hostPath (path : String)
  | emptyDir
deriving DecidableEq

/-- The sources that are set. -/
def VolumeSource.sources (s : VolumeSource) : List Source :=
  (s.persistentVolumeClaim.map .claim).toList ++ (s.configMap.map .configMap).toList ++
    (s.secret.map .secret).toList ++ (s.hostPath.map .hostPath).toList ++
    if s.emptyDir then [.emptyDir] else []

theorem VolumeSource.length_sources (s : VolumeSource) : s.sources.length = s.count := by
  obtain ⟨claim, configMap, secret, hostPath, emptyDir⟩ := s
  cases claim <;> cases configMap <;> cases secret <;> cases hostPath <;> cases emptyDir <;> rfl

end Pool

namespace Manifest

/-- The container with more mounts behind those that it has. -/
def Container.addMounts (c : Container) (mounts : List VolumeMount) : Container :=
  if mounts.isEmpty then c else { c with volumeMounts := some (c.mounts ++ mounts) }

theorem Container.addMounts_append (c : Container) (mounts others : List VolumeMount) :
    c.addMounts (mounts ++ others) = (c.addMounts mounts).addMounts others := by
  cases mounts <;> cases others <;> simp [Container.addMounts, Container.mounts]

theorem Container.name_addMounts (c : Container) (mounts : List VolumeMount) :
    (c.addMounts mounts).name = c.name := by
  rw [Container.addMounts]
  split <;> rfl

theorem Container.length_mounts_addMount (c : Container) (mount : VolumeMount) :
    (c.addMount mount).mounts.length = c.mounts.length + 1 :=
  List.length_append

/-- The number of mounts in all containers. -/
def PodSpec.mountCount (pod : PodSpec) : Nat := (pod.containers.flatMap (·.mounts)).length

/-- The place of the first container of a name. -/
def PodSpec.placeOf? (pod : PodSpec) (name : String) : Option Nat :=
  pod.containerNames.findIdx? (· == name)

end Manifest

namespace Worker

open Manifest Pool

variable {pod pod' next : PodSpec} {extra : ExtraVolume} {added more : List ExtraVolume}
  {source : Source} {before after : List Container} {c : Container}

/-! ## One volume -/

/-- The volume that is made of one source and has no other. -/
def podVolume (name : String) (readOnly : Bool) : Source → Volume
  | .claim claim => { name, claim := some { claimName := claim, readOnly := setIf readOnly } }
  | .configMap configMap => { name, configMap := some (.record [field "name" configMap]) }
  | .secret secret => { name, secret := some (.record [field "secretName" secret]) }
  | .hostPath path => { name, hostPath := some (.record [field "path" path]) }
  | .emptyDir => { name, emptyDir := some (.obj []) }

theorem extraPodVolume_eq (h : extra.source.sources = [source]) :
    extraPodVolume extra = podVolume extra.volumeName extra.readOnly source := by
  obtain ⟨name, path, container, readOnly, claim, configMap, secret, hostPath, emptyDir⟩ := extra
  cases claim <;> cases configMap <;> cases secret <;> cases hostPath <;> cases emptyDir <;>
    cases h <;> rfl

theorem exists_sources_iff : (∃ source, extra.source.sources = [source]) ↔
    extra.source.count = 1 := by
  rw [← VolumeSource.length_sources, List.length_eq_one_iff]

/-- The volume has exactly one source, and the pod a container for it. -/
def Fits (pod : PodSpec) (extra : ExtraVolume) : Prop :=
  (∃ source, extra.source.sources = [source]) ∧ extra.containerName ∈ pod.containerNames

instance : DecidablePred (Fits pod) := fun _ =>
  decidable_of_iff _ (and_congr_left' exists_sources_iff.symm)

/-- What becomes of a pod to which an extra volume is to be added: a refusal leaves it as it is. -/
inductive Attaches (extra : ExtraVolume) (pod : PodSpec) :
    Except ExtraVolumeError Unit × PodSpec → Prop
  | refused {e : ExtraVolumeError} (h : ¬ Fits pod extra) : Attaches extra pod (.error e, pod)
  | added {source : Source} {before after : List Container} {c : Container}
      (hsource : extra.source.sources = [source])
      (hsplit : pod.containers = before ++ c :: after) (hname : c.name = extra.containerName)
      (hfirst : ∀ d ∈ before, d.name ≠ extra.containerName) :
      Attaches extra pod (.ok (),
        { pod with
          containers :=
            before ++ { c with volumeMounts := some (c.mounts ++ [extraMount extra]) } :: after
          volumes :=
            some (pod.volumeList ++ [podVolume extra.volumeName extra.readOnly source]) })

theorem run_get_bind {ε σ α : Type} (k : σ → ExceptT ε (StateM σ) α) (s : σ) :
    (get >>= k).run.run s = (k s).run.run s := rfl

/-- To add a volume in place is to go on with what becomes of the pod, or with the pod as it was. -/
theorem run_attach (extra : ExtraVolume) (pod : PodSpec) : (attach extra).run.run pod =
    match addExtraVolume pod extra with
    | .ok pod' => (.ok (), pod')
    | .error e => (.error e, pod) := by
  rw [attach, addExtraVolume]
  split
  · rfl
  · rw [run_get_bind]
    cases addMountTo extra.containerName (extraMount extra) pod.containers <;> rfl
  · rfl

theorem fits_congr (hnames : pod'.containerNames = pod.containerNames) :
    Fits pod' extra ↔ Fits pod extra := by
  rw [Fits, Fits, hnames]

theorem fits_iff : Fits pod extra ↔ ∃ pod', addExtraVolume pod extra = .ok pod' := by
  rw [Fits, exists_sources_iff, exists_addExtraVolume_iff]

theorem attaches_attach (extra : ExtraVolume) (pod : PodSpec) :
    Attaches extra pod ((attach extra).run.run pod) := by
  rw [run_attach]
  cases hadd : addExtraVolume pod extra with
  | error e =>
    refine .refused fun hfits => ?_
    obtain ⟨pod', h⟩ := fits_iff.1 hfits
    cases hadd.symm.trans h
  | ok pod' =>
    obtain ⟨hcount, containers, hadded, rfl⟩ := addExtraVolume_eq_ok_iff.1 hadd
    obtain ⟨source, hsource⟩ := exists_sources_iff.2 hcount
    obtain ⟨before, c, after, hsplit, hname, hfirst, rfl⟩ := addMountTo_eq_some_iff.1 hadded
    rw [extraPodVolume_eq hsource]
    exact .added hsource hsplit hname hfirst

theorem Attaches.refused_iff {result : Except ExtraVolumeError Unit × PodSpec}
    (h : Attaches extra pod result) : (∃ e, result.1 = .error e) ↔ ¬ Fits pod extra := by
  cases h with
  | refused hfits => exact iff_of_true ⟨_, rfl⟩ hfits
  | added hsource hsplit hname =>
    refine iff_of_false nofun (not_not_intro ⟨⟨_, hsource⟩, ?_⟩)
    rw [PodSpec.containerNames, hsplit, ← hname]
    simp

/-! ## What a pod gains -/

/-- The mounts of extra volumes in the container at a place: those that are for the name of which it
is the first container. -/
def mountsAt (pod : PodSpec) (added : List ExtraVolume) (i : Nat) : List VolumeMount :=
  (added.filter fun extra => pod.placeOf? extra.containerName == some i).map extraMount

/-- A pod that has gained extra volumes and is otherwise as it was. -/
structure Gains (added : List ExtraVolume) (pod pod' : PodSpec) : Prop where
  fits : ∀ extra ∈ added, Fits pod extra
  settings : pod'.settings = pod.settings
  containers : pod'.containers = pod.containers.mapIdx fun i c => c.addMounts (mountsAt pod added i)
  mountCount : pod'.mountCount = pod.mountCount + added.length
  volumes : pod'.volumes =
    if added.isEmpty then pod.volumes else some (pod.volumeList ++ added.map extraPodVolume)

theorem placeOf?_eq (hsplit : pod.containers = before ++ c :: after)
    (hfirst : ∀ d ∈ before, d.name ≠ c.name) : pod.placeOf? c.name = some before.length := by
  have hnone : (before.map (·.name)).findIdx? (· == c.name) = none := by
    simpa [List.findIdx?_eq_none_iff] using hfirst
  rw [PodSpec.placeOf?, PodSpec.containerNames, hsplit, List.map_append, List.findIdx?_append,
    hnone]
  simp [List.findIdx?_cons]

theorem mountsAt_append (pod : PodSpec) (added more : List ExtraVolume) (i : Nat) :
    mountsAt pod (added ++ more) i = mountsAt pod added i ++ mountsAt pod more i := by
  rw [mountsAt, List.filter_append, List.map_append]
  rfl

theorem Gains.nil (pod : PodSpec) : Gains [] pod pod where
  fits := nofun
  settings := rfl
  containers := (List.mapIdx_eq_iff.2 fun i => by simp [mountsAt, Container.addMounts]).symm
  mountCount := rfl
  volumes := rfl

theorem mountsAt_singleton (pod : PodSpec) (extra : ExtraVolume) (i : Nat) :
    mountsAt pod [extra] i =
      if pod.placeOf? extra.containerName = some i then [extraMount extra] else [] := by
  by_cases h : pod.placeOf? extra.containerName = some i <;> simp [mountsAt, h]

theorem gains_of_addExtraVolume (h : addExtraVolume pod extra = .ok next) :
    Gains [extra] pod next := by
  obtain ⟨-, containers, hadded, rfl⟩ := addExtraVolume_eq_ok_iff.1 h
  obtain ⟨before, c, after, hsplit, hname, hfirst, rfl⟩ := addMountTo_eq_some_iff.1 hadded
  have hcount : ((before ++ c.addMount (extraMount extra) :: after).flatMap (·.mounts)).length =
      pod.mountCount + 1 := by
    rw [PodSpec.mountCount, hsplit]
    simp only [List.flatMap_append, List.flatMap_cons, List.length_append,
      Container.length_mounts_addMount]
    omega
  refine ⟨List.forall_mem_singleton.2 (fits_iff.2 ⟨_, h⟩), rfl, ?_, hcount, rfl⟩
  rw [← hname] at hfirst
  have hset : before ++ c.addMount (extraMount extra) :: after =
      pod.containers.set before.length (c.addMount (extraMount extra)) := by
    rw [hsplit, List.set_append_right _ _ (Nat.le_refl _), Nat.sub_self, List.set_cons_zero]
  have hc : pod.containers[before.length]? = some c := by
    rw [hsplit, List.getElem?_append_right (Nat.le_refl _), Nat.sub_self, List.getElem?_cons_zero]
  refine (List.mapIdx_eq_iff.2 fun i => ?_).symm
  rw [hset, mountsAt_singleton, ← hname, placeOf?_eq hsplit hfirst, List.getElem?_set]
  by_cases hi : before.length = i
  · subst hi
    rw [if_pos rfl, if_pos (List.getElem?_eq_some_iff.1 hc).1, if_pos rfl, hc]
    rfl
  · rw [if_neg hi, if_neg (hi ∘ Option.some.inj)]
    exact Option.map_id'.symm

theorem Gains.containerNames_eq (h : Gains added pod next) :
    next.containerNames = pod.containerNames := by
  refine List.map_eq_iff.2 fun i => ?_
  rw [h.containers, List.getElem?_mapIdx, PodSpec.containerNames, List.getElem?_map, Option.map_map]
  simp only [Function.comp_def, Container.name_addMounts]

theorem Gains.trans (h : Gains added pod next) (h' : Gains more next pod') :
    Gains (added ++ more) pod pod' := by
  have hnames := h.containerNames_eq
  have hmounts : mountsAt next more = mountsAt pod more := by
    funext i
    simp only [mountsAt, PodSpec.placeOf?, hnames]
  refine ⟨List.forall_mem_append.2 ⟨h.fits, ?_⟩, h'.settings.trans h.settings, ?_, ?_, ?_⟩
  · simpa only [Fits, hnames] using h'.fits
  · rw [h'.containers, h.containers, List.mapIdx_mapIdx, hmounts]
    simp only [Function.comp_def, ← Container.addMounts_append, ← mountsAt_append]
  · rw [h'.mountCount, h.mountCount, List.length_append, Nat.add_assoc]
  · rw [h'.volumes, PodSpec.volumeList, h.volumes]
    cases added <;> cases more <;> simp [PodSpec.volumeList]

/-! ## One volume after another -/

/-- How a volume is answered depends on nothing but the names of the containers. -/
theorem answer_congr (hnames : pod'.containerNames = pod.containerNames) :
    ((attach extra).run.run pod').1 = ((attach extra).run.run pod).1 := by
  have hmount : (∃ added, addMountTo extra.containerName (extraMount extra) pod'.containers =
      some added) ↔
      ∃ added, addMountTo extra.containerName (extraMount extra) pod.containers = some added := by
    rw [exists_addMountTo_iff, exists_addMountTo_iff]
    exact iff_of_eq (congrArg (extra.containerName ∈ ·) hnames)
  rw [run_attach, run_attach, addExtraVolume, addExtraVolume]
  rcases extra.source.count with _ | _ | n
  · rfl
  · cases h' : addMountTo extra.containerName (extraMount extra) pod'.containers <;>
      cases h : addMountTo extra.containerName (extraMount extra) pod.containers <;>
      simp [h, h'] at hmount ⊢
  · rfl

theorem run_attachAll_cons (extra : ExtraVolume) (rest : List ExtraVolume) (pod : PodSpec) :
    (attachAll (extra :: rest)).run pod =
      ((attachAll rest).run ((attach extra).run.run pod).2).map
        (((attach extra).run.run pod).1 :: ·) id := rfl

theorem gains_attach (extra : ExtraVolume) (pod : PodSpec) :
    Gains ([extra].filter (Fits pod)) pod ((attach extra).run.run pod).2 := by
  rw [run_attach]
  cases hadd : addExtraVolume pod extra with
  | error e =>
    have hfits : ¬ Fits pod extra := fun h => by simpa [hadd] using fits_iff.1 h
    simpa [hfits] using Gains.nil pod
  | ok next => simpa [fits_iff.2 ⟨_, hadd⟩] using gains_of_addExtraVolume hadd

theorem run_attachAll (extras : List ExtraVolume) (pod : PodSpec) :
    ∃ pod', (attachAll extras).run pod =
        (extras.map fun extra => ((attach extra).run.run pod).1, pod') ∧
      Gains (extras.filter (Fits pod)) pod pod' := by
  induction extras generalizing pod with
  | nil => exact ⟨pod, rfl, .nil pod⟩
  | cons extra rest ih =>
    have hfirst := gains_attach extra pod
    obtain ⟨pod', hrun, hrest⟩ := ih ((attach extra).run.run pod).2
    -- what is refused later is what would be refused now: the names of the containers are the same
    have hnames := hfirst.containerNames_eq
    simp only [answer_congr hnames] at hrun
    simp only [fits_congr hnames] at hrest
    refine ⟨pod', ?_, ?_⟩
    · rw [run_attachAll_cons, hrun]
      rfl
    · exact (List.filter_append [extra] rest).symm ▸ hfirst.trans hrest

/-- An extra volume is refused exactly if it has not one source or the pod no container for it, and
leaves the pod as it is then; else a volume and a mount are all that the pod gets. After any number
of volumes the pod has gained those that were not refused, each answered as if it were the only
one. -/
theorem extra_volumes_atomic_and_local (pod : PodSpec) :
    (∀ extra, Attaches extra pod ((attach extra).run.run pod) ∧
      ((∃ e, ((attach extra).run.run pod).1 = .error e) ↔ ¬ Fits pod extra)) ∧
    ∀ extras, ∃ pod', (attachAll extras).run pod =
        (extras.map fun extra => ((attach extra).run.run pod).1, pod') ∧
      Gains (extras.filter (Fits pod)) pod pod' :=
  ⟨fun extra => ⟨attaches_attach extra pod, (attaches_attach extra pod).refused_iff⟩,
    fun extras => run_attachAll extras pod⟩

end Worker

end VolumeDrain
