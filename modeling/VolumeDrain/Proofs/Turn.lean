import VolumeDrain.Proofs.Tidy

/-!
# What a pass does to an ordinal

The volume, the pod and the job under the names of one ordinal. A pass deals with every ordinal at
most once, and the calls for the others do not touch it: whatever a pass is answered and wherever
it is cut off, an ordinal takes one of few turns, each named by the action that was chosen for it.
-/
namespace VolumeDrain.Drain

open Manifest Script MemoryStore

/-- The objects under the names of one ordinal. -/
@[ext] structure Slot where
  volume : Option Claim
  pod : Option Pod
  job : Option Job

/-- The objects of an ordinal in a cluster. -/
def MemoryStore.slot (s : MemoryStore) (p : BufferPool) (i : Nat) : Slot where
  volume := s.volumes.get? (p.claimName i)
  pod := s.pods.get? (p.placeholderName i)
  job := s.jobs.get? (p.drainerName i)

theorem slot_job (s : MemoryStore) (p : BufferPool) (i : Nat) :
    (s.slot p i).job = s.jobs.get? (p.drainerName i) := rfl

namespace Slot

/-- The ordinal has a worker. -/
def Worked (p : BufferPool) (i : Nat) (σ : Slot) : Prop := ∃ pod, σ.pod = some pod ∧ Works p i pod

/-- A placeholder holds the ordinal. -/
def Held (p : BufferPool) (i : Nat) (σ : Slot) : Prop := ∃ pod, σ.pod = some pod ∧ Holds p i pod

/-- The ordinal has no drain job. -/
def Jobless (p : BufferPool) (i : Nat) (σ : Slot) : Prop :=
  ∀ job, σ.job = some job → ¬ Drains p i job

end Slot

/-- The call is about an object of the ordinal. The reads are about none. -/
def Concerns (p : BufferPool) (i : Nat) : StoreCall → Prop
  | .mark volume _ => nameOf volume = p.claimName i
  | .deleteJob job _ => nameOf job = p.drainerName i
  | .settleJob job _ => nameOf job = p.drainerName i
  | .settlePod pod _ => nameOf pod = p.placeholderName i
  | _ => False

/-- An object stays as it is, is being deleted, or is gone. -/
def Fades {α : Type} (dying : Instant → α → α) (x x' : Option α) : Prop :=
  x' = x ∨ x' = none ∨ ∃ a time, x = some a ∧ x' = some (dying time a)

theorem Fades.refl {α : Type} {dying : Instant → α → α} (x : Option α) : Fades dying x x :=
  .inl rfl

variable {p : BufferPool} {s s' : MemoryStore} {i j : Nat} {v : Claim} {pod : Pod} {job : Job}

/-! ## Calls and ordinals -/

theorem MemoryStore.Answers.slot_eq {c : StoreCall} {r : c.Reply} (h : Answers c s r s')
    (hc : ¬ Concerns p i c) : s'.slot p i = s.slot p i := by
  cases c with
  | listVolumes ns sel => rw [h.of_listVolumes.1]
  | listPods ns sel => rw [h.of_listPods.1]
  | listJobs ns sel => rw [h.of_listJobs.1]
  | replicaCount q => rw [h.of_replicaCount.1]
  | mark volume mark =>
    have hne : p.claimName i ≠ nameOf volume := Ne.symm hc
    rcases h.of_mark with ⟨rfl, -⟩ | ⟨_, -, rfl⟩
    · rfl
    · simp [slot, KeyMap.get?_insert, hne]
  | deleteJob job propagation =>
    have hne : p.drainerName i ≠ nameOf job := Ne.symm hc
    rcases h.of_deleteJob with rfl | rfl | ⟨_, -, rfl⟩
    · rfl
    · simp [slot, KeyMap.get?_erase, hne]
    · simp [slot, KeyMap.get?_insert, hne]
  | settleJob job presence =>
    have hne : p.drainerName i ≠ nameOf job := Ne.symm hc
    cases presence with
    | present =>
      rcases h.of_settleJob_present with rfl | ⟨-, rfl⟩
      · rfl
      · simp [slot, KeyMap.get?_insert, hne]
    | absent =>
      rcases h.of_settleJob_absent with rfl | rfl
      · rfl
      · simp [slot, KeyMap.get?_erase, hne]
  | settlePod pod presence =>
    have hne : p.placeholderName i ≠ nameOf pod := Ne.symm hc
    cases presence with
    | present =>
      rcases h.of_settlePod_present with ⟨rfl, -⟩ | ⟨-, rfl⟩
      · rfl
      · simp [slot, KeyMap.get?_insert, hne]
    | absent =>
      rcases h.of_settlePod_absent with rfl | rfl | ⟨_, -, rfl⟩
      · rfl
      · simp [slot, KeyMap.get?_erase, hne]
      · simp [slot, KeyMap.get?_insert, hne]

theorem slot_eq_of_follows {t : List StoreExchange} (h : Follows Answers t s s')
    (ht : ∀ e ∈ t, ¬ Concerns p i e.question) : s'.slot p i = s.slot p i := by
  induction t generalizing s with
  | nil => rw [h]
  | cons e t ih =>
    obtain ⟨mid, he, hrest⟩ := h
    rw [ih hrest fun e' he' => ht e' (List.mem_cons_of_mem _ he')]
    exact he.slot_eq (ht e List.mem_cons_self)

/-- The calls that are made for a volume are about its ordinal alone. -/
theorem Justified.ordinal_eq {σ : Snapshot} {c : StoreCall}
    (hjobs : ∀ job, σ.IsJobOf p (p.claimName j) job → Drains p j job)
    (hv : nameOf v = p.claimName j) (hc : Justified p σ v c) (hi : Concerns p i c) : i = j := by
  cases c with
  | mark volume mark =>
    have hvolume : volume = v := by cases mark <;> exact hc.1
    have hname : nameOf volume = p.claimName i := hi
    rw [hvolume, hv] at hname
    exact (p.claimName_inj.1 hname).symm
  | deleteJob job propagation =>
    have hisJob : σ.IsJobOf p (nameOf v) job := by cases propagation <;> exact hc.1
    rw [hv] at hisJob
    exact p.drainerName_inj.1 (hi.symm.trans (hjobs job hisJob).name_eq)
  | settleJob job presence =>
    cases presence with
    | present => exact p.drainerName_inj.1 (hi.symm.trans (drains_drainerJob hv hc.1).name_eq)
    | absent => exact hc.elim
  | settlePod pod presence =>
    have hpod : placeholderPod p v = .ok pod := by cases presence <;> exact hc.1
    exact p.placeholderName_inj.1 (hi.symm.trans (holds_placeholderPod hv hpod).name_eq)
  | _ => exact hc.elim

theorem Tidy.ordinal_eq {n : Int32} {c : StoreCall} (h : Tidy p s) (hp : p.WellNamed)
    (hv : nameOf v = p.claimName j) (hc : Justified p (s.view p n) v c) (hi : Concerns p i c) :
    i = j :=
  Justified.ordinal_eq (fun _ hjob => ((h.isJobOf_view_iff hp).1 hjob).2) hv hc hi

/-! ## Calls about an ordinal -/

theorem slot_of_mark {mark : DrainMark} {r : (StoreCall.mark v mark).Reply}
    (h : Answers (.mark v mark) s r s') (hv : nameOf v = p.claimName i) :
    (s'.slot p i = s.slot p i ∧ (r = .ok () → (s.slot p i).volume = none)) ∨
      ∃ stored, (s.slot p i).volume = some stored ∧
        s'.slot p i = { s.slot p i with
          volume := some (withLabel stored statusLabel mark.labelValue?) } := by
  rcases h.of_mark with ⟨rfl, hnone⟩ | ⟨stored, hstored, rfl⟩
  · rw [hv] at hnone
    exact .inl ⟨rfl, hnone⟩
  · rw [hv] at hstored
    exact .inr ⟨stored, hstored, by simp [slot, hv, KeyMap.get?_insert]⟩

theorem slot_of_deleteJob {propagation : Propagation}
    {r : (StoreCall.deleteJob job propagation).Reply}
    (h : Answers (.deleteJob job propagation) s r s') (hjob : nameOf job = p.drainerName i) :
    (s'.slot p i).volume = (s.slot p i).volume ∧ (s'.slot p i).pod = (s.slot p i).pod ∧
      Fades dyingJob (s.slot p i).job (s'.slot p i).job := by
  rcases h.of_deleteJob with rfl | rfl | ⟨stored, hstored, rfl⟩
  · exact ⟨rfl, rfl, .refl _⟩
  · exact ⟨rfl, rfl, .inr (.inl (by simp [slot, hjob, KeyMap.get?_erase]))⟩
  · rw [hjob] at hstored
    refine ⟨rfl, rfl, .inr (.inr ⟨stored, s.now, hstored, ?_⟩)⟩
    simp [slot, hjob, KeyMap.get?_insert]

theorem slot_of_settleJob {r : (StoreCall.settleJob job .present).Reply}
    (h : Answers (.settleJob job .present) s r s') (hjob : nameOf job = p.drainerName i) :
    s'.slot p i = s.slot p i ∨
      (s.slot p i).job = none ∧ s'.slot p i = { s.slot p i with job := some job } := by
  rcases h.of_settleJob_present with rfl | ⟨hnone, rfl⟩
  · exact .inl rfl
  · rw [hjob] at hnone
    exact .inr ⟨hnone, by simp [slot, hjob, KeyMap.get?_insert]⟩

/-- Asking for a placeholder makes it where the name is free. Without a delay some pod that is not
being deleted has the name. -/
theorem slot_of_settlePod_present {r : (StoreCall.settlePod pod .present).Reply}
    (h : Answers (.settlePod pod .present) s r s') (hpod : Holds p i pod) :
    (s'.slot p i).volume = (s.slot p i).volume ∧ (s'.slot p i).job = (s.slot p i).job ∧
      ((s'.slot p i).pod = (s.slot p i).pod ∨
        ((s.slot p i).pod = none ∧ (s'.slot p i).Held p i)) ∧
      (r = .ok none → ∃ stored, (s'.slot p i).pod = some stored ∧
        stored.metadata.deletionTimestamp = none) := by
  rcases h.of_settlePod_present with ⟨rfl, hstored⟩ | ⟨hnone, rfl⟩
  · rw [hpod.name_eq] at hstored
    exact ⟨rfl, rfl, .inl rfl, hstored⟩
  · rw [hpod.name_eq] at hnone
    have hnew : (s.pods.insert (nameOf pod) pod).get? (p.placeholderName i) = some pod := by
      simp [hpod.name_eq, KeyMap.get?_insert]
    exact ⟨rfl, rfl, .inr ⟨hnone, pod, hnew, hpod⟩, fun _ => ⟨pod, hnew, hpod.alive⟩⟩

theorem slot_of_settlePod_absent {r : (StoreCall.settlePod pod .absent).Reply}
    (h : Answers (.settlePod pod .absent) s r s') (hpod : nameOf pod = p.placeholderName i) :
    (s'.slot p i).volume = (s.slot p i).volume ∧ (s'.slot p i).job = (s.slot p i).job ∧
      Fades dyingPod (s.slot p i).pod (s'.slot p i).pod := by
  rcases h.of_settlePod_absent with rfl | rfl | ⟨stored, hstored, rfl⟩
  · exact ⟨rfl, rfl, .refl _⟩
  · exact ⟨rfl, rfl, .inr (.inl (by simp [slot, hpod, KeyMap.get?_erase]))⟩
  · rw [hpod] at hstored
    refine ⟨rfl, rfl, .inr (.inr ⟨stored, s.now, hstored, ?_⟩)⟩
    simp [slot, hpod, KeyMap.get?_insert]

/-! ## Turns -/

/-- No mark is asked to be taken off. -/
def KeepsMark (u : List StoreExchange) : Prop := ∀ v r, ⟨.mark v .unmarked, r⟩ ∉ u

theorem keepsMark_of_enacts {action : DrainAction} {job : Option Job} {u : List StoreExchange}
    {left : List StoreCall} (he : Enacts (plan p v job action) u left) (ha : action ≠ .reclaim) :
    KeepsMark u := by
  intro w r hmem
  have hplan := he.mem_plan hmem
  cases action with
  | none => simp [plan] at hplan
  | reclaim => exact ha rfl
  | start =>
    rw [plan] at hplan
    split at hplan <;> simp at hplan
  | cancel =>
    cases job with
    | none => simp [plan] at hplan
    | some job =>
      rw [plan] at hplan
      split at hplan <;> simp at hplan
  | finish =>
    cases hpod : placeholderPod p v with
    | error e => simp [plan, hpod] at hplan
    | ok pod => cases job <;> simp [plan, hpod] at hplan
  | release =>
    rw [plan] at hplan
    split at hplan <;> simp at hplan
  | reportFailure attempts => simp [plan] at hplan

/-- What the exchanges for an ordinal make of it. -/
inductive Turn (p : BufferPool) (i : Nat) (σ : Slot) (u : List StoreExchange) (σ' : Slot) : Prop
  | idle (hu : u = []) (hσ : σ' = σ)
  /-- The mark may come off; it has come off if the reply says so. -/
  | reclaim {v : Claim} {r : Except OperatorError Unit} (hv : σ.volume = some v)
      (hmark : LabelledDrained v) (hu : u = [⟨.mark v .unmarked, r⟩])
      (hσ : (σ' = σ ∧ r ≠ .ok ()) ∨
        σ' = { σ with volume := some (withLabel v statusLabel none) })
  /-- A placeholder may be made, and with the ordinal held also a job. -/
  | start (hkept : KeepsMark u) (hworker : ¬ σ.Worked p i) (hjobless : σ.Jobless p i)
      (hvolume : σ'.volume = σ.volume)
      (hpod : σ'.pod = σ.pod ∨ (σ.pod = none ∧ σ'.Held p i))
      (hjob : σ'.job = σ.job ∨ (σ.job = none ∧ σ'.Held p i ∧
        ∃ job r, σ'.job = some job ∧ Drains p i job ∧ ⟨.settleJob job .present, r⟩ ∈ u))
  /-- An unfinished job may be deleted. -/
  | cancel {job : Job} (hkept : KeepsMark u) (hjob : σ.job = some job) (hdrains : Drains p i job)
      (hunfinished : ¬ HasSucceeded job) (hvolume : σ'.volume = σ.volume) (hpod : σ'.pod = σ.pod)
      (hfades : Fades dyingJob σ.job σ'.job)
  /-- A succeeded job stays until the placeholder was asked to be absent. -/
  | finish {job : Job} (hkept : KeepsMark u) (hjob : σ.job = some job) (hdrains : Drains p i job)
      (hsucceeded : HasSucceeded job)
      (hpod : Fades dyingPod σ.pod σ'.pod) (hfades : Fades dyingJob σ.job σ'.job)
      (hasked : (σ'.pod = σ.pod ∧ σ'.job = σ.job) ∨
        ∃ pod r, nameOf pod = p.placeholderName i ∧ ⟨.settlePod pod .absent, r⟩ ∈ u)
  /-- A placeholder without a job may be deleted. -/
  | release (hkept : KeepsMark u) (hjobless : σ.Jobless p i) (hvolume : σ'.volume = σ.volume)
      (hjob : σ'.job = σ.job) (hpod : Fades dyingPod σ.pod σ'.pod)

section

variable {s₁ s₂ : MemoryStore} {u : List StoreExchange} {left : List StoreCall} {n : Int32}

/-- A turn may start where no worker and no job is seen. -/
theorem turn_start (h : Tidy p s) (hv : nameOf v = p.claimName i)
    (hworker : ¬ (s.slot p i).Worked p i) (hjobless : (s.slot p i).Jobless p i)
    (he : Enacts (plan p v none .start) u left) (hf : Follows Answers u s₁ s₂)
    (hs : s₁.slot p i = s.slot p i) : Turn p i (s.slot p i) u (s₂.slot p i) := by
  have hkept := keepsMark_of_enacts he (by simp)
  rw [plan] at he
  split at he
  · rename_i pod job hpod hjob
    have hholds := holds_placeholderPod hv hpod
    have hdrains := drains_drainerJob hv hjob
    rcases he.of_cons with ⟨rfl, -⟩ | ⟨r, rest, rfl, hrest⟩
    · rw [hf]
      exact .idle rfl hs
    · obtain ⟨mid, hmid, hf⟩ := hf
      obtain ⟨hvolume, hmidJob, hmidPod, halive⟩ := slot_of_settlePod_present hmid hholds
      rw [hs] at hvolume hmidJob hmidPod
      rcases hrest with ⟨rfl, -⟩ | ⟨hr, hrest⟩
      · rw [hf]
        exact .start hkept hworker hjobless hvolume hmidPod (.inl hmidJob)
      · -- The action goes on to the job only with the ordinal held.
        have hheld : (mid.slot p i).Held p i := by
          rcases hmidPod with hsame | ⟨-, hheld⟩
          · obtain ⟨stored, hstored, halive⟩ := halive hr
            rcases (h.pods _ _ (hsame ▸ hstored)).role i rfl with hworks | hreserves
            · exact absurd ⟨stored, hsame ▸ hstored, hworks⟩ hworker
            · exact ⟨stored, hstored, hreserves, halive⟩
          · exact hheld
        rcases hrest.of_one with rfl | ⟨r', rfl⟩
        · rw [hf]
          exact .start hkept hworker hjobless hvolume hmidPod (.inl hmidJob)
        · obtain ⟨last, hlast, hf⟩ := hf
          rw [hf]
          rcases slot_of_settleJob hlast hdrains.name_eq with hσ | ⟨hnone, hσ⟩
          · rw [hσ]
            exact .start hkept hworker hjobless hvolume hmidPod (.inl hmidJob)
          · rw [hmidJob] at hnone
            rw [hσ]
            exact .start hkept hworker hjobless hvolume hmidPod
              (.inr ⟨hnone, hheld, job, r', rfl, hdrains, by simp⟩)
  · obtain rfl := he.of_nil
    rw [hf]
    exact .idle rfl hs

theorem fades_of_deletion {t : List StoreExchange} (hf : Follows Answers t s s')
    (hname : nameOf job = p.drainerName i)
    (ht : t = [] ∨ ∃ r, t = [⟨.deleteJob job .background, r⟩]) :
    (s'.slot p i).pod = (s.slot p i).pod ∧
      Fades dyingJob (s.slot p i).job (s'.slot p i).job := by
  rcases ht with rfl | ⟨r, rfl⟩
  · rw [hf]
    exact ⟨rfl, .refl _⟩
  · obtain ⟨last, hlast, hf⟩ := hf
    rw [hf]
    exact (slot_of_deleteJob hlast hname).2

theorem turn_finish (hv : nameOf v = p.claimName i) (hjob : (s.slot p i).job = some job)
    (hdrains : Drains p i job) (hsucceeded : HasSucceeded job)
    (he : Enacts (plan p v (some job) .finish) u left) (hf : Follows Answers u s₁ s₂)
    (hs : s₁.slot p i = s.slot p i) : Turn p i (s.slot p i) u (s₂.slot p i) := by
  have hkept := keepsMark_of_enacts he (by simp)
  rw [plan] at he
  rcases he.of_cons with ⟨rfl, -⟩ | ⟨r, rest, rfl, hrest⟩
  · rw [hf]
    exact .idle rfl hs
  · obtain ⟨mid, hmid, hf⟩ := hf
    have hmark := slot_of_mark hmid hv
    rw [hs] at hmark
    have hmidPod : (mid.slot p i).pod = (s.slot p i).pod := by
      rcases hmark with ⟨hσ, -⟩ | ⟨_, -, hσ⟩ <;> rw [hσ]
    have hmidJob : (mid.slot p i).job = (s.slot p i).job := by
      rcases hmark with ⟨hσ, -⟩ | ⟨_, -, hσ⟩ <;> rw [hσ]
    have hmarked : Turn p i (s.slot p i) (⟨.mark v .drained, r⟩ :: rest) (mid.slot p i) := by
      refine .finish hkept hjob hdrains hsucceeded ?_ ?_ (.inl ⟨hmidPod, hmidJob⟩)
      · rw [hmidPod]
        exact .refl _
      · rw [hmidJob]
        exact .refl _
    rcases hrest with ⟨rfl, -⟩ | ⟨-, hrest⟩
    · rw [hf]
      exact hmarked
    · cases hpod : placeholderPod p v with
      | error e =>
        rw [hpod] at hrest
        rw [hrest.of_nil] at hf hmarked ⊢
        rw [hf]
        exact hmarked
      | ok pod =>
        simp only [hpod] at hrest
        rcases hrest.of_cons with ⟨rfl, -⟩ | ⟨r', rest', rfl, hrest'⟩
        · rw [hf]
          exact hmarked
        · obtain ⟨next, hnext, hf⟩ := hf
          have hname := (holds_placeholderPod hv hpod).name_eq
          obtain ⟨-, hnextJob, hnextPod⟩ := slot_of_settlePod_absent hnext hname
          rw [hmidPod] at hnextPod
          rw [hmidJob] at hnextJob
          have hdeleted : rest' = [] ∨ ∃ r, rest' = [⟨.deleteJob job .background, r⟩] := by
            rcases hrest' with ⟨hnil, -⟩ | ⟨-, hrest'⟩
            · exact .inl hnil
            · exact hrest'.of_one
          have hlast := fades_of_deletion hf hdrains.name_eq hdeleted
          rw [hnextJob] at hlast
          refine .finish hkept hjob hdrains hsucceeded ?_ hlast.2
            (.inr ⟨pod, r', hname, by simp⟩)
          rw [hlast.1]
          exact hnextPod

theorem turn_reclaim {seen : Option Job} (hv : nameOf v = p.claimName i)
    (hstored : (s.slot p i).volume = some v) (hmarked : LabelledDrained v)
    (he : Enacts (plan p v seen .reclaim) u left)
    (hf : Follows Answers u s₁ s₂) (hs : s₁.slot p i = s.slot p i) :
    Turn p i (s.slot p i) u (s₂.slot p i) := by
  rcases he.of_one with rfl | ⟨r, rfl⟩
  · rw [hf]
    exact .idle rfl hs
  · obtain ⟨last, hlast, hf⟩ := hf
    have hmark := slot_of_mark hlast hv
    rw [hs, hstored] at hmark
    rw [hf]
    refine .reclaim hstored hmarked rfl ?_
    rcases hmark with ⟨hσ, hnone⟩ | ⟨stored, hv', hσ⟩
    · exact .inl ⟨hσ, fun hr => by cases hnone hr⟩
    · cases hv'
      exact .inr hσ

theorem turn_cancel (hjob : (s.slot p i).job = some job) (hdrains : Drains p i job)
    (hunfinished : ¬ HasSucceeded job) (he : Enacts (plan p v (some job) .cancel) u left)
    (hf : Follows Answers u s₁ s₂) (hs : s₁.slot p i = s.slot p i) :
    Turn p i (s.slot p i) u (s₂.slot p i) := by
  have hkept := keepsMark_of_enacts he (by simp)
  rw [plan] at he
  split at he
  · obtain rfl := he.of_nil
    rw [hf]
    exact .idle rfl hs
  · rcases he.of_one with rfl | ⟨r, rfl⟩
    · rw [hf]
      exact .idle rfl hs
    · obtain ⟨last, hlast, hf⟩ := hf
      obtain ⟨hvolume, hpod, hfades⟩ := slot_of_deleteJob hlast hdrains.name_eq
      rw [hs] at hvolume hpod hfades
      rw [hf]
      exact .cancel hkept hjob hdrains hunfinished hvolume hpod hfades

theorem turn_release (hv : nameOf v = p.claimName i) (hjobless : (s.slot p i).Jobless p i)
    (he : Enacts (plan p v none .release) u left) (hf : Follows Answers u s₁ s₂)
    (hs : s₁.slot p i = s.slot p i) : Turn p i (s.slot p i) u (s₂.slot p i) := by
  have hkept := keepsMark_of_enacts he (by simp)
  rw [plan] at he
  cases hpod : placeholderPod p v with
  | error e =>
    rw [hpod] at he
    obtain rfl := he.of_nil
    rw [hf]
    exact .idle rfl hs
  | ok pod =>
    simp only [hpod] at he
    rcases he.of_one with rfl | ⟨r, rfl⟩
    · rw [hf]
      exact .idle rfl hs
    · obtain ⟨last, hlast, hf⟩ := hf
      have hname := (holds_placeholderPod hv hpod).name_eq
      obtain ⟨hvolume, hsame, hfades⟩ := slot_of_settlePod_absent hlast hname
      rw [hs] at hvolume hsame hfades
      rw [hf]
      exact .release hkept hjobless hvolume hsame hfades

theorem turn_of_enacts (h : Tidy p s) (hp : p.WellNamed) (hv : v ∈ (s.view p n).volumes)
    (hname : nameOf v = p.claimName i) (he : Enacts (planFor p (s.view p n) v) u left)
    (hf : Follows Answers u s₁ s₂) (hs : s₁.slot p i = s.slot p i) :
    Turn p i (s.slot p i) u (s₂.slot p i) := by
  have hw : Warrants ((s.view p n).sight p v) (actionFor p (s.view p n) v) :=
    nextAction_eq_iff.1 rfl
  have hjobless : ((s.view p n).sight p v).job = none → (s.slot p i).Jobless p i := by
    intro hnone
    have hnoJob := Snapshot.jobOf?_eq_none_iff.1 (Option.map_eq_none_iff.1 hnone)
    rw [hname, h.hasNoJob_view_iff hp] at hnoJob
    exact hnoJob
  have hof : ∀ job, (s.view p n).jobOf? p (nameOf v) = some job →
      (s.slot p i).job = some job ∧ Drains p i job := by
    intro job hjob
    rw [hname] at hjob
    exact (h.isJobOf_view_iff hp).1 (Snapshot.jobOf?_eq_some_iff.1 hjob)
  rw [planFor] at he
  cases ha : actionFor p (s.view p n) v with
  | none =>
    rw [ha] at he
    obtain rfl := he.of_nil
    rw [hf]
    exact .idle rfl hs
  | reportFailure attempts =>
    rw [ha] at he
    obtain rfl := he.of_nil
    rw [hf]
    exact .idle rfl hs
  | reclaim =>
    rw [ha] at hw he
    obtain ⟨⟨key, hkey⟩, -⟩ := (mem_volumes_view_iff hp).1 hv
    have hproper := h.volumes key v hkey
    rw [← hproper.name_eq, hname] at hkey
    exact turn_reclaim hname hkey (ofLabels_eq_drained_iff.1 hw.2) he hf hs
  | start =>
    rw [ha] at hw he
    obtain ⟨hjob, huse, -⟩ := hw
    rw [Option.map_eq_none_iff.1 hjob] at he
    refine turn_start h hname (fun hworked => ?_) (hjobless hjob) he hf hs
    have huses := (h.uses_view_iff (n := n) hp).2 (.inl hworked)
    rw [← hname, ← Snapshot.inUse_iff] at huses
    exact absurd (huse.symm.trans huses) (by decide)
  | cancel =>
    rw [ha] at hw he
    obtain ⟨-, -, progress, hprogress, hne⟩ := hw
    obtain ⟨job, hjob, rfl⟩ := Option.map_eq_some_iff.1 hprogress
    obtain ⟨hstored, hdrains⟩ := hof job hjob
    rw [hjob] at he
    exact turn_cancel hstored hdrains (fun hs => hne (progress_eq_succeeded_iff.2 hs)) he hf hs
  | finish =>
    rw [ha] at hw he
    obtain ⟨job, hjob, -, hsucceeded⟩ := sight_job_eq_succeeded hw.1
    obtain ⟨hstored, hdrains⟩ := hof job hjob
    rw [hjob] at he
    exact turn_finish hname hstored hdrains hsucceeded he hf hs
  | release =>
    rw [ha] at hw he
    rw [Option.map_eq_none_iff.1 hw.1] at he
    exact turn_release hname (hjobless hw.1) he hf hs

end

end VolumeDrain.Drain
