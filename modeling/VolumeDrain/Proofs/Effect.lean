import VolumeDrain.Proofs.Orderly

/-!
# What an action makes of its ordinal

Where no call fails, an action has one effect on the objects of its volume's ordinal, up to whether
what it deletes is gone at once or lingers with a deletion timestamp. Only a start can come to
nothing: it yields while the pod under the placeholder's name is being deleted.
-/
namespace VolumeDrain.Drain

open Manifest Script MemoryStore

/-- The call is carried out, though what it deletes may linger. -/
inductive MemoryStore.Succeeds : (c : StoreCall) → MemoryStore → c.Reply → MemoryStore → Prop
  | carried (c : StoreCall) (s : MemoryStore) : Succeeds c s (carryOut c s).1 (carryOut c s).2
  | podLingers {pod stored : Pod} {s : MemoryStore} (h : s.pods.get? (nameOf pod) = some stored) :
      Succeeds (.settlePod pod .absent) s (.ok none)
        { s with pods := s.pods.insert (nameOf pod) (dyingPod s.now stored) }
  | jobLingers (job : Job) (s : MemoryStore) :
      Succeeds (.deleteJob job .background) s (.ok ()) (carryOut (.deleteJob job .foreground) s).2

/-- The reply tells that the call was carried out and that there is nothing to come back for. -/
def StoreCall.Calm : (call : StoreCall) → call.Reply → Prop
  | listVolumes _ _, r => ∃ found, r = .ok found
  | listPods _ _, r => ∃ found, r = .ok found
  | listJobs _ _, r => ∃ found, r = .ok found
  | replicaCount _, r => ∃ found, r = .ok found
  | mark _ _, r => r = .ok ()
  | deleteJob _ _, r => r = .ok ()
  | settleJob _ _, r => r = .ok none
  | settlePod _ _, r => r = .ok none

/-- All replies are of that kind. -/
def Calmly (u : List StoreExchange) : Prop := ∀ e ∈ u, e.question.Calm e.reply

/-- The object, if there is one, is being deleted. -/
def Ending {α : Type} [Resource α] (x : Option α) : Prop :=
  ∀ a, x = some a → (metadata a).isTerminating = true

variable {p : BufferPool} {s s' : MemoryStore} {i : Nat} {v stored : Claim} {pod : Pod} {job : Job}
  {n : Int32}

theorem MemoryStore.Succeeds.answers {c : StoreCall} {r : c.Reply} (h : Succeeds c s r s') :
    Answers c s r s' := by
  cases h with
  | carried => exact .carried _ _
  | podLingers h => exact .podLingers h
  | jobLingers => exact .jobLingers _ _

theorem not_calm_of_struck {c : StoreCall} {effect : FaultEffect} {r : c.Reply}
    (h : c.struck effect = some r) : ¬ c.Calm r := by
  cases c <;> cases effect <;> cases h
  case settleJob.delay | settlePod.delay => exact fun hcalm => nomatch Except.ok.inj hcalm
  all_goals simp [StoreCall.Calm]

/-- Whatever a cluster can answer, it has carried out a call when the reply says so. -/
theorem MemoryStore.Answers.succeeds {c : StoreCall} {r : c.Reply} (h : Answers c s r s')
    (hcalm : c.Calm r) : Succeeds c s r s' := by
  cases h with
  | carried => exact .carried _ _
  | struck h => exact absurd hcalm (not_calm_of_struck h)
  | lost h => exact absurd hcalm (not_calm_of_struck h)
  | podLingers h => exact .podLingers h
  | jobLingers => exact .jobLingers _ _

/-! ## Successful calls about an ordinal -/

namespace MemoryStore.Succeeds

theorem slot_of_mark {mark : DrainMark} {r : (StoreCall.mark v mark).Reply}
    (h : Succeeds (.mark v mark) s r s') (hv : nameOf v = p.claimName i)
    (hstored : (s.slot p i).volume = some stored) :
    r = .ok () ∧ s'.slot p i = { s.slot p i with
      volume := some (withLabel stored statusLabel mark.labelValue?) } := by
  have hget : s.volumes.get? (p.claimName i) = some stored := hstored
  cases h with
  | carried =>
    simp only [carryOut, hv, hget]
    exact ⟨rfl, by simp [slot, KeyMap.get?_insert]⟩

theorem slot_of_deleteJob {propagation : Propagation}
    {r : (StoreCall.deleteJob job propagation).Reply}
    (h : Succeeds (.deleteJob job propagation) s r s') (hjob : nameOf job = p.drainerName i) :
    r = .ok () ∧ (s'.slot p i).volume = (s.slot p i).volume ∧
      (s'.slot p i).pod = (s.slot p i).pod ∧ Ending (s'.slot p i).job := by
  have hforeground : (carryOut (.deleteJob job .foreground) s).1 = .ok () ∧
      Ending ((carryOut (.deleteJob job .foreground) s).2.slot p i).job := by
    cases hget : s.jobs.get? (p.drainerName i) with
    | none =>
      simp only [carryOut, hjob, hget]
      exact ⟨rfl, by simp [Ending, slot, hget]⟩
    | some old =>
      simp only [carryOut, hjob, hget]
      exact ⟨rfl, by simp [Ending, slot, KeyMap.get?_insert, metadata, ObjectMeta.isTerminating]⟩
  have hslot := Drain.slot_of_deleteJob h.answers hjob
  refine ⟨?_, hslot.1, hslot.2.1, ?_⟩
  · cases h with
    | carried =>
      cases propagation with
      | foreground => exact hforeground.1
      | background => rfl
    | jobLingers => rfl
  · cases h with
    | carried =>
      cases propagation with
      | foreground => exact hforeground.2
      | background => simp [carryOut, slot, Ending, hjob, KeyMap.get?_erase]
    | jobLingers => exact hforeground.2

theorem slot_of_settleJob {r : (StoreCall.settleJob job .present).Reply}
    (h : Succeeds (.settleJob job .present) s r s') (hjob : nameOf job = p.drainerName i)
    (hfree : (s.slot p i).job = none) :
    r = .ok none ∧ s'.slot p i = { s.slot p i with job := some job } := by
  have hget : s.jobs.contains (p.drainerName i) = false :=
    Option.isSome_eq_false_iff.2 (Option.isNone_iff_eq_none.2 hfree)
  cases h with
  | carried =>
    simp only [carryOut, hjob, hget]
    exact ⟨rfl, by simp [slot, KeyMap.get?_insert]⟩

theorem slot_of_settlePod_absent {r : (StoreCall.settlePod pod .absent).Reply}
    (h : Succeeds (.settlePod pod .absent) s r s') (hpod : nameOf pod = p.placeholderName i) :
    r = .ok none ∧ (s'.slot p i).volume = (s.slot p i).volume ∧
      (s'.slot p i).job = (s.slot p i).job ∧ Fades dyingPod (s.slot p i).pod (s'.slot p i).pod ∧
        Ending (s'.slot p i).pod := by
  obtain ⟨hvolume, hjob, hfades⟩ := Drain.slot_of_settlePod_absent h.answers hpod
  refine ⟨?_, hvolume, hjob, hfades, ?_⟩
  · cases h <;> rfl
  · cases h with
    | carried => simp [carryOut, slot, Ending, hpod, KeyMap.get?_erase]
    | podLingers =>
      simp [slot, Ending, hpod, KeyMap.get?_insert, dyingPod, metadata, ObjectMeta.isTerminating]

/-- A pod that is to be present yields to one that is being deleted. -/
theorem slot_of_settlePod_present {r : (StoreCall.settlePod pod .present).Reply}
    (h : Succeeds (.settlePod pod .present) s r s') (hpod : Holds p i pod) :
    (∃ delay old, r = .ok (some delay) ∧ s'.slot p i = s.slot p i ∧ (s.slot p i).pod = some old ∧
        old.metadata.isTerminating = true) ∨
      r = .ok none ∧ (s'.slot p i).volume = (s.slot p i).volume ∧
        (s'.slot p i).job = (s.slot p i).job ∧
        ((s'.slot p i).Held p i ∨ ∃ old, (s'.slot p i).pod = some old ∧
          (s.slot p i).pod = some old ∧ old.metadata.deletionTimestamp = none) := by
  cases h with
  | carried =>
    cases hget : s.pods.get? (p.placeholderName i) with
    | none =>
      simp only [carryOut, hpod.name_eq, hget]
      refine .inr ⟨rfl, rfl, rfl, .inl ⟨pod, ?_, hpod⟩⟩
      simp [slot, KeyMap.get?_insert]
    | some old =>
      cases hdying : old.metadata.deletionTimestamp with
      | some time =>
        have hterminating : old.metadata.isTerminating = true := by
          simp [ObjectMeta.isTerminating, hdying]
        simp only [carryOut, hpod.name_eq, hget, hterminating]
        exact .inl ⟨_, old, rfl, rfl, hget, hterminating⟩
      | none =>
        have hterminating : old.metadata.isTerminating = false := by
          simp [ObjectMeta.isTerminating, hdying]
        simp only [carryOut, hpod.name_eq, hget, hterminating]
        exact .inr ⟨rfl, rfl, rfl, .inr ⟨old, hget, hget, hdying⟩⟩

end MemoryStore.Succeeds

/-! ## Actions -/

/-- What an action makes of the objects of its volume's ordinal if none of its calls fails. -/
inductive Acted (p : BufferPool) (i : Nat) (σ : Slot) (u : List StoreExchange) :
    DrainAction → Slot → Prop
  | idle : Acted p i σ u .none σ
  | reportFailure (attempts : Int32) : Acted p i σ u (.reportFailure attempts) σ
  | reclaim {v : Claim} (hv : σ.volume = some v) : Acted p i σ u .reclaim
      { σ with volume := some (withLabel v statusLabel DrainMark.unmarked.labelValue?) }
  /-- The reply asks to come back once the pod is gone. -/
  | yield {pod : Pod} (hpod : σ.pod = some pod) (hdying : pod.metadata.isTerminating = true)
      (hasked : ¬ Calmly u) : Acted p i σ u .start σ
  | start {σ' : Slot} {job : Job} (hvolume : σ'.volume = σ.volume) (hheld : σ'.Held p i)
      (hjob : σ'.job = some job) (hdrains : Drains p i job) (hstatus : job.status = none)
      (halive : job.metadata.deletionTimestamp = none) : Acted p i σ u .start σ'
  | cancel {σ' : Slot} (hvolume : σ'.volume = σ.volume) (hpod : σ'.pod = σ.pod)
      (hjob : Ending σ'.job) : Acted p i σ u .cancel σ'
  | finish {σ' : Slot} {v : Claim} (hv : σ.volume = some v)
      (hvolume : σ'.volume =
        some (withLabel v statusLabel DrainMark.drained.labelValue?))
      (hpod : Ending σ'.pod) (hjob : Ending σ'.job) : Acted p i σ u .finish σ'
  | release {σ' : Slot} (hvolume : σ'.volume = σ.volume) (hjob : σ'.job = σ.job)
      (hfades : Fades dyingPod σ.pod σ'.pod) (hpod : Ending σ'.pod) : Acted p i σ u .release σ'

/-- The call about an ordinal that a plan begins with was made and has succeeded. -/
theorem follows_of_enacts {c : StoreCall} {plan : List StoreCall} {u : List StoreExchange}
    {m₁ m₂ : MemoryStore} (he : Enacts (c :: plan) u []) (hf : Follows Succeeds u m₁ m₂) :
    ∃ r mid w, u = ⟨c, r⟩ :: w ∧ Succeeds c m₁ r mid ∧ Follows Succeeds w mid m₂ ∧
      ((w = [] ∧ ¬ c.GoesOn r) ∨ (c.GoesOn r ∧ Enacts plan w [])) := by
  rcases he.of_cons with ⟨-, hleft⟩ | ⟨r, w, rfl, hrest⟩
  · cases hleft
  · obtain ⟨mid, hmid, hf⟩ := hf
    exact ⟨r, mid, w, rfl, hmid, hf, hrest⟩

section

variable {u : List StoreExchange} {m₁ m₂ : MemoryStore} {seen : Option Job} {σ : Slot}

theorem acted_reclaim (hv : nameOf v = p.claimName i) (hstored : σ.volume = some v)
    (he : Enacts (plan p v seen .reclaim) u []) (hf : Follows Succeeds u m₁ m₂)
    (hσ : m₁.slot p i = σ) : Acted p i σ u .reclaim (m₂.slot p i) := by
  obtain ⟨r, mid, w, -, hmark, hrest, hw⟩ := follows_of_enacts he hf
  obtain ⟨rfl, hslot⟩ := hmark.slot_of_mark hv (hσ ▸ hstored)
  have hnil : w = [] := hw.elim And.left fun h => h.2.of_nil
  subst hnil
  rw [hrest, hslot, hσ]
  exact .reclaim hstored

theorem acted_cancel (hjob : σ.job = some job) (hdrains : Drains p i job)
    (he : Enacts (plan p v (some job) .cancel) u []) (hf : Follows Succeeds u m₁ m₂)
    (hσ : m₁.slot p i = σ) : Acted p i σ u .cancel (m₂.slot p i) := by
  rw [plan] at he
  split at he
  · rename_i hdying
    obtain rfl := he.of_nil
    rw [hf, hσ]
    refine .cancel rfl rfl fun old hold => ?_
    rw [hjob] at hold
    cases hold
    exact hdying
  · obtain ⟨r, mid, w, -, hdelete, hrest, hw⟩ := follows_of_enacts he hf
    obtain ⟨rfl, hvolume, hpod, hending⟩ := hdelete.slot_of_deleteJob hdrains.name_eq
    have hnil : w = [] := hw.elim And.left fun h => h.2.of_nil
    subst hnil
    rw [hrest]
    rw [hσ] at hvolume hpod
    exact .cancel hvolume hpod hending

theorem acted_release (hv : nameOf v = p.claimName i) (hi : i ≤ Text.maxOrdinal)
    (he : Enacts (plan p v seen .release) u []) (hf : Follows Succeeds u m₁ m₂)
    (hσ : m₁.slot p i = σ) : Acted p i σ u .release (m₂.slot p i) := by
  obtain ⟨pod, hpod⟩ := exists_placeholderPod hv hi
  simp only [plan, hpod] at he
  obtain ⟨r, mid, w, -, hsettle, hrest, hw⟩ := follows_of_enacts he hf
  have hname := (holds_placeholderPod hv hpod).name_eq
  obtain ⟨rfl, hvolume, hjob, hfades, hending⟩ := hsettle.slot_of_settlePod_absent hname
  have hnil : w = [] := hw.elim And.left fun h => h.2.of_nil
  subst hnil
  rw [hrest]
  rw [hσ] at hvolume hjob hfades
  exact .release hvolume hjob hfades hending

theorem acted_finish (hv : nameOf v = p.claimName i) (hstored : σ.volume = some v)
    (hdrains : Drains p i job) (he : Enacts (plan p v (some job) .finish) u [])
    (hf : Follows Succeeds u m₁ m₂) (hσ : m₁.slot p i = σ) :
    Acted p i σ u .finish (m₂.slot p i) := by
  obtain ⟨pod, hpod⟩ := exists_placeholderPod hv hdrains.ordinal_le
  have hname := (holds_placeholderPod hv hpod).name_eq
  simp only [plan, hpod] at he
  obtain ⟨r, marked, w, -, hmark, hrest, hw⟩ := follows_of_enacts he hf
  obtain ⟨rfl, hmarked⟩ := hmark.slot_of_mark hv (hσ ▸ hstored)
  rcases hw with ⟨-, hstop⟩ | ⟨-, hw⟩
  · exact absurd ⟨(), rfl⟩ hstop
  obtain ⟨r, removed, w', -, hsettle, hrest', hw'⟩ := follows_of_enacts hw hrest
  obtain ⟨rfl, hvolume, -, -, hending⟩ := hsettle.slot_of_settlePod_absent hname
  rcases hw' with ⟨-, hstop⟩ | ⟨-, hw'⟩
  · exact absurd ⟨none, rfl⟩ hstop
  obtain ⟨r, last, w'', -, hdelete, hrest'', hw''⟩ := follows_of_enacts hw' hrest'
  obtain ⟨rfl, hvolume', hpod', hjob⟩ := hdelete.slot_of_deleteJob hdrains.name_eq
  have hnil : w'' = [] := hw''.elim And.left fun h => h.2.of_nil
  subst hnil
  rw [hrest'']
  refine .finish hstored ?_ (hpod' ▸ hending) hjob
  rw [hvolume', hvolume, hmarked]

/-- Nothing stands in the way of a start: no other pod has the placeholder's name, no job that of
the job to be made, and this job can be built. -/
structure Startable (p : BufferPool) (i : Nat) (v : Claim) (σ : Slot) : Prop where
  jobless : σ.job = none
  reserves : ∀ pod, σ.pod = some pod → Reserves p i pod
  builds : ∃ job, drainerJob p v = .ok job

theorem acted_start (hv : nameOf v = p.claimName i) (hstart : Startable p i v σ)
    (he : Enacts (plan p v seen .start) u []) (hf : Follows Succeeds u m₁ m₂)
    (hσ : m₁.slot p i = σ) : Acted p i σ u .start (m₂.slot p i) := by
  obtain ⟨hfree, hreserves, job, hbuilds⟩ := hstart
  have hdrains := drains_drainerJob hv hbuilds
  obtain ⟨pod, hpod⟩ := exists_placeholderPod hv hdrains.ordinal_le
  have hholds := holds_placeholderPod hv hpod
  simp only [plan, hpod, hbuilds] at he
  obtain ⟨r, held, w, rfl, hsettle, hrest, hw⟩ := follows_of_enacts he hf
  rcases hsettle.slot_of_settlePod_present hholds with
    ⟨delay, old, rfl, hslot, hold, hdying⟩ | ⟨rfl, hvolume, hjob, hheld⟩
  · have hnil : w = [] := hw.elim And.left fun h => by cases h.1
    subst hnil
    rw [hrest, hslot, hσ]
    refine .yield (hσ ▸ hold) hdying ?_
    intro hcalm
    cases Except.ok.inj (hcalm _ List.mem_cons_self)
  · rw [hσ] at hvolume hjob hheld
    have hheld : (held.slot p i).Held p i := by
      rcases hheld with hheld | ⟨old, hstored, hold, halive⟩
      · exact hheld
      · exact ⟨old, hstored, hreserves old hold, halive⟩
    rcases hw with ⟨-, hstop⟩ | ⟨-, hw⟩
    · exact absurd rfl hstop
    obtain ⟨r, last, w', -, hcreate, hrest', hw'⟩ := follows_of_enacts hw hrest
    obtain ⟨rfl, hslot⟩ := hcreate.slot_of_settleJob hdrains.name_eq (hjob.trans hfree)
    have hnil : w' = [] := hw'.elim And.left fun h => h.2.of_nil
    subst hnil
    obtain ⟨hstatus, halive⟩ := untouched_drainerJob hbuilds
    rw [hrest', hslot]
    exact .start hvolume hheld rfl hdrains hstatus halive

end

/-- A pass that deals with an ordinal's volume to the end, and in which no call fails, has the
effect of the action that it chose. -/
theorem acted_of_enacts {u : List StoreExchange} {m₁ m₂ : MemoryStore} (h : Named p s)
    (hp : p.WellNamed) (hv : nameOf v = p.claimName i)
    (hstored : s.volumes.get? (p.claimName i) = some v)
    (hx : (s.slot p i).Shows p n i ((s.view p n).sight p v))
    (hstart : actionFor p (s.view p n) v = .start → Startable p i v (s.slot p i))
    (he : Enacts (planFor p (s.view p n) v) u []) (hf : Follows Succeeds u m₁ m₂)
    (hs : m₁.slot p i = s.slot p i) :
    Acted p i (s.slot p i) u (actionFor p (s.view p n) v) (m₂.slot p i) := by
  have hw : Warrants ((s.view p n).sight p v) (actionFor p (s.view p n) v) :=
    nextAction_eq_iff.1 rfl
  have hseen : ∀ progress, ((s.view p n).sight p v).job = some progress →
      ∃ job, (s.view p n).jobOf? p (nameOf v) = some job ∧ (s.slot p i).job = some job ∧
        Drains p i job := by
    intro progress hprogress
    obtain ⟨job, hjob, -⟩ := Option.map_eq_some_iff.1 hprogress
    rw [hv] at hjob ⊢
    rcases h.jobOf?_view (n := n) hp with ⟨hnone, -⟩ | hsome
    · cases hnone.symm.trans hjob
    · exact hsome
  rw [planFor] at he
  cases ha : actionFor p (s.view p n) v with
  | none =>
    rw [ha] at he
    obtain rfl := he.of_nil
    rw [hf, hs]
    exact .idle
  | reportFailure attempts =>
    rw [ha] at he
    obtain rfl := he.of_nil
    rw [hf, hs]
    exact .reportFailure attempts
  | reclaim =>
    rw [ha] at he
    exact acted_reclaim hv hstored he hf hs
  | start =>
    rw [ha] at he
    exact acted_start hv (hstart ha) he hf hs
  | cancel =>
    rw [ha] at he hw
    obtain ⟨-, -, progress, hprogress, -⟩ := hw
    obtain ⟨job, hjob, hslot, hdrains⟩ := hseen progress hprogress
    rw [hjob] at he
    exact acted_cancel hslot hdrains he hf hs
  | finish =>
    rw [ha] at he hw
    obtain ⟨job, hjob, -, hdrains⟩ := hseen .succeeded hw.1
    rw [hjob] at he
    exact acted_finish hv hstored hdrains he hf hs
  | release =>
    rw [ha] at he hw
    have hi := (hx.placeholder.1 hw.2.1).1
    exact acted_release hv hi he hf hs

end VolumeDrain.Drain
