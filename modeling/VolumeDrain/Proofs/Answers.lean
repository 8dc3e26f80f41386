import VolumeDrain.Proofs.Justification

/-!
# How a cluster answers

A cluster is a store whose contents change as calls are carried out, but it need not carry out
every call: one may fail before anything is done, be put off, or be carried out while its reply is
lost; and what is deleted may stay for a while with a deletion timestamp. The store in memory
answers in one of these ways whatever faults it is told to show.
-/
namespace VolumeDrain.Drain

open Manifest Script

/-- The pod while it is being deleted. -/
def dyingPod (time : Instant) (pod : Pod) : Pod :=
  { pod with metadata := { pod.metadata with deletionTimestamp := some time } }

/-- The job while it is being deleted. -/
def dyingJob (time : Instant) (job : Job) : Job :=
  { job with metadata := { job.metadata with deletionTimestamp := some time } }

namespace MemoryStore

/-- A cluster can give this reply to a call, and is in this state afterwards. -/
inductive Answers : (c : StoreCall) → MemoryStore → c.Reply → MemoryStore → Prop
  | carried (c : StoreCall) (s : MemoryStore) : Answers c s (carryOut c s).1 (carryOut c s).2
  /-- The call fails or is put off, and nothing is done. -/
  | struck {c : StoreCall} {effect : FaultEffect} {r : c.Reply}
      (h : c.struck effect = some r) (s : MemoryStore) : Answers c s r s
  /-- The call is carried out, but the caller only learns of a failure. -/
  | lost {c : StoreCall} {e : OperatorError} {r : c.Reply}
      (h : c.struck (.fail e) = some r) (s : MemoryStore) : Answers c s r (carryOut c s).2
  | podLingers {pod stored : Pod} {s : MemoryStore} (h : s.pods.get? (nameOf pod) = some stored) :
      Answers (.settlePod pod .absent) s (.ok none)
        { s with pods := s.pods.insert (nameOf pod) (dyingPod s.now stored) }
  | jobLingers (job : Job) (s : MemoryStore) :
      Answers (.deleteJob job .background) s (.ok ()) (carryOut (.deleteJob job .foreground) s).2

variable {s s' : MemoryStore} {v : Claim} {pod : Pod} {job : Job}

/-! ## What each call can do -/

theorem Answers.of_listVolumes {ns sel : String} {r : (StoreCall.listVolumes ns sel).Reply}
    (h : Answers (.listVolumes ns sel) s r s') :
    s' = s ∧ ∀ found, r = .ok found → found = selected s.volumes sel := by
  cases h with
  | carried => exact ⟨rfl, fun found hr => (Except.ok.inj hr).symm⟩
  | @struck _ effect _ h => cases effect <;> cases h; exact ⟨rfl, nofun⟩
  | lost h => cases h; exact ⟨rfl, nofun⟩

theorem Answers.of_listPods {ns sel : String} {r : (StoreCall.listPods ns sel).Reply}
    (h : Answers (.listPods ns sel) s r s') :
    s' = s ∧ ∀ found, r = .ok found → found = selected s.pods sel := by
  cases h with
  | carried => exact ⟨rfl, fun found hr => (Except.ok.inj hr).symm⟩
  | @struck _ effect _ h => cases effect <;> cases h; exact ⟨rfl, nofun⟩
  | lost h => cases h; exact ⟨rfl, nofun⟩

theorem Answers.of_listJobs {ns sel : String} {r : (StoreCall.listJobs ns sel).Reply}
    (h : Answers (.listJobs ns sel) s r s') :
    s' = s ∧ ∀ found, r = .ok found → found = selected s.jobs sel := by
  cases h with
  | carried => exact ⟨rfl, fun found hr => (Except.ok.inj hr).symm⟩
  | @struck _ effect _ h => cases effect <;> cases h; exact ⟨rfl, nofun⟩
  | lost h => cases h; exact ⟨rfl, nofun⟩

theorem Answers.of_replicaCount {p : BufferPool} {r : (StoreCall.replicaCount p).Reply}
    (h : Answers (.replicaCount p) s r s') :
    s' = s ∧ ∀ found, r = .ok found → s.replicas = .ok found := by
  cases h with
  | carried => exact ⟨rfl, fun found hr => hr⟩
  | @struck _ effect _ h => cases effect <;> cases h; exact ⟨rfl, nofun⟩
  | lost h => cases h; exact ⟨rfl, nofun⟩

/-- Marking changes the volume's label or nothing, and does not do nothing when it succeeds. -/
theorem Answers.of_mark {mark : DrainMark} {r : (StoreCall.mark v mark).Reply}
    (h : Answers (.mark v mark) s r s') :
    (s' = s ∧ (r = .ok () → s.volumes.get? (nameOf v) = none)) ∨
      ∃ stored, s.volumes.get? (nameOf v) = some stored ∧
        s' = { s with
          volumes := s.volumes.insert (nameOf v)
            (withLabel stored statusLabel mark.labelValue?) } := by
  have hcarried : (carryOut (.mark v mark) s).2 = s ∧ s.volumes.get? (nameOf v) = none ∨
      ∃ stored, s.volumes.get? (nameOf v) = some stored ∧
        (carryOut (.mark v mark) s).2 = { s with
          volumes := s.volumes.insert (nameOf v)
            (withLabel stored statusLabel mark.labelValue?) } := by
    rw [carryOut]
    cases hv : s.volumes.get? (nameOf v) with
    | none => exact .inl ⟨rfl, rfl⟩
    | some stored => exact .inr ⟨stored, rfl, rfl⟩
  cases h with
  | carried => exact hcarried.imp_left fun h => ⟨h.1, fun _ => h.2⟩
  | @struck _ effect _ h => cases effect <;> cases h; exact .inl ⟨rfl, nofun⟩
  | lost h => cases h; exact hcarried.imp_left fun h => ⟨h.1, nofun⟩

theorem Answers.of_deleteJob {propagation : Propagation}
    {r : (StoreCall.deleteJob job propagation).Reply}
    (h : Answers (.deleteJob job propagation) s r s') :
    s' = s ∨ s' = { s with jobs := s.jobs.erase (nameOf job) } ∨
      ∃ stored, s.jobs.get? (nameOf job) = some stored ∧
        s' = { s with jobs := s.jobs.insert (nameOf job) (dyingJob s.now stored) } := by
  have hforeground : (carryOut (.deleteJob job .foreground) s).2 = s ∨
      ∃ stored, s.jobs.get? (nameOf job) = some stored ∧
        (carryOut (.deleteJob job .foreground) s).2 =
          { s with jobs := s.jobs.insert (nameOf job) (dyingJob s.now stored) } := by
    rw [carryOut]
    cases hj : s.jobs.get? (nameOf job) with
    | none => exact .inl rfl
    | some stored => exact .inr ⟨stored, rfl, rfl⟩
  have hcarried : (carryOut (.deleteJob job propagation) s).2 = s ∨
      (carryOut (.deleteJob job propagation) s).2 = { s with jobs := s.jobs.erase (nameOf job) } ∨
      ∃ stored, s.jobs.get? (nameOf job) = some stored ∧
        (carryOut (.deleteJob job propagation) s).2 =
          { s with jobs := s.jobs.insert (nameOf job) (dyingJob s.now stored) } := by
    cases propagation with
    | foreground => exact hforeground.imp_right .inr
    | background => exact .inr (.inl rfl)
  cases h with
  | carried => exact hcarried
  | struck => exact .inl rfl
  | lost => exact hcarried
  | jobLingers => exact hforeground.imp_right .inr

theorem Answers.of_settleJob_present {r : (StoreCall.settleJob job .present).Reply}
    (h : Answers (.settleJob job .present) s r s') :
    s' = s ∨ s.jobs.get? (nameOf job) = none ∧
      s' = { s with jobs := s.jobs.insert (nameOf job) job } := by
  have hcarried : (carryOut (.settleJob job .present) s).2 = s ∨
      s.jobs.get? (nameOf job) = none ∧
        (carryOut (.settleJob job .present) s).2 =
          { s with jobs := s.jobs.insert (nameOf job) job } := by
    rw [carryOut, KeyMap.contains]
    cases hj : s.jobs.get? (nameOf job) with
    | none => exact .inr ⟨rfl, rfl⟩
    | some stored => exact .inl rfl
  cases h with
  | carried => exact hcarried
  | struck => exact .inl rfl
  | lost => exact hcarried

theorem Answers.of_settleJob_absent {r : (StoreCall.settleJob job .absent).Reply}
    (h : Answers (.settleJob job .absent) s r s') :
    s' = s ∨ s' = { s with jobs := s.jobs.erase (nameOf job) } := by
  cases h with
  | carried => exact .inr rfl
  | struck => exact .inl rfl
  | lost => exact .inr rfl

/-- A pod that is to be present is made if there is none of its name. Without a delay there is a
pod of that name afterwards that is not being deleted. -/
theorem Answers.of_settlePod_present {r : (StoreCall.settlePod pod .present).Reply}
    (h : Answers (.settlePod pod .present) s r s') :
    (s' = s ∧ (r = .ok none → ∃ stored, s.pods.get? (nameOf pod) = some stored ∧
        stored.metadata.deletionTimestamp = none)) ∨
      s.pods.get? (nameOf pod) = none ∧
        s' = { s with pods := s.pods.insert (nameOf pod) pod } := by
  have hcarried : ((carryOut (.settlePod pod .present) s).2 = s ∧
        ((carryOut (.settlePod pod .present) s).1 = .ok none →
          ∃ stored, s.pods.get? (nameOf pod) = some stored ∧
            stored.metadata.deletionTimestamp = none)) ∨
      s.pods.get? (nameOf pod) = none ∧
        (carryOut (.settlePod pod .present) s).2 =
          { s with pods := s.pods.insert (nameOf pod) pod } := by
    cases hp : s.pods.get? (nameOf pod) with
    | none =>
      simp only [carryOut, hp]
      exact .inr ⟨trivial, trivial⟩
    | some stored =>
      cases hd : stored.metadata.deletionTimestamp with
      | none =>
        simp only [carryOut, hp, ObjectMeta.isTerminating, hd]
        exact .inl ⟨rfl, fun _ => ⟨stored, rfl, hd⟩⟩
      | some time =>
        simp only [carryOut, hp, ObjectMeta.isTerminating, hd]
        exact .inl ⟨rfl, fun hr => by cases hr⟩
  cases h with
  | carried => exact hcarried
  | @struck _ effect _ h => cases effect <;> cases h <;> exact .inl ⟨rfl, fun hr => by cases hr⟩
  | lost h =>
    cases h
    exact hcarried.imp_left fun h => ⟨h.1, fun hr => by cases hr⟩

theorem Answers.of_settlePod_absent {r : (StoreCall.settlePod pod .absent).Reply}
    (h : Answers (.settlePod pod .absent) s r s') :
    s' = s ∨ s' = { s with pods := s.pods.erase (nameOf pod) } ∨
      ∃ stored, s.pods.get? (nameOf pod) = some stored ∧
        s' = { s with pods := s.pods.insert (nameOf pod) (dyingPod s.now stored) } := by
  cases h with
  | carried => exact .inr (.inl rfl)
  | struck => exact .inl rfl
  | lost => exact .inr (.inl rfl)
  | podLingers h => exact .inr (.inr ⟨_, h, rfl⟩)

theorem Answers.replicas_eq {c : StoreCall} {r : c.Reply} (h : Answers c s r s') :
    s'.replicas = s.replicas := by
  cases c with
  | listVolumes ns sel => rw [h.of_listVolumes.1]
  | listPods ns sel => rw [h.of_listPods.1]
  | listJobs ns sel => rw [h.of_listJobs.1]
  | replicaCount p => rw [h.of_replicaCount.1]
  | mark v mark => rcases h.of_mark with ⟨rfl, -⟩ | ⟨_, -, rfl⟩ <;> rfl
  | deleteJob job propagation => rcases h.of_deleteJob with rfl | rfl | ⟨_, -, rfl⟩ <;> rfl
  | settleJob job presence =>
    cases presence with
    | present => rcases h.of_settleJob_present with rfl | ⟨-, rfl⟩ <;> rfl
    | absent => rcases h.of_settleJob_absent with rfl | rfl <;> rfl
  | settlePod pod presence =>
    cases presence with
    | present => rcases h.of_settlePod_present with ⟨rfl, -⟩ | ⟨-, rfl⟩ <;> rfl
    | absent => rcases h.of_settlePod_absent with rfl | rfl | ⟨_, -, rfl⟩ <;> rfl

/-! ## The store in memory -/

/-- The store without its record of calls and without faults. -/
def quiet (s : MemoryStore) : MemoryStore := { s with calls := [], faults := [] }

theorem quiet_quiet (s : MemoryStore) : s.quiet.quiet = s.quiet := rfl

theorem quiet_withFaults (s : MemoryStore) (faults : List StoreFault) :
    { s with faults }.quiet = s.quiet := rfl

theorem quiet_of_setJobStatus {name : String} {status : JobStatus} (hs : s.quiet = s)
    (h : s.setJobStatus name status = some s') : s'.quiet = s' := by
  obtain ⟨stored, -, rfl⟩ := Option.map_eq_some_iff.1 h
  rw [← hs]
  rfl

theorem carryOut_quiet (c : StoreCall) (s : MemoryStore) :
    carryOut c s.quiet = ((carryOut c s).1, (carryOut c s).2.quiet) := by
  cases c with
  | mark v mark =>
    simp only [carryOut, quiet]
    split <;> rfl
  | deleteJob job propagation =>
    cases propagation with
    | foreground =>
      simp only [carryOut, quiet]
      split <;> rfl
    | background => rfl
  | settleJob job presence =>
    cases presence with
    | present =>
      cases h : s.jobs.contains (nameOf job) <;> simp only [carryOut, quiet, h] <;> rfl
    | absent => rfl
  | settlePod pod presence =>
    cases presence with
    | present =>
      cases h : s.pods.get? (nameOf pod) with
      | none => simp only [carryOut, quiet, h]
      | some stored =>
        cases hd : stored.metadata.isTerminating <;> simp only [carryOut, quiet, h, hd] <;> rfl
    | absent => rfl
  | _ => rfl

/-- Whatever faults it is to show, the store in memory answers as a cluster can. -/
theorem answers_answer (c : StoreCall) (s : MemoryStore) :
    Answers c s.quiet (answer c s).1 (answer c s).2.quiet := by
  have hcarried : ∀ s₁ : MemoryStore, s₁.quiet = s.quiet →
      Answers c s.quiet (carryOut c s₁).1 (carryOut c s₁).2.quiet := by
    intro s₁ hs₁
    have hc := Answers.carried c s₁.quiet
    rw [carryOut_quiet, hs₁] at hc
    exact hc
  cases hf : c.target?.bind fun t => useFault t.1 t.2 s.faults with
  | none =>
    simp only [answer, hf]
    exact hcarried _ rfl
  | some used =>
    obtain ⟨effect, faults⟩ := used
    cases hr : c.struck effect with
    | none =>
      simp only [answer, hf, hr]
      exact hcarried _ rfl
    | some r =>
      simp only [answer, hf, hr]
      exact Answers.struck hr s.quiet

end MemoryStore

end VolumeDrain.Drain
