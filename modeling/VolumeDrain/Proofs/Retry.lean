import VolumeDrain.Proofs.Isolation
import VolumeDrain.Proofs.Leftover
import VolumeDrain.Proofs.Steps

/-!
# What a failure leaves behind

The order of an action's calls decides what is there when one of them fails. A drain job is only
asked for beside a placeholder that is there, and a finished job is deleted after everything else.
So a finish that failed has left the job where it was, and the next pass finishes again, unless the
volume is to be reclaimed first. The other volumes of the pass do not change this: a call for a
volume touches only the jobs that bind it.
-/
namespace VolumeDrain.Drain

open Manifest Script MemoryStore

/-! ## The order of the calls -/

section

variable {p : BufferPool} {v : Claim} {t : List StoreExchange} {fault : Option VolumeFault}

theorem Takes.of_onceBuilt {α : Type} {object : Except BuildError α} {after : α → List Step}
    (h : Takes (onceBuilt object after) t fault) :
    (∃ e, object = .error e ∧ t = [] ∧ fault = some (.build e)) ∨
      ∃ a, object = .ok a ∧ Takes (after a) t fault := by
  cases object with
  | error e => exact .inl ⟨e, rfl, h.of_halt⟩
  | ok a => exact .inr ⟨a, rfl, h⟩

/-- A start that makes calls has built both objects, and asks for the job only beside a placeholder
that is there. -/
theorem Takes.of_start {job : Option Job} (h : Takes (steps p v job .start) t fault) :
    (∃ e, (placeholderPod p v).bind (fun _ => drainerJob p v) = .error e ∧ t = [] ∧
        fault = some (.build e)) ∨
      ∃ placeholder job, placeholderPod p v = .ok placeholder ∧ drainerJob p v = .ok job ∧
        ((∃ r, t = [⟨.settlePod placeholder .present, r⟩]) ∨
          ∃ r, t =
            [⟨.settlePod placeholder .present, .ok none⟩, ⟨.settleJob job .present, r⟩]) := by
  rcases h.of_onceBuilt with ⟨e, hp, rfl, rfl⟩ | ⟨placeholder, hp, h⟩
  · exact .inl ⟨e, by rw [hp]; rfl, rfl, rfl⟩
  · rcases h.of_onceBuilt with ⟨e, hj, rfl, rfl⟩ | ⟨job, hj, h⟩
    · exact .inl ⟨e, by rw [hp]; exact hj, rfl, rfl⟩
    · refine .inr ⟨placeholder, job, hp, hj, ?_⟩
      obtain ⟨r, u, rfl, ⟨hr, hu⟩ | ⟨-, rfl, -⟩ | ⟨e, recorded, -, -, rfl, -⟩⟩ := h.of_call
      · obtain rfl : r = .ok none := hr
        obtain ⟨r', w, rfl, ⟨-, hw⟩ | ⟨hoff, -⟩ | ⟨e, recorded, -, -, rfl, -⟩⟩ := hu.of_call
        · rw [hw.of_nil.1]
          exact .inr ⟨r', rfl⟩
        · exact hoff.elim
        · exact .inr ⟨r', rfl⟩
      · exact .inl ⟨r, rfl⟩
      · exact .inl ⟨r, rfl⟩

/-- A finish has not got to the job, or has made all its calls, of which only the last may have
failed. -/
theorem Takes.of_finish {job : Job} (h : Takes (steps p v (some job) .finish) t fault) :
    (fault ≠ none ∧ ∀ e ∈ t, e.question = .mark v .drained ∨
        ∃ placeholder, e.question = .settlePod placeholder .absent) ∨
      ∃ placeholder delay r, placeholderPod p v = .ok placeholder ∧
        t = [⟨.mark v .drained, .ok ()⟩, ⟨.settlePod placeholder .absent, .ok delay⟩,
          ⟨.deleteJob job .background, r⟩] ∧ (fault ≠ none → ∃ e, r = .error e) := by
  obtain ⟨r, u, rfl, ⟨⟨_, rfl⟩, hu⟩ | ⟨hoff, -⟩ | ⟨e, recorded, -, -, rfl, rfl⟩⟩ := h.of_call
  · rcases hu.of_onceBuilt with ⟨e, -, rfl, rfl⟩ | ⟨placeholder, hp, hu⟩
    · exact .inl ⟨nofun, by simp⟩
    · obtain ⟨r, w, rfl, ⟨⟨delay, rfl⟩, hw⟩ | ⟨hoff, -⟩ | ⟨e, recorded, -, -, rfl, rfl⟩⟩ :=
        hu.of_call
      · obtain ⟨r, x, rfl, ⟨-, hx⟩ | ⟨hoff, -⟩ | ⟨e, recorded, he, -, rfl, rfl⟩⟩ := hw.of_call
        · obtain ⟨rfl, rfl⟩ := hx.of_nil
          exact .inr ⟨placeholder, delay, r, hp, rfl, fun hnone => absurd rfl hnone⟩
        · exact hoff.elim
        · exact .inr ⟨placeholder, delay, r, hp, rfl, fun _ => ⟨e, he⟩⟩
      · exact hoff.elim
      · exact .inl ⟨nofun, by simp⟩
  · exact hoff.elim
  · exact .inl ⟨nofun, by simp⟩

end

theorem start_of_mem_plan {p : BufferPool} {v : Claim} {seen : Option Job} {job : Job}
    {presence : Presence} {action : DrainAction}
    (h : .settleJob job presence ∈ plan p v seen action) : action = .start := by
  cases action with
  | start => rfl
  | finish => cases hp : placeholderPod p v <;> cases seen <;> simp [plan, hp] at h
  | cancel =>
    cases seen with
    | none => simp [plan] at h
    | some job => cases hd : job.metadata.isTerminating <;> simp [plan, hd] at h
  | release => cases hp : placeholderPod p v <;> simp [plan, hp] at h
  | none | reclaim | reportFailure attempts => simp [plan] at h

theorem finish_of_mem_plan {p : BufferPool} {v : Claim} {seen : Option Job} {job : Job}
    {action : DrainAction} (h : .deleteJob job .background ∈ plan p v seen action) :
    action = .finish ∧ seen = some job := by
  cases action with
  | finish => cases hp : placeholderPod p v <;> cases seen <;> simp_all [plan]
  | start =>
    cases hp : placeholderPod p v <;> cases hj : drainerJob p v <;> simp [plan, hp, hj] at h
  | cancel =>
    cases seen with
    | none => simp [plan] at h
    | some job => cases hd : job.metadata.isTerminating <;> simp [plan, hd] at h
  | release => cases hp : placeholderPod p v <;> simp [plan, hp] at h
  | none | reclaim | reportFailure attempts => simp [plan] at h

/-! ## Clusters on which failing calls do nothing -/

/-- The store keeps volumes and jobs under their names. -/
structure Keyed (s : MemoryStore) : Prop where
  volumes : ∀ key v, s.volumes.get? key = some v → nameOf v = key
  jobs : ∀ key job, s.jobs.get? key = some job → nameOf job = key

namespace MemoryStore

/-- A cluster can give this reply, and a call that fails changes nothing. -/
def Spares (c : StoreCall) (s : MemoryStore) (r : c.Reply) (s' : MemoryStore) : Prop :=
  Answers c s r s' ∧ ((∃ e, c.FailsWith r e) → s' = s)

/-- The stored jobs that bind the volume of a name, with the names they are stored under. -/
def claimants (s : MemoryStore) (p : BufferPool) (volume : String) : List (String × Job) :=
  s.jobs.entries.filter fun e => e.2.claimOf p.bufferVolumeName == some volume

variable {p : BufferPool} {s s' st st' : MemoryStore} {v : Claim} {job : Job} {volume key : String}
  {n m : Int32} {t : List StoreExchange}

theorem answers_of_spares (h : Follows Spares t s s') : Follows Answers t s s' :=
  follows_mono (fun _ _ _ _ h => h.1) h

theorem mem_claimants_iff : (key, job) ∈ s.claimants p volume ↔
    s.jobs.get? key = some job ∧ job.claimOf p.bufferVolumeName = some volume := by
  rw [claimants, List.mem_filter, KeyMap.mem_entries_iff, beq_iff_eq]

/-- Which job is a volume's depends on those that bind it alone. -/
theorem jobOf?_view_congr (h : s'.claimants p volume = s.claimants p volume) :
    (s'.view p m).jobOf? p volume = (s.view p n).jobOf? p volume := by
  have hof : ∀ (s : MemoryStore) (n : Int32), (s.view p n).jobOf? p volume =
      (((s.claimants p volume).map Prod.snd).filter fun job =>
        (Selector.read (p.selector .drainer)).holds (metadata job).labelMap).reverse.head? := by
    intro s n
    have hjobs : (s.view p n).jobs = (s.jobs.entries.map Prod.snd).filter fun job =>
        (Selector.read (p.selector .drainer)).holds (metadata job).labelMap := rfl
    rw [Snapshot.jobOf?, ← List.head?_filter, List.filter_reverse, hjobs, claimants,
      List.filter_map, List.filter_map, List.filter_map, List.filter_filter, List.filter_filter]
    simp only [Function.comp_def, Bool.and_comm]
  rw [hof, hof, h]

theorem claimants_insert (hnew : job.claimOf p.bufferVolumeName ≠ some volume)
    (hold : ∀ old, s.jobs.get? key = some old → old.claimOf p.bufferVolumeName ≠ some volume) :
    { s with jobs := s.jobs.insert key job }.claimants p volume = s.claimants p volume :=
  KeyMap.filter_insertEntry (beq_eq_false_iff_ne.2 hnew) fun old h =>
    beq_eq_false_iff_ne.2 (hold old h)

theorem claimants_erase
    (hold : ∀ old, s.jobs.get? key = some old → old.claimOf p.bufferVolumeName ≠ some volume) :
    { s with jobs := s.jobs.erase key }.claimants p volume = s.claimants p volume :=
  KeyMap.filter_erase fun old h => beq_eq_false_iff_ne.2 (hold old h)

end MemoryStore

variable {p : BufferPool} {s s' st st' : MemoryStore} {v : Claim} {job : Job} {volume key : String}
  {n : Int32} {t u : List StoreExchange}

theorem claimOf_drainerJob (h : drainerJob p v = .ok job) :
    job.claimOf p.bufferVolumeName = some (nameOf v) := by
  obtain ⟨_, pod, -, hpod, -, -, hclaim⟩ := metadata_drainerJob h
  rw [hclaim, claimOf_drainerPod hpod]

theorem Snapshot.IsJobOf.stored (hst : Keyed st) (h : (st.view p n).IsJobOf p volume job) :
    st.jobs.get? (nameOf job) = some job ∧ job.claimOf p.bufferVolumeName = some volume := by
  obtain ⟨before, after, hjobs, hclaim, -⟩ := h
  have hlisted : job ∈ (st.view p n).jobs := hjobs ▸ List.mem_append_right _ List.mem_cons_self
  obtain ⟨⟨key, hkey⟩, -⟩ := mem_selected_iff.1 hlisted
  exact ⟨hst.jobs key job hkey ▸ hkey, hclaim⟩

/-- The calls for a volume leave the jobs that bind another one as they are. -/
theorem claimants_of_answers {c : StoreCall} {r : c.Reply} (hst : Keyed st)
    (hne : nameOf v ≠ volume) (hc : Justified p (st.view p n) v c) (ha : Answers c s r s')
    (h : s.claimants p volume = st.claimants p volume) :
    s'.claimants p volume = st.claimants p volume := by
  cases c with
  | mark w mark => rcases ha.of_mark with ⟨rfl, -⟩ | ⟨_, -, rfl⟩ <;> exact h
  | settlePod pod presence =>
    cases presence with
    | present => rcases ha.of_settlePod_present with ⟨rfl, -⟩ | ⟨-, rfl⟩ <;> exact h
    | absent => rcases ha.of_settlePod_absent with rfl | rfl | ⟨_, -, rfl⟩ <;> exact h
  | settleJob job presence =>
    cases presence with
    | present =>
      rcases ha.of_settleJob_present with rfl | ⟨hfree, rfl⟩
      · exact h
      · rw [← h]
        refine claimants_insert ?_ fun old hold => ?_
        · rw [claimOf_drainerJob hc.1]
          exact fun heq => hne (Option.some.inj heq)
        · rw [hfree] at hold
          cases hold
    | absent => exact hc.elim
  | deleteJob job propagation =>
    have hof : (st.view p n).IsJobOf p (nameOf v) job := by
      cases propagation with
      | background => exact hc.1
      | foreground => exact hc.1
    obtain ⟨hstored, hclaim⟩ := hof.stored hst
    -- A job that binds the other volume was there at the start, where the name had this job.
    have hold : ∀ old, s.jobs.get? (nameOf job) = some old →
        old.claimOf p.bufferVolumeName ≠ some volume := by
      intro old hget hbinds
      have hmem := mem_claimants_iff.2 ⟨hget, hbinds⟩
      rw [h, mem_claimants_iff, hstored] at hmem
      obtain rfl : job = old := Option.some.inj hmem.1
      exact hne (Option.some.inj (hclaim.symm.trans hbinds))
    rcases ha.of_deleteJob with rfl | rfl | ⟨old, hget, rfl⟩
    · exact h
    · exact (claimants_erase hold).trans h
    · have hdying : (dyingJob s.now old).claimOf p.bufferVolumeName ≠ some volume := hold old hget
      exact (claimants_insert hdying hold).trans h
  | _ => exact hc.elim

/-- While other volumes are dealt with, the jobs that bind a volume stay as they are. -/
theorem claimants_of_follows {turns : List VolumeTurn} (hst : Keyed st)
    (hturns : ∀ turn ∈ turns, turn.Proceeds p (st.view p n))
    (hne : ∀ turn ∈ turns, nameOf turn.volume ≠ volume)
    (hf : Follows Answers (turns.flatMap VolumeTurn.exchanges) s s')
    (h : s.claimants p volume = st.claimants p volume) :
    s'.claimants p volume = st.claimants p volume := by
  have hstep : ∀ {v c s s'} {r : c.Reply}, v ∈ turns.map VolumeTurn.volume →
      Justified p (st.view p n) v c → Answers c s r s' →
      s.claimants p volume = st.claimants p volume →
      s'.claimants p volume = st.claimants p volume := by
    intro v c s s' r hv hc ha hs
    obtain ⟨turn, hturn, rfl⟩ := List.mem_map.1 hv
    exact claimants_of_answers hst (hne turn hturn) hc ha hs
  exact kept_of_follows (I := fun s => s.claimants p volume = st.claimants p volume) hstep hf
    (justified_of_turns hturns) h

theorem jobs_of_follows (ht : ∀ e ∈ t, e.question = .mark v .drained ∨
      ∃ placeholder, e.question = .settlePod placeholder .absent)
    (hf : Follows Answers t s s') : s'.jobs = s.jobs := by
  induction t generalizing s with
  | nil => rw [hf]
  | cons e t ih =>
    obtain ⟨mid, he, hrest⟩ := hf
    rw [ih (fun e' he' => ht e' (List.mem_cons_of_mem _ he')) hrest]
    obtain ⟨c, r⟩ := e
    rcases ht _ List.mem_cons_self with hc | ⟨placeholder, hc⟩
    · obtain rfl : c = .mark v .drained := hc
      rcases he.of_mark with ⟨rfl, -⟩ | ⟨_, -, rfl⟩ <;> rfl
    · obtain rfl : c = .settlePod placeholder .absent := hc
      rcases he.of_settlePod_absent with rfl | rfl | ⟨_, -, rfl⟩ <;> rfl

/-- A finish that failed has not touched the jobs. -/
theorem jobs_of_failed_finish {fault : Option VolumeFault}
    (h : Takes (steps p v (some job) .finish) t fault) (hfault : fault ≠ none)
    (hf : Follows Spares t s s') : s'.jobs = s.jobs := by
  rcases h.of_finish with ⟨-, ht⟩ | ⟨placeholder, delay, r, -, rfl, hfailed⟩
  · exact jobs_of_follows ht (answers_of_spares hf)
  · obtain ⟨mid, hmark, mid', hsettle, last, hdelete, rfl⟩ := hf
    rw [hdelete.2 (hfailed hfault)]
    refine jobs_of_follows (v := v) (t := [⟨.mark v .drained, .ok ()⟩,
      ⟨.settlePod placeholder .absent, .ok delay⟩]) (by simp) ?_
    exact ⟨mid, hmark.1, mid', hsettle.1, rfl⟩

/-! ## The next pass -/

/-- The store still has the succeeded job that the volume had when it was listed, and the volume;
over both the next pass finishes again, unless the volume is by then drained and in use. -/
def FinishesAgain (p : BufferPool) (σ : Snapshot) (v : Claim) (s : MemoryStore) : Prop :=
  ∃ job w, σ.jobOf? p (nameOf v) = some job ∧ HasSucceeded job ∧
    s.jobs.get? (nameOf job) = some job ∧ s.volumes.get? (nameOf v) = some w ∧
    nameOf w = nameOf v ∧ (p.WellNamed → ∀ m, w ∈ (s.view p m).volumes) ∧
    ∀ m, actionFor p (s.view p m) w = .finish ↔
      ¬ (LabelledDrained w ∧ (s.view p m).Uses p (nameOf w))

theorem actionFor_eq_finish_iff {σ : Snapshot} (hjob : σ.jobOf? p (nameOf v) = some job)
    (hsucceeded : HasSucceeded job) :
    actionFor p σ v = .finish ↔ ¬ (LabelledDrained v ∧ σ.Uses p (nameOf v)) := by
  have hsight : (σ.sight p v).job = some .succeeded := by
    rw [Snapshot.sight, hjob, Option.map_some, progress_eq_succeeded_iff.2 hsucceeded]
  rw [actionFor, nextAction_eq_iff, Warrants, and_iff_right hsight, ← Snapshot.inUse_iff,
    ← ofLabels_eq_drained_iff, and_comm]
  rfl

/-- A volume that was listed stays stored and listed, whatever is done for volumes. -/
theorem volume_of_follows {turns : List VolumeTurn} (hst : Keyed st)
    (hturns : ∀ turn ∈ turns, turn.Proceeds p (st.view p n)) (hv : v ∈ (st.view p n).volumes)
    (hf : Follows Answers (turns.flatMap VolumeTurn.exchanges) st s') :
    ∃ w, s'.volumes.get? (nameOf v) = some w ∧ nameOf w = nameOf v ∧
      (p.WellNamed → ∀ m, w ∈ (s'.view p m).volumes) := by
  obtain ⟨⟨key, hkey⟩, -⟩ := mem_selected_iff.1 hv
  have hname := hst.volumes key v hkey
  have hkept : ∃ w, s'.volumes.get? (nameOf v) = some w ∧
      (nameOf w = nameOf v ∧ (p.WellNamed → Drainable p w)) := by
    refine kept_of_follows (I := fun s => ∃ w, s.volumes.get? (nameOf v) = some w ∧
      (nameOf w = nameOf v ∧ (p.WellNamed → Drainable p w))) ?_ hf (justified_of_turns hturns) ?_
    · intro _ c s s' r _ hc ha h
      refine volume_outlasts_answers h (fun w value hw => ⟨hw.1, fun hp => ?_⟩) hc ha
      exact drainable_withLabel.2 (hw.2 hp)
    · refine ⟨v, hname ▸ hkey, rfl, fun hp => ?_⟩
      exact ((mem_volumes_view_iff_drainable hp).1 hv).2
  obtain ⟨w, hw, hnamed, hdrainable⟩ := hkept
  exact ⟨w, hw, hnamed, fun hp m =>
    (mem_volumes_view_iff_drainable hp).2 ⟨⟨_, hw⟩, hdrainable hp⟩⟩

/-- After a pass in which a finish failed, the next one finishes again. -/
theorem finishesAgain_of_turns {turns : List VolumeTurn} {turn : VolumeTurn} (hst : Keyed st)
    (hvolumes : turns.map VolumeTurn.volume = (st.view p n).volumes)
    (hturns : ∀ turn ∈ turns, turn.Proceeds p (st.view p n))
    (hf : Follows Spares (turns.flatMap VolumeTurn.exchanges) st s') (hturn : turn ∈ turns)
    (haction : turn.outcome.action = .finish) (hfault : turn.outcome.fault ≠ none) :
    FinishesAgain p (st.view p n) turn.volume s' := by
  have hproceeds := hturns turn hturn
  have hfinish : actionFor p (st.view p n) turn.volume = .finish :=
    hproceeds.action_eq.symm.trans haction
  obtain ⟨hsight, -⟩ := nextAction_eq_iff.1 hfinish
  obtain ⟨job, hjob, hisJob, hsucceeded⟩ := sight_job_eq_succeeded hsight
  obtain ⟨hstored, hclaim⟩ := hisJob.stored hst
  -- Before and after its own turn, the volume's jobs are left alone; the turn has stopped short of
  -- deleting the one it has.
  have hkept : s'.claimants p (nameOf turn.volume) = st.claimants p (nameOf turn.volume) := by
    have hdistinct := listed_distinct (p := p) (n := n) hst.volumes
    rw [← hvolumes, List.pairwise_map] at hdistinct
    have hall := answers_of_spares hf
    obtain ⟨before, after, rfl⟩ := List.append_of_mem hturn
    obtain ⟨-, hrest, hbefore⟩ := List.pairwise_append.1 hdistinct
    obtain ⟨hafter, -⟩ := List.pairwise_cons.1 hrest
    rw [List.flatMap_append, List.flatMap_cons] at hf
    obtain ⟨mid, hf₁, hf⟩ := follows_append.1 hf
    obtain ⟨mid', hf₂, hf₃⟩ := follows_append.1 hf
    have hmid := claimants_of_follows hst
      (fun t ht => hturns t (List.mem_append_left _ ht))
      (fun t ht => hbefore t ht turn List.mem_cons_self) (answers_of_spares hf₁) rfl
    have htakes := hproceeds.takes
    rw [stepsFor, hfinish, hjob] at htakes
    have hmid' : mid'.claimants p (nameOf turn.volume) =
        st.claimants p (nameOf turn.volume) := by
      rw [claimants, jobs_of_failed_finish htakes hfault hf₂]
      exact hmid
    exact claimants_of_follows hst
      (fun t ht => hturns t (List.mem_append_right _ (List.mem_cons_of_mem _ ht)))
      (fun t ht => (hafter t ht).symm) (answers_of_spares hf₃) hmid'
  have hthere := mem_claimants_iff.2 ⟨hstored, hclaim⟩
  rw [← hkept] at hthere
  have hlisted : turn.volume ∈ (st.view p n).volumes := hvolumes ▸ List.mem_map_of_mem hturn
  obtain ⟨w, hw, hname, hseen⟩ := volume_of_follows hst hturns hlisted (answers_of_spares hf)
  refine ⟨job, w, hjob, hsucceeded, (mem_claimants_iff.1 hthere).1, hw, hname, hseen, fun m => ?_⟩
  refine actionFor_eq_finish_iff ?_ hsucceeded
  rw [hname, jobOf?_view_congr (n := n) hkept]
  exact hjob

/-- The account of a pass: its turns, what its calls wait for, and what a failure leaves. -/
structure Accounts (p : BufferPool) (σ : Snapshot) (t : List StoreExchange)
    (result : Except OperatorError PassOutcome) (turns : List VolumeTurn) : Prop where
  volumes : turns.map VolumeTurn.volume = σ.volumes
  exchanges : t = turns.flatMap VolumeTurn.exchanges
  result : result = .ok { replicas := σ.replicas, volumes := turns.map VolumeTurn.outcome }
  proceeds : ∀ turn ∈ turns, turn.Proceeds p σ
  /-- A job is asked for right after a placeholder, which is there. -/
  placeholder_first : ∀ turn ∈ turns, ∀ job r, ⟨.settleJob job .present, r⟩ ∈ turn.exchanges →
    ∃ placeholder, placeholderPod p turn.volume = .ok placeholder ∧ turn.exchanges =
      [⟨.settlePod placeholder .present, .ok none⟩, ⟨.settleJob job .present, r⟩]
  /-- A start of which an object cannot be built makes no call. -/
  builds_first : ∀ turn ∈ turns, turn.outcome.action = .start → ∀ e,
    (placeholderPod p turn.volume).bind (fun _ => drainerJob p turn.volume) = .error e →
      turn.exchanges = [] ∧ turn.outcome.fault = some (.build e)
  /-- A finished job is deleted after the volume is marked and the placeholder removed. -/
  deletes_last : ∀ turn ∈ turns, ∀ job r, ⟨.deleteJob job .background, r⟩ ∈ turn.exchanges →
    ∃ placeholder delay, placeholderPod p turn.volume = .ok placeholder ∧ turn.exchanges =
      [⟨.mark turn.volume .drained, .ok ()⟩, ⟨.settlePod placeholder .absent, .ok delay⟩,
        ⟨.deleteJob job .background, r⟩]
  /-- A finish that failed is taken up again. -/
  finishes_again : ∀ s s', Keyed s → Follows Spares (σ.reads p ++ t) s s' → ∀ turn ∈ turns,
    turn.outcome.action = .finish → turn.outcome.fault ≠ none →
      FinishesAgain p σ turn.volume s'

theorem placeholder_first_of_proceeds {σ : Snapshot} {turn : VolumeTurn} (h : turn.Proceeds p σ)
    {r : (StoreCall.settleJob job .present).Reply}
    (hmem : ⟨.settleJob job .present, r⟩ ∈ turn.exchanges) :
    ∃ placeholder, placeholderPod p turn.volume = .ok placeholder ∧ turn.exchanges =
      [⟨.settlePod placeholder .present, .ok none⟩, ⟨.settleJob job .present, r⟩] := by
  have hstart : actionFor p σ turn.volume = .start := start_of_mem_plan (h.mem_planFor hmem)
  have htakes := h.takes
  rw [stepsFor, hstart] at htakes
  rcases htakes.of_start with ⟨e, -, hnone, -⟩ | ⟨placeholder, built, hp, -, hcalls⟩
  · simp [hnone] at hmem
  · rcases hcalls with ⟨r', hone⟩ | ⟨r', hboth⟩
    · simp [hone] at hmem
    · rw [hboth] at hmem ⊢
      rcases List.mem_cons.1 hmem with hfirst | hsecond
      · cases hfirst
      · cases List.mem_singleton.1 hsecond
        exact ⟨placeholder, hp, rfl⟩

theorem builds_first_of_proceeds {σ : Snapshot} {turn : VolumeTurn} (h : turn.Proceeds p σ)
    (haction : turn.outcome.action = .start) {e : BuildError}
    (he : (placeholderPod p turn.volume).bind (fun _ => drainerJob p turn.volume) = .error e) :
    turn.exchanges = [] ∧ turn.outcome.fault = some (.build e) := by
  have htakes := h.takes
  rw [stepsFor, ← h.action_eq, haction] at htakes
  rcases htakes.of_start with ⟨e', he', hnone, hfault⟩ | ⟨placeholder, job, hp, hj, -⟩
  · rw [he] at he'
    cases he'
    exact ⟨hnone, hfault⟩
  · rw [hp] at he
    cases hj.symm.trans he

theorem deletes_last_of_proceeds {σ : Snapshot} {turn : VolumeTurn} (h : turn.Proceeds p σ)
    {r : (StoreCall.deleteJob job .background).Reply}
    (hmem : ⟨.deleteJob job .background, r⟩ ∈ turn.exchanges) :
    ∃ placeholder delay, placeholderPod p turn.volume = .ok placeholder ∧ turn.exchanges =
      [⟨.mark turn.volume .drained, .ok ()⟩, ⟨.settlePod placeholder .absent, .ok delay⟩,
        ⟨.deleteJob job .background, r⟩] := by
  obtain ⟨hfinish, hjob⟩ := finish_of_mem_plan (h.mem_planFor hmem)
  have htakes := h.takes
  rw [stepsFor, hfinish, hjob] at htakes
  rcases htakes.of_finish with ⟨-, hbefore⟩ | ⟨placeholder, delay, r', hp, hall, -⟩
  · rcases hbefore _ hmem with hc | ⟨placeholder, hc⟩ <;> cases hc
  · rw [hall] at hmem ⊢
    rcases List.mem_cons.1 hmem with hfirst | hmem
    · cases hfirst
    · rcases List.mem_cons.1 hmem with hsecond | hlast
      · cases hsecond
      · cases List.mem_singleton.1 hlast
        exact ⟨placeholder, delay, hp, rfl⟩

/-- Whatever the store answers, a pass deals with each listed volume by the steps of its action, up
to the first call that fails, a placeholder that is put off or an object that cannot be built, and
records that failure. What the steps wait for is there, and a finish that failed is taken up again
by the next pass. -/
theorem drainPass_accounts {p : BufferPool} {σ : Snapshot} {t : List StoreExchange}
    {result : Except OperatorError PassOutcome}
    (h : Exchanges (drainPass p) (σ.reads p ++ t) (.done result)) :
    ∃ turns, Accounts p σ t result turns := by
  obtain ⟨outcomes, hresult, hvolumes⟩ := handled_of_drainPass h
  obtain ⟨turns, hlisted, ht, rfl, hturns⟩ := turns_handleVolumes hvolumes
  exact ⟨turns, {
    volumes := hlisted
    exchanges := ht
    result := hresult
    proceeds := hturns
    placeholder_first := fun turn hturn _ _ hmem =>
      placeholder_first_of_proceeds (hturns turn hturn) hmem
    builds_first := fun turn hturn haction _ he =>
      builds_first_of_proceeds (hturns turn hturn) haction he
    deletes_last := fun turn hturn _ _ hmem => deletes_last_of_proceeds (hturns turn hturn) hmem
    finishes_again := fun s s' hs hf turn hturn haction hfault => by
      obtain ⟨mid, hreads, hrest⟩ := follows_append.1 hf
      obtain ⟨rfl, -, hview⟩ := view_of_follows_reads (answers_of_spares hreads)
      rw [hview] at hlisted hturns ⊢
      rw [ht] at hrest
      exact finishesAgain_of_turns hs hlisted hturns hrest hturn haction hfault }⟩

/-! ## A finish whose last call fails -/

theorem carryOut_of_failsWith {c : StoreCall} {e : OperatorError}
    (h : c.FailsWith (carryOut c s).1 e) : (carryOut c s).2 = s := by
  cases c with
  | mark v mark =>
    simp only [carryOut] at h ⊢
    split at h <;> cases h
  | deleteJob job propagation =>
    cases propagation with
    | foreground =>
      simp only [carryOut] at h ⊢
      split at h <;> cases h
    | background => cases h
  | settleJob job presence =>
    cases presence with
    | present =>
      simp only [carryOut] at h ⊢
      split at h <;> cases h
    | absent => cases h
  | settlePod pod presence =>
    cases presence with
    | present =>
      simp only [carryOut] at h ⊢
      split at h
      · split at h <;> cases h
      · cases h
    | absent => cases h
  | _ => rfl

theorem spares_carryOut (c : StoreCall) (s : MemoryStore) :
    Spares c s (carryOut c s).1 (carryOut c s).2 :=
  ⟨.carried c s, fun ⟨_, he⟩ => carryOut_of_failsWith he⟩

theorem spares_answerUnder (faults : StoreCall → Option FaultEffect) (c : StoreCall)
    (s : MemoryStore) : Spares c s (answerUnder faults c s).1 (answerUnder faults c s).2 := by
  rw [answerUnder]
  cases hr : (faults c).bind c.struck with
  | some r =>
    obtain ⟨effect, -, hstruck⟩ := Option.bind_eq_some_iff.1 hr
    exact ⟨.struck hstruck s, fun _ => rfl⟩
  | none => exact spares_carryOut c s

/-- A store that shows faults is a cluster on which failing calls do nothing. -/
theorem follows_answerUnder (faults : StoreCall → Option FaultEffect)
    (hn : s.replicas = .ok n) {script : StoreScript (List VolumeOutcome)} :
    Follows Spares ((s.view p n).reads p ++ transcript (answerUnder faults) script s) s
      (run (answerUnder faults) script s).2 :=
  follows_append.2 ⟨s, follows_reads spares_carryOut hn,
    follows_transcript (f := id) (spares_answerUnder faults) script s⟩

/-- No job can be deleted. -/
def deletionsFail : StoreCall → Option FaultEffect
  | .deleteJob _ _ => some deletionFault.effect
  | _ => none

/-- What a pass sees when the drain job of the second volume has succeeded. -/
def logsEmptiedView : Snapshot := logsEmptied.view logsPool 1

/-- The calls of a pass that cannot delete the job, after its reads. -/
def logsFinishCalls : List StoreExchange :=
  transcript (answerUnder deletionsFail)
    (handleVolumes logsPool logsEmptiedView logsEmptiedView.volumes) logsEmptied

/-- What became of the volumes in that pass, and of the store. -/
def logsFinish : List VolumeOutcome × MemoryStore :=
  run (answerUnder deletionsFail)
    (handleVolumes logsPool logsEmptiedView logsEmptiedView.volumes) logsEmptied

theorem keyed_logsEmptied : Keyed logsEmptied := by
  obtain ⟨t, hstart⟩ := logsHistory.starts
  have hrun := (Runs.start.pass hstart).change
    (.reportJob logsHistory.succeeds fun job _ _ => hasSucceeded_succeededStatus job)
  have htidy := hrun.tidy wellNamed_logsPool fresh_logsShrunk.tidy
  exact ⟨fun key v hv => (htidy.volumes key v hv).name_eq,
    fun key job hjob => (htidy.jobs key job hjob).name_eq⟩

theorem logsFinish_facts :
    logsFinishCalls.map (fun e => e.question.text?) =
        [some "patch logs-buffer-logs-buffer-1 Drained", some "pod logs-buffer-1 Absent",
         some "delete-job logs-buffer-1-drainer Background"] ∧
      logsFinish.1.map (fun o => (o.action, o.fault.isSome)) = [(.none, false), (.finish, true)] ∧
      logsEmptied.replicas.toOption = some 1 := by
  decide +kernel

theorem exchanges_logsFinish :
    Exchanges (drainPass logsPool) (logsEmptiedView.reads logsPool ++ logsFinishCalls)
      (.done (.ok { replicas := 1, volumes := logsFinish.1 })) :=
  exchanges_drainPass_of (exchanges_transcript (answerUnder deletionsFail)
    (handleVolumes logsPool logsEmptiedView logsEmptiedView.volumes) logsEmptied)

/-- The pass marks the volume and removes the placeholder, and cannot delete the job; the next one
finishes again. -/
theorem drainPass_accounts_logs :
    logsFinishCalls.map (fun e => e.question.text?) =
        [some "patch logs-buffer-logs-buffer-1 Drained", some "pod logs-buffer-1 Absent",
         some "delete-job logs-buffer-1-drainer Background"] ∧
      ∃ turns, Accounts logsPool logsEmptiedView logsFinishCalls
          (.ok { replicas := 1, volumes := logsFinish.1 }) turns ∧
        ∃ turn ∈ turns, turn.outcome.action = .finish ∧ turn.outcome.fault ≠ none ∧
          FinishesAgain logsPool logsEmptiedView turn.volume logsFinish.2 := by
  obtain ⟨hcalls, houtcomes, hreplicas⟩ := logsFinish_facts
  refine ⟨hcalls, ?_⟩
  obtain ⟨turns, haccounts⟩ := drainPass_accounts exchanges_logsFinish
  refine ⟨turns, haccounts, ?_⟩
  have hlast : (DrainAction.finish, true) ∈
      logsFinish.1.map (fun o => (o.action, o.fault.isSome)) := by
    rw [houtcomes]
    exact List.mem_cons_of_mem _ List.mem_cons_self
  have hresult := haccounts.result
  simp only [Except.ok.injEq, PassOutcome.mk.injEq] at hresult
  rw [hresult.2, List.map_map] at hlast
  obtain ⟨turn, hturn, heq⟩ := List.mem_map.1 hlast
  obtain ⟨haction, hfault⟩ := Prod.ext_iff.1 heq
  have hfault : turn.outcome.fault ≠ none := Option.isSome_iff_ne_none.1 hfault
  have hok : logsEmptied.replicas = .ok 1 := by
    cases hr : logsEmptied.replicas with
    | error e => rw [hr] at hreplicas; cases hreplicas
    | ok n => rw [hr] at hreplicas; cases hreplicas; rfl
  have hfollows : Follows Spares (logsEmptiedView.reads logsPool ++ logsFinishCalls) logsEmptied
      logsFinish.2 := by
    rw [logsEmptiedView, logsFinishCalls, logsFinish]
    exact follows_answerUnder deletionsFail hok
  exact ⟨turn, hturn, haction, hfault,
    haccounts.finishes_again _ _ keyed_logsEmptied hfollows turn hturn haction hfault⟩

end VolumeDrain.Drain
