import Mathlib.Logic.Function.Iterate
import VolumeDrain.Proofs.Completion
import VolumeDrain.Proofs.Exclusion

/-!
# Convergence of passes

Passes over a store in which no call fails, with deletions coming to their end in between, come to
rest whatever the store held at first. The first pass may meet objects that are on their way out,
and leaves every listed volume at most two actions from rest; each pass after it takes one of them.
A finish and a reclaim undo each other's mark, but no volume takes both more than once.
-/
namespace VolumeDrain.Drain

open Manifest Script MemoryStore

/-- A pass over the store, after which every deletion under way comes to its end. -/
def MemoryStore.round (p : BufferPool) (s : MemoryStore) : MemoryStore :=
  (run answer (drainPass p) s).2.finishDeletions

/-- Passes over the store meet the pool's own objects under the names of ordinals, know how many
workers there are to be, can build the jobs they need, and none of their calls fails. -/
structure Steady (p : BufferPool) (n : Int32) (s : MemoryStore) : Prop extends Owned p s where
  faultless : s.faults = []
  replicas : s.replicas = .ok n
  builds : ∀ (i : Nat) v, s.volumes.get? (p.claimName i) = some v → Drainable p v →
    ∃ job, drainerJob p v = .ok job

/-- The sights of the listed volumes have at most this rank. -/
def RanksBelow (p : BufferPool) (n : Int32) (r : Nat) (s : MemoryStore) : Prop :=
  ∀ (i : Nat) v, s.volumes.get? (p.claimName i) = some v → Drainable p v →
    ((s.view p n).sight p v).rank ≤ r

variable {p : BufferPool} {s s' : MemoryStore} {i : Nat} {v v' : Claim} {n : Int32}
  {σ σ₁ : Slot} {action : DrainAction} {u : List StoreExchange}

/-! ## Ends of deletions -/

theorem slot_finishDeletions (s : MemoryStore) (p : BufferPool) (i : Nat) :
    s.finishDeletions.slot p i = (s.slot p i).settled :=
  Slot.ext rfl (KeyMap.get?_filter _ _ _) (KeyMap.get?_filter _ _ _)

theorem Owned.quiet (h : Owned p s) : Owned p s.quiet :=
  h.of_fewer rfl (fun _ _ hpod => hpod) fun _ _ hjob => hjob

theorem Owned.withReplicas (h : Owned p s) (replicas : Except OperatorError Int32) :
    Owned p { s with replicas } :=
  h.of_fewer rfl (fun _ _ hpod => hpod) fun _ _ hjob => hjob

theorem forall_volumes_withReplicas {P : Claim → Prop} (h : ∀ v ∈ (s.view p n).volumes, P v)
    (replicas : Except OperatorError Int32) (n' : Int32) :
    ∀ v ∈ (MemoryStore.view { s with replicas } p n').volumes, P v :=
  h

theorem get?_finishDeletions (s : MemoryStore) :
    (∀ key pod, s.finishDeletions.pods.get? key = some pod → s.pods.get? key = some pod) ∧
      ∀ key job, s.finishDeletions.jobs.get? key = some job → s.jobs.get? key = some job := by
  constructor
  · intro key pod hpod
    rw [MemoryStore.finishDeletions, KeyMap.get?_filter] at hpod
    exact (Option.filter_eq_some_iff.1 hpod).1
  · intro key job hjob
    rw [MemoryStore.finishDeletions, KeyMap.get?_filter] at hjob
    exact (Option.filter_eq_some_iff.1 hjob).1

/-- In a slot at rest an action leaves nothing behind that is being deleted. -/
theorem Acted.settled_ends (hstill : σ.Still) (h : Acted p i σ u action σ₁) :
    (action = .start → σ₁.settled.Held p i) ∧
      (action = .cancel ∨ action = .finish → σ₁.settled.job = none) ∧
        (action = .finish → σ₁.settled.pod = none) := by
  cases h with
  | yield hpod hdying _ =>
    rw [← congrArg Slot.pod hstill] at hpod
    have halive := (Option.filter_eq_some_iff.1 hpod).2
    rw [hdying] at halive
    cases halive
  | start _ hheld => exact ⟨fun _ => held_settled_iff.2 hheld, by simp, by simp⟩
  | cancel _ _ hjob => exact ⟨by simp, fun _ => settled_job_of_ending hjob, by simp⟩
  | finish _ _ hpod hjob =>
    exact ⟨by simp, fun _ => settled_job_of_ending hjob, fun _ => settled_pod_of_ending hpod⟩
  | _ => simp

theorem Acted.volume (h : Acted p i σ u action σ₁) (hv : σ.volume = some v) :
    ∃ v₁, σ₁.volume = some v₁ ∧ nameOf v₁ = nameOf v ∧ (Drainable p v₁ ↔ Drainable p v) := by
  cases h with
  | idle | reportFailure | yield => exact ⟨v, hv, rfl, Iff.rfl⟩
  | start hvolume | cancel hvolume | release hvolume => exact ⟨v, hvolume.trans hv, rfl, Iff.rfl⟩
  | reclaim hw =>
    obtain rfl := Option.some.inj (hv.symm.trans hw)
    exact ⟨_, rfl, rfl, drainable_withLabel⟩
  | finish hw hvolume =>
    obtain rfl := Option.some.inj (hv.symm.trans hw)
    exact ⟨_, hvolume, rfl, drainable_withLabel⟩

/-! ## One round -/

/-- Where a start is due, only the job that is to be made can stand in its way. -/
theorem Owned.startable (h : Owned p s) (hx : (s.slot p i).Shows p n i ((s.view p n).sight p v))
    (hstart : actionFor p (s.view p n) v = .start) (hbuilds : ∃ job, drainerJob p v = .ok job) :
    Startable p i v (s.slot p i) := by
  have hw : Warrants ((s.view p n).sight p v) .start := nextAction_eq_iff.1 hstart
  refine ⟨?_, ?_, hbuilds⟩
  · have hjobless : (s.slot p i).Jobless p i := by
      rcases hx.job with ⟨-, hjobless⟩ | ⟨job, -, -, hsome⟩
      · exact hjobless
      · rw [hw.1] at hsome
        cases hsome
    cases hjob : (s.slot p i).job with
    | none => rfl
    | some job => exact absurd (h.drainer _ job hjob i rfl) (hjobless job hjob)
  · intro pod hpod
    rcases h.role _ pod hpod i rfl with hworks | hreserves
    · have huse := hx.inUse.2 (.inl ⟨pod, hpod, hworks⟩)
      rw [hw.2.1] at huse
      cases huse
    · exact hreserves

theorem Steady.acted (h : Steady p n s) (hp : p.WellNamed)
    (hstored : s.volumes.get? (p.claimName i) = some v) (hv : Drainable p v) :
    ∃ u σ₁, Acted p i (s.slot p i) u (actionFor p (s.view p n) v) σ₁ ∧
      (s.round p).slot p i = σ₁.settled := by
  obtain ⟨out, -, -, hc⟩ := completes_of_answer p h.faultless h.replicas
  have hx := h.shows (n := n) hp (h.name_eq _ _ hstored) hstored
  obtain ⟨u, -, hacted⟩ := hc.acted h.toOwned.quiet.toNamed hp h.replicas hstored hv hx
    fun hstart => h.startable hx hstart (h.builds i v hstored hv)
  exact ⟨u, _, hacted, slot_finishDeletions _ p i⟩

theorem Steady.slot_eq (h : Steady p n s) (hp : p.WellNamed)
    (hother : ∀ v, s.volumes.get? (p.claimName i) = some v → ¬ Drainable p v) :
    (s.round p).slot p i = (s.slot p i).settled := by
  obtain ⟨out, -, -, hc⟩ := completes_of_answer p h.faultless h.replicas
  have hsame := hc.slot_eq h.toOwned.quiet.toNamed hp hother
  exact (slot_finishDeletions _ p i).trans (congrArg Slot.settled hsame)

/-- The volumes listed after a round are those listed before it. -/
theorem Steady.listed_round (h : Steady p n s) (hp : p.WellNamed)
    (hstored : (s.round p).volumes.get? (p.claimName i) = some v') (hv' : Drainable p v') :
    ∃ v, s.volumes.get? (p.claimName i) = some v ∧ Drainable p v ∧ nameOf v' = nameOf v := by
  obtain ⟨out, -, -, hc⟩ := completes_of_answer p h.faultless h.replicas
  obtain ⟨v, hv, hname, hiff⟩ := hc.volume_before h.toOwned.quiet.toNamed hp hstored
  exact ⟨v, hv, hiff.1 hv', hname⟩

theorem Steady.stays_listed (h : Steady p n s) (hp : p.WellNamed)
    (hstored : s.volumes.get? (p.claimName i) = some v) (hv : Drainable p v) :
    ∃ v', (s.round p).volumes.get? (p.claimName i) = some v' ∧ Drainable p v' := by
  obtain ⟨u, σ₁, hacted, hround⟩ := h.acted hp hstored hv
  obtain ⟨v₁, hv₁, -, hiff⟩ := hacted.volume hstored
  exact ⟨v₁, (congrArg Slot.volume hround).trans hv₁, hiff.2 hv⟩

theorem Steady.round (h : Steady p n s) (hp : p.WellNamed) : Steady p n (s.round p) := by
  obtain ⟨out, -, hfaults, hc⟩ := completes_of_answer p h.faultless h.replicas
  obtain ⟨hpods, hjobs⟩ := get?_finishDeletions (run answer (drainPass p) s).2
  refine ⟨(hc.owned h.toOwned.quiet hp).of_fewer rfl hpods hjobs, hfaults,
    hc.pass.replicas_eq.trans h.replicas, fun i v' hstored hv' => ?_⟩
  obtain ⟨v, hv, hdrainable, hname⟩ := h.listed_round hp hstored hv'
  rw [drainerJob_congr hname]
  exact h.builds i v hv hdrainable

theorem Steady.still_round (h : Steady p n s) (hp : p.WellNamed) (i : Nat) :
    ((s.round p).slot p i).Still := by
  by_cases hlisted : ∃ v, s.volumes.get? (p.claimName i) = some v ∧ Drainable p v
  · obtain ⟨v, hv, hdrainable⟩ := hlisted
    obtain ⟨u, σ₁, -, hround⟩ := h.acted hp hv hdrainable
    rw [hround]
    exact settled_settled σ₁
  · rw [h.slot_eq hp fun v hv hdrainable => hlisted ⟨v, hv, hdrainable⟩]
    exact settled_settled _

/-- The first round leaves every listed volume at most two actions from rest. -/
theorem Steady.ranks_round (h : Steady p n s) (hp : p.WellNamed) :
    RanksBelow p n 2 (s.round p) := by
  intro i v' hstored hv'
  obtain ⟨v, hv, hdrainable, hname⟩ := h.listed_round hp hstored hv'
  have hvname := h.name_eq _ _ hv
  have hx : (s.slot p i).Shows p n i ((s.view p n).sight p v) := h.shows hp hvname hv
  have hy := (h.round hp).shows (n := n) hp (hname.trans hvname) hstored
  obtain ⟨u, σ₁, hacted, hround⟩ := h.acted hp hv hdrainable
  rw [hround] at hy
  -- What was on its way out has gone by itself, so the next sight only trails what was intended.
  have htrails := hacted.trails hx (nextAction_eq_iff.1 rfl) (.refl _) hy
  refine htrails.rank_le_two fun huse => hx.inUse.2 ?_
  exact (hy.inUse.1 huse).imp_left hacted.worked

/-- Every later round brings each listed volume one action closer to rest. -/
theorem Steady.ranks_round_of_still {r : Nat} (h : Steady p n s) (hp : p.WellNamed)
    (hstill : ∀ i, (s.slot p i).Still) (hr : RanksBelow p n r s) :
    RanksBelow p n (r - 1) (s.round p) := by
  intro i v' hstored hv'
  obtain ⟨v, hv, hdrainable, hname⟩ := h.listed_round hp hstored hv'
  have hvname := h.name_eq _ _ hv
  have hx : (s.slot p i).Shows p n i ((s.view p n).sight p v) := h.shows hp hvname hv
  have hy := (h.round hp).shows (n := n) hp (hname.trans hvname) hstored
  obtain ⟨u, σ₁, hacted, hround⟩ := h.acted hp hv hdrainable
  -- Nothing was on its way out, so the action takes its full effect.
  obtain ⟨hstarted, hgone, hremoved⟩ := hacted.settled_ends (hstill i)
  obtain ⟨inUse, hshows, huse⟩ := (hacted.settled (hstill i)).shows_made hx
    (nextAction_eq_iff.1 rfl) hstarted hgone hremoved
  rw [hround] at hy
  rw [hy.unique hshows]
  have hrank := Sight.rank_after_le huse
  have hbound := hr i v hv hdrainable
  exact Nat.le_trans hrank (Nat.sub_le_sub_right hbound 1)

/-! ## All rounds -/

theorem Steady.rounds (h : Steady p n s) (hp : p.WellNamed) (k : Nat) :
    Steady p n ((MemoryStore.round p)^[k] s) := by
  induction k with
  | zero => exact h
  | succ k ih =>
    rw [Function.iterate_succ_apply']
    exact ih.round hp

theorem Steady.ranks_rounds (h : Steady p n s) (hp : p.WellNamed) (k : Nat) :
    RanksBelow p n (2 - k) ((MemoryStore.round p)^[k + 1] s) := by
  induction k with
  | zero => exact h.ranks_round hp
  | succ k ih =>
    have hstill : ∀ i, (((MemoryStore.round p)^[k + 1] s).slot p i).Still := fun i => by
      rw [Function.iterate_succ_apply']
      exact (h.rounds hp k).still_round hp i
    rw [Function.iterate_succ_apply']
    exact (h.rounds hp (k + 1)).ranks_round_of_still hp hstill ih

theorem Steady.listed_rounds (h : Steady p n s) (hp : p.WellNamed) (k i : Nat) :
    (∃ v, ((MemoryStore.round p)^[k] s).volumes.get? (p.claimName i) = some v ∧ Drainable p v) ↔
      ∃ v, s.volumes.get? (p.claimName i) = some v ∧ Drainable p v := by
  induction k with
  | zero => exact Iff.rfl
  | succ k ih =>
    rw [← ih, Function.iterate_succ_apply']
    constructor
    · rintro ⟨v', hv', hdrainable⟩
      obtain ⟨v, hv, hdrainable, -⟩ := (h.rounds hp k).listed_round hp hv' hdrainable
      exact ⟨v, hv, hdrainable⟩
    · rintro ⟨v, hv, hdrainable⟩
      exact (h.rounds hp k).stays_listed hp hv hdrainable

/-! ## Rest -/

theorem Treats.eq_nil {σ : Snapshot} {volumes : List Claim} {t : List StoreExchange}
    (h : Treats p σ volumes t) (hplans : ∀ v ∈ volumes, planFor p σ v = []) : t = [] := by
  induction h with
  | stop => rfl
  | volume he _ ih =>
    rw [hplans _ List.mem_cons_self] at he
    rw [he.of_nil, List.nil_append]
    exact ih fun v hv => hplans v (List.mem_cons_of_mem _ hv)

theorem plan_eq_nil {seen : Option Job}
    (h : action = .none ∨ ∃ attempts, action = .reportFailure attempts) :
    plan p v seen action = [] := by
  rcases h with rfl | ⟨attempts, rfl⟩ <;> rfl

/-- Where every action is to do nothing, a pass makes its reads alone. -/
theorem Completes.reads {t : List StoreExchange} {out : PassOutcome} (hc : Completes p s t out s')
    (hn : s.replicas = .ok n)
    (hidle : ∀ v ∈ (s.view p n).volumes, actionFor p (s.view p n) v = .none ∨
      ∃ attempts, actionFor p (s.view p n) v = .reportFailure attempts) :
    t = (s.view p n).reads p := by
  obtain ⟨u, hn', rfl, hu, -⟩ := hc.volumes
  obtain rfl : n = out.replicas := Except.ok.inj (hn.symm.trans hn')
  rw [(treats_handleVolumes hu).eq_nil fun v hv => plan_eq_nil (hidle v hv), List.append_nil]

/-- What is left of a volume for which nothing is left to do, said of what is listed. -/
theorem rests_of_rank_eq_zero {σ : Snapshot} (h : (σ.sight p v).rank = 0) :
    (σ.Uses p (nameOf v) →
        ¬ LabelledDrained v ∧ σ.HasNoJob p (nameOf v) ∧ ¬ σ.HoldsOrdinalOf (nameOf v)) ∧
      (¬ σ.Uses p (nameOf v) →
        (LabelledDrained v ∧ σ.HasNoJob p (nameOf v) ∧ ¬ σ.HoldsOrdinalOf (nameOf v)) ∨
          ∃ job, σ.IsJobOf p (nameOf v) job ∧ ¬ HasSucceeded job) := by
  have huse : (σ.sight p v).inUse = true ↔ σ.Uses p (nameOf v) := Snapshot.inUse_iff
  have hnoJob : (σ.sight p v).job = none → σ.HasNoJob p (nameOf v) := fun hnone =>
    Snapshot.jobOf?_eq_none_iff.1 (Option.map_eq_none_iff.1 hnone)
  have hfree : (σ.sight p v).placeholder = false → ¬ σ.HoldsOrdinalOf (nameOf v) :=
    fun hfalse hholds => by
      have htrue : (σ.sight p v).placeholder = true := Snapshot.holdsOrdinalOf_iff.2 hholds
      rw [hfalse] at htrue
      cases htrue
  rcases Sight.rank_eq_zero_iff.1 h with ⟨hinUse, hmark, hjob, hheld⟩ | ⟨hunused, hrest⟩
  · refine ⟨fun _ => ⟨sight_unmarked_iff.1 hmark, hnoJob hjob, hfree hheld⟩, fun hnot => ?_⟩
    exact absurd (huse.1 hinUse) hnot
  · refine ⟨fun hused => ?_, fun _ => ?_⟩
    · rw [← huse, hunused] at hused
      cases hused
    · rcases hrest with ⟨hmark, hjob, hheld⟩ | ⟨progress, hprogress, hne⟩
      · exact .inl ⟨ofLabels_eq_drained_iff.1 hmark, hnoJob hjob, hfree hheld⟩
      · obtain ⟨job, hjob, rfl⟩ := Option.map_eq_some_iff.1 hprogress
        exact .inr ⟨job, Snapshot.jobOf?_eq_some_iff.1 hjob,
          fun hs => hne (progress_eq_succeeded_iff.2 hs)⟩

/-- Passes over a store that nobody else changes, in which no call fails and deletions come to their
end between passes, come to rest: after three of them, each further one makes its five reads and no
other call, and what it reads shows the volumes listed at first. Each of them that is in use is not
marked and has neither drain job nor placeholder; each that is not is drained and has neither, or
has a drain job that has not succeeded. -/
theorem passes_converge {k : Nat} (hp : p.WellNamed) (howned : Owned p s)
    (hfaults : s.faults = []) (hn : s.replicas = .ok n)
    (hbuilds : ∀ v ∈ (s.view p n).volumes, ∃ job, drainerJob p v = .ok job) (hk : 3 ≤ k) :
    let s' := (MemoryStore.round p)^[k] s
    let σ := s'.view p n
    (∃ out, (run answer (drainPass p) s').1 = .ok out) ∧
      transcript answer (drainPass p) s' = σ.reads p ∧
      (∀ name, (∃ v ∈ σ.volumes, nameOf v = name) ↔ ∃ v ∈ (s.view p n).volumes, nameOf v = name) ∧
      ∀ v ∈ σ.volumes,
        (σ.Uses p (nameOf v) →
          ¬ LabelledDrained v ∧ σ.HasNoJob p (nameOf v) ∧ ¬ σ.HoldsOrdinalOf (nameOf v)) ∧
        (¬ σ.Uses p (nameOf v) →
          (LabelledDrained v ∧ σ.HasNoJob p (nameOf v) ∧ ¬ σ.HoldsOrdinalOf (nameOf v)) ∨
            ∃ job, σ.IsJobOf p (nameOf v) job ∧ ¬ HasSucceeded job) := by
  intro s' σ
  have hsteady : Steady p n s := ⟨howned, hfaults, hn, fun i v hstored hv =>
    hbuilds v ((mem_volumes_view_iff_drainable hp).2 ⟨⟨_, hstored⟩, hv⟩)⟩
  have hlast : Steady p n s' := hsteady.rounds hp k
  have hranks : RanksBelow p n 0 s' := by
    have hbelow := hsteady.ranks_rounds hp (k - 1)
    rwa [Nat.sub_add_cancel (by omega), Nat.sub_eq_zero_of_le (by omega)] at hbelow
  have hzero : ∀ v ∈ σ.volumes, (σ.sight p v).rank = 0 := fun v hv => by
    obtain ⟨i, -, hstored⟩ := hlast.name_of_listed hp hv
    have hdrainable := ((mem_volumes_view_iff_drainable hp).1 hv).2
    exact Nat.le_zero.1 (hranks i v hstored hdrainable)
  obtain ⟨out, hout, -, hc⟩ := completes_of_answer p hlast.faultless hlast.replicas
  refine ⟨⟨out, hout⟩, ?_, fun name => ?_, fun v hv => rests_of_rank_eq_zero (hzero v hv)⟩
  · exact hc.reads hlast.replicas fun v hv => Sight.action_of_rank_eq_zero (hzero v hv)
  · rw [hlast.exists_listed_iff hp, howned.exists_listed_iff hp]
    exact exists_congr fun i => and_congr_right fun _ => hsteady.listed_rounds hp k i

/-- The pool is to have its worker back while its volume is drained. -/
def logsWantedBack : MemoryStore := { logsDraining with replicas := .ok 1 }

theorem completes_logsScaledDown : ∃ out, Completes logsPool logsScaledDown.quiet
    (transcript answer (drainPass logsPool) logsScaledDown) out logsDraining := by
  obtain ⟨out, -, -, hc⟩ := completes_of_answer (n := 0) logsPool (s := logsScaledDown) rfl rfl
  exact ⟨out, hc⟩

theorem owned_logsScaledDown : Owned logsPool logsScaledDown :=
  ⟨fresh_logsScaledDown.tidy.orderly, fun _ _ hjob => nomatch hjob⟩

theorem owned_logsWantedBack : Owned logsPool logsWantedBack := by
  obtain ⟨out, hc⟩ := completes_logsScaledDown
  exact (hc.owned owned_logsScaledDown.quiet wellNamed_logsPool).withReplicas (.ok 1)

theorem drainerJob_bareVolume_logsPool :
    ∃ job, drainerJob logsPool (bareVolume logsPool 0) = .ok job := by
  have hok : (drainerJob logsPool (bareVolume logsPool 0)).toOption.isSome = true := by
    decide +kernel
  cases hjob : drainerJob logsPool (bareVolume logsPool 0) with
  | error e =>
    rw [hjob] at hok
    cases hok
  | ok job => exact ⟨job, rfl⟩

theorem logsDraining_builds : ∀ v ∈ (logsDraining.view logsPool 0).volumes,
    ∃ job, drainerJob logsPool v = .ok job := by
  intro v hv
  obtain ⟨⟨key, hkey⟩, -⟩ := (mem_volumes_view_iff wellNamed_logsPool).1 hv
  obtain ⟨out, hc⟩ := completes_logsScaledDown
  have hnames : ∀ key v, logsDraining.volumes.get? key = some v →
      nameOf v = nameOf (bareVolume logsPool 0) := by
    refine hc.kept owned_logsScaledDown.quiet.toNamed wellNamed_logsPool
      (I := fun s => ∀ key v, s.volumes.get? key = some v →
        nameOf v = nameOf (bareVolume logsPool 0))
      (fun _ hjustified ha h =>
        forall_volumes_of_answers h (fun _ _ _ hname => hname) hjustified ha) ?_
    refine KeyMap.forall_get?_ofList (l := [(logsPool.claimName 0, bareVolume logsPool 0)]) ?_
    exact List.forall_mem_singleton.2 rfl
  rw [drainerJob_congr (hnames key v hkey)]
  exact drainerJob_bareVolume_logsPool

/-- The drain is cancelled and its ordinal released; after three passes nothing is left to do. -/
theorem passes_converge_logs :
    let s' := (MemoryStore.round logsPool)^[3] logsWantedBack
    transcript answer (drainPass logsPool) s' = (s'.view logsPool 1).reads logsPool ∧
      ∀ v ∈ (s'.view logsPool 1).volumes, (s'.view logsPool 1).Uses logsPool (nameOf v) →
        (s'.view logsPool 1).HasNoJob logsPool (nameOf v) :=
  have hconverge := passes_converge wellNamed_logsPool owned_logsWantedBack rfl rfl
    (forall_volumes_withReplicas logsDraining_builds (.ok 1) 1) (Nat.le_refl 3)
  ⟨hconverge.2.1, fun v hv huse => ((hconverge.2.2.2 v hv).1 huse).2.1⟩

end VolumeDrain.Drain
