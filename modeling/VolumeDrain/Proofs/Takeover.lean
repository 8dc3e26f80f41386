import Mathlib.Data.List.Nodup
import VolumeDrain.Proofs.Leftover
import VolumeDrain.Proofs.Orderly
import VolumeDrain.Proofs.Settling
import VolumeDrain.Proofs.Steps

/-!
# Placeholders and the pods of workers

A pass decides by the names of volumes which are in use, and addresses placeholders and drain jobs
by the number at the end of a volume's name. Where volumes, pods and jobs are named as the stateful
set and the operator name them, and the controller makes no workers beyond the replica count that
the pass observed, the two agree: a placeholder is written only where there is no pod or another
placeholder, and none is removed beside an unfinished job. Without any one of these conditions the
two can differ.
-/
namespace VolumeDrain.Drain

open Api Manifest Script

/-! ## Names of a cluster -/

/-- The number at the end of the volume's name. -/
def HasOrdinal (v : Claim) (i : Nat) : Prop := Text.trailingOrdinal? (nameOf v) = some i

/-- A listed volume with a number at the end of its name is the volume of that ordinal. -/
def NamesVolumes (p : BufferPool) (s : Snapshot) : Prop :=
  ∀ v ∈ s.volumes, ∀ i, HasOrdinal v i → nameOf v = p.claimName i

/-- A pod stored under the name that belongs to the number of a listed volume is a worker that binds
the volume of that ordinal, or a placeholder. -/
def NamesPods (p : BufferPool) (s : Snapshot) (pods : KeyMap Pod) : Prop :=
  ∀ v ∈ s.volumes, ∀ i pod, HasOrdinal v i → pods.get? (p.placeholderName i) = some pod →
    Works p i pod ∨ Reserves p i pod

/-- The listed jobs with the name that belongs to the number of a listed volume are those that bind
this volume. -/
def NamesJobs (p : BufferPool) (s : Snapshot) : Prop :=
  ∀ v ∈ s.volumes, ∀ i, HasOrdinal v i → ∀ job ∈ s.jobs,
    nameOf job = p.drainerName i ↔ job.claimOf p.bufferVolumeName = some (nameOf v)

/-- No two objects of one kind are listed under the same name. -/
structure Snapshot.Distinct (s : Snapshot) : Prop where
  volumes : (s.volumes.map nameOf).Nodup
  jobs : (s.jobs.map nameOf).Nodup

/-! ## Calls of a pass while workers are made -/

/-- How a call of a pass is answered while the controller makes workers for ordinals below a number.
Pods are listed as they are stored and settled by requests; of volumes, jobs and the replica count
anything may be answered. -/
inductive Meets (p : BufferPool) (n : Int32) :
    (call : StoreCall) → PodStore → call.Reply → PodStore → Prop
  | listed {w mid : PodStore} (h : Staffs p n w mid) (ns selector : String) :
      Meets p n (.listPods ns selector) w (.ok (MemoryStore.selected mid.pods selector)) mid
  | unlisted {w mid : PodStore} (h : Staffs p n w mid) (ns selector : String) (e : OperatorError) :
      Meets p n (.listPods ns selector) w (.error e) mid
  | settled {pod : Pod} {presence : Presence} {w w' : PodStore}
      {r : Except OperatorError (Option Delay)}
      (h : Yields (Amid p n) (settle pod presence).run w r w') :
      Meets p n (.settlePod pod presence) w r w'
  | other {call : StoreCall} {w mid : PodStore} (h : Staffs p n w mid)
      (hlist : ∀ ns selector, call ≠ .listPods ns selector)
      (hsettle : ∀ pod presence, call ≠ .settlePod pod presence) (r : call.Reply) :
      Meets p n call w r mid

/-- A write of a pod is harmless, by the pod's name and what was stored under it: this is no ordinal
below the observed replica count, and there was nothing or a placeholder that was not being
deleted. -/
def Harmless (p : BufferPool) (s : Snapshot) (write : String × Option Pod) : Prop :=
  ∃ i : Nat, write.1 = p.placeholderName i ∧ s.replicas.toInt ≤ i ∧
    ∀ pod, write.2 = some pod → Holds p i pod

/-- The pass spares the workers: a placeholder is asked for only at an ordinal that is not below the
observed replica count, and over a pod that is being deleted nothing is written; all writes are
harmless; and no placeholder is asked to go of an ordinal with an unfinished job. -/
structure SparesWorkers (p : BufferPool) (n : Int32) (s : Snapshot) (t : List StoreExchange)
    (w w' : PodStore) : Prop where
  present : ∀ pod r, ⟨.settlePod pod .present, r⟩ ∈ t →
    (∃ i : Nat, nameOf pod = p.placeholderName i ∧ s.replicas.toInt ≤ i) ∧
      ∀ w₁ w₂ stored, Meets p n (.settlePod pod .present) w₁ r w₂ →
        w₁.pods.get? (nameOf pod) = some stored → stored.metadata.isTerminating = true →
        w₂.writes = w₁.writes ∧ ∀ delay, r = .ok delay → delay = some terminatingDelay
  written : ∃ writes, w'.writes = w.writes ++ writes ∧ ∀ write ∈ writes, Harmless p s write
  absent : ∀ pod r, ⟨.settlePod pod .absent, r⟩ ∈ t →
    ∃ i, nameOf pod = p.placeholderName i ∧
      ∀ job ∈ s.jobs, nameOf job = p.drainerName i → HasSucceeded job

variable {p : BufferPool} {n : Int32} {s : Snapshot} {v : Claim} {pod : Pod} {i : Nat}
  {w w' : PodStore}

theorem ordinal_of_placeholderPod (h : placeholderPod p v = .ok pod) :
    ∃ i, HasOrdinal v i ∧ pod.metadata = p.ownedMeta (p.placeholderName i) .placeholder := by
  obtain ⟨i, hi, hmeta⟩ := metadata_placeholderPod h
  exact ⟨i, trailingOrdinal_of_claimOrdinal hi, hmeta⟩

/-- The ordinal of a volume that is not in use is not below the replica count. -/
theorem replicas_le_of_unused (hname : nameOf v = p.claimName i)
    (hunused : ¬ s.Uses p (nameOf v)) : s.replicas.toInt ≤ i :=
  Int.not_lt.1 fun hlt => hunused (.inr ⟨i, Int.natCast_nonneg i, hlt, hname⟩)

theorem unstaffed_placeholderName (h : n.toInt ≤ i) : Unstaffed p n (p.placeholderName i) := by
  intro j hj heq
  obtain rfl := p.placeholderName_inj.1 heq
  omega

/-! ## What a call leaves alone -/

/-- No pod is touched but the placeholder of the volume that the call is for and what the controller
makes. -/
theorem Meets.get?_eq {c : StoreCall} {r : c.Reply} {name : String} (h : Meets p n c w r w')
    (hc : Justified p s v c) (hother : ∀ i, HasOrdinal v i → name ≠ p.placeholderName i)
    (hname : Unstaffed p n name) : w'.pods.get? name = w.pods.get? name := by
  cases h with
  | listed h => exact h.get?_eq hname
  | unlisted h => exact h.get?_eq hname
  | @settled pod presence _ _ _ h =>
    cases presence with
    | present =>
      obtain ⟨i, hi, hmeta⟩ := ordinal_of_placeholderPod hc.1
      exact (places_of_settlePod hmeta h).get?_eq (hother i hi) hname
    | absent =>
      obtain ⟨i, hi, hmeta⟩ := ordinal_of_placeholderPod hc.1
      exact (kept_of_settlePod_absent hmeta h).2 name (hother i hi) hname
  | other h => exact h.get?_eq hname

theorem get?_eq_of_follows {u : List StoreExchange} {name : String}
    (h : Follows (Meets p n) u w w') (hu : ∀ e ∈ u, Justified p s v e.question)
    (hother : ∀ i, HasOrdinal v i → name ≠ p.placeholderName i) (hname : Unstaffed p n name) :
    w'.pods.get? name = w.pods.get? name := by
  induction u generalizing w with
  | nil => rw [h]
  | cons e u ih =>
    obtain ⟨mid, hmeets, hrest⟩ := h
    obtain ⟨he, hu⟩ := List.forall_mem_cons.1 hu
    rw [ih hrest hu, hmeets.get?_eq he hother hname]

theorem Meets.writes_eq {c : StoreCall} {r : c.Reply} (h : Meets p n c w r w')
    (hc : Justified p s v c) (hpresent : ∀ pod, c ≠ .settlePod pod .present) :
    w'.writes = w.writes := by
  cases h with
  | listed h => exact h.writes_eq
  | unlisted h => exact h.writes_eq
  | @settled pod presence _ _ _ h =>
    cases presence with
    | present => exact absurd rfl (hpresent pod)
    | absent =>
      obtain ⟨i, -, hmeta⟩ := ordinal_of_placeholderPod hc.1
      exact (kept_of_settlePod_absent hmeta h).1
  | other h => exact h.writes_eq

theorem writes_eq_of_follows {u : List StoreExchange} (h : Follows (Meets p n) u w w')
    (hu : ∀ e ∈ u, Justified p s v e.question)
    (hpresent : ∀ e ∈ u, ∀ pod, e.question ≠ .settlePod pod .present) :
    w'.writes = w.writes := by
  induction u generalizing w with
  | nil => rw [h]
  | cons e u ih =>
    obtain ⟨mid, hmeets, hrest⟩ := h
    obtain ⟨he, hu⟩ := List.forall_mem_cons.1 hu
    obtain ⟨hne, hpresent⟩ := List.forall_mem_cons.1 hpresent
    rw [ih hrest hu hpresent, hmeets.writes_eq he hne]

/-- Only a plan that starts a drain asks for a placeholder, and it does so first of all. -/
theorem planFor_present (p : BufferPool) (s : Snapshot) (v : Claim) :
    (∀ c ∈ planFor p s v, ∀ pod, c ≠ .settlePod pod .present) ∨
      ∃ pod job, planFor p s v = [.settlePod pod .present, .settleJob job .present] := by
  rw [planFor]
  generalize s.jobOf? p (nameOf v) = job
  cases actionFor p s v with
  | none | reclaim | reportFailure attempts => exact .inl (by simp [plan])
  | finish =>
    refine .inl ?_
    cases hp : placeholderPod p v <;> cases job <;> simp [plan, hp]
  | cancel =>
    refine .inl ?_
    cases job with
    | none => simp [plan]
    | some job => cases hd : job.metadata.isTerminating <;> simp [plan, hd]
  | release =>
    refine .inl ?_
    cases hp : placeholderPod p v <;> simp [plan, hp]
  | start =>
    cases hp : placeholderPod p v with
    | error e => exact .inl (by simp [plan, hp])
    | ok pod =>
      cases hj : drainerJob p v with
      | error e => exact .inl (by simp [plan, hp, hj])
      | ok job => exact .inr ⟨pod, job, by simp [plan, hp, hj]⟩

/-- The turn of a volume writes nothing, or its placeholder over what was there before. -/
theorem writes_of_enacts {u : List StoreExchange} {left : List StoreCall}
    (hname : ∀ i, HasOrdinal v i → nameOf v = p.claimName i)
    (henacts : Enacts (planFor p s v) u left) (h : Follows (Meets p s.replicas) u w w') :
    w'.writes = w.writes ∨ ∃ i, HasOrdinal v i ∧ ¬ s.Uses p (nameOf v) ∧
      w'.writes = w.writes ++ [(p.placeholderName i, w.pods.get? (p.placeholderName i))] ∧
      ∀ stored, w.pods.get? (p.placeholderName i) = some stored →
        stored.metadata.isTerminating = false := by
  have hjustified : ∀ e ∈ u, Justified p s v e.question := fun e he =>
    justified_of_mem_planFor (henacts.mem_plan he)
  rcases planFor_present p s v with hnone | ⟨pod, job, hplan⟩
  · exact .inl (writes_eq_of_follows h hjustified fun e he => hnone _ (henacts.mem_plan he))
  · rw [hplan] at henacts
    rcases henacts.of_cons with ⟨rfl, -⟩ | ⟨r, rest, rfl, hrest⟩
    · exact .inl (by rw [h])
    · obtain ⟨hfirst, hlater⟩ := List.forall_mem_cons.1 hjustified
      obtain ⟨mid, hmeets, hfollows⟩ := h
      have hkept : w'.writes = mid.writes := by
        refine writes_eq_of_follows hfollows hlater fun e he pod => ?_
        rcases hrest with ⟨rfl, -⟩ | ⟨-, hrest⟩
        · cases he
        · rw [List.mem_singleton.1 (hrest.mem_plan he)]
          nofun
      obtain ⟨i, hi, hmeta⟩ := ordinal_of_placeholderPod hfirst.1
      have hunused := hfirst.2.2.1
      have hunstaffed : Unstaffed p s.replicas (p.placeholderName i) :=
        unstaffed_placeholderName (replicas_le_of_unused (hname i hi) hunused)
      cases hmeets with
      | settled hsettle =>
        rcases (places_of_settlePod hmeta hsettle).writes_eq hunstaffed with hsame | ⟨hnew, halive⟩
        · exact .inl (hkept.trans hsame)
        · exact .inr ⟨i, hi, hunused, hkept.trans hnew, halive⟩
      | other _ _ hsettle => exact absurd rfl (hsettle _ _)

/-- Volumes dealt with in turn write only over what was stored when their snapshot was taken. -/
theorem writes_of_treats {volumes : List Claim} {t : List StoreExchange}
    (ht : Treats p s volumes t) (hlisted : ∀ v ∈ volumes, v ∈ s.volumes)
    (hdistinct : (volumes.map nameOf).Nodup) (hnames : NamesVolumes p s)
    (hstored : ∀ v ∈ volumes, ∀ i pod, HasOrdinal v i → ¬ s.Uses p (nameOf v) →
      w.pods.get? (p.placeholderName i) = some pod → Reserves p i pod)
    (h : Follows (Meets p s.replicas) t w w') :
    ∃ writes, w'.writes = w.writes ++ writes ∧ ∀ write ∈ writes, Harmless p s write := by
  -- Over the turns, carrying along what is known of the stored pods for the volumes that are left.
  induction ht generalizing w with
  | stop => exact ⟨[], by rw [h, List.append_nil], by simp⟩
  | @volume v volumes t u left henacts _ ih =>
    obtain ⟨mid, hfirst, hrest⟩ := follows_append.1 h
    obtain ⟨hnew, hdistinct⟩ := List.nodup_cons.1 hdistinct
    obtain ⟨hv, hlisted⟩ := List.forall_mem_cons.1 hlisted
    have hname := hnames v hv
    -- What is stored for the volumes still to come is not touched by this turn: their placeholders
    -- have other names, and the controller makes nothing where a volume is unused.
    have hmid : ∀ v' ∈ volumes, ∀ i pod, HasOrdinal v' i → ¬ s.Uses p (nameOf v') →
        mid.pods.get? (p.placeholderName i) = some pod → Reserves p i pod := by
      intro v' hv' i pod hi hunused hpod
      refine hstored v' (List.mem_cons_of_mem _ hv') i pod hi hunused ?_
      have hname' := hnames v' (hlisted v' hv') i hi
      rwa [get?_eq_of_follows hfirst
        (fun e he => justified_of_mem_planFor (henacts.mem_plan he)) (fun j hj heq => ?_)
        (unstaffed_placeholderName (replicas_le_of_unused hname' hunused))] at hpod
      obtain rfl := p.placeholderName_inj.1 heq
      exact hnew ((hname i hj).trans hname'.symm ▸ List.mem_map_of_mem hv')
    obtain ⟨later, hlater, hharmless⟩ := ih hlisted hdistinct hmid hrest
    rcases writes_of_enacts hname henacts hfirst with hsame | ⟨i, hi, hunused, hwritten, halive⟩
    · exact ⟨later, by rw [hlater, hsame], hharmless⟩
    · refine ⟨_ :: later, by rw [hlater, hwritten, List.append_assoc]; rfl,
        List.forall_mem_cons.2 ⟨?_, hharmless⟩⟩
      refine ⟨i, rfl, replicas_le_of_unused (hname i hi) hunused, fun pod hpod => ?_⟩
      have hreserves := hstored v List.mem_cons_self i pod hi hunused hpod
      refine { hreserves with alive := ?_ }
      simpa [ObjectMeta.isTerminating] using halive pod hpod

/-! ## What is read -/

theorem Meets.of_listPods {ns selector : String} {r : Except OperatorError (List Pod)}
    (h : Meets p n (.listPods ns selector) w r w') :
    Staffs p n w w' ∧ ∀ found, r = .ok found → found = MemoryStore.selected w'.pods selector := by
  cases h with
  | listed h => exact ⟨h, fun found hr => (Except.ok.inj hr).symm⟩
  | unlisted h => exact ⟨h, nofun⟩
  | other _ hlist => exact absurd rfl (hlist _ _)

theorem Meets.staffs_of_read {c : StoreCall} {r : c.Reply} (h : Meets p n c w r w')
    (hc : c ∈ readPlan p) : Staffs p n w w' := by
  cases h with
  | listed h => exact h
  | unlisted h => exact h
  | settled => simp [readPlan] at hc
  | other h => exact h

theorem staffs_of_reads {u : List StoreExchange} (h : Follows (Meets p n) u w w')
    (hu : ∀ e ∈ u, e.question ∈ readPlan p) : Staffs p n w w' := by
  induction u generalizing w with
  | nil =>
    rw [h]
    exact .idle w
  | cons e u ih =>
    obtain ⟨mid, hmeets, hrest⟩ := h
    obtain ⟨he, hu⟩ := List.forall_mem_cons.1 hu
    exact (hmeets.staffs_of_read he).trans (ih hrest hu)

/-- A worker that is stored when the pass begins is listed. -/
theorem listed_of_reads (hp : p.WellNamed) (h : Follows (Meets p n) (s.reads p) w w')
    {name : String} (hpod : w.pods.get? name = some pod)
    (hplays : p.Plays .worker pod.metadata.labelMap) : pod ∈ s.workers := by
  obtain ⟨w₁, hvolumes, w₂, hworkers, -⟩ := h
  obtain ⟨hstaffs, hfound⟩ := Meets.of_listPods hworkers
  have hread := hvolumes.staffs_of_read (by simp [readPlan])
  rw [hfound _ rfl, MemoryStore.mem_selected_iff]
  exact ⟨⟨name, (hread.trans hstaffs).get?_of_some hpod⟩,
    (BufferPool.holds_selector_iff hp).2 hplays⟩

/-- At an unused ordinal there was a placeholder before the pass began, or nothing. -/
theorem reserves_of_unused (hp : p.WellNamed) (h : Follows (Meets p n) (s.reads p) w w')
    (hpods : NamesPods p s w.pods) (hv : v ∈ s.volumes) (hi : HasOrdinal v i)
    (hname : nameOf v = p.claimName i) (hunused : ¬ s.Uses p (nameOf v))
    (hpod : w.pods.get? (p.placeholderName i) = some pod) : Reserves p i pod := by
  refine (hpods v hv i pod hi hpod).resolve_left fun hworks => hunused (.inl ?_)
  obtain ⟨spec, hspec, hbinds⟩ := hworks.binds
  exact ⟨pod, listed_of_reads hp h hpod hworks.plays, spec, hspec, hname ▸ hbinds⟩

/-! ## The pass -/

/-- No listed job of an ordinal is unfinished when its placeholder is asked to go. -/
theorem succeeded_of_justified_absent (hdistinct : s.Distinct) (hjobs : NamesJobs p s)
    (hv : v ∈ s.volumes) (hc : Justified p s v (.settlePod pod .absent)) :
    ∃ i, nameOf pod = p.placeholderName i ∧
      ∀ job ∈ s.jobs, nameOf job = p.drainerName i → HasSucceeded job := by
  obtain ⟨hpod, hreason⟩ := hc
  obtain ⟨i, hi, hmeta⟩ := ordinal_of_placeholderPod hpod
  refine ⟨i, congrArg ObjectMeta.nameOrStem hmeta, fun job hjob hname => ?_⟩
  have hbinds := (hjobs v hv i hi job hjob).1 hname
  rcases hreason with ⟨finished, hof, hsucceeded, -⟩ | ⟨hnone, -⟩
  · obtain ⟨before, after, hlist, hfinished, -⟩ := hof
    have hmem : finished ∈ s.jobs := by simp [hlist]
    have hsame := (hjobs v hv i hi finished hmem).2 hfinished
    rwa [List.inj_on_of_nodup_map hdistinct.jobs hjob hmem (hname.trans hsame.symm)]
  · exact absurd hbinds (hnone job hjob)

theorem ordinal_of_justified_present (hnames : NamesVolumes p s) (hv : v ∈ s.volumes)
    (hc : Justified p s v (.settlePod pod .present)) :
    ∃ i : Nat, pod.metadata = p.ownedMeta (p.placeholderName i) .placeholder ∧
      s.replicas.toInt ≤ i := by
  obtain ⟨hpod, -, hunused, -⟩ := hc
  obtain ⟨i, hi, hmeta⟩ := ordinal_of_placeholderPod hpod
  exact ⟨i, hmeta, replicas_le_of_unused (hnames v hv i hi) hunused⟩

/-- Whatever workers the controller makes below the observed replica count while a pass runs, and
wherever the pass is cut off, it spares the workers, if volumes, pods and jobs are named as they
are to be. -/
theorem spares_workers {t : List StoreExchange}
    {rest : StoreScript (Except OperatorError PassOutcome)} (hp : p.WellNamed)
    (hdistinct : s.Distinct) (hvolumes : NamesVolumes p s) (hpods : NamesPods p s w.pods)
    (hjobs : NamesJobs p s) (hcalls : Exchanges (drainPass p) (s.reads p ++ t) rest)
    (hanswers : Follows (Meets p s.replicas) (s.reads p ++ t) w w') :
    SparesWorkers p s.replicas s t w w' := by
  have htreats := treats_of_drainPass hcalls
  obtain ⟨mid, hreads, hturns⟩ := follows_append.1 hanswers
  have hstaffs := staffs_of_reads hreads fun e he => read_of_mem_reads he
  refine ⟨fun pod r hmem => ?_, ?_, fun pod r hmem => ?_⟩
  -- The first and the last follow from what each single call goes by, the writes from the run.
  · obtain ⟨v, hv, hjustified⟩ := htreats.justified hmem
    obtain ⟨i, hmeta, hi⟩ := ordinal_of_justified_present hvolumes hv hjustified
    have hname : nameOf pod = p.placeholderName i := congrArg ObjectMeta.nameOrStem hmeta
    refine ⟨⟨i, hname, hi⟩, fun w₁ w₂ stored hmeets hstored hdying => ?_⟩
    cases hmeets with
    | settled h => exact (places_of_settlePod hmeta h).of_terminating (hname ▸ hstored) hdying
    | other _ _ hsettle => exact absurd rfl (hsettle _ _)
  · rw [← hstaffs.writes_eq]
    refine writes_of_treats htreats (fun _ hv => hv) hdistinct.volumes hvolumes ?_ hturns
    intro v hv i pod hi hunused hpod
    have hname := hvolumes v hv i hi
    rw [hstaffs.get?_eq (unstaffed_placeholderName (replicas_le_of_unused hname hunused))] at hpod
    exact reserves_of_unused hp hreads hpods hv hi hname hunused hpod
  · obtain ⟨v, hv, hjustified⟩ := htreats.justified hmem
    exact succeeded_of_justified_absent hdistinct hjobs hv hjustified

/-! ## A pass beside the controller -/

section

variable {store : MemoryStore} {m : Int32}

/-- What a pass sees of an orderly cluster is named as it is to be. -/
theorem Named.namesVolumes (h : Named p store) (hp : p.WellNamed) :
    NamesVolumes p (store.view p m) := by
  intro v hv i hi
  obtain ⟨j, hname, -⟩ := h.name_of_listed hp hv
  rw [HasOrdinal, hname, p.trailingOrdinal?_claimName] at hi
  split at hi
  · rw [hname, Option.some.inj hi]
  · cases hi

theorem Orderly.namesPods (h : Orderly p store) : NamesPods p s store.pods :=
  fun _ _ i pod _ hpod => h.role _ pod hpod i rfl

theorem Named.namesJobs (h : Named p store) (hp : p.WellNamed) :
    NamesJobs p (store.view p m) := by
  intro v hv i hi job hjob
  obtain ⟨⟨key, hkey⟩, hholds⟩ := MemoryStore.mem_selected_iff.1 hjob
  obtain ⟨j, hdrains⟩ :=
    (h.jobs key job hkey).drainer ((BufferPool.holds_selector_iff hp).1 hholds)
  rw [h.namesVolumes hp v hv i hi, hdrains.name_eq, hdrains.binds, p.drainerName_inj,
    Option.some_inj, p.claimName_inj]

theorem Named.distinct (h : Named p store) : (store.view p m).Distinct where
  volumes := List.pairwise_map.2 h.listed_distinct
  jobs := List.pairwise_map.2 <|
    selected_distinct (fun key job hjob => (h.jobs key job hjob).name_eq) _

end

/-- A snapshot that lists the stored pods can be taken while no worker is made. -/
theorem follows_reads_of (hworkers : s.workers = MemoryStore.selected w.pods (p.selector .worker))
    (hplaceholders : s.placeholders = MemoryStore.selected w.pods (p.selector .placeholder)) :
    Follows (Meets p n) (s.reads p) w w := by
  refine ⟨w, .other (.idle w) (by simp) (by simp) _, w, ?_, w, ?_, w,
    .other (.idle w) (by simp) (by simp) _, w, .other (.idle w) (by simp) (by simp) _, rfl⟩
  · rw [hworkers]
    exact .listed (.idle w) _ _
  · rw [hplaceholders]
    exact .listed (.idle w) _ _

theorem follows_reads_view (store : MemoryStore) (m : Int32) :
    Follows (Meets p n) ((store.view p m).reads p) { pods := store.pods } { pods := store.pods } :=
  follows_reads_of rfl rfl

/-- An object with the labels of one role is selected for this role alone. -/
theorem holds_of_plays {α : Type} [Resource α] {a : α} {role : Role} (hp : p.WellNamed)
    (hplays : p.Plays role (metadata a).labelMap) (seen : Role) :
    (Selector.read (p.selector seen)).holds (metadata a).labelMap = decide (seen = role) := by
  rw [Bool.eq_iff_iff, BufferPool.holds_selector_iff hp, decide_eq_true_iff]
  exact ⟨fun h => h.role_eq hplays, fun h => h ▸ hplays⟩

theorem hasOrdinal_of_name (hname : nameOf v = p.claimName i) (hi : i ≤ Text.maxOrdinal) :
    HasOrdinal v i := by
  rw [HasOrdinal, hname, p.trailingOrdinal?_claimName, if_pos hi]

theorem claimOrdinal_of_hasOrdinal (hv : HasOrdinal v i) : claimOrdinal v = .ok i := by
  rw [claimOrdinal, show Text.trailingOrdinal? (nameOf v) = some i from hv]

theorem exists_placeholder (p : BufferPool) (hv : HasOrdinal v i) :
    ∃ pod, placeholderPod p v = .ok pod ∧
      pod.metadata = p.ownedMeta (p.placeholderName i) .placeholder := by
  rw [placeholderPod, claimOrdinal_of_hasOrdinal hv]
  exact ⟨_, rfl, rfl⟩

theorem planFor_start {job : Job} (hstart : actionFor p s v = .start)
    (hpod : placeholderPod p v = .ok pod) (hjob : drainerJob p v = .ok job) :
    planFor p s v = [.settlePod pod .present, .settleJob job .present] := by
  rw [planFor, hstart, plan, hpod, hjob]

theorem planFor_finish {job : Job} (hfinish : actionFor p s v = .finish)
    (hjob : s.jobOf? p (nameOf v) = some job) (hpod : placeholderPod p v = .ok pod) :
    planFor p s v =
      [.mark v .drained, .settlePod pod .absent, .deleteJob job .background] := by
  rw [planFor, hfinish, hjob, plan, hpod]

/-- The pool `logs` in the namespace `logging`. -/
def loggingPool : BufferPool :=
  { logsPool with metadata := { logsPool.metadata with namespaceName := some "logging" } }

theorem wellNamed_loggingPool : loggingPool.WellNamed := by decide

theorem exists_loggingJob (hv : HasOrdinal v i) : ∃ job, drainerJob loggingPool v = .ok job := by
  rw [drainerJob, claimOrdinal_of_hasOrdinal hv]
  exact ⟨_, rfl⟩

/-- A placeholder of this pool is stored as it is sent. -/
theorem decode_loggingPlaceholder (h : placeholderPod loggingPool v = .ok pod) :
    decode (encode pod) = (.ok pod : Decoded Pod) := by
  obtain ⟨i, hi, -⟩ := ordinal_of_placeholderPod h
  rw [placeholderPod, claimOrdinal_of_hasOrdinal hi] at h
  cases h
  rfl

/-- A placeholder with no more than makes it one. -/
def barePlaceholder (p : BufferPool) (ordinal : Nat) : Pod where
  metadata := p.ownedMeta (p.placeholderName ordinal) .placeholder

theorem reserves_barePlaceholder (p : BufferPool) (i : Nat) :
    Reserves p i (barePlaceholder p i) where
  name_eq := rfl
  plays := BufferPool.plays_labels

/-- A drain job that has succeeded. -/
def succeededJob (p : BufferPool) (ordinal : Nat) : Job where
  metadata := p.ownedMeta (p.drainerName ordinal) .drainer
  spec := some { template := { spec := (bareWorker p ordinal).spec } }
  status := some succeededStatus

theorem drains_succeededJob (p : BufferPool) (hi : i ≤ Text.maxOrdinal) :
    Drains p i (succeededJob p i) where
  name_eq := rfl
  plays := BufferPool.plays_labels
  binds := by
    obtain ⟨spec, hspec, hbinds⟩ := (works_bareWorker p i).binds
    simp [Job.claimOf, succeededJob, hspec, hbinds]
  ordinal_le := hi

/-- Of four volumes the first two are to have workers, and the second one has not got its worker
yet. The third is to be drained. The fourth is drained, and its job and placeholder are still
there. -/
def loggingStore : MemoryStore where
  volumes := .ofList <| (List.range 4).map fun (i : Nat) =>
    (loggingPool.claimName i, bareVolume loggingPool i)
  pods := .ofList
    [(loggingPool.placeholderName 0, bareWorker loggingPool 0),
     (loggingPool.placeholderName 3, barePlaceholder loggingPool 3)]
  jobs := .ofList [(loggingPool.drainerName 3, succeededJob loggingPool 3)]

theorem orderly_loggingStore : Orderly loggingPool loggingStore := by
  refine .of_proper ?_ ?_ ?_ ?_
  · refine KeyMap.forall_get?_ofList fun e he => ?_
    obtain ⟨i, -, rfl⟩ := List.mem_map.1 he
    rfl
  · refine KeyMap.forall_get?_ofList fun e he _ => ?_
    obtain ⟨i, -, rfl⟩ := List.mem_map.1 he
    exact ⟨i, rfl⟩
  · refine KeyMap.forall_get?_ofList fun e he => ?_
    simp only [List.mem_cons, List.not_mem_nil, or_false] at he
    rcases he with rfl | rfl
    · exact (works_bareWorker loggingPool 0).proper
    · exact (reserves_barePlaceholder loggingPool 3).proper
  · refine KeyMap.forall_get?_ofList fun e he => ?_
    obtain rfl := List.mem_singleton.1 he
    exact (drains_succeededJob loggingPool (by decide)).proper

/-- What a pass sees of it while two workers are wanted. -/
def loggingView : Snapshot where
  volumes := [0, 1, 2, 3].map (bareVolume loggingPool)
  workers := [bareWorker loggingPool 0]
  placeholders := [barePlaceholder loggingPool 3]
  replicas := 2
  jobs := [succeededJob loggingPool 3]

theorem view_loggingStore : loggingStore.view loggingPool 2 = loggingView := by
  have hvolumes : MemoryStore.selected loggingStore.volumes loggingPool.drainableSelector =
      [0, 1, 2, 3].map (bareVolume loggingPool) := by
    refine List.filter_eq_self.2 fun v hv => ?_
    have hbare : v ∈ [0, 1, 2, 3].map (bareVolume loggingPool) := hv
    obtain ⟨i, -, rfl⟩ := List.mem_map.1 hbare
    exact (BufferPool.holds_drainableSelector_iff wellNamed_loggingPool).2
      (drainable_bareVolume loggingPool i)
  have hworker := holds_of_plays (a := bareWorker loggingPool 0) wellNamed_loggingPool
    (works_bareWorker loggingPool 0).plays
  have hplaceholder := holds_of_plays (a := barePlaceholder loggingPool 3) wellNamed_loggingPool
    (reserves_barePlaceholder loggingPool 3).plays
  have hdrainer := holds_of_plays (a := succeededJob loggingPool 3) wellNamed_loggingPool
    (drains_succeededJob loggingPool (by decide)).plays
  have hpods : loggingStore.pods.values =
      [bareWorker loggingPool 0, barePlaceholder loggingPool 3] := rfl
  have hjobs : loggingStore.jobs.values = [succeededJob loggingPool 3] := rfl
  rw [MemoryStore.view, hvolumes]
  simp only [MemoryStore.selected, hpods, hjobs, List.filter_cons, List.filter_nil, hworker,
    hplaceholder, hdrainer]
  rfl

/-- The calls of a pass that starts the drain of the third volume and finishes that of the
fourth. -/
def loggingCalls (pod gone : Pod) (job : Job) : List StoreExchange :=
  [⟨.settlePod pod .present, .ok none⟩, ⟨.settleJob job .present, .ok none⟩,
   ⟨.mark (bareVolume loggingPool 3) .drained, .ok ()⟩, ⟨.settlePod gone .absent, .ok none⟩,
   ⟨.deleteJob (succeededJob loggingPool 3) .background, .ok ()⟩]

theorem exchanges_loggingCalls {pod gone : Pod} {job : Job}
    (hpod : placeholderPod loggingPool (bareVolume loggingPool 2) = .ok pod)
    (hjob : drainerJob loggingPool (bareVolume loggingPool 2) = .ok job)
    (hgone : placeholderPod loggingPool (bareVolume loggingPool 3) = .ok gone) :
    ∃ rest, Exchanges (drainPass loggingPool)
      (loggingView.reads loggingPool ++ loggingCalls pod gone job) rest := by
  have hactions : [0, 1, 2, 3].map
      (fun i => actionFor loggingPool loggingView (bareVolume loggingPool i)) =
        [.none, .none, .start, .finish] := by decide +kernel
  simp only [List.map_cons, List.map_nil, List.cons.injEq, and_true] at hactions
  obtain ⟨hfirst, hsecond, hthird, hfourth⟩ := hactions
  have hdrained : loggingView.jobOf? loggingPool (nameOf (bareVolume loggingPool 3)) =
      some (succeededJob loggingPool 3) :=
    Snapshot.jobOf?_eq_some_iff.2
      ⟨[], [], rfl, (drains_succeededJob loggingPool (by decide)).binds, by simp⟩
  have hidle {v : Claim} (h : actionFor loggingPool loggingView v = .none) :
      Enacts (planFor loggingPool loggingView v) [] [] := by
    rw [planFor, h]
    exact .stop []
  have hstarts : Enacts (planFor loggingPool loggingView (bareVolume loggingPool 2))
      [⟨.settlePod pod .present, .ok none⟩, ⟨.settleJob job .present, .ok none⟩] [] := by
    rw [planFor_start hthird hpod hjob]
    exact .next rfl (.next ⟨none, rfl⟩ (.stop []))
  have hfinishes : Enacts (planFor loggingPool loggingView (bareVolume loggingPool 3))
      [⟨.mark (bareVolume loggingPool 3) .drained, .ok ()⟩, ⟨.settlePod gone .absent, .ok none⟩,
        ⟨.deleteJob (succeededJob loggingPool 3) .background, .ok ()⟩] [] := by
    rw [planFor_finish hfourth hdrained hgone]
    exact .next ⟨(), rfl⟩ (.next ⟨none, rfl⟩ (.next ⟨(), rfl⟩ (.stop [])))
  obtain ⟨rest, hrest⟩ := exchanges_handleVolumes_cons (hidle hfirst) <|
    exchanges_handleVolumes_cons (hidle hsecond) <| exchanges_handleVolumes_cons hstarts <|
    exchanges_handleVolumes_cons hfinishes ⟨_, .stop (handleVolumes loggingPool loggingView [])⟩
  exact ⟨_, exchanges_drainPass_of hrest⟩

/-- The second worker is made while the placeholder of the third ordinal is asked for. It is left
alone like the first one, the placeholder is made where there was no pod, and that of the fourth
ordinal goes beside its succeeded job. -/
theorem spares_workers_logs : ∃ pod gone job,
    placeholderPod loggingPool (bareVolume loggingPool 2) = .ok pod ∧
    drainerJob loggingPool (bareVolume loggingPool 2) = .ok job ∧
    placeholderPod loggingPool (bareVolume loggingPool 3) = .ok gone ∧
    SparesWorkers loggingPool 2 loggingView (loggingCalls pod gone job)
      { pods := loggingStore.pods }
      { pods := ((loggingStore.pods.insert (loggingPool.placeholderName 1)
          (bareWorker loggingPool 1)).insert (loggingPool.placeholderName 2) pod).erase
            (loggingPool.placeholderName 3)
        writes := [(loggingPool.placeholderName 2, none)] } := by
  have hordinal (i : Nat) (hi : i ≤ Text.maxOrdinal) : HasOrdinal (bareVolume loggingPool i) i :=
    hasOrdinal_of_name rfl hi
  obtain ⟨pod, hpod, hmeta⟩ := exists_placeholder loggingPool (hordinal 2 (by decide))
  obtain ⟨gone, hgone, hmetaGone⟩ := exists_placeholder loggingPool (hordinal 3 (by decide))
  obtain ⟨job, hjob⟩ := exists_loggingJob (hordinal 2 (by decide))
  obtain ⟨rest, hcalls⟩ := exchanges_loggingCalls hpod hjob hgone
  have hmade : Staffs loggingPool 2 { pods := loggingStore.pods } _ :=
    .start (.idle _) (by decide : ((1 : Nat) : Int) < (2 : Int32).toInt) rfl
      (works_bareWorker loggingPool 1)
  have hnew := yields_settlePod_new rfl (by decide) hmeta hmade rfl
    ⟨_, decode_loggingPlaceholder hpod⟩
  have hremoved (w : PodStore) := yields_settlePod_gone (p := loggingPool) (n := 2) rfl
    (by decide) hmetaGone (.idle w)
  have hnames := orderly_loggingStore.toNamed
  have hdistinct : loggingView.Distinct := view_loggingStore ▸ hnames.distinct
  have hvolumes : NamesVolumes loggingPool loggingView :=
    view_loggingStore ▸ hnames.namesVolumes wellNamed_loggingPool
  have hjobs : NamesJobs loggingPool loggingView :=
    view_loggingStore ▸ hnames.namesJobs wellNamed_loggingPool
  refine ⟨pod, gone, job, hpod, hjob, hgone, spares_workers wellNamed_loggingPool hdistinct hvolumes
    orderly_loggingStore.namesPods hjobs hcalls ?_⟩
  have hreads : Follows (Meets loggingPool 2) (loggingView.reads loggingPool)
      { pods := loggingStore.pods } { pods := loggingStore.pods } :=
    view_loggingStore ▸ follows_reads_view loggingStore 2
  exact follows_append.2 ⟨_, hreads, _, .settled hnew, _, .other (.idle _) (by simp) (by simp) _,
    _, .other (.idle _) (by simp) (by simp) _, _, .settled (hremoved _),
    _, .other (.idle _) (by simp) (by simp) _, rfl⟩

/-! ## Clusters where the names differ -/

/-- A pass over one volume can stop anywhere in its plan. -/
theorem exchanges_alone {t : List StoreExchange} {left : List StoreCall}
    (hvolumes : s.volumes = [v]) (h : Enacts (planFor p s v) t left) :
    ∃ rest, Exchanges (drainPass p) (s.reads p ++ t) rest := by
  obtain ⟨rest, hrest⟩ := exchanges_handleVolumes_first h []
  rw [← hvolumes] at hrest
  exact ⟨_, exchanges_drainPass_of hrest⟩

/-- The placeholder of the first ordinal is written over a worker that is found there. -/
theorem takes_over {read : PodStore} {stored : Pod} (hvolumes : s.volumes = [v])
    (hv : HasOrdinal v 0) (hstart : actionFor loggingPool s v = .start)
    (hworkers : s.workers = MemoryStore.selected w.pods (loggingPool.selector .worker))
    (hplaceholders :
      s.placeholders = MemoryStore.selected w.pods (loggingPool.selector .placeholder))
    (hread : Staffs loggingPool n w read)
    (hstored : read.pods.get? (loggingPool.placeholderName 0) = some stored)
    (halive : (metadata stored).isTerminating = false)
    (hdecode : decode (encode stored) = (.ok stored : Decoded Pod))
    (hplays : loggingPool.Plays .worker stored.metadata.labelMap) :
    ∃ t rest w', Exchanges (drainPass loggingPool) (s.reads loggingPool ++ t) rest ∧
      Follows (Meets loggingPool n) (s.reads loggingPool ++ t) w w' ∧
        ¬ SparesWorkers loggingPool n s t w w' := by
  obtain ⟨pod, hpod, hmeta⟩ := exists_placeholder loggingPool hv
  obtain ⟨job, hjob⟩ := exists_loggingJob hv
  have henacts : Enacts (planFor loggingPool s v) [⟨.settlePod pod .present, .ok none⟩]
      [.settleJob job .present] :=
    planFor_start hstart hpod hjob ▸ .next rfl (.stop _)
  obtain ⟨rest, hcalls⟩ := exchanges_alone hvolumes henacts
  have hsettled := yields_settlePod_over (p := loggingPool) rfl (by decide) hmeta hread hstored
    halive hdecode ⟨_, decode_loggingPlaceholder hpod⟩
  refine ⟨_, rest, _, hcalls, follows_append.2 ⟨w, follows_reads_of hworkers hplaceholders,
    _, .settled hsettled, rfl⟩, fun hspares => ?_⟩
  obtain ⟨writes, hwritten, hharmless⟩ := hspares.written
  rw [hread.writes_eq] at hwritten
  obtain rfl := List.append_cancel_left hwritten
  obtain ⟨i, -, -, hholds⟩ := hharmless _ (List.mem_singleton_self _)
  cases (hholds stored rfl).plays.role_eq hplays

/-- A volume with the labels of workers, of a name that ends in a number but is no ordinal's. -/
def spareVolume : Claim where
  metadata := { name := some "spare-0", labels := some (loggingPool.labels .worker) }

/-- A worker that binds no volume. -/
def idleWorker : Pod := { bareWorker loggingPool 0 with spec := none }

/-- The pods of the namespace where one is stored under the first ordinal's name. -/
def stored (pod : Pod) : PodStore where
  pods := .ofList [(loggingPool.placeholderName 0, pod)]

theorem hasOrdinal_spareVolume : HasOrdinal spareVolume 0 :=
  (by decide : Text.trailingOrdinal? "spare-0" = some 0)

theorem namesVolumes_of_eq (hvolumes : s.volumes = [v]) (hname : nameOf v = p.claimName (0 : Nat)) :
    NamesVolumes p s := by
  intro v' hv' i hi
  rw [hvolumes, List.mem_singleton] at hv'
  subst hv'
  rw [HasOrdinal, hname, p.trailingOrdinal?_claimName, if_pos (Nat.zero_le _)] at hi
  cases hi
  exact hname

/-- A single pod is listed among those of its role, and nowhere else. -/
theorem listed_stored {role : Role} (hplays : loggingPool.Plays role pod.metadata.labelMap)
    (seen : Role) : MemoryStore.selected (stored pod).pods (loggingPool.selector seen) =
      if seen = role then [pod] else [] := by
  have hvalues : (stored pod).pods.values = [pod] := rfl
  rw [MemoryStore.selected, hvalues, List.filter_cons,
    holds_of_plays wellNamed_loggingPool hplays]
  by_cases h : seen = role <;> simp [h]

/-- A pass spares the workers of a pool, at any time and with any limit to what the controller
makes, under a condition. -/
def SparedWhere (condition : BufferPool → Snapshot → PodStore → Int32 → Prop) : Prop :=
  ∀ (p : BufferPool) (s : Snapshot) (t : List StoreExchange)
    (rest : StoreScript (Except OperatorError PassOutcome)) (w w' : PodStore) (n : Int32),
    p.WellNamed → s.Distinct → condition p s w n →
      Exchanges (drainPass p) (s.reads p ++ t) rest →
        Follows (Meets p n) (s.reads p ++ t) w w' → SparesWorkers p n s t w w'

theorem SparedWhere.mono {condition stronger : BufferPool → Snapshot → PodStore → Int32 → Prop}
    (h : SparedWhere condition) (himp : ∀ p s w n, stronger p s w n → condition p s w n) :
    SparedWhere stronger :=
  fun p s t rest w w' n hp hdistinct hc hcalls hanswers =>
    h p s t rest w w' n hp hdistinct (himp p s w n hc) hcalls hanswers

/-- A volume whose name only ends in an ordinal below the replica count. -/
def strayVolumeView : Snapshot where
  volumes := [spareVolume]
  workers := [bareWorker loggingPool 0]
  replicas := 1

theorem not_spared_with_stray_volume : ¬ SparedWhere fun p s w n =>
    NamesPods p s w.pods ∧ NamesJobs p s ∧ n = s.replicas := by
  intro hall
  have hworks := works_bareWorker loggingPool 0
  have hlisted := listed_stored hworks.plays
  obtain ⟨t, rest, w', hcalls, hanswers, hnot⟩ := takes_over (s := strayVolumeView)
    (w := stored (bareWorker loggingPool 0)) rfl hasOrdinal_spareVolume (by decide +kernel)
    (hlisted .worker).symm (hlisted .placeholder).symm (.idle (n := 1) _) rfl rfl rfl hworks.plays
  refine hnot (hall _ _ t rest _ w' _ wellNamed_loggingPool
    ⟨List.nodup_singleton _, List.nodup_nil⟩
    ⟨?_, fun _ _ _ _ _ hjob => (nomatch hjob), rfl⟩ hcalls hanswers)
  intro v hv i pod hi hpod
  cases List.mem_singleton.1 hv
  cases hi.symm.trans hasOrdinal_spareVolume
  cases hpod
  exact .inl hworks

/-- The first ordinal's volume, with no worker wanted. -/
def scaledDownView (workers : List Pod) : Snapshot where
  volumes := [bareVolume loggingPool 0]
  workers

theorem not_spared_with_idle_worker : ¬ SparedWhere fun p s _ n =>
    NamesVolumes p s ∧ NamesJobs p s ∧ n = s.replicas := by
  intro hall
  have hplays : loggingPool.Plays .worker idleWorker.metadata.labelMap :=
    (works_bareWorker loggingPool 0).plays
  have hlisted := listed_stored hplays
  obtain ⟨t, rest, w', hcalls, hanswers, hnot⟩ := takes_over (s := scaledDownView [idleWorker])
    (w := stored idleWorker) rfl
    (hasOrdinal_of_name rfl (Nat.zero_le _)) (by decide +kernel) (hlisted .worker).symm
    (hlisted .placeholder).symm (.idle (n := 0) _) rfl rfl rfl hplays
  exact hnot (hall _ _ t rest _ w' _ wellNamed_loggingPool
    ⟨List.nodup_singleton _, List.nodup_nil⟩
    ⟨namesVolumes_of_eq rfl rfl, fun _ _ _ _ _ hjob => (nomatch hjob), rfl⟩ hcalls hanswers)

theorem not_spared_beyond_replicas : ¬ SparedWhere fun p s w _ =>
    NamesVolumes p s ∧ NamesPods p s w.pods ∧ NamesJobs p s := by
  intro hall
  have hworks := works_bareWorker loggingPool 0
  have hmade : Staffs loggingPool 1 {} _ := .start (.idle {}) (by decide) rfl hworks
  obtain ⟨t, rest, w', hcalls, hanswers, hnot⟩ := takes_over (s := scaledDownView []) rfl
    (hasOrdinal_of_name rfl (Nat.zero_le _)) (by decide +kernel) rfl rfl hmade rfl rfl rfl
    hworks.plays
  exact hnot (hall _ _ t rest _ w' _ wellNamed_loggingPool
    ⟨List.nodup_singleton _, List.nodup_nil⟩
    ⟨namesVolumes_of_eq rfl rfl, fun _ _ _ _ _ hpod => (nomatch hpod),
      fun _ _ _ _ _ hjob => (nomatch hjob)⟩ hcalls hanswers)

/-- A job with the first ordinal's name that binds no volume. -/
def strayJob : Job where
  metadata :=
    { name := some (loggingPool.drainerName 0), labels := some (loggingPool.labels .drainer) }

/-- The first ordinal's volume, marked as drained. -/
def emptiedVolume : Claim :=
  MemoryStore.withLabel (bareVolume loggingPool 0) statusLabel (some drainedText)

/-- There is another job under the name of the drained volume's job. -/
def strayJobView : Snapshot where
  volumes := [emptiedVolume]
  placeholders := [barePlaceholder loggingPool 0]
  jobs := [strayJob]

theorem not_spared_with_stray_job : ¬ SparedWhere fun p s w n =>
    NamesVolumes p s ∧ NamesPods p s w.pods ∧ n = s.replicas := by
  intro hall
  have hreserves := reserves_barePlaceholder loggingPool 0
  have hlisted := listed_stored hreserves.plays
  have hordinal : HasOrdinal emptiedVolume 0 :=
    hasOrdinal_of_name (p := loggingPool) rfl (Nat.zero_le _)
  obtain ⟨pod, hpod, hmeta⟩ := exists_placeholder loggingPool hordinal
  have hrelease : actionFor loggingPool strayJobView emptiedVolume = .release := by
    decide +kernel
  have hplan : planFor loggingPool strayJobView emptiedVolume = [.settlePod pod .absent] := by
    rw [planFor, hrelease, plan, hpod]
  have henacts : Enacts (planFor loggingPool strayJobView emptiedVolume)
      [⟨.settlePod pod .absent, .ok none⟩] [] := hplan ▸ .next ⟨none, rfl⟩ (.stop [])
  obtain ⟨rest, hcalls⟩ := exchanges_alone rfl henacts
  have hgone := yields_settlePod_gone (p := loggingPool) (n := 0) rfl (by decide) hmeta
    (.idle (stored (barePlaceholder loggingPool 0)))
  have hanswers : Follows (Meets loggingPool 0) (strayJobView.reads loggingPool ++
      [⟨.settlePod pod .absent, .ok none⟩]) (stored (barePlaceholder loggingPool 0)) _ :=
    follows_append.2 ⟨_, follows_reads_of (hlisted .worker).symm (hlisted .placeholder).symm,
      _, .settled hgone, rfl⟩
  have hpods :
      NamesPods loggingPool strayJobView (stored (barePlaceholder loggingPool 0)).pods := by
    intro v hv i pod hi hpod
    cases List.mem_singleton.1 hv
    cases hi.symm.trans hordinal
    cases hpod
    exact .inr hreserves
  have hspares := hall _ strayJobView _ rest _ _ _ wellNamed_loggingPool
    ⟨List.nodup_singleton _, List.nodup_singleton _⟩ ⟨namesVolumes_of_eq rfl rfl, hpods, rfl⟩ hcalls
    hanswers
  obtain ⟨i, hname, hsucceeded⟩ := hspares.absent pod _ (List.mem_singleton_self _)
  have hpodName : nameOf pod = loggingPool.placeholderName (0 : Nat) :=
    congrArg ObjectMeta.nameOrStem hmeta
  obtain rfl := loggingPool.placeholderName_inj.1 (hpodName.symm.trans hname)
  obtain ⟨status, -, -, hstatus, -⟩ := hsucceeded strayJob (List.mem_singleton_self _) rfl
  cases hstatus

/-- Workers are not spared everywhere, nor without any one of the conditions: that listed volumes
are named after the ordinal in their name, that pods are, that jobs are, and that the controller
makes no workers beyond the observed replica count. -/
theorem not_spared_without : (¬ SparedWhere fun _ _ _ _ => True) ∧
    (¬ SparedWhere fun p s w n => NamesPods p s w.pods ∧ NamesJobs p s ∧ n = s.replicas) ∧
    (¬ SparedWhere fun p s _ n => NamesVolumes p s ∧ NamesJobs p s ∧ n = s.replicas) ∧
    (¬ SparedWhere fun p s w n => NamesVolumes p s ∧ NamesPods p s w.pods ∧ n = s.replicas) ∧
    ¬ SparedWhere fun p s w _ => NamesVolumes p s ∧ NamesPods p s w.pods ∧ NamesJobs p s :=
  ⟨fun h => not_spared_with_stray_volume (h.mono fun _ _ _ _ _ => trivial),
    not_spared_with_stray_volume, not_spared_with_idle_worker, not_spared_with_stray_job,
    not_spared_beyond_replicas⟩

end VolumeDrain.Drain
