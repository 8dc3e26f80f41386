import Mathlib.Data.List.Perm.Basic
import VolumeDrain.Proofs.Locality

/-!
# The order in which objects are listed

A store may list its objects in any order. What a pass sees of a volume does not depend on it, since
no volume has more than one drain job, and neither do the totals of its outcome.
-/
namespace VolumeDrain.Drain

open Manifest Script

variable {S α : Type} {object : ObjectName → S → α}
  {answer answer' : (c : StoreCall) → S → c.Reply × S} {p : BufferPool} {σ σ' : Snapshot}
  {v w : Claim} {s : S}

/-! ## Snapshots up to order -/

/-- The snapshots show the same, though maybe in another order. -/
structure Snapshot.SameUpToOrder (σ σ' : Snapshot) : Prop where
  volumes : σ.volumes.Perm σ'.volumes
  workers : σ.workers.Perm σ'.workers
  placeholders : σ.placeholders.Perm σ'.placeholders
  replicas : σ'.replicas = σ.replicas
  jobs : σ.jobs.Perm σ'.jobs

theorem contains_eq_of_perm {β : Type} [BEq β] [LawfulBEq β] {l l' : List β} (h : l.Perm l')
    (b : β) : l'.contains b = l.contains b := by
  rw [Bool.eq_iff_iff, List.contains_iff_mem, List.contains_iff_mem]
  exact h.mem_iff.symm

/-- A volume that has one job has it wherever the job stands in the list. -/
theorem Separate.jobOf?_eq (hsep : Separate p σ) (h : σ.SameUpToOrder σ') (hv : v ∈ σ.volumes) :
    σ'.jobOf? p (nameOf v) = σ.jobOf? p (nameOf v) := by
  cases hjob : σ.jobOf? p (nameOf v) with
  | none =>
    have hnone := Snapshot.jobOf?_eq_none_iff.1 hjob
    exact Snapshot.jobOf?_eq_none_iff.2 fun other hother => hnone other (h.jobs.mem_iff.2 hother)
  | some job =>
    obtain ⟨before, after, hjobs, hclaim, -⟩ := Snapshot.jobOf?_eq_some_iff.1 hjob
    have hone := hsep.oneJob v hv
    rw [hjobs] at hone
    obtain ⟨-, hafter, hbefore⟩ := List.pairwise_append.1 hone
    have honly : ∀ other ∈ σ.jobs, other.claimOf p.bufferVolumeName = some (nameOf v) →
        other = job := by
      intro other hother hclaim'
      rw [hjobs, List.mem_append, List.mem_cons] at hother
      rcases hother with hearlier | rfl | hlater
      · exact absurd hclaim (hbefore other hearlier job List.mem_cons_self hclaim')
      · rfl
      · exact absurd hclaim' ((List.pairwise_cons.1 hafter).1 other hlater hclaim)
    have hmem : job ∈ σ'.jobs := by
      rw [← h.jobs.mem_iff, hjobs]
      exact List.mem_append_right _ List.mem_cons_self
    cases hjob' : σ'.jobOf? p (nameOf v) with
    | none => exact absurd hclaim (Snapshot.jobOf?_eq_none_iff.1 hjob' job hmem)
    | some other =>
      obtain ⟨before', after', hjobs', hclaim', -⟩ := Snapshot.jobOf?_eq_some_iff.1 hjob'
      have hother : other ∈ σ.jobs := by
        rw [h.jobs.mem_iff, hjobs']
        exact List.mem_append_right _ List.mem_cons_self
      rw [honly other hother hclaim']

theorem handleVolume_eq (hsep : Separate p σ) (h : σ.SameUpToOrder σ') (hv : v ∈ σ.volumes) :
    handleVolume p σ' v = handleVolume p σ v := by
  have hjob := hsep.jobOf?_eq h hv
  have hworkers : σ'.inUse p (nameOf v) = σ.inUse p (nameOf v) := by
    have hclaims : (σ.claimsInUse p).Perm (σ'.claimsInUse p) := h.workers.filterMap _
    rw [Snapshot.inUse, Snapshot.inUse, contains_eq_of_perm hclaims, Snapshot.reservedClaims,
      Snapshot.reservedClaims, h.replicas]
  have hordinals : σ.heldOrdinals.Perm σ'.heldOrdinals := (h.placeholders.filter _).filterMap _
  have hsight : σ'.sight p v = σ.sight p v := by
    simp only [Snapshot.sight, hjob, hworkers, contains_eq_of_perm hordinals]
  rw [handleVolume, handleVolume, hsight, hjob]

theorem Separate.sameUpToOrder (hsep : Separate p σ) (h : σ.SameUpToOrder σ') :
    Separate p σ' where
  ordinals := hsep.ordinals.perm h.volumes fun hne => Ne.symm hne
  jobName v hv job hjob := hsep.jobName v (h.volumes.mem_iff.2 hv) job (h.jobs.mem_iff.2 hjob)
  oneJob v hv := (hsep.oneJob v (h.volumes.mem_iff.2 hv)).perm h.jobs
    fun hone hother hclaim => hone hclaim hother

/-! ## Snapshots of a store -/

/-- Both end with the same error, or with values that are related. -/
def Alike {ε β γ : Type} (Q : β → γ → Prop) : Except ε β → Except ε γ → Prop
  | .ok b, .ok c => Q b c
  | .error e, .error e' => e = e'
  | _, _ => False

theorem alike_refl {ε β : Type} {Q : β → β → Prop} (x : Except ε β) (h : ∀ b, Q b b) :
    Alike Q x x := by
  cases x with
  | error e => rfl
  | ok b => exact h b

/-- The replies are equal, but lists may be in another order. -/
def StoreCall.SameReply : (c : StoreCall) → c.Reply → c.Reply → Prop
  | listVolumes _ _, r, r' => Alike (ε := OperatorError) List.Perm r r'
  | listPods _ _, r, r' => Alike (ε := OperatorError) List.Perm r r'
  | listJobs _ _, r, r' => Alike (ε := OperatorError) List.Perm r r'
  | _, r, r' => r = r'

/-- One store does what the other does, but may list objects in another order. -/
def Relists (answer answer' : (c : StoreCall) → S → c.Reply × S) : Prop :=
  ∀ c s, c.SameReply (answer c s).1 (answer' c s).1 ∧ (answer' c s).2 = (answer c s).2

theorem Relists.eq_of_object (h : Relists answer answer') {c : StoreCall} {o : ObjectName}
    (hc : c.object? = some o) : answer' c = answer c := by
  funext s
  obtain ⟨hreply, hstate⟩ := h c s
  have hsame : (answer c s).1 = (answer' c s).1 := by
    cases c with
    | listVolumes | listPods | listJobs | replicaCount => cases hc
    | mark | deleteJob | settleJob | settlePod => exact hreply
  exact Prod.ext hsame.symm hstate

/-- What two stores show of themselves is alike if what they are asked first is, and what they are
asked after it. -/
theorem alike_of_read {ε β γ : Type} {f : OperatorError → ε} {c : StoreCall}
    (reply : c.Reply → Except OperatorError β) {R : β → β → Prop} {Q : γ → γ → Prop}
    {k k' : β → ExceptT ε StoreScript γ} (hstate : (answer c s).2 = s)
    (hstate' : (answer' c s).2 = s)
    (hreply : Alike R (reply (answer c s).1) (reply (answer' c s).1))
    (next : ∀ b b', R b b' → Alike Q (run answer (k b).run s).1 (run answer' (k' b').run s).1) :
    let read := ExceptT.mk (Except.mapError f <$> .ask c fun r => .done (reply r))
    Alike Q (run answer (read >>= k).run s).1 (run answer' (read >>= k').run s).1 := by
  intro read
  rw [run_mapError_bind, run_mapError_bind, ask_bind, ask_bind, run_ask, run_ask, hstate, hstate',
    done_bind, done_bind]
  cases hb : reply (answer c s).1 with
  | error e =>
    cases hb' : reply (answer' c s).1 with
    | error e' =>
      rw [hb, hb'] at hreply
      exact congrArg f hreply
    | ok b' =>
      rw [hb, hb'] at hreply
      exact hreply.elim
  | ok b =>
    cases hb' : reply (answer' c s).1 with
    | error e' =>
      rw [hb, hb'] at hreply
      exact hreply.elim
    | ok b' =>
      rw [hb, hb'] at hreply
      exact next b b' hreply

theorem alike_takeSnapshot (hstore : Isolates object answer) (h : Relists answer answer')
    (p : BufferPool) (s : S) :
    Alike Snapshot.SameUpToOrder (run answer (takeSnapshot p).run s).1
      (run answer' (takeSnapshot p).run s).1 := by
  have hstate : ∀ c : StoreCall, c.object? = none → (answer c s).2 = s := fun c hc =>
    hstore.reads c s hc
  have hstate' : ∀ c : StoreCall, c.object? = none → (answer' c s).2 = s := fun c hc =>
    ((h c s).2).trans (hstate c hc)
  refine alike_of_read (c := .listVolumes _ _) (R := List.Perm) id (hstate _ rfl) (hstate' _ rfl)
    (h (.listVolumes _ _) s).1 fun volumes volumes' hvolumes => ?_
  refine alike_of_read (c := .listPods _ _) (R := List.Perm) id (hstate _ rfl) (hstate' _ rfl)
    (h (.listPods _ _) s).1 fun workers workers' hworkers => ?_
  refine alike_of_read (c := .listPods _ _) (R := List.Perm) id (hstate _ rfl) (hstate' _ rfl)
    (h (.listPods _ _) s).1 fun placeholders placeholders' hplaceholders => ?_
  refine alike_of_read (c := .replicaCount _) (R := Eq) id (hstate _ rfl) (hstate' _ rfl)
    ?_ fun replicas replicas' hreplicas => ?_
  · have hcount : (answer (.replicaCount p) s).1 = (answer' (.replicaCount p) s).1 :=
      (h (.replicaCount p) s).1
    rw [id, id, ← hcount]
    exact alike_refl _ fun _ => rfl
  · refine alike_of_read (c := .listJobs _ _) (R := List.Perm) id (hstate _ rfl) (hstate' _ rfl)
      (h (.listJobs _ _) s).1 fun jobs jobs' hjobs => ?_
    exact ⟨hvolumes, hworkers, hplaceholders, hreplicas.symm, hjobs⟩

theorem Relists.isolates (h : Relists answer answer') (hstore : Isolates object answer) :
    Isolates object answer' where
  reads c s hc := ((h c s).2).trans (hstore.reads c s hc)
  others c s o o' hc hne := by
    rw [(h c s).2]
    exact hstore.others c s o o' hc hne
  own c s s' o hc hs := by
    rw [h.eq_of_object hc]
    exact hstore.own c s s' o hc hs

/-! ## Outcomes up to order -/

/-- What became of a volume in a pass. -/
def PassOutcome.outcomeFor? (out : PassOutcome) (volume : String) : Option VolumeOutcome :=
  out.volumes.find? fun o => o.volume == volume

/-- The outcomes tell the same of each volume and of the pool, though maybe in another order. -/
structure PassOutcome.SameUpToOrder (out out' : PassOutcome) : Prop where
  volumes : out.volumes.Perm out'.volumes
  outcomeFor : ∀ name, out'.outcomeFor? name = out.outcomeFor? name
  replicas : out'.replicas = out.replicas
  counts : out'.counts = out.counts
  requeueAfter : out'.requeueAfter = out.requeueAfter

theorem delay_min_comm (d e : Delay) : Delay.min d e = Delay.min e d := by
  obtain ⟨m⟩ := d
  obtain ⟨n⟩ := e
  simp only [Delay.min]
  split <;> split <;> first | rfl | (congr 1; omega)

instance : RightCommutative Delay.min where
  right_comm a d e := by
    obtain ⟨l⟩ := a
    obtain ⟨m⟩ := d
    obtain ⟨n⟩ := e
    simp only [Delay.min]
    grind

theorem shortest?_eq_of_perm {delays delays' : List Delay} (h : delays.Perm delays') :
    Delay.shortest? delays = Delay.shortest? delays' := by
  induction h with
  | nil => rfl
  | cons d h => exact congrArg some (h.foldl_eq d)
  | swap d e rest => simp only [Delay.shortest?, List.foldl_cons, delay_min_comm]
  | trans _ _ ih ih' => exact ih.trans ih'

theorem counts_eq_of_perm {out out' : PassOutcome} (h : out.volumes.Perm out'.volumes) :
    out'.counts = out.counts := by
  simp only [PassOutcome.counts, PassOutcome.countOf, h.countP_eq]

theorem requeueAfter_eq_of_perm {out out' : PassOutcome} (h : out.volumes.Perm out'.volumes) :
    out'.requeueAfter = out.requeueAfter :=
  (shortest?_eq_of_perm (h.filterMap _)).symm

end VolumeDrain.Drain
