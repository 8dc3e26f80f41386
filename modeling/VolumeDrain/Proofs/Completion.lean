import VolumeDrain.Proofs.Sights

/-!
# Passes in which no call fails

Such a pass comes to its end once the replica count can be read. It takes its snapshot, and then the
ordinal of every listed volume takes the effect of the action chosen for it, whatever is done about
the others before and after; the ordinals of other volumes stay as they are.
-/
namespace VolumeDrain.Drain

open Manifest Script MemoryStore

/-- A whole pass over a cluster can have these exchanges and this outcome, with no call failing. -/
def Completes (p : BufferPool) (s : MemoryStore) (t : List StoreExchange) (out : PassOutcome)
    (s' : MemoryStore) : Prop :=
  Exchanges (drainPass p) t (.done (.ok out)) ∧ Follows Succeeds t s s'

variable {p : BufferPool} {s s' : MemoryStore} {t u : List StoreExchange} {i : Nat} {v : Claim}
  {n : Int32} {out : PassOutcome}

theorem answers_of_succeeds (h : Follows Succeeds t s s') : Follows Answers t s s' :=
  follows_mono (fun _ _ _ _ => Succeeds.answers) h

theorem Completes.pass (h : Completes p s t out s') : Pass p s t s' :=
  ⟨_, h.1, answers_of_succeeds h.2⟩

/-! ## Snapshots -/

theorem exchanges_drainPass_ok (h : Exchanges (drainPass p) t (.done (.ok out))) :
    ∃ (σ : Snapshot) (u : List StoreExchange), t = σ.reads p ++ u ∧ out.replicas = σ.replicas ∧
      Exchanges (handleVolumes p σ σ.volumes) u (.done out.volumes) := by
  obtain ⟨taken, t₁, t₂, rfl, h₁, h₂⟩ := h.of_bind_done
  cases taken with
  | error e => cases h₂.of_done.2
  | ok σ =>
    obtain ⟨outcomes, u₁, u₂, rfl, hu₁, hu₂⟩ := h₂.of_bind_done
    obtain ⟨rfl, hout⟩ := hu₂.of_done
    cases hout
    refine ⟨σ, u₁, ?_, rfl, hu₁⟩
    rw [reads_of_takeSnapshot h₁, List.append_nil]

/-- A read that succeeds is read on from. -/
theorem read_of_follows {ε α β : Type} {f : OperatorError → ε} {c : StoreCall} {a : α}
    (reply : c.Reply → Except OperatorError α) {k : α → ExceptT ε StoreScript β} {b : Except ε β}
    (h : Exchanges (ExceptT.mk (Except.mapError f <$> .ask c fun r => .done (reply r)) >>= k).run t
      (.done b))
    (hf : Follows Succeeds t s s')
    (hread : ∀ r mid, Succeeds c s r mid → reply r = .ok a ∧ mid = s) :
    ∃ u, Exchanges (k a).run u (.done b) ∧ Follows Succeeds u s s' := by
  obtain ⟨r, u, rfl, hrest⟩ := exchanges_asking_done reply h
  obtain ⟨mid, hmid, hf⟩ := hf
  obtain ⟨hr, rfl⟩ := hread r mid hmid
  rcases hrest with ⟨b, hb, hu⟩ | ⟨e, he, -, -⟩
  · obtain rfl : a = b := Except.ok.inj (hr.symm.trans hb)
    exact ⟨u, hu, hf⟩
  · rw [hr] at he
    cases he

theorem taken_of_follows {taken : Except OperatorError Snapshot}
    (h : Exchanges (takeSnapshot p).run t (.done taken)) (hf : Follows Succeeds t s s')
    (hn : s.replicas = .ok n) : taken = .ok (s.view p n) := by
  have hvolumes : ∀ ns sel r mid, Succeeds (.listVolumes ns sel) s r mid →
      id r = .ok (selected s.volumes sel) ∧ mid = s := by
    rintro ns sel r mid ⟨⟩
    exact ⟨rfl, rfl⟩
  have hpods : ∀ ns sel r mid, Succeeds (.listPods ns sel) s r mid →
      id r = .ok (selected s.pods sel) ∧ mid = s := by
    rintro ns sel r mid ⟨⟩
    exact ⟨rfl, rfl⟩
  have hjobs : ∀ ns sel r mid, Succeeds (.listJobs ns sel) s r mid →
      id r = .ok (selected s.jobs sel) ∧ mid = s := by
    rintro ns sel r mid ⟨⟩
    exact ⟨rfl, rfl⟩
  have hcount : ∀ r mid, Succeeds (.replicaCount p) s r mid → id r = .ok n ∧ mid = s := by
    rintro r mid ⟨⟩
    exact ⟨hn, rfl⟩
  obtain ⟨u, h, hf⟩ := read_of_follows (c := .listVolumes _ _) id h hf (hvolumes _ _)
  obtain ⟨u, h, hf⟩ := read_of_follows (c := .listPods _ _) id h hf (hpods _ _)
  obtain ⟨u, h, hf⟩ := read_of_follows (c := .listPods _ _) id h hf (hpods _ _)
  obtain ⟨u, h, hf⟩ := read_of_follows (c := .replicaCount _) id h hf hcount
  obtain ⟨u, h, hf⟩ := read_of_follows (c := .listJobs _ _) id h hf (hjobs _ _)
  cases h.of_done.2
  rfl

/-- Where the replica count can be read, a pass in which no call fails has an outcome. -/
theorem ok_of_exchanges {result : Except OperatorError PassOutcome}
    (h : Exchanges (drainPass p) t (.done result)) (hf : Follows Succeeds t s s')
    (hn : s.replicas = .ok n) : ∃ out, result = .ok out := by
  obtain ⟨taken, t₁, t₂, rfl, h₁, h₂⟩ := h.of_bind_done
  obtain ⟨mid, hf₁, hf₂⟩ := follows_append.1 hf
  rw [taken_of_follows h₁ hf₁ hn] at h₂
  obtain ⟨outcomes, u₁, u₂, rfl, hu₁, hu₂⟩ := h₂.of_bind_done
  cases hu₂.of_done.2
  exact ⟨_, rfl⟩

theorem Completes.volumes (h : Completes p s t out s') :
    ∃ u, s.replicas = .ok out.replicas ∧ t = (s.view p out.replicas).reads p ++ u ∧
      Exchanges (handleVolumes p (s.view p out.replicas) (s.view p out.replicas).volumes) u
        (.done out.volumes) ∧ Follows Succeeds u s s' := by
  obtain ⟨σ, u, rfl, hreplicas, hu⟩ := exchanges_drainPass_ok h.1
  obtain ⟨mid, hreads, hrest⟩ := follows_append.1 h.2
  obtain ⟨rfl, hn, hview⟩ := view_of_follows_reads (answers_of_succeeds hreads)
  rw [hreplicas]
  exact ⟨u, hn, by rw [← hview], by rwa [← hview], hrest⟩

/-! ## Ordinals -/

/-- What is done about other volumes does not touch an ordinal. -/
theorem slot_eq_of_treats {volumes : List Claim} {s₁ s₂ : MemoryStore} (h : Named p s)
    (hp : p.WellNamed) (hlisted : ∀ w ∈ volumes, w ∈ (s.view p n).volumes)
    (hother : ∀ w ∈ volumes, nameOf w ≠ p.claimName i) (ht : Treats p (s.view p n) volumes t)
    (hf : Follows Answers t s₁ s₂) : s₂.slot p i = s₁.slot p i := by
  refine slot_eq_of_follows hf fun e he hconcerns => ?_
  obtain ⟨w, hw, hjustified⟩ := ht.justified he
  obtain ⟨j, hname, -⟩ := h.name_of_listed hp (hlisted w hw)
  obtain rfl := h.ordinal_eq hp hname hjustified hconcerns
  exact hother w hw hname

/-- Among the exchanges for all volumes are those for one, between which and the ends nothing is
done about its ordinal. -/
theorem segment_of_handleVolumes {volumes : List Claim} {outcomes : List VolumeOutcome}
    {s₁ s₂ : MemoryStore} (h : Named p s) (hp : p.WellNamed)
    (hlisted : ∀ w ∈ volumes, w ∈ (s.view p n).volumes)
    (hdistinct : volumes.Pairwise fun v w => nameOf v ≠ nameOf w)
    (ht : Exchanges (handleVolumes p (s.view p n) volumes) t (.done outcomes))
    (hf : Follows Succeeds t s₁ s₂) (hv : v ∈ volumes) (hname : nameOf v = p.claimName i) :
    ∃ u m₁ m₂, (∀ e ∈ u, e ∈ t) ∧ Enacts (planFor p (s.view p n) v) u [] ∧
      Follows Succeeds u m₁ m₂ ∧ m₁.slot p i = s₁.slot p i ∧ m₂.slot p i = s₂.slot p i := by
  induction volumes generalizing t outcomes s₁ with
  | nil => simp at hv
  | cons w volumes ih =>
    obtain ⟨outcome, t₁, t₂, rfl, h₁, h₂⟩ := ht.of_bind_done
    obtain ⟨others, u₁, u₂, rfl, hu₁, hu₂⟩ := h₂.of_bind_done
    obtain ⟨rfl, -⟩ := hu₂.of_done
    rw [List.append_nil] at hf
    obtain ⟨mid, hf₁, hf₂⟩ := follows_append.1 hf
    obtain ⟨hother, hdistinct'⟩ := List.pairwise_cons.1 hdistinct
    have hlisted' : ∀ x ∈ volumes, x ∈ (s.view p n).volumes :=
      fun x hx => hlisted x (List.mem_cons_of_mem _ hx)
    obtain ⟨left, hleft, hend⟩ := enacts_handleVolume h₁
    rw [hend ⟨outcome, rfl⟩] at hleft
    rcases List.mem_cons.1 hv with rfl | hv
    · -- The volume is the first one: its exchanges come at once, and the later ones leave it alone.
      have hlater : s₂.slot p i = mid.slot p i :=
        slot_eq_of_treats h hp hlisted' (fun x hx hx' => hother x hx (hname.trans hx'.symm))
          (treats_handleVolumes hu₁) (answers_of_succeeds hf₂)
      exact ⟨t₁, s₁, mid, fun e he => List.mem_append_left _ he, hleft, hf₁, rfl, hlater.symm⟩
    · -- The exchanges for the first volume leave the ordinal of a later one alone.
      have halone : Treats p (s.view p n) [w] t₁ :=
        List.append_nil t₁ ▸ Treats.volume hleft (.stop [])
      have hearlier : mid.slot p i = s₁.slot p i :=
        slot_eq_of_treats h hp
          (fun x hx => hlisted x (List.mem_singleton.1 hx ▸ List.mem_cons_self))
          (fun x hx hx' => hother v hv (by rw [hname, ← hx', List.mem_singleton.1 hx]))
          halone (answers_of_succeeds hf₁)
      obtain ⟨u, m₁, m₂, hsub, henacts, hfu, hm₁, hm₂⟩ := ih hlisted' hdistinct' hu₁ hf₂ hv
      refine ⟨u, m₁, m₂, fun e he => ?_, henacts, hfu, hm₁.trans hearlier, hm₂⟩
      exact List.mem_append_right _ (List.mem_append_left _ (hsub e he))

theorem Completes.acted (h : Named p s) (hp : p.WellNamed) (hc : Completes p s t out s')
    (hn : s.replicas = .ok n) (hstored : s.volumes.get? (p.claimName i) = some v)
    (hv : Drainable p v) (hx : (s.slot p i).Shows p n i ((s.view p n).sight p v))
    (hstart : actionFor p (s.view p n) v = .start → Startable p i v (s.slot p i)) :
    ∃ u, (∀ e ∈ u, e ∈ t) ∧
      Acted p i (s.slot p i) u (actionFor p (s.view p n) v) (s'.slot p i) := by
  obtain ⟨u, hn', rfl, hu, hf⟩ := hc.volumes
  obtain rfl : n = out.replicas := Except.ok.inj (hn.symm.trans hn')
  have hname := h.name_eq _ _ hstored
  have hlisted := (mem_volumes_view_iff_drainable (n := out.replicas) hp).2 ⟨⟨_, hstored⟩, hv⟩
  obtain ⟨w, m₁, m₂, hsub, henacts, hfw, hm₁, hm₂⟩ := segment_of_handleVolumes h hp (fun _ => id)
    h.listed_distinct hu hf hlisted hname
  refine ⟨w, fun e he => List.mem_append_right _ (hsub e he), ?_⟩
  rw [← hm₂]
  exact acted_of_enacts h hp hname hstored hx hstart henacts hfw hm₁

theorem Completes.slot_eq (h : Named p s) (hp : p.WellNamed) (hc : Completes p s t out s')
    (hother : ∀ v, s.volumes.get? (p.claimName i) = some v → ¬ Drainable p v) :
    s'.slot p i = s.slot p i := by
  obtain ⟨u, -, -, hu, hf⟩ := hc.volumes
  have hothers : ∀ w ∈ (s.view p out.replicas).volumes, nameOf w ≠ p.claimName i := by
    intro w hw hname
    obtain ⟨⟨key, hkey⟩, hdrainable⟩ := (mem_volumes_view_iff_drainable hp).1 hw
    rw [← h.name_eq _ _ hkey, hname] at hkey
    exact hother w hkey hdrainable
  exact slot_eq_of_treats h hp (fun _ => id) hothers (treats_handleVolumes hu)
    (answers_of_succeeds hf)

theorem Completes.kept {I : MemoryStore → Prop} (h : Named p s) (hp : p.WellNamed)
    (hc : Completes p s t out s')
    (step : ∀ {σ : Snapshot} {v c s s'} {i : Nat} {r : c.Reply}, nameOf v = p.claimName i →
      Justified p σ v c → Answers c s r s' → I s → I s') (hI : I s) : I s' := by
  obtain ⟨u, -, -, hu, hf⟩ := hc.volumes
  have hstep : ∀ {v c s₁ s₂} {r : c.Reply}, v ∈ (s.view p out.replicas).volumes →
      Justified p (s.view p out.replicas) v c → Answers c s₁ r s₂ → I s₁ → I s₂ := by
    intro v c s₁ s₂ r hv hjustified ha
    obtain ⟨i, hname, -⟩ := h.name_of_listed hp hv
    exact step hname hjustified ha
  exact kept_of_follows hstep (answers_of_succeeds hf)
    (fun e he => (treats_handleVolumes hu).justified he) hI

theorem Completes.owned (h : Owned p s) (hp : p.WellNamed) (hc : Completes p s t out s') :
    Owned p s' :=
  hc.kept h.toNamed hp (fun hname hjustified ha h => h.of_answers hname hjustified ha) h

/-- A pass puts no volume under a name, and what it makes of one is listed as before. -/
theorem Completes.volume_before {v' : Claim} {key : String} (h : Named p s) (hp : p.WellNamed)
    (hc : Completes p s t out s') (hv' : s'.volumes.get? key = some v') :
    ∃ v, s.volumes.get? key = some v ∧ nameOf v' = nameOf v ∧ (Drainable p v' ↔ Drainable p v) := by
  refine hc.kept h hp (I := fun s' => ∀ key v', s'.volumes.get? key = some v' →
    ∃ v, s.volumes.get? key = some v ∧ nameOf v' = nameOf v ∧ (Drainable p v' ↔ Drainable p v))
    (fun _ hjustified ha hI => ?_) (fun _ v hv => ⟨v, hv, rfl, Iff.rfl⟩) key v' hv'
  refine forall_volumes_of_answers hI (fun _ w _ hw => ?_) hjustified ha
  obtain ⟨v, hv, hname, hiff⟩ := hw
  exact ⟨v, hv, hname, drainable_withLabel.trans hiff⟩

/-- A pass takes no volume away, nor a role. -/
theorem Completes.volume_after {key : String} {role : Role} (h : Named p s) (hp : p.WellNamed)
    (hc : Completes p s t out s') (hv : s.volumes.get? key = some v)
    (hplays : p.Plays role v.metadata.labelMap) :
    ∃ w, s'.volumes.get? key = some w ∧ p.Plays role w.metadata.labelMap := by
  refine hc.kept h hp (I := fun s' => ∃ w, s'.volumes.get? key = some w ∧
    p.Plays role w.metadata.labelMap) (fun _ hjustified ha hI => ?_) ⟨v, hv, hplays⟩
  exact volume_outlasts_answers hI (fun _ _ => (plays_withLabel (.inl rfl)).2) hjustified ha

/-! ## The store in memory -/

theorem faults_carryOut (c : StoreCall) (s : MemoryStore) : (carryOut c s).2.faults = s.faults := by
  cases c with
  | mark v mark =>
    simp only [carryOut]
    split <;> rfl
  | deleteJob job propagation =>
    cases propagation with
    | foreground =>
      simp only [carryOut]
      split <;> rfl
    | background => rfl
  | settleJob job presence =>
    cases presence with
    | present =>
      simp only [carryOut]
      split <;> rfl
    | absent => rfl
  | settlePod pod presence =>
    cases presence with
    | present =>
      simp only [carryOut]
      split
      · split <;> rfl
      · rfl
    | absent => rfl
  | _ => rfl

theorem succeeds_answer (c : StoreCall) (s : MemoryStore) (h : s.faults = []) :
    Succeeds c s.quiet (answer c s).1 (answer c s).2.quiet ∧ (answer c s).2.faults = [] := by
  have hanswer : answer c s = carryOut c { s with calls := s.calls ++ c.text?.toList } := by
    rw [answer]
    have hnone : (c.target?.bind fun t => useFault t.1 t.2 s.faults) = none := by
      rw [h]
      cases c.target? <;> rfl
    simp only [hnone]
  have hcarried := Succeeds.carried c { s with calls := s.calls ++ c.text?.toList }.quiet
  rw [carryOut_quiet, ← hanswer] at hcarried
  refine ⟨hcarried, ?_⟩
  rw [hanswer, faults_carryOut, h]

/-- Over a store without faults a pass comes to its end, and no call fails. -/
theorem completes_of_answer (p : BufferPool) (hfaults : s.faults = []) (hn : s.replicas = .ok n) :
    ∃ out, (run answer (drainPass p) s).1 = .ok out ∧
      (run answer (drainPass p) s).2.faults = [] ∧
      Completes p s.quiet (transcript answer (drainPass p) s) out
        (run answer (drainPass p) s).2.quiet := by
  have hexchanges := exchanges_transcript answer (drainPass p) s
  obtain ⟨hfollows, hlast⟩ := follows_transcript_of (I := fun s => s.faults = []) (f := quiet)
    succeeds_answer (drainPass p) hfaults
  obtain ⟨out, hout⟩ := ok_of_exchanges hexchanges hfollows hn
  rw [hout] at hexchanges
  exact ⟨out, hout, hlast, hexchanges, hfollows⟩

end VolumeDrain.Drain
