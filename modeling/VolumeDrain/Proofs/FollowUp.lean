import VolumeDrain.Proofs.Convergence

/-!
# Passes that ask for no follow-up

A pass that asks for no delay and meets no failure but failed drain jobs has left nothing to be
done: a pass right after it takes no action. The delays cover the actions that leave work behind,
and what the others leave is seen at once.
-/
namespace VolumeDrain.Drain

open Manifest Script MemoryStore

/-- The volume asks for no further look, and nothing failed at it but its drain job. -/
structure VolumeOutcome.Quiet (o : VolumeOutcome) : Prop where
  requeueAfter : o.requeueAfter = none
  fault : ∀ fault, o.fault = some fault → ∃ attempts, fault = .drainFailed attempts

variable {p : BufferPool} {s s' : MemoryStore} {t u : List StoreExchange} {i : Nat} {v : Claim}
  {n : Int32} {out : PassOutcome} {σ : Snapshot} {seen : Option Job} {action : DrainAction}

/-! ## Calm actions -/

/-- An action ends without a delay, and without a failure but that of its drain job. -/
def QuietResult (result : Except VolumeFault (Option Delay)) : Prop :=
  result = .ok none ∨ ∃ attempts, result = .error (.drainFailed attempts)

/-- The action leaves no work behind if it succeeds. -/
def LeavesNothing (p : BufferPool) (v : Claim) (action : DrainAction) : Prop :=
  action ≠ .reclaim ∧ action ≠ .finish ∧ action ≠ .cancel ∧
    (action = .start → ∃ job, drainerJob p v = .ok job)

theorem leavesNothing_start {job : Job} (h : drainerJob p v = .ok job) :
    LeavesNothing p v .start := by
  simp [LeavesNothing, h]

/-- However the script ends, it asks for a delay or fails. -/
def Noisy (script : ActionScript (Option Delay)) : Prop :=
  ∀ u result, Exchanges script.run u (.done result) → ¬ QuietResult result

theorem not_quietResult_delay (delay : Delay) : ¬ QuietResult (.ok (some delay)) := by
  simp [QuietResult]

theorem not_quietResult_build (e : BuildError) : ¬ QuietResult (.error (.build e)) := by
  simp [QuietResult]

theorem not_quietResult_ofStore (operation : String) (e : OperatorError) :
    ¬ QuietResult (.error (.ofStore operation e)) := by
  cases e with
  | client e =>
    simp only [VolumeFault.ofStore]
    split <;> simp [QuietResult]
  | _ => simp [QuietResult, VolumeFault.ofStore]

section

variable {α : Type} {result : Except VolumeFault (Option Delay)}
  {k : α → ActionScript (Option Delay)}

/-- The call was answered with success, as its failure would have been the result. -/
theorem asked_of_quiet {operation : String} {c : StoreCall}
    (reply : c.Reply → Except OperatorError α)
    (h : Exchanges (ExceptT.mk (Except.mapError (VolumeFault.ofStore operation) <$>
      .ask c fun r => .done (reply r)) >>= k).run u (.done result))
    (hquiet : QuietResult result) :
    ∃ r w a, u = ⟨c, r⟩ :: w ∧ reply r = .ok a ∧ Exchanges (k a).run w (.done result) := by
  obtain ⟨r, w, rfl, ⟨a, hr, hw⟩ | ⟨e, -, -, rfl⟩⟩ := exchanges_asking_done reply h
  · exact ⟨r, w, a, rfl, hr, hw⟩
  · exact absurd hquiet (not_quietResult_ofStore operation e)

theorem built_of_quiet {object : Except BuildError α}
    (h : Exchanges (building object >>= k).run u (.done result)) (hquiet : QuietResult result) :
    ∃ a, object = .ok a ∧ Exchanges (k a).run u (.done result) := by
  rcases exchanges_building h with hbuilt | ⟨e, -, -, hresult⟩
  · exact hbuilt
  · cases hresult
    exact absurd hquiet (not_quietResult_build e)

/-- An action that ends with a call for a delay is quiet only if no delay was asked for. -/
theorem settled_of_quiet {operation : String} {c : StoreCall}
    (reply : c.Reply → Except OperatorError (Option Delay))
    (h : Exchanges (ExceptT.mk (Except.mapError (VolumeFault.ofStore operation) <$>
      .ask c fun r => .done (reply r))).run u (.done result)) (hquiet : QuietResult result) :
    ∃ r, u = [⟨c, r⟩] ∧ reply r = .ok none := by
  rw [← bind_pure (ExceptT.mk _)] at h
  obtain ⟨r, w, delay, rfl, hr, hw⟩ := asked_of_quiet reply h hquiet
  obtain ⟨rfl, hresult⟩ := hw.of_done
  cases hresult
  cases delay with
  | none => exact ⟨r, rfl, hr⟩
  | some delay => exact absurd hquiet (not_quietResult_delay delay)

theorem noisy_pure (delay : Delay) : Noisy (pure (some delay)) := by
  intro u result h
  cases h.of_done.2
  exact not_quietResult_delay delay

theorem noisy_asking {operation : String} {c : StoreCall}
    (reply : c.Reply → Except OperatorError α) (hk : ∀ a, Noisy (k a)) :
    Noisy (ExceptT.mk (Except.mapError (VolumeFault.ofStore operation) <$>
      .ask c fun r => .done (reply r)) >>= k) := by
  intro u result h hquiet
  obtain ⟨-, w, a, -, -, hw⟩ := asked_of_quiet reply h hquiet
  exact hk a w result hw hquiet

theorem noisy_building {object : Except BuildError α} (hk : ∀ a, Noisy (k a)) :
    Noisy (building object >>= k) := by
  intro u result h hquiet
  obtain ⟨a, -, hw⟩ := built_of_quiet h hquiet
  exact hk a u result hw hquiet

end

/-- After these actions the volume is always looked at again. -/
theorem noisy_perform (hseen : action = .cancel → seen ≠ none)
    (haction : action = .reclaim ∨ action = .finish ∨ action = .cancel) :
    Noisy (perform p v seen action) := by
  rcases haction with rfl | rfl | rfl
  · exact noisy_asking (c := .mark _ _) id fun _ => noisy_pure _
  · refine noisy_asking (c := .mark _ _) id fun _ => noisy_building fun _ => ?_
    refine noisy_asking (c := .settlePod _ .absent) id fun _ => ?_
    cases seen with
    | none => exact noisy_pure _
    | some job => exact noisy_asking (c := .deleteJob _ _) id fun _ => noisy_pure _
  · cases seen with
    | none => exact absurd rfl (hseen rfl)
    | some job =>
      rw [perform]
      split
      · exact noisy_asking (c := .deleteJob _ _) id fun _ => noisy_pure _
      · exact noisy_pure _

theorem calmly_nil : Calmly [] := fun _ he => absurd he List.not_mem_nil

theorem calmly_cons {c : StoreCall} {r : c.Reply} (h : c.Calm r) (hu : Calmly u) :
    Calmly (⟨c, r⟩ :: u) :=
  List.forall_mem_cons.2 ⟨h, hu⟩

/-- An action that leaves no delay and no failure has made its calls, all of them with success. -/
theorem calm_of_perform {result : Except VolumeFault (Option Delay)}
    (h : Exchanges (perform p v seen action).run u (.done result)) (hquiet : QuietResult result)
    (hseen : action = .cancel → seen ≠ none) :
    Calmly u ∧ LeavesNothing p v action := by
  cases action with
  | none => exact ⟨h.of_done.1 ▸ calmly_nil, by simp [LeavesNothing]⟩
  | reportFailure attempts => exact ⟨h.of_done.1 ▸ calmly_nil, by simp [LeavesNothing]⟩
  | reclaim => exact absurd hquiet (noisy_perform hseen (.inl rfl) u result h)
  | finish => exact absurd hquiet (noisy_perform hseen (.inr (.inl rfl)) u result h)
  | cancel => exact absurd hquiet (noisy_perform hseen (.inr (.inr rfl)) u result h)
  | release =>
    rw [perform] at h
    obtain ⟨placeholder, -, h⟩ := built_of_quiet h hquiet
    obtain ⟨r, rfl, hr⟩ := settled_of_quiet (c := .settlePod _ .absent) id h hquiet
    exact ⟨calmly_cons hr calmly_nil, by simp [LeavesNothing]⟩
  | start =>
    rw [perform] at h
    obtain ⟨placeholder, -, h⟩ := built_of_quiet h hquiet
    obtain ⟨job, hjob, h⟩ := built_of_quiet h hquiet
    obtain ⟨r, w, delay, rfl, hr, hw⟩ := asked_of_quiet (c := .settlePod _ .present) id h hquiet
    cases delay with
    | some delay =>
      -- A placeholder that yields makes the action ask for a delay.
      cases hw.of_done.2
      exact absurd hquiet (not_quietResult_delay delay)
    | none =>
      obtain ⟨r', rfl, hr'⟩ := settled_of_quiet (c := .settleJob _ .present) id hw hquiet
      exact ⟨calmly_cons hr (calmly_cons hr' calmly_nil), leavesNothing_start hjob⟩

/-- A volume that came out of a pass quiet. -/
theorem calm_of_handleVolume {o : VolumeOutcome}
    (h : Exchanges (handleVolume p σ v) u (.done o)) (hquiet : o.Quiet) :
    Calmly u ∧ LeavesNothing p v (actionFor p σ v) := by
  obtain ⟨result, t₁, t₂, rfl, h₁, h₂⟩ := h.of_bind_done
  obtain ⟨rfl, ho⟩ := h₂.of_done
  cases ho
  rw [List.append_nil]
  refine calm_of_perform h₁ ?_ fun hcancel hnone => ?_
  · obtain ⟨hrequeue, hfault⟩ := hquiet
    cases result with
    | ok delay => exact .inl (congrArg Except.ok hrequeue)
    | error fault =>
      obtain ⟨attempts, rfl⟩ := hfault fault rfl
      exact .inr ⟨attempts, rfl⟩
  · have hw : Warrants (σ.sight p v) .cancel := nextAction_eq_iff.1 hcancel
    obtain ⟨-, -, progress, hsome, -⟩ := hw
    rw [Snapshot.sight, hnone] at hsome
    cases hsome

/-! ## Calm passes -/

theorem calm_of_handleVolumes {volumes : List Claim} {outcomes : List VolumeOutcome}
    (h : Exchanges (handleVolumes p σ volumes) t (.done outcomes))
    (hquiet : ∀ o ∈ outcomes, o.Quiet) :
    Calmly t ∧ ∀ v ∈ volumes, LeavesNothing p v (actionFor p σ v) := by
  induction volumes generalizing t outcomes with
  | nil => exact ⟨h.of_done.1 ▸ calmly_nil, fun v hv => absurd hv List.not_mem_nil⟩
  | cons w volumes ih =>
    obtain ⟨o, t₁, t₂, rfl, h₁, h₂⟩ := h.of_bind_done
    obtain ⟨others, u₁, u₂, rfl, hu₁, hu₂⟩ := h₂.of_bind_done
    obtain ⟨rfl, houtcomes⟩ := hu₂.of_done
    cases houtcomes
    obtain ⟨ho, hothers⟩ := List.forall_mem_cons.1 hquiet
    obtain ⟨hcalm₁, haction⟩ := calm_of_handleVolume h₁ ho
    obtain ⟨hcalm₂, hactions⟩ := ih hu₁ hothers
    refine ⟨?_, List.forall_mem_cons.2 ⟨haction, hactions⟩⟩
    rw [List.append_nil]
    exact List.forall_mem_append.2 ⟨hcalm₁, hcalm₂⟩

theorem action_of_handleVolumes {volumes : List Claim} {outcomes : List VolumeOutcome}
    (h : Exchanges (handleVolumes p σ volumes) t (.done outcomes)) :
    ∀ o ∈ outcomes, ∃ v ∈ volumes, o.action = actionFor p σ v := by
  induction volumes generalizing t outcomes with
  | nil =>
    cases h.of_done.2
    exact fun o ho => absurd ho List.not_mem_nil
  | cons w volumes ih =>
    obtain ⟨o, t₁, t₂, rfl, h₁, h₂⟩ := h.of_bind_done
    obtain ⟨others, u₁, u₂, rfl, hu₁, hu₂⟩ := h₂.of_bind_done
    cases hu₂.of_done.2
    obtain ⟨result, w₁, w₂, -, -, hw⟩ := h₁.of_bind_done
    cases hw.of_done.2
    refine List.forall_mem_cons.2 ⟨⟨w, List.mem_cons_self, rfl⟩, fun o ho => ?_⟩
    obtain ⟨v, hv, haction⟩ := ih hu₁ o ho
    exact ⟨v, List.mem_cons_of_mem _ hv, haction⟩

theorem calmly_reads (σ : Snapshot) (p : BufferPool) : Calmly (σ.reads p) := by
  refine calmly_cons ⟨_, rfl⟩ (calmly_cons ⟨_, rfl⟩ (calmly_cons ⟨_, rfl⟩ ?_))
  exact calmly_cons ⟨_, rfl⟩ (calmly_cons ⟨_, rfl⟩ calmly_nil)

theorem follows_of_calmly (h : Follows Answers t s s') (ht : Calmly t) :
    Follows Succeeds t s s' := by
  induction t generalizing s with
  | nil => exact h
  | cons e t ih =>
    obtain ⟨hcalm, hrest⟩ := List.forall_mem_cons.1 ht
    obtain ⟨mid, he, hf⟩ := h
    exact ⟨mid, he.succeeds hcalm, ih hf hrest⟩

theorem requeueAfter_of_mem (h : out.requeueAfter = none) {o : VolumeOutcome}
    (ho : o ∈ out.volumes) : o.requeueAfter = none := by
  have hdelays : out.volumes.filterMap VolumeOutcome.requeueAfter = [] := by
    cases hlist : out.volumes.filterMap VolumeOutcome.requeueAfter with
    | nil => rfl
    | cons delay rest => simp [PassOutcome.requeueAfter, hlist, Delay.shortest?] at h
  exact List.filterMap_eq_nil_iff.1 hdelays o ho

/-- A pass that comes out quiet is one in which no call has failed. -/
theorem completes_of_quiet (h : Exchanges (drainPass p) t (.done (.ok out)))
    (hf : Follows Answers t s s') (hquiet : ∀ o ∈ out.volumes, o.Quiet) :
    Completes p s t out s' ∧ Calmly t ∧ ∀ v ∈ (s.view p out.replicas).volumes,
      LeavesNothing p v (actionFor p (s.view p out.replicas) v) := by
  obtain ⟨σ, u, rfl, -, hu⟩ := exchanges_drainPass_ok h
  obtain ⟨hcalm, hactions⟩ := calm_of_handleVolumes hu hquiet
  have hcalm : Calmly (σ.reads p ++ u) :=
    List.forall_mem_append.2 ⟨calmly_reads σ p, hcalm⟩
  have hc : Completes p s (σ.reads p ++ u) out s' := ⟨h, follows_of_calmly hf hcalm⟩
  obtain ⟨u', -, ht, -, -⟩ := hc.volumes
  obtain ⟨rfl, -⟩ := reads_append_inj ht
  exact ⟨hc, hcalm, hactions⟩

/-- Once a calm action is done, nothing follows from what is to be seen. -/
theorem Sight.action_after {x : Sight} (h : x.action ≠ .reclaim ∧ x.action ≠ .finish ∧
    x.action ≠ .cancel) :
    x.after.action = .none ∨ ∃ attempts, x.after.action = .reportFailure attempts := by
  obtain ⟨mark, inUse, job, placeholder⟩ := x
  rcases job with _ | _ | _ | attempts <;> cases mark <;> cases placeholder <;> cases inUse <;>
    simp_all [after, made, action, VolumeState.of, VolumeState.nextAction]

theorem Acted.held_of_calmly {τ τ' : Slot} (h : Acted p i τ u .start τ') (hu : Calmly u) :
    τ'.Held p i := by
  cases h with
  | yield _ _ hasked => exact absurd hu hasked
  | start _ hheld => exact hheld

/-- After a pass that left no work behind every listed volume is at rest. -/
theorem Completes.rests (h : Owned p s) (hp : p.WellNamed) (hc : Completes p s t out s')
    (hn : s.replicas = .ok n) (hcalm : Calmly t)
    (hactions : ∀ v ∈ (s.view p n).volumes, LeavesNothing p v (actionFor p (s.view p n) v))
    {v' : Claim} (hv' : v' ∈ (s'.view p n).volumes) :
    actionFor p (s'.view p n) v' = .none ∨
      ∃ attempts, actionFor p (s'.view p n) v' = .reportFailure attempts := by
  have howned' := hc.owned h hp
  obtain ⟨i, hname', hstored'⟩ := howned'.name_of_listed hp hv'
  obtain ⟨v, hstored, hname, hiff⟩ := hc.volume_before h.toNamed hp hstored'
  have hdrainable := hiff.1 ((mem_volumes_view_iff_drainable hp).1 hv').2
  have hlisted := (mem_volumes_view_iff_drainable (n := n) hp).2 ⟨⟨_, hstored⟩, hdrainable⟩
  have hvname := h.name_eq _ _ hstored
  obtain ⟨hreclaim, hfinish, hcancel, hbuilds⟩ := hactions v hlisted
  have hx : (s.slot p i).Shows p n i ((s.view p n).sight p v) := h.shows hp hvname hstored
  have hy := howned'.shows (n := n) hp hname' hstored'
  obtain ⟨u, hsub, hacted⟩ := hc.acted h.toNamed hp hn hstored hdrainable hx
    fun hstart => h.startable hx hstart (hbuilds hstart)
  have hheld : actionFor p (s.view p n) v = .start → (s'.slot p i).Held p i := fun hstart =>
    (hstart ▸ hacted).held_of_calmly fun e he => hcalm e (hsub e he)
  obtain ⟨inUse, hshows, huse⟩ := hacted.shows_made hx (nextAction_eq_iff.1 rfl) hheld
    (fun hgone => (hgone.elim hcancel hfinish).elim) (fun hgone => (hfinish hgone).elim)
  have hsame : (s'.view p n).sight p v' = ((s.view p n).sight p v).after := by
    rcases huse with rfl | ⟨hgone, -⟩
    · rw [hy.unique hshows, ← Sight.inUse_made]
      rfl
    · exact absurd hgone hfinish
  change ((s'.view p n).sight p v').action = .none ∨
    ∃ attempts, ((s'.view p n).sight p v').action = .reportFailure attempts
  rw [hsame]
  exact Sight.action_after ⟨hreclaim, hfinish, hcancel⟩

/-- After a pass that asked for no delay and met no failure but failed drain jobs, a pass right
after it on the same content takes no action but to report failed jobs, and makes only its reads. -/
theorem quiet_pass_leaves_nothing (hp : p.WellNamed) (howned : Owned p s)
    (hout : (run answer (drainPass p) s).1 = .ok out)
    (hfaults : ∀ o ∈ out.volumes, ∀ fault, o.fault = some fault →
      ∃ attempts, fault = .drainFailed attempts)
    (hrequeue : out.requeueAfter = none) :
    let s' := (run answer (drainPass p) s).2.quiet
    ∃ out', (run answer (drainPass p) s').1 = .ok out' ∧
      (∀ o ∈ out'.volumes, o.action = .none ∨ ∃ attempts, o.action = .reportFailure attempts) ∧
      transcript answer (drainPass p) s' = (s'.view p out'.replicas).reads p := by
  intro s'
  have hexchanges := exchanges_transcript answer (drainPass p) s
  rw [hout] at hexchanges
  have hfollows := follows_transcript answers_answer (drainPass p) s
  obtain ⟨hc, hcalm, hactions⟩ := completes_of_quiet hexchanges hfollows fun o ho =>
    ⟨requeueAfter_of_mem hrequeue ho, hfaults o ho⟩
  obtain ⟨-, hn, -⟩ := hc.volumes
  have hn' : s'.replicas = .ok out.replicas := hc.pass.replicas_eq.trans hn
  obtain ⟨out', hout', -, hc'⟩ := completes_of_answer (s := s') p rfl hn'
  obtain ⟨u', hagain, -, hu', -⟩ := hc'.volumes
  have hsame : out.replicas = out'.replicas := Except.ok.inj (hn'.symm.trans hagain)
  have hrests : ∀ v ∈ (s'.view p out'.replicas).volumes,
      actionFor p (s'.view p out'.replicas) v = .none ∨
        ∃ attempts, actionFor p (s'.view p out'.replicas) v = .reportFailure attempts :=
    hsame ▸ fun v hv => hc.rests howned.quiet hp hn hcalm hactions hv
  refine ⟨out', hout', fun o ho => ?_, hc'.reads hagain hrests⟩
  obtain ⟨v, hv, haction⟩ := action_of_handleVolumes hu' o ho
  rw [haction]
  exact hrests v hv

theorem logsScaledDown_quiet :
    (run answer (drainPass logsPool) logsScaledDown).1.toOption.any (fun out =>
      out.requeueAfter.isNone && out.volumes.all (fun o => o.fault.isNone) &&
        out.volumes.any (fun o => o.action == .start)) = true := by
  decide +kernel

/-- A pass that starts a drain asks for no delay, and the next pass waits for the drain. -/
theorem quiet_pass_leaves_nothing_logs : ∃ out out',
    (run answer (drainPass logsPool) logsScaledDown).1 = .ok out ∧
      (∃ o ∈ out.volumes, o.action = .start) ∧ out.requeueAfter = none ∧
      (run answer (drainPass logsPool) logsDraining).1 = .ok out' ∧
      ∀ o ∈ out'.volumes, o.action = .none ∨ ∃ attempts, o.action = .reportFailure attempts := by
  obtain ⟨out, hout, hquiet⟩ := Option.any_eq_true _ _ |>.1 logsScaledDown_quiet
  simp only [Bool.and_eq_true, Option.isNone_iff_eq_none, List.all_eq_true, List.any_eq_true,
    beq_iff_eq] at hquiet
  obtain ⟨⟨hrequeue, hfaults⟩, hstarts⟩ := hquiet
  have hok : (run answer (drainPass logsPool) logsScaledDown).1 = .ok out := by
    cases hresult : (run answer (drainPass logsPool) logsScaledDown).1 with
    | error e =>
      rw [hresult] at hout
      cases hout
    | ok out' =>
      rw [hresult] at hout
      exact congrArg Except.ok (Option.some.inj hout)
  obtain ⟨out', hout', hactions, -⟩ := quiet_pass_leaves_nothing wellNamed_logsPool
    owned_logsScaledDown hok (fun o ho fault hfault => by
      rw [hfaults o ho] at hfault
      cases hfault) hrequeue
  exact ⟨out, out', hok, hstarts, hrequeue, hout', hactions⟩

end VolumeDrain.Drain
