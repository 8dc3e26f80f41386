import VolumeDrain.Proofs.Justification

/-!
# Where an action stops

An action is a row of steps: calls, each with the words by which its failure is reported, and the
builds they need. It takes them in order and stops at the first call that fails, at a placeholder
that is put off, or where an object cannot be built; what it records is the failure it stopped at.
As in the plans of actions, the replies are arbitrary.
-/
namespace VolumeDrain.Drain

open Manifest Pool Script

/-- The reply to a call is this error. -/
def StoreCall.FailsWith : (call : StoreCall) → call.Reply → OperatorError → Prop
  | listVolumes _ _, r, e => r = .error e
  | listPods _ _, r, e => r = .error e
  | listJobs _ _, r, e => r = .error e
  | replicaCount _, r, e => r = .error e
  | mark _ _, r, e => r = .error e
  | deleteJob _ _, r, e => r = .error e
  | settleJob _ _, r, e => r = .error e
  | settlePod _ _, r, e => r = .error e

/-- The call is about a placeholder that is to be present, and the reply asks to come back. -/
def StoreCall.PutOff : (call : StoreCall) → call.Reply → Prop
  | settlePod _ .present, r => ∃ delay, r = .ok (some delay)
  | _, _ => False

/-- A failure of the store is recorded as a conflict if the API server answered with code 409, and
as a failed operation otherwise. -/
inductive RecordedAs (operation : String) : OperatorError → VolumeFault → Prop
  | conflict {r : ErrorResponse} (h : r.code = 409) :
      RecordedAs operation (.client (.api r)) (.conflict operation)
  | apply {e : OperatorError} (h : ∀ r, e = .client (.api r) → r.code ≠ 409) :
      RecordedAs operation e (.apply operation e)

theorem recordedAs_ofStore (operation : String) (e : OperatorError) :
    RecordedAs operation e (.ofStore operation e) := by
  cases e with
  | client e =>
    cases e with
    | api r =>
      by_cases h : r.code = 409
      · have hofStore : VolumeFault.ofStore operation (.client (.api r)) = .conflict operation := by
          simp [VolumeFault.ofStore, ClientError.isConflict, ClientError.code?, h]
        exact hofStore ▸ .conflict h
      · have hofStore : VolumeFault.ofStore operation (.client (.api r)) =
            .apply operation (.client (.api r)) := by
          simp [VolumeFault.ofStore, ClientError.isConflict, ClientError.code?, h]
        refine hofStore ▸ .apply fun r' hr => ?_
        cases hr
        exact h
    | transport | emptyName | undecodable => exact .apply nofun
  | _ => exact .apply nofun

/-! ## Steps -/

/-- A step of an action. -/
inductive Step where
  /-- A call, named by what it does. -/
  | call (operation : String) (call : StoreCall)
  /-- The action stops here, before another call. -/
  | halt (fault : VolumeFault)

/-- The call of a step. -/
def Step.call? : Step → Option StoreCall
  | call _ c => some c
  | halt _ => none

/-- The steps that need an object, or the failure to build it. -/
def onceBuilt {α : Type} (object : Except BuildError α) (steps : α → List Step) : List Step :=
  match object with
  | .ok a => steps a
  | .error e => [.halt (.build e)]

/-- The steps of an action, in order. -/
def steps (p : BufferPool) (volume : Claim) (job : Option Job) : DrainAction → List Step
  | .none => []
  | .reclaim => [.call "removing drained label" (.mark volume .unmarked)]
  | .finish =>
    .call "marking volume as drained" (.mark volume .drained) ::
      onceBuilt (placeholderPod p volume) fun placeholder =>
        .call "removing placeholder pod" (.settlePod placeholder .absent) ::
          match job with
          | some job => [.call "deleting completed drain job" (.deleteJob job .background)]
          | none => []
  | .cancel =>
    match job with
    | none => []
    | some job =>
      if job.metadata.isTerminating then []
      else [.call "deleting unneeded drain job" (.deleteJob job .foreground)]
  | .release =>
    onceBuilt (placeholderPod p volume) fun placeholder =>
      [.call "removing placeholder pod" (.settlePod placeholder .absent)]
  | .reportFailure attempts => [.halt (.drainFailed attempts)]
  | .start =>
    onceBuilt (placeholderPod p volume) fun placeholder =>
      onceBuilt (drainerJob p volume) fun job =>
        [.call "ensuring placeholder pod" (.settlePod placeholder .present),
         .call "creating drain job" (.settleJob job .present)]

/-- The exchanges make the calls of steps in order, up to the first step that stops the action, and
this is the fault recorded. -/
inductive Takes : List Step → List StoreExchange → Option VolumeFault → Prop
  | finished : Takes [] [] none
  | goesOn {operation : String} {c : StoreCall} {r : c.Reply} {rest : List Step}
      {t : List StoreExchange} {fault : Option VolumeFault} (h : c.GoesOn r)
      (ht : Takes rest t fault) : Takes (.call operation c :: rest) (⟨c, r⟩ :: t) fault
  | putOff {operation : String} {c : StoreCall} {r : c.Reply} (rest : List Step)
      (h : c.PutOff r) : Takes (.call operation c :: rest) [⟨c, r⟩] none
  | failed {operation : String} {c : StoreCall} {r : c.Reply} {e : OperatorError}
      {fault : VolumeFault} (rest : List Step) (h : c.FailsWith r e)
      (hfault : RecordedAs operation e fault) :
      Takes (.call operation c :: rest) [⟨c, r⟩] (some fault)
  | halted (fault : VolumeFault) (rest : List Step) : Takes (.halt fault :: rest) [] (some fault)

section

variable {p : BufferPool} {v : Claim} {job : Option Job} {action : DrainAction}
  {rest : List Step} {t : List StoreExchange} {fault : Option VolumeFault}

theorem Takes.of_nil (h : Takes [] t fault) : t = [] ∧ fault = none := by
  cases h
  exact ⟨rfl, rfl⟩

theorem Takes.of_halt {halting : VolumeFault} (h : Takes (.halt halting :: rest) t fault) :
    t = [] ∧ fault = some halting := by
  cases h
  exact ⟨rfl, rfl⟩

theorem Takes.of_call {operation : String} {c : StoreCall}
    (h : Takes (.call operation c :: rest) t fault) :
    ∃ r u, t = ⟨c, r⟩ :: u ∧
      ((c.GoesOn r ∧ Takes rest u fault) ∨ (c.PutOff r ∧ u = [] ∧ fault = none) ∨
        ∃ e recorded, c.FailsWith r e ∧ RecordedAs operation e recorded ∧ u = [] ∧
          fault = some recorded) := by
  cases h with
  | goesOn h ht => exact ⟨_, _, rfl, .inl ⟨h, ht⟩⟩
  | putOff _ h => exact ⟨_, _, rfl, .inr (.inl ⟨h, rfl, rfl⟩)⟩
  | failed _ h hfault => exact ⟨_, _, rfl, .inr (.inr ⟨_, _, h, hfault, rfl, rfl⟩)⟩

theorem StoreCall.FailsWith.not_goesOn {c : StoreCall} {r : c.Reply} {e : OperatorError}
    (h : c.FailsWith r e) : ¬ c.GoesOn r := by
  cases c with
  | settlePod pod presence => cases presence <;> simp_all [FailsWith, GoesOn]
  | _ => simp_all [FailsWith, GoesOn]

theorem StoreCall.PutOff.not_goesOn {c : StoreCall} {r : c.Reply} (h : c.PutOff r) :
    ¬ c.GoesOn r := by
  cases c with
  | settlePod pod presence =>
    cases presence with
    | present =>
      obtain ⟨delay, rfl⟩ := h
      exact fun hgoes => nomatch Except.ok.inj hgoes
    | absent => exact h.elim
  | _ => exact h.elim

/-- The calls of the steps are those of the plan. -/
theorem filterMap_call?_steps :
    (steps p v job action).filterMap Step.call? = plan p v job action := by
  cases action with
  | finish =>
    cases hp : placeholderPod p v <;> cases job <;>
      simp [steps, plan, onceBuilt, Step.call?, hp]
  | cancel =>
    cases job with
    | none => rfl
    | some job => cases hd : job.metadata.isTerminating <;> simp [steps, plan, Step.call?, hd]
  | release => cases hp : placeholderPod p v <;> simp [steps, plan, onceBuilt, Step.call?, hp]
  | start =>
    cases hp : placeholderPod p v <;> cases hj : drainerJob p v <;>
      simp [steps, plan, onceBuilt, Step.call?, hp, hj]
  | none | reclaim | reportFailure attempts => rfl

theorem Takes.enacts (h : Takes rest t fault) :
    ∃ left, Enacts (rest.filterMap Step.call?) t left := by
  induction h with
  | finished | halted => exact ⟨_, .stop _⟩
  | goesOn h _ ih => exact ih.imp fun left hleft => .next h hleft
  | putOff rest h => exact ⟨[], .fail _ h.not_goesOn⟩
  | failed rest h => exact ⟨[], .fail _ h.not_goesOn⟩

/-! ## What an action does -/

/-- The fault that a result of an action stands for. -/
def faultOf {α : Type} : Except VolumeFault α → Option VolumeFault
  | .ok _ => none
  | .error fault => some fault

/-- A call of an action was made. It failed and its failure was recorded, or it succeeded and the
action went on with the rest. -/
theorem takes_calling {α β : Type} {operation : String} {c : StoreCall}
    (reply : c.Reply → Except OperatorError α)
    (on : ∀ r a, reply r = .ok a → c.GoesOn r) (off : ∀ r e, reply r = .error e → c.FailsWith r e)
    {k : α → ActionScript β} {b : Except VolumeFault β}
    (h : Exchanges (calling operation (.ask c fun r => .done (reply r)) >>= k).run t (.done b))
    (next : ∀ a u, Exchanges (k a).run u (.done b) → Takes rest u (faultOf b)) :
    Takes (.call operation c :: rest) t (faultOf b) := by
  obtain ⟨r, u, rfl, ⟨a, ha, hu⟩ | ⟨e, he, rfl, rfl⟩⟩ := exchanges_asking_done reply h
  · exact .goesOn (on r a ha) (next a u hu)
  · exact .failed rest (off r e he) (recordedAs_ofStore operation e)

theorem takes_building {α β : Type} {object : Except BuildError α} {after : α → List Step}
    {k : α → ActionScript β} {b : Except VolumeFault β}
    (h : Exchanges (building object >>= k).run t (.done b))
    (next : ∀ a, object = .ok a → Exchanges (k a).run t (.done b) →
      Takes (after a) t (faultOf b)) :
    Takes (onceBuilt object after) t (faultOf b) := by
  rcases exchanges_building h with ⟨a, ha, hk⟩ | ⟨e, rfl, rfl, hb⟩
  · rw [ha]
    exact next a ha hk
  · cases hb
    exact .halted _ []

theorem takes_done {β : Type} {a : β} {b : Except VolumeFault β}
    (h : Exchanges (pure a : ActionScript β).run t (.done b)) : Takes [] t (faultOf b) := by
  obtain ⟨rfl, hb⟩ := Exchanges.of_done h
  cases hb
  exact .finished

/-- A placeholder that is to be present also stops the action when it is put off. -/
theorem takes_present {β : Type} {operation : String} {pod : Pod}
    {k : Option Delay → ActionScript β} {b : Except VolumeFault β}
    (h : Exchanges (calling operation (StoreScript.settlePod pod .present) >>= k).run t (.done b))
    (next : ∀ u, Exchanges (k none).run u (.done b) → Takes rest u (faultOf b))
    (yield : ∀ delay, ∃ a, (k (some delay)).run = .done (.ok a)) :
    Takes (.call operation (.settlePod pod .present) :: rest) t (faultOf b) := by
  obtain ⟨r, u, rfl, ⟨delay, hdelay, hu⟩ | ⟨e, he, rfl, rfl⟩⟩ :=
    exchanges_asking_done (c := .settlePod pod .present) id h
  · cases delay with
    | none => exact .goesOn hdelay (next u hu)
    | some delay =>
      obtain ⟨a, ha⟩ := yield delay
      rw [ha] at hu
      obtain ⟨rfl, hb⟩ := hu.of_done
      cases hb
      exact .putOff rest ⟨delay, hdelay⟩
  · exact .failed rest he (recordedAs_ofStore operation e)

/-- An action takes its steps. -/
theorem takes_perform {b : Except VolumeFault (Option Delay)}
    (h : Exchanges (perform p v job action).run t (.done b)) :
    Takes (steps p v job action) t (faultOf b) := by
  cases action with
  | none => exact takes_done h
  | reclaim =>
    refine takes_calling (c := .mark _ _) id (fun _ a ha => ⟨a, ha⟩) (fun _ _ he => he) h ?_
    exact fun _ u hu => takes_done hu
  | finish =>
    refine takes_calling (c := .mark _ _) id (fun _ a ha => ⟨a, ha⟩) (fun _ _ he => he) h
      fun _ u hu => takes_building hu fun placeholder _ hu => ?_
    refine takes_calling (c := .settlePod _ .absent) id (fun _ a ha => ⟨a, ha⟩)
      (fun _ _ he => he) hu fun delay u hu => ?_
    cases job with
    | none => exact takes_done hu
    | some job =>
      refine takes_calling (c := .deleteJob _ _) id (fun _ a ha => ⟨a, ha⟩) (fun _ _ he => he)
        hu ?_
      exact fun _ u hu => takes_done hu
  | cancel =>
    cases job with
    | none => exact takes_done h
    | some job =>
      cases hd : job.metadata.isTerminating with
      | true =>
        simp only [perform, hd] at h
        simp only [steps, hd]
        exact takes_done h
      | false =>
        simp only [perform, hd] at h
        simp only [steps, hd]
        refine takes_calling (c := .deleteJob _ _) id (fun _ a ha => ⟨a, ha⟩) (fun _ _ he => he)
          h ?_
        exact fun _ u hu => takes_done hu
  | release =>
    refine takes_building h fun placeholder _ hu => ?_
    rw [← bind_pure (calling _ _)] at hu
    refine takes_calling (c := .settlePod _ .absent) id (fun _ a ha => ⟨a, ha⟩)
      (fun _ _ he => he) hu ?_
    exact fun _ u hu => takes_done hu
  | reportFailure attempts =>
    obtain ⟨rfl, hb⟩ := Exchanges.of_done h
    cases hb
    exact .halted _ []
  | start =>
    refine takes_building h fun placeholder _ hu => takes_building hu fun job _ hu => ?_
    refine takes_present hu (fun u hu => ?_) fun delay => ⟨_, rfl⟩
    rw [← bind_pure (calling _ _)] at hu
    refine takes_calling (c := .settleJob _ _) id (fun _ a ha => ⟨a, ha⟩) (fun _ _ he => he) hu ?_
    exact fun _ u hu => takes_done hu

end

/-! ## Volumes in turn -/

/-- What a pass did for one volume. -/
structure VolumeTurn where
  volume : Claim
  exchanges : List StoreExchange
  outcome : VolumeOutcome

/-- The steps for a volume of a snapshot. -/
def stepsFor (p : BufferPool) (s : Snapshot) (volume : Claim) : List Step :=
  steps p volume (s.jobOf? p (nameOf volume)) (actionFor p s volume)

variable {p : BufferPool} {s : Snapshot} {v : Claim} {t : List StoreExchange}

/-- The turn takes the steps of the action that is decided for its volume, and its outcome records
the action and the fault. -/
structure VolumeTurn.Proceeds (p : BufferPool) (s : Snapshot) (turn : VolumeTurn) : Prop where
  volume_eq : turn.outcome.volume = nameOf turn.volume
  action_eq : turn.outcome.action = actionFor p s turn.volume
  takes : Takes (stepsFor p s turn.volume) turn.exchanges turn.outcome.fault

theorem proceeds_handleVolume {o : VolumeOutcome}
    (h : Exchanges (handleVolume p s v) t (.done o)) : VolumeTurn.Proceeds p s ⟨v, t, o⟩ := by
  obtain ⟨result, t₁, t₂, rfl, h₁, h₂⟩ := h.of_bind_done
  obtain ⟨rfl, ho⟩ := h₂.of_done
  cases ho
  have htakes := takes_perform h₁
  rw [List.append_nil]
  exact ⟨rfl, rfl, by cases result <;> exact htakes⟩

theorem turns_handleVolumes {volumes : List Claim} {outcomes : List VolumeOutcome}
    (h : Exchanges (handleVolumes p s volumes) t (.done outcomes)) :
    ∃ turns : List VolumeTurn, turns.map VolumeTurn.volume = volumes ∧
      t = turns.flatMap VolumeTurn.exchanges ∧ outcomes = turns.map VolumeTurn.outcome ∧
        ∀ turn ∈ turns, turn.Proceeds p s := by
  induction volumes generalizing t outcomes with
  | nil =>
    obtain ⟨rfl, ho⟩ := h.of_done
    cases ho
    exact ⟨[], rfl, rfl, rfl, by simp⟩
  | cons v volumes ih =>
    obtain ⟨outcome, t₁, t₂, rfl, h₁, h₂⟩ := h.of_bind_done
    obtain ⟨others, u₁, u₂, rfl, hu₁, hu₂⟩ := h₂.of_bind_done
    obtain ⟨rfl, ho⟩ := hu₂.of_done
    cases ho
    obtain ⟨turns, hvolumes, rfl, rfl, hturns⟩ := ih hu₁
    refine ⟨⟨v, t₁, outcome⟩ :: turns, by simp [hvolumes], by simp, rfl, ?_⟩
    intro turn hturn
    rcases List.mem_cons.1 hturn with rfl | hturn
    · exact proceeds_handleVolume h₁
    · exact hturns turn hturn

theorem VolumeTurn.Proceeds.mem_planFor {turn : VolumeTurn} (h : turn.Proceeds p s)
    {e : StoreExchange} (he : e ∈ turn.exchanges) : e.question ∈ planFor p s turn.volume := by
  obtain ⟨left, hleft⟩ := h.takes.enacts
  rw [stepsFor, filterMap_call?_steps] at hleft
  exact hleft.mem_plan he

theorem justified_of_turns {turns : List VolumeTurn} (h : ∀ turn ∈ turns, turn.Proceeds p s) :
    ∀ e ∈ turns.flatMap VolumeTurn.exchanges,
      ∃ v ∈ turns.map VolumeTurn.volume, Justified p s v e.question := by
  intro e he
  obtain ⟨turn, hturn, he⟩ := List.mem_flatMap.1 he
  exact ⟨turn.volume, List.mem_map_of_mem hturn,
    justified_of_mem_planFor ((h turn hturn).mem_planFor he)⟩

/-- What is left of a pass once its snapshot is taken. -/
theorem exchanges_reads (p : BufferPool) (s : Snapshot) : Exchanges (drainPass p) (s.reads p) (do
    return .ok { replicas := s.replicas, volumes := ← handleVolumes p s s.volumes }) := by
  rw [← List.append_nil (s.reads p)]
  exact (exchanges_takeSnapshot p s).bind (.stop _)

/-- A pass that has taken a snapshot comes to an end with the outcomes of the listed volumes. -/
theorem handled_of_drainPass {result : Except OperatorError PassOutcome}
    (h : Exchanges (drainPass p) (s.reads p ++ t) (.done result)) :
    ∃ outcomes, result = .ok { replicas := s.replicas, volumes := outcomes } ∧
      Exchanges (handleVolumes p s s.volumes) t (.done outcomes) := by
  obtain ⟨outcomes, u₁, u₂, rfl, hu₁, hu₂⟩ := ((exchanges_reads p s).after h).of_bind_done
  obtain ⟨rfl, hresult⟩ := hu₂.of_done
  cases hresult
  rw [List.append_nil]
  exact ⟨outcomes, rfl, hu₁⟩

/-- Wherever it is cut off, after its snapshot a pass enacts the plans of the listed volumes. -/
theorem treats_of_drainPass {rest : StoreScript (Except OperatorError PassOutcome)}
    (h : Exchanges (drainPass p) (s.reads p ++ t) rest) : Treats p s s.volumes t := by
  rcases ((exchanges_reads p s).after h).of_bind with ⟨rest, hrest, -⟩ |
    ⟨outcomes, u₁, u₂, rfl, hu₁, hu₂⟩
  · exact treats_handleVolumes hrest
  · obtain ⟨rfl, -⟩ := hu₂.of_done
    rw [List.append_nil]
    exact treats_handleVolumes hu₁

end VolumeDrain.Drain
