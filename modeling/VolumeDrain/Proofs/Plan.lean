import VolumeDrain.Drain.Pass
import VolumeDrain.Proofs.Exchange

/-!
# The calls of a pass

Each action has a plan: the calls it makes if all goes well, in order. Whatever the replies are, an
action makes the calls of its plan one after another up to the first that stops it, and a pass
makes the five reads of a snapshot and then, volume by volume, the calls of each volume's plan. The
statements here hold of every store; what the calls do to one is not considered.
-/
namespace VolumeDrain.Drain

open Manifest Pool Script

/-- A call to the store and the reply it got. -/
abbrev StoreExchange := Exchange StoreCall.Reply

/-- After this reply an action goes on to its next call. A placeholder that is to be present stops
the action also by asking it to come back later. -/
def StoreCall.GoesOn : (call : StoreCall) → call.Reply → Prop
  | listVolumes _ _, r => ∃ found, r = .ok found
  | listPods _ _, r => ∃ found, r = .ok found
  | listJobs _ _, r => ∃ found, r = .ok found
  | replicaCount _, r => ∃ found, r = .ok found
  | mark _ _, r => ∃ marked, r = .ok marked
  | deleteJob _ _, r => ∃ deleted, r = .ok deleted
  | settleJob _ _, r => ∃ delay, r = .ok delay
  | settlePod _ .present, r => r = .ok none
  | settlePod _ .absent, r => ∃ delay, r = .ok delay

/-- The exchanges make the calls of a plan in order, and leave the rest of it to be made. Nothing
is left after a call that stops the action. -/
inductive Enacts : List StoreCall → List StoreExchange → List StoreCall → Prop
  | stop (plan : List StoreCall) : Enacts plan [] plan
  | fail {c : StoreCall} {r : c.Reply} (plan : List StoreCall) (h : ¬ c.GoesOn r) :
      Enacts (c :: plan) [⟨c, r⟩] []
  | next {c : StoreCall} {r : c.Reply} {plan left : List StoreCall} {t : List StoreExchange}
      (h : c.GoesOn r) (ht : Enacts plan t left) : Enacts (c :: plan) (⟨c, r⟩ :: t) left

theorem Enacts.mem_plan {plan left : List StoreCall} {t : List StoreExchange}
    (h : Enacts plan t left) {e : StoreExchange} (he : e ∈ t) : e.question ∈ plan := by
  induction h with
  | stop => simp at he
  | fail => simp_all
  | next _ _ ih =>
    rcases List.mem_cons.1 he with rfl | he
    · exact List.mem_cons_self
    · exact List.mem_cons_of_mem _ (ih he)

theorem Enacts.length_le {plan left : List StoreCall} {t : List StoreExchange}
    (h : Enacts plan t left) : t.length ≤ plan.length := by
  induction h with
  | stop => exact Nat.zero_le _
  | fail => exact Nat.succ_le_succ (Nat.zero_le _)
  | next _ _ ih => exact Nat.succ_le_succ ih

theorem Enacts.of_nil {left : List StoreCall} {t : List StoreExchange} (h : Enacts [] t left) :
    t = [] := by
  cases h
  rfl

theorem Enacts.of_cons {c : StoreCall} {plan left : List StoreCall} {t : List StoreExchange}
    (h : Enacts (c :: plan) t left) :
    (t = [] ∧ left = c :: plan) ∨ ∃ r u, t = ⟨c, r⟩ :: u ∧
      ((u = [] ∧ ¬ c.GoesOn r) ∨ (c.GoesOn r ∧ Enacts plan u left)) := by
  cases h with
  | stop => exact .inl ⟨rfl, rfl⟩
  | fail _ h => exact .inr ⟨_, [], rfl, .inl ⟨rfl, h⟩⟩
  | next h ht => exact .inr ⟨_, _, rfl, .inr ⟨h, ht⟩⟩

theorem Enacts.of_one {c : StoreCall} {left : List StoreCall} {t : List StoreExchange}
    (h : Enacts [c] t left) : t = [] ∨ ∃ r, t = [⟨c, r⟩] := by
  rcases h.of_cons with ⟨rfl, -⟩ | ⟨r, u, rfl, ⟨rfl, -⟩ | ⟨-, hu⟩⟩
  · exact .inl rfl
  · exact .inr ⟨r, rfl⟩
  · rw [hu.of_nil]
    exact .inr ⟨r, rfl⟩

/-- The exchanges enact a plan, to its end if the script that had them has ended. -/
def EnactsUntil {α : Type} (plan : List StoreCall) (t : List StoreExchange)
    (rest : StoreScript α) : Prop :=
  ∃ left, Enacts plan t left ∧ ((∃ a, rest = .done a) → left = [])

theorem enactsUntil_of_done {α : Type} {a : α} {t : List StoreExchange} {rest : StoreScript α}
    (h : Exchanges (.done a) t rest) : EnactsUntil [] t rest := by
  obtain ⟨rfl, -⟩ := h.of_done
  exact ⟨[], .stop [], fun _ => rfl⟩

theorem enactsUntil_of_ask {α : Type} {c : StoreCall} {plan : List StoreCall}
    {resume : c.Reply → StoreScript α} {t : List StoreExchange} {rest : StoreScript α}
    (h : Exchanges (.ask c resume) t rest)
    (on : ∀ r u, c.GoesOn r → Exchanges (resume r) u rest → EnactsUntil plan u rest)
    (off : ∀ r u, ¬ c.GoesOn r → Exchanges (resume r) u rest → u = []) :
    EnactsUntil (c :: plan) t rest := by
  rcases h.of_ask with ⟨rfl, rfl⟩ | ⟨r, u, rfl, hu⟩
  · exact ⟨_, .stop _, fun ⟨a, ha⟩ => nomatch ha⟩
  · by_cases hr : c.GoesOn r
    · obtain ⟨left, hleft, hend⟩ := on r u hr hu
      exact ⟨left, .next hr hleft, hend⟩
    · rw [off r u hr hu]
      exact ⟨[], .fail plan hr, fun _ => rfl⟩

/-! ## Plans of actions -/

/-- The calls of an action, if none of them stops it. An action of which an object cannot be built
has only the calls before that. -/
def plan (p : BufferPool) (volume : Claim) (job : Option Job) : DrainAction → List StoreCall
  | .none => []
  | .reclaim => [.mark volume .unmarked]
  | .finish =>
    .mark volume .drained ::
      match placeholderPod p volume with
      | .error _ => []
      | .ok placeholder =>
        .settlePod placeholder .absent ::
          match job with
          | some job => [.deleteJob job .background]
          | none => []
  | .cancel =>
    match job with
    | none => []
    | some job => if job.metadata.isTerminating then [] else [.deleteJob job .foreground]
  | .release =>
    match placeholderPod p volume with
    | .error _ => []
    | .ok placeholder => [.settlePod placeholder .absent]
  | .reportFailure _ => []
  | .start =>
    match placeholderPod p volume, drainerJob p volume with
    | .ok placeholder, .ok job => [.settlePod placeholder .present, .settleJob job .present]
    | _, _ => []

/-- A call whose failure is reported in the terms of the script that makes it. -/
theorem run_mapError_bind {ε α β : Type} (f : OperatorError → ε)
    (call : StoreScript (Except OperatorError α)) (k : α → ExceptT ε StoreScript β) :
    (ExceptT.mk (Except.mapError f <$> call) >>= k).run = call >>= fun r =>
      match r with
      | .ok a => (k a).run
      | .error e => .done (.error (f e)) := by
  simp only [ExceptT.run_bind, ExceptT.run_mk, map_eq_pure_bind, bind_assoc, pure_bind]
  congr 1
  funext r
  cases r <;> rfl

theorem run_building_bind {α β : Type} (object : Except BuildError α) (k : α → ActionScript β) :
    (building object >>= k).run =
      match object with
      | .ok a => (k a).run
      | .error e => .done (.error (.build e)) := by
  cases object <;> rfl

/-- An object was built and the script went on with it, or it was not and the script has ended. -/
theorem exchanges_building {α β : Type} {object : Except BuildError α} {k : α → ActionScript β}
    {t : List StoreExchange} {rest : StoreScript (Except VolumeFault β)}
    (h : Exchanges (building object >>= k).run t rest) :
    (∃ a, object = .ok a ∧ Exchanges (k a).run t rest) ∨
      ∃ e, object = .error e ∧ t = [] ∧ rest = .done (.error (.build e)) := by
  rw [run_building_bind] at h
  cases object with
  | ok a => exact .inl ⟨a, rfl, h⟩
  | error e => exact .inr ⟨e, rfl, h.of_done⟩

section

variable {ε α β : Type} {plan : List StoreCall} {t : List StoreExchange} {f : OperatorError → ε}

/-- A call whose success lets the script go on. The reply is read through a function, since the
types of replies differ from call to call. -/
theorem enactsUntil_asking {c : StoreCall} (reply : c.Reply → Except OperatorError α)
    (on : ∀ r, c.GoesOn r ↔ ∃ a, reply r = .ok a) {k : α → ExceptT ε StoreScript β}
    {rest : StoreScript (Except ε β)}
    (h : Exchanges (ExceptT.mk (Except.mapError f <$> .ask c fun r => .done (reply r)) >>= k).run t
      rest)
    (next : ∀ a u, Exchanges (k a).run u rest → EnactsUntil plan u rest) :
    EnactsUntil (c :: plan) t rest := by
  rw [run_mapError_bind] at h
  refine enactsUntil_of_ask h (fun r u hr hu => ?_) (fun r u hr hu => ?_)
  · obtain ⟨a, ha⟩ := (on r).1 hr
    simp only [ha] at hu
    exact next a u hu
  · cases hc : reply r with
    | ok a => exact absurd ((on r).2 ⟨a, hc⟩) hr
    | error e =>
      simp only [hc] at hu
      exact hu.of_done.1

/-- A script that has come to its end has made its first call, and gone on or stopped at it. -/
theorem exchanges_asking_done {c : StoreCall} (reply : c.Reply → Except OperatorError α)
    {k : α → ExceptT ε StoreScript β} {b : Except ε β}
    (h : Exchanges (ExceptT.mk (Except.mapError f <$> .ask c fun r => .done (reply r)) >>= k).run t
      (.done b)) :
    ∃ r u, t = ⟨c, r⟩ :: u ∧
      ((∃ a, reply r = .ok a ∧ Exchanges (k a).run u (.done b)) ∨
        ∃ e, reply r = .error e ∧ u = [] ∧ b = .error (f e)) := by
  rw [run_mapError_bind] at h
  rcases h.of_ask with ⟨-, hrest⟩ | ⟨r, u, rfl, hu⟩
  · cases hrest
  · cases hc : reply r with
    | ok a =>
      simp only [hc] at hu
      exact ⟨r, u, rfl, .inl ⟨a, hc, hu⟩⟩
    | error e =>
      simp only [hc] at hu
      obtain ⟨rfl, hb⟩ := hu.of_done
      cases hb
      exact ⟨r, [], rfl, .inr ⟨e, hc, rfl, rfl⟩⟩

/-- A read that a snapshot was taken of has succeeded, and the rest of it was read on. -/
theorem exchanges_asking_ok {c : StoreCall} (reply : c.Reply → Except OperatorError α)
    {k : α → ExceptT ε StoreScript β} {b : β}
    (h : Exchanges (ExceptT.mk (Except.mapError f <$> .ask c fun r => .done (reply r)) >>= k).run t
      (.done (.ok b))) :
    ∃ r a u, reply r = .ok a ∧ t = ⟨c, r⟩ :: u ∧ Exchanges (k a).run u (.done (.ok b)) := by
  obtain ⟨r, u, rfl, ⟨a, ha, hu⟩ | ⟨e, -, -, hb⟩⟩ := exchanges_asking_done reply h
  · exact ⟨r, a, u, ha, rfl, hu⟩
  · cases hb

theorem exchanges_asking {c : StoreCall} {r : c.Reply} {a : α}
    (reply : c.Reply → Except OperatorError α) (hr : reply r = .ok a)
    {k : α → ExceptT ε StoreScript β} {rest : StoreScript (Except ε β)}
    (h : Exchanges (k a).run t rest) :
    Exchanges (ExceptT.mk (Except.mapError f <$> .ask c fun r => .done (reply r)) >>= k).run
      (⟨c, r⟩ :: t) rest := by
  rw [run_mapError_bind]
  refine .ask ?_
  change Exchanges (match reply r with
    | .ok a => (k a).run
    | .error e => .done (.error (f e))) t rest
  rw [hr]
  exact h

/-- An object that is built lets the script go on, and no call is left for one that is not. -/
theorem enactsUntil_building {object : Except BuildError α} {k : α → ActionScript β}
    {rest : StoreScript (Except VolumeFault β)}
    (h : Exchanges (building object >>= k).run t rest)
    (built : ∀ a, object = .ok a → Exchanges (k a).run t rest → EnactsUntil plan t rest)
    (unbuilt : ∀ e, object = .error e → plan = []) : EnactsUntil plan t rest := by
  rcases exchanges_building h with ⟨a, ha, hk⟩ | ⟨e, he, rfl, rfl⟩
  · exact built a ha hk
  · rw [unbuilt e he]
    exact enactsUntil_of_done (.stop _)

/-- A placeholder that is to be present is the only call whose success can end an action. -/
theorem enactsUntil_present {operation : String} {pod : Pod} {k : Option Delay → ActionScript β}
    {rest : StoreScript (Except VolumeFault β)}
    (h : Exchanges (calling operation (StoreScript.settlePod pod .present) >>= k).run t rest)
    (next : ∀ u, Exchanges (k none).run u rest → EnactsUntil plan u rest)
    (yield : ∀ delay, ∃ a, (k (some delay)).run = .done a) :
    EnactsUntil (.settlePod pod .present :: plan) t rest := by
  rw [calling, run_mapError_bind] at h
  refine enactsUntil_of_ask h (fun r u hr hu => ?_) (fun r u hr hu => ?_)
  · subst hr
    exact next u hu
  · match r with
    | .ok none => exact absurd rfl hr
    | .ok (some delay) =>
      obtain ⟨a, ha⟩ := yield delay
      have hu : Exchanges (k (some delay)).run u rest := hu
      rw [ha] at hu
      exact hu.of_done.1
    | .error e => exact hu.of_done.1

end

/-- An action makes the calls of its plan, in order, up to the first that stops it. -/
theorem enacts_perform {p : BufferPool} {volume : Claim} {job : Option Job} {action : DrainAction}
    {t : List StoreExchange} {rest : StoreScript (Except VolumeFault (Option Delay))}
    (h : Exchanges (perform p volume job action).run t rest) :
    EnactsUntil (plan p volume job action) t rest := by
  cases action with
  | none => exact enactsUntil_of_done h
  | reportFailure attempts => exact enactsUntil_of_done h
  | reclaim =>
    refine enactsUntil_asking (c := .mark _ _) id (fun _ => Iff.rfl) h fun _ u hu => ?_
    exact enactsUntil_of_done hu
  | finish =>
    refine enactsUntil_asking (c := .mark _ _) id (fun _ => Iff.rfl) h fun _ u hu => ?_
    refine enactsUntil_building hu (fun placeholder hp hu => ?_) fun e he => by rw [he]
    rw [hp]
    refine enactsUntil_asking (c := .settlePod _ .absent) id (fun _ => Iff.rfl) hu
      fun delay u hu => ?_
    cases job with
    | none => exact enactsUntil_of_done hu
    | some job =>
      refine enactsUntil_asking (c := .deleteJob _ _) id (fun _ => Iff.rfl) hu fun _ u hu => ?_
      exact enactsUntil_of_done hu
  | cancel =>
    cases job with
    | none => exact enactsUntil_of_done h
    | some job =>
      by_cases hd : job.metadata.isTerminating
      · simp only [perform, hd] at h
        simp only [plan, hd]
        exact enactsUntil_of_done h
      · simp only [perform, hd] at h
        simp only [plan, hd]
        refine enactsUntil_asking (c := .deleteJob _ _) id (fun _ => Iff.rfl) h fun _ u hu => ?_
        exact enactsUntil_of_done hu
  | release =>
    rw [plan]
    refine enactsUntil_building h (fun placeholder hp h => ?_) fun e he => by rw [he]
    rw [hp]
    rw [← bind_pure (calling _ _)] at h
    refine enactsUntil_asking (c := .settlePod _ .absent) id (fun _ => Iff.rfl) h
      fun delay u hu => ?_
    exact enactsUntil_of_done hu
  | start =>
    rw [plan]
    refine enactsUntil_building h (fun placeholder hp h => ?_) fun e he => by rw [he]
    refine enactsUntil_building h (fun job hj h => ?_) fun e he => by rw [hp, he]
    rw [hp, hj]
    refine enactsUntil_present h (fun u hu => ?_) fun delay => ⟨_, rfl⟩
    rw [← bind_pure (calling _ _)] at hu
    refine enactsUntil_asking (c := .settleJob _ _) id (fun _ => Iff.rfl) hu fun delay u hu => ?_
    exact enactsUntil_of_done hu

/-! ## Plans that are carried out -/

/-- The script can have all exchanges that enact the plan, and has come to its end where they leave
nothing of it. -/
def CarriesOut {α : Type} (plan : List StoreCall) (script : StoreScript α) : Prop :=
  ∀ {t left}, Enacts plan t left →
    ∃ rest, Exchanges script t rest ∧ (left = [] → ∃ a, rest = .done a)

theorem carriesOut_done {α : Type} (a : α) : CarriesOut [] (.done a : StoreScript α) := by
  intro t left h
  rw [h.of_nil]
  exact ⟨_, .stop _, fun _ => ⟨a, rfl⟩⟩

theorem carriesOut_ask {α : Type} {c : StoreCall} {plan : List StoreCall}
    {resume : c.Reply → StoreScript α} (on : ∀ r, c.GoesOn r → CarriesOut plan (resume r))
    (off : ∀ r, ¬ c.GoesOn r → ∃ a, resume r = .done a) :
    CarriesOut (c :: plan) (.ask c resume) := by
  intro t left h
  cases h with
  | stop => exact ⟨_, .stop _, nofun⟩
  | fail _ hr =>
    obtain ⟨a, ha⟩ := off _ hr
    exact ⟨_, .ask (.stop _), fun _ => ⟨a, ha⟩⟩
  | next hr ht =>
    obtain ⟨rest, hrest, hend⟩ := on _ hr ht
    exact ⟨rest, .ask hrest, hend⟩

section

variable {ε α β : Type} {plan : List StoreCall} {f : OperatorError → ε}

theorem carriesOut_asking {c : StoreCall} (reply : c.Reply → Except OperatorError α)
    (on : ∀ r, c.GoesOn r ↔ ∃ a, reply r = .ok a) {k : α → ExceptT ε StoreScript β}
    (next : ∀ a, CarriesOut plan (k a).run) :
    CarriesOut (c :: plan)
      (ExceptT.mk (Except.mapError f <$> .ask c fun r => .done (reply r)) >>= k).run := by
  rw [run_mapError_bind]
  refine carriesOut_ask (fun r hr => ?_) fun r hr => ?_
  · obtain ⟨a, ha⟩ := (on r).1 hr
    simp only [ha]
    exact next a
  · cases hc : reply r with
    | ok a => exact absurd ((on r).2 ⟨a, hc⟩) hr
    | error e =>
      refine ⟨.error (f e), ?_⟩
      simp only [hc]
      rfl

theorem carriesOut_present {operation : String} {pod : Pod} {k : Option Delay → ActionScript β}
    (next : CarriesOut plan (k none).run) (yield : ∀ delay, ∃ a, (k (some delay)).run = .done a) :
    CarriesOut (.settlePod pod .present :: plan)
      (calling operation (StoreScript.settlePod pod .present) >>= k).run := by
  rw [calling, run_mapError_bind]
  refine carriesOut_ask (fun r hr => ?_) fun r hr => ?_
  · subst hr
    exact next
  · match r with
    | .ok none => exact absurd rfl hr
    | .ok (some delay) => exact yield delay
    | .error e => exact ⟨_, rfl⟩

end

/-- The calls of an action are all those that its plan allows. -/
theorem carriesOut_perform (p : BufferPool) (volume : Claim) (job : Option Job)
    (action : DrainAction) :
    CarriesOut (plan p volume job action) (perform p volume job action).run := by
  cases action with
  | none => exact carriesOut_done _
  | reportFailure attempts => exact carriesOut_done _
  | reclaim =>
    exact carriesOut_asking (c := .mark _ _) id (fun _ => Iff.rfl) fun _ => carriesOut_done _
  | finish =>
    refine carriesOut_asking (c := .mark _ _) id (fun _ => Iff.rfl) fun _ => ?_
    rw [run_building_bind]
    cases placeholderPod p volume with
    | error e => exact carriesOut_done _
    | ok placeholder =>
      refine carriesOut_asking (c := .settlePod _ .absent) id (fun _ => Iff.rfl) fun delay => ?_
      cases job with
      | none => exact carriesOut_done _
      | some job =>
        exact carriesOut_asking (c := .deleteJob _ _) id (fun _ => Iff.rfl)
          fun _ => carriesOut_done _
  | cancel =>
    cases job with
    | none => exact carriesOut_done _
    | some job =>
      cases hd : job.metadata.isTerminating with
      | true =>
        simp only [plan, perform, hd]
        exact carriesOut_done _
      | false =>
        simp only [plan, perform, hd]
        exact carriesOut_asking (c := .deleteJob _ _) id (fun _ => Iff.rfl)
          fun _ => carriesOut_done _
  | release =>
    rw [plan, perform, run_building_bind]
    cases placeholderPod p volume with
    | error e => exact carriesOut_done _
    | ok placeholder =>
      dsimp only
      rw [← bind_pure (calling _ _)]
      exact carriesOut_asking (c := .settlePod _ .absent) id (fun _ => Iff.rfl)
        fun _ => carriesOut_done _
  | start =>
    rw [plan, perform, run_building_bind]
    cases placeholderPod p volume with
    | error e => exact carriesOut_done _
    | ok placeholder =>
      dsimp only
      rw [run_building_bind]
      cases drainerJob p volume with
      | error e => exact carriesOut_done _
      | ok job =>
        refine carriesOut_present ?_ fun delay => ⟨_, rfl⟩
        dsimp only
        rw [← bind_pure (calling _ _)]
        exact carriesOut_asking (c := .settleJob _ _) id (fun _ => Iff.rfl)
          fun _ => carriesOut_done _

/-! ## Volumes in turn -/

/-- The action for a volume of a snapshot. -/
def actionFor (p : BufferPool) (s : Snapshot) (volume : Claim) : DrainAction :=
  (VolumeState.of (s.sight p volume)).nextAction (s.sight p volume)

/-- The calls for a volume of a snapshot, if none of them stops the action. -/
def planFor (p : BufferPool) (s : Snapshot) (volume : Claim) : List StoreCall :=
  plan p volume (s.jobOf? p (nameOf volume)) (actionFor p s volume)

theorem enacts_handleVolume {p : BufferPool} {s : Snapshot} {volume : Claim}
    {t : List StoreExchange} {rest : StoreScript VolumeOutcome}
    (h : Exchanges (handleVolume p s volume) t rest) : EnactsUntil (planFor p s volume) t rest := by
  rcases h.of_bind with ⟨script, hs, rfl⟩ | ⟨result, t₁, t₂, rfl, h₁, h₂⟩
  · obtain ⟨left, hleft, hend⟩ := enacts_perform hs
    refine ⟨left, hleft, fun ⟨a, ha⟩ => hend ?_⟩
    obtain ⟨b, hb, -⟩ := bind_eq_done ha
    exact ⟨b, hb⟩
  · obtain ⟨left, hleft, hend⟩ := enacts_perform h₁
    obtain ⟨rfl, -⟩ := h₂.of_done
    rw [List.append_nil]
    exact ⟨left, hleft, fun _ => hend ⟨result, rfl⟩⟩

theorem carriesOut_handleVolume (p : BufferPool) (s : Snapshot) (volume : Claim) :
    CarriesOut (planFor p s volume) (handleVolume p s volume) := by
  intro t left h
  obtain ⟨rest, hrest, hend⟩ := carriesOut_perform _ _ _ _ h
  refine ⟨_, hrest.bind_first _, fun hleft => ?_⟩
  obtain ⟨result, rfl⟩ := hend hleft
  exact ⟨_, rfl⟩

/-- A pass over volumes can stop anywhere in the plan of the first one. -/
theorem exchanges_handleVolumes_first {p : BufferPool} {s : Snapshot} {v : Claim}
    {t : List StoreExchange} {left : List StoreCall} (h : Enacts (planFor p s v) t left)
    (volumes : List Claim) : ∃ rest, Exchanges (handleVolumes p s (v :: volumes)) t rest := by
  obtain ⟨rest, hrest, -⟩ := carriesOut_handleVolume p s v h
  exact ⟨_, hrest.bind_first _⟩

/-- Once it has enacted that plan it goes on to the other volumes. -/
theorem exchanges_handleVolumes_cons {p : BufferPool} {s : Snapshot} {v : Claim}
    {volumes : List Claim} {t u : List StoreExchange} (h : Enacts (planFor p s v) t [])
    (hu : ∃ rest, Exchanges (handleVolumes p s volumes) u rest) :
    ∃ rest, Exchanges (handleVolumes p s (v :: volumes)) (t ++ u) rest := by
  obtain ⟨last, hlast, hend⟩ := carriesOut_handleVolume p s v h
  obtain ⟨outcome, rfl⟩ := hend rfl
  obtain ⟨rest, hrest⟩ := hu
  exact ⟨_, hlast.bind (hrest.bind_first _)⟩

/-- The exchanges deal with volumes in their order, each by its plan. They can end anywhere. -/
inductive Treats (p : BufferPool) (s : Snapshot) : List Claim → List StoreExchange → Prop
  | stop (volumes : List Claim) : Treats p s volumes []
  | volume {v : Claim} {volumes : List Claim} {t u : List StoreExchange} {left : List StoreCall}
      (h : Enacts (planFor p s v) t left) (hu : Treats p s volumes u) :
      Treats p s (v :: volumes) (t ++ u)

theorem Treats.parts {p : BufferPool} {s : Snapshot} {volumes : List Claim}
    {t : List StoreExchange} (h : Treats p s volumes t) :
    ∃ parts : List (Claim × List StoreExchange), parts.map Prod.fst <+: volumes ∧
      t = parts.flatMap Prod.snd ∧
      ∀ part ∈ parts, ∃ left, Enacts (planFor p s part.1) part.2 left := by
  induction h with
  | stop volumes => exact ⟨[], List.nil_prefix, rfl, by simp⟩
  | @volume v volumes t u left ht _ ih =>
    obtain ⟨parts, hpre, rfl, hparts⟩ := ih
    refine ⟨(v, t) :: parts, ?_, rfl, ?_⟩
    · exact (List.cons_prefix_cons).2 ⟨rfl, hpre⟩
    · intro part hpart
      rcases List.mem_cons.1 hpart with rfl | hpart
      · exact ⟨left, ht⟩
      · exact hparts part hpart

theorem treats_handleVolumes {p : BufferPool} {s : Snapshot} {volumes : List Claim}
    {t : List StoreExchange} {rest : StoreScript (List VolumeOutcome)}
    (h : Exchanges (handleVolumes p s volumes) t rest) : Treats p s volumes t := by
  induction volumes generalizing t rest with
  | nil =>
    obtain ⟨rfl, -⟩ := h.of_done
    exact .stop []
  | cons v volumes ih =>
    rcases h.of_bind with ⟨script, hs, -⟩ | ⟨outcome, t₁, t₂, rfl, h₁, h₂⟩
    · obtain ⟨left, hleft, -⟩ := enacts_handleVolume hs
      rw [← List.append_nil t]
      exact .volume hleft (.stop volumes)
    · obtain ⟨left, hleft, -⟩ := enacts_handleVolume h₁
      rcases h₂.of_bind with ⟨script, hs, -⟩ | ⟨outcomes, u₁, u₂, rfl, hu₁, hu₂⟩
      · exact .volume hleft (ih hs)
      · obtain ⟨rfl, -⟩ := hu₂.of_done
        rw [List.append_nil]
        exact .volume hleft (ih hu₁)

/-- Exchanges that have dealt with all volumes have enacted each volume's plan to its end. -/
theorem enacted_of_handleVolumes {p : BufferPool} {s : Snapshot} {volumes : List Claim}
    {t : List StoreExchange} {outcomes : List VolumeOutcome}
    (h : Exchanges (handleVolumes p s volumes) t (.done outcomes)) {v : Claim} (hv : v ∈ volumes) :
    ∃ before u after, t = before ++ u ++ after ∧ Enacts (planFor p s v) u [] := by
  induction volumes generalizing t outcomes with
  | nil => simp at hv
  | cons w volumes ih =>
    obtain ⟨outcome, t₁, t₂, rfl, h₁, h₂⟩ := h.of_bind_done
    obtain ⟨others, u₁, u₂, rfl, hu₁, hu₂⟩ := h₂.of_bind_done
    obtain ⟨rfl, -⟩ := hu₂.of_done
    rcases List.mem_cons.1 hv with rfl | hv
    · obtain ⟨left, hleft, hend⟩ := enacts_handleVolume h₁
      rw [hend ⟨outcome, rfl⟩] at hleft
      exact ⟨[], t₁, u₁ ++ [], rfl, hleft⟩
    · obtain ⟨before, u, after, rfl, hu⟩ := ih hu₁ hv
      exact ⟨t₁ ++ before, u, after, by simp, hu⟩

/-! ## A whole pass -/

/-- The reads of a pass, in their order. -/
def readPlan (p : BufferPool) : List StoreCall :=
  [.listVolumes p.namespaceName p.drainableSelector, .listPods p.namespaceName (p.selector .worker),
   .listPods p.namespaceName (p.selector .placeholder), .replicaCount p,
   .listJobs p.namespaceName (p.selector .drainer)]

/-- The reads of a pass with the replies that make up a snapshot. -/
def Snapshot.reads (s : Snapshot) (p : BufferPool) : List StoreExchange :=
  [⟨.listVolumes p.namespaceName p.drainableSelector, .ok s.volumes⟩,
   ⟨.listPods p.namespaceName (p.selector .worker), .ok s.workers⟩,
   ⟨.listPods p.namespaceName (p.selector .placeholder), .ok s.placeholders⟩,
   ⟨.replicaCount p, .ok s.replicas⟩,
   ⟨.listJobs p.namespaceName (p.selector .drainer), .ok s.jobs⟩]

theorem enacts_takeSnapshot {p : BufferPool} {t : List StoreExchange}
    {rest : StoreScript (Except OperatorError Snapshot)}
    (h : Exchanges (takeSnapshot p).run t rest) : EnactsUntil (readPlan p) t rest := by
  refine enactsUntil_asking (c := .listVolumes _ _) id (fun _ => Iff.rfl) h fun _ u hu => ?_
  refine enactsUntil_asking (c := .listPods _ _) id (fun _ => Iff.rfl) hu fun _ u hu => ?_
  refine enactsUntil_asking (c := .listPods _ _) id (fun _ => Iff.rfl) hu fun _ u hu => ?_
  refine enactsUntil_asking (c := .replicaCount _) id (fun _ => Iff.rfl) hu fun _ u hu => ?_
  refine enactsUntil_asking (c := .listJobs _ _) id (fun _ => Iff.rfl) hu fun _ u hu => ?_
  exact enactsUntil_of_done hu

theorem reads_of_takeSnapshot {p : BufferPool} {s : Snapshot} {t : List StoreExchange}
    (h : Exchanges (takeSnapshot p).run t (.done (.ok s))) : t = s.reads p := by
  obtain ⟨_, volumes, t₁, rfl, ht, h₁⟩ := exchanges_asking_ok (c := .listVolumes _ _) id h
  obtain ⟨_, workers, t₂, rfl, ht₁, h₂⟩ := exchanges_asking_ok (c := .listPods _ _) id h₁
  obtain ⟨_, placeholders, t₃, rfl, ht₂, h₃⟩ := exchanges_asking_ok (c := .listPods _ _) id h₂
  obtain ⟨_, replicas, t₄, rfl, ht₃, h₄⟩ := exchanges_asking_ok (c := .replicaCount _) id h₃
  obtain ⟨_, jobs, t₅, rfl, ht₄, h₅⟩ := exchanges_asking_ok (c := .listJobs _ _) id h₄
  obtain ⟨ht₅, hs⟩ := h₅.of_done
  cases hs
  rw [ht, ht₁, ht₂, ht₃, ht₄, ht₅]
  rfl

theorem exchanges_takeSnapshot (p : BufferPool) (s : Snapshot) :
    Exchanges (takeSnapshot p).run (s.reads p) (.done (.ok s)) := by
  refine exchanges_asking (c := .listVolumes _ _) id rfl ?_
  refine exchanges_asking (c := .listPods _ _) id rfl ?_
  refine exchanges_asking (c := .listPods _ _) id rfl ?_
  refine exchanges_asking (c := .replicaCount _) id rfl ?_
  refine exchanges_asking (c := .listJobs _ _) id rfl ?_
  exact .stop _

/-- A pass stops within its reads, or has taken a snapshot and goes on to its volumes. -/
theorem exchanges_drainPass {p : BufferPool} {t : List StoreExchange}
    {rest : StoreScript (Except OperatorError PassOutcome)}
    (h : Exchanges (drainPass p) t rest) :
    (∃ left, Enacts (readPlan p) t left) ∨
      ∃ s u rest', t = s.reads p ++ u ∧ Exchanges (handleVolumes p s s.volumes) u rest' ∧
        ((∃ a, rest = .done a) → ∃ outcomes, rest' = .done outcomes) := by
  rcases h.of_bind with ⟨script, hs, -⟩ | ⟨taken, t₁, t₂, rfl, h₁, h₂⟩
  · obtain ⟨left, hleft, -⟩ := enacts_takeSnapshot hs
    exact .inl ⟨left, hleft⟩
  · cases taken with
    | error e =>
      obtain ⟨left, hleft, -⟩ := enacts_takeSnapshot h₁
      obtain ⟨rfl, -⟩ := h₂.of_done
      rw [List.append_nil]
      exact .inl ⟨left, hleft⟩
    | ok s =>
      rw [reads_of_takeSnapshot h₁]
      rcases h₂.of_bind with ⟨script, hs, rfl⟩ | ⟨outcomes, u₁, u₂, rfl, hu₁, hu₂⟩
      · refine .inr ⟨s, t₂, script, rfl, hs, fun ⟨a, ha⟩ => ?_⟩
        obtain ⟨outcomes, rfl, -⟩ := bind_eq_done ha
        exact ⟨outcomes, rfl⟩
      · obtain ⟨rfl, -⟩ := hu₂.of_done
        rw [List.append_nil]
        exact .inr ⟨s, u₁, _, rfl, hu₁, fun _ => ⟨outcomes, rfl⟩⟩

/-- What is done about the volumes of a snapshot is done by a pass that has taken it. -/
theorem exchanges_drainPass_of {p : BufferPool} {s : Snapshot} {t : List StoreExchange}
    {rest : StoreScript (List VolumeOutcome)}
    (h : Exchanges (handleVolumes p s s.volumes) t rest) :
    Exchanges (drainPass p) (s.reads p ++ t)
      (rest >>= fun volumes => .done (.ok { replicas := s.replicas, volumes })) :=
  (exchanges_takeSnapshot p s).bind (h.bind_first _)

end VolumeDrain.Drain
