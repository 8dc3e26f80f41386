import VolumeDrain.Proofs.ReconcilePlan

/-!
# Which requests are sent

A script sends requests of one kind only if each of its questions is of that kind, whatever the
replies are. Of all that a reconcile does, only the write of a status is a merge into the status of
an object.
-/
namespace VolumeDrain.Script

variable {Question : Type} {Reply : Question → Type} {P : Question → Prop} {α β ε : Type}

/-- Whatever the replies are, all questions of the script are of this kind. -/
def Asks (P : Question → Prop) : Script Reply α → Prop
  | .done _ => True
  | .ask q resume => P q ∧ ∀ r, Asks P (resume r)

theorem asks_done (a : α) : Asks P (.done a : Script Reply α) := trivial

theorem asks_question {q : Question} (h : P q) : Asks P (question q : Script Reply (Reply q)) :=
  ⟨h, fun _ => trivial⟩

theorem Asks.bind {script : Script Reply α} {k : α → Script Reply β} (h : Asks P script)
    (hk : ∀ a, Asks P (k a)) : Asks P (script >>= k) := by
  induction script with
  | done a => exact hk a
  | ask q resume ih => exact ⟨h.1, fun r => ih r (h.2 r)⟩

theorem Asks.map {script : Script Reply α} (h : Asks P script) (f : α → β) :
    Asks P (f <$> script) := by
  rw [map_eq_pure_bind]
  exact h.bind fun a => asks_done (f a)

/-- Steps that may fail ask what each of them asks. -/
theorem Asks.run_bind {step : ExceptT ε (Script Reply) α} {k : α → ExceptT ε (Script Reply) β}
    (h : Asks P step.run) (hk : ∀ a, Asks P (k a).run) : Asks P (step >>= k).run := by
  rw [ExceptT.run_bind]
  refine h.bind fun r => ?_
  cases r with
  | ok a => exact hk a
  | error e => exact asks_done _

theorem asks_pure (a : α) : Asks P (pure a : ExceptT ε (Script Reply) α).run :=
  asks_done (Except.ok a : Except ε α)

theorem asks_throw (e : ε) : Asks P (throw e : ExceptT ε (Script Reply) α).run :=
  asks_done (Except.error e : Except ε α)

theorem Asks.discard {step : ExceptT ε (Script Reply) α} (h : Asks P step.run) :
    Asks P (discard step : ExceptT ε (Script Reply) Unit).run :=
  h.run_bind fun _ => asks_pure ()

theorem Asks.of_exchanges {script rest : Script Reply α} {t : List (Exchange Reply)}
    (h : Asks P script) (ht : Exchanges script t rest) : ∀ e ∈ t, P e.question := by
  induction ht with
  | stop => simp
  | ask _ ih =>
    intro e he
    rcases List.mem_cons.1 he with rfl | he
    · exact h.1
    · exact ih (h.2 _) e he

end VolumeDrain.Script

namespace VolumeDrain.Api

open Drain Manifest Script

section

variable {P : Act → Prop} {α : Type}

theorem asks_tally (m : Measurement) (h : P (.measure m)) : Asks P (tally m) :=
  asks_question h

theorem asks_answerTo {r : Request} (h : P (.request r)) : Asks P (answerTo r).run :=
  asks_question h

theorem asks_checkName (name : String) : Asks P (checkName name).run := by
  rw [checkName]
  split
  · exact asks_throw _
  · exact asks_pure ()

theorem asks_readAnswer [Decode α] (j : Json) : Asks P (readAnswer j : ClientScript α).run := by
  rw [readAnswer]
  split
  · exact asks_pure _
  · exact asks_throw _

theorem asks_readItems [Decode α] (j : Json) :
    Asks P (readItems j : ClientScript (List α)).run := by
  rw [readItems]
  split
  · exact asks_pure _
  · exact asks_throw _

theorem asks_viaClient {step : ClientScript α} (h : Asks P step.run) :
    Asks P (viaClient step).run :=
  h.map _

theorem asks_unlessMissing {step : ClientScript Unit} (h : Asks P step.run) :
    Asks P (unlessMissing step).run := by
  refine h.bind fun r => ?_
  cases r <;> exact asks_done _

end

section

variable {P : Act → Prop} {α : Type} [Resource α] {ns name : String}

theorem asks_listAll {place selector : Option String}
    (h : P (.request (.list (placeOf α place) selector))) :
    Asks P (listAll α place selector).run :=
  (asks_answerTo h).run_bind asks_readItems

theorem asks_getObject (h : P (.request (.get (placeOf α (some ns)) name))) :
    Asks P (getObject α ns name).run :=
  (asks_checkName name).run_bind fun _ => (asks_answerTo h).run_bind asks_readAnswer

theorem asks_getObject? (h : P (.request (.get (placeOf α (some ns)) name))) :
    Asks P (getObject? α ns name).run := by
  refine (asks_getObject h).bind fun r => ?_
  split <;> exact asks_done _

theorem asks_createObject {a : α} (h : P (.request (.create (placeOf α (some ns)) (encode a)))) :
    Asks P (createObject ns a).run :=
  (asks_answerTo h).run_bind asks_readAnswer

theorem asks_applyObject {a : α}
    (h : P (.request (.apply (placeOf α (some ns)) name (encode a)))) :
    Asks P (applyObject ns name a).run :=
  (asks_checkName name).run_bind fun _ => (asks_answerTo h).run_bind asks_readAnswer

theorem asks_mergeObject {patch : Json}
    (h : P (.request (.merge (placeOf α (some ns)) name false patch))) :
    Asks P (mergeObject α ns name patch).run :=
  (asks_checkName name).run_bind fun _ => (asks_answerTo h).run_bind asks_readAnswer

theorem asks_deleteObject {propagation : Option Propagation}
    (h : P (.request (.delete (placeOf α (some ns)) name propagation))) :
    Asks P (deleteObject α ns name propagation).run := by
  refine (asks_checkName name).run_bind fun _ => (asks_answerTo h).run_bind fun answer => ?_
  split
  · exact asks_pure ()
  · exact (asks_readAnswer answer : Asks P (readAnswer answer : ClientScript α).run).discard

end

/-! ## Merges into a status -/

/-- It is no merge into the status of an object. -/
def Act.SparesStatus : Act → Prop
  | .request (.merge _ _ status _) => status = false
  | _ => True

theorem sparesStatus_settle {α : Type} [Resource α] (a : α) (presence : Presence) :
    Asks Act.SparesStatus (settle a presence).run := by
  rw [settle]
  have haddress : Asks Act.SparesStatus
      (liftM (address a) : OperatorScript (String × String)).run := by
    cases address a <;> exact asks_done _
  refine haddress.run_bind fun (ns, name) => ?_
  cases presence with
  | present =>
    refine (asks_viaClient (asks_getObject? trivial)).run_bind fun stored => ?_
    cases stored with
    | none =>
      exact (asks_viaClient (asks_createObject trivial)).discard.run_bind fun _ => asks_pure _
    | some stored =>
      dsimp only
      split
      · exact asks_pure _
      · exact (asks_viaClient (asks_applyObject trivial)).discard.run_bind fun _ => asks_pure _
  | absent =>
    exact (asks_viaClient (asks_unlessMissing (asks_deleteObject trivial))).run_bind
      fun _ => asks_pure _

/-- No call to the store merges into a status. -/
theorem sparesStatus_carryOut (call : StoreCall) : Asks Act.SparesStatus (carryOut call) := by
  cases call with
  | listVolumes ns selector => exact asks_viaClient (asks_listAll trivial)
  | listPods ns selector => exact asks_viaClient (asks_listAll trivial)
  | listJobs ns selector => exact asks_viaClient (asks_listAll trivial)
  | replicaCount p =>
    have hset : Asks Act.SparesStatus
        (getObject? StatefulSet p.namespaceName p.statefulSetName).run := asks_getObject? trivial
    exact asks_viaClient (hset.run_bind fun _ => asks_pure _)
  | mark volume status =>
    have hmerge : Asks Act.SparesStatus (mergeObject Claim
        (volume.metadata.namespaceName.getD "default") (nameOf volume)
        (markPatch volume status)).run := asks_mergeObject rfl
    exact asks_viaClient (asks_unlessMissing hmerge.discard)
  | deleteJob job propagation =>
    have hdelete : Asks Act.SparesStatus (deleteObject Job
        (job.metadata.namespaceName.getD "default") (nameOf job) (some propagation)).run :=
      asks_deleteObject trivial
    exact asks_viaClient (asks_unlessMissing hdelete)
  | settleJob job presence => exact sparesStatus_settle job presence
  | settlePod pod presence => exact sparesStatus_settle pod presence

end VolumeDrain.Api

namespace VolumeDrain.Operator

open Api Drain Manifest Pool Script

/-- The call writes no status. -/
def ClusterCall.SparesStatus : ClusterCall → Prop
  | .writeStatus _ _ => False
  | _ => True

/-- The call only counts or reports something. -/
def ClusterCall.Tells : ClusterCall → Prop
  | .report _ _ => True
  | .measure _ => True
  | _ => False

theorem ClusterCall.Tells.sparesStatus {call : ClusterCall} (h : call.Tells) :
    call.SparesStatus := by
  cases call <;> trivial

theorem tells_planTallies (measurements : List Measurement) :
    Asks ClusterCall.Tells (planTallies measurements) := by
  induction measurements with
  | nil => exact asks_done ()
  | cons m rest ih => exact (asks_question trivial).bind fun _ => ih

theorem tells_planFailures (now : Instant) (p : BufferPool) (errors : List VolumeError) :
    Asks ClusterCall.Tells (planFailures now p errors) := by
  induction errors with
  | nil => exact asks_done ()
  | cons e rest ih =>
    refine (asks_question trivial).bind fun _ => ?_
    exact ((asks_question trivial).bind fun _ => asks_done ()).bind fun _ => ih

/-- Of the calls of a reconcile only the write of a status merges into one. -/
theorem sparesStatus_requests {call : ClusterCall} (h : call.SparesStatus) :
    Asks Act.SparesStatus call.requests := by
  cases call with
  | store call => exact sparesStatus_carryOut call
  | applyService p => exact (asks_viaClient (asks_applyObject trivial)).discard
  | applyWorkers p set => exact (asks_viaClient (asks_applyObject trivial)).discard
  | writeStatus p status => exact h.elim
  | report p event => exact asks_createObject trivial
  | measure m => exact asks_tally m trivial

end VolumeDrain.Operator
