import VolumeDrain.Proofs.ClientSteps
import VolumeDrain.Proofs.Justification
import VolumeDrain.Proofs.Readiness
import VolumeDrain.Proofs.StatusWrites

/-!
# Runs of reconciles and the ready condition

The stored ready condition of a pool is set by the writes of its status and by nothing else. A
reconcile that cannot apply the workers ends without a write, and leaves the condition as it was. So
over a run of reconciles the condition tells how the last of them went that got as far as writing a
status, and a pool that was ready stays so while its service or its workers cannot be applied.
-/
namespace VolumeDrain.Operator

open Api Drain Json Manifest Pool Script

variable {now : Instant} {settings : Settings} {p : BufferPool} {calls : List ClusterExchange}
  {result : Except OperatorError Delay}

/-! ## The stored condition -/

variable {ns name : String} {j j' : Json}

/-- How a call of a reconcile is answered through its requests, with the document of the pool before
and after. -/
def Carries (ns name : String) (call : ClusterCall) (j : Json) (reply : call.Reply) (j' : Json) :
    Prop :=
  Yields (Keeps ns name) call.requests j reply j'

/-- A reconcile comes to its end where the calls of its plan do, so runs are stated with these. -/
theorem yields_reconcile_iff : Yields (Keeps ns name) (reconcile now settings p) j result j' ↔
    ∃ calls, Exchanges (reconcilePlan now settings p) calls (.done result) ∧
      Follows (Carries ns name) calls j j' := by
  rw [← expand_reconcilePlan, yields_expand]
  rfl

theorem Keeps.status_eq {act : Act} {reply : act.Reply} (h : Keeps ns name act j reply j')
    (hspares : act.SparesStatus) : j'.get? "status" = j.get? "status" := by
  cases h with
  | merged => cases hspares
  | failed => cases hspares
  | other _ _ h => exact h
  | measured _ h => exact h

theorem status_eq_of_yields {α : Type} {script : ApiScript α} {a : α}
    (hspares : Asks Act.SparesStatus script) (h : Yields (Keeps ns name) script j a j') :
    j'.get? "status" = j.get? "status" := by
  induction script generalizing j with
  | done b => rw [h.of_done.2]
  | ask act resume ih =>
    obtain ⟨reply, mid, hanswer, hrest⟩ := h.of_ask
    exact (ih reply (hspares.2 reply) hrest).trans (hanswer.status_eq hspares.1)

/-- Calls that write no status leave the stored one as it is. -/
theorem status_eq_of_follows (hspares : ∀ e ∈ calls, e.question.SparesStatus)
    (h : Follows (Carries ns name) calls j j') : j'.get? "status" = j.get? "status" := by
  induction calls generalizing j with
  | nil => rw [h]
  | cons e t ih =>
    obtain ⟨hfirst, hrest⟩ := List.forall_mem_cons.1 hspares
    obtain ⟨mid, hanswer, ht⟩ := h
    exact (ih hrest ht).trans (status_eq_of_yields (sparesStatus_requests hfirst) hanswer)

/-- The document stores a status that says that the pool is ready. -/
def StoredReady (j : Json) : Prop := ∃ s, Stores j (some s) ∧ SaysReady s

theorem storedReady_congr (h : j'.get? "status" = j.get? "status") :
    StoredReady j' ↔ StoredReady j :=
  ⟨fun ⟨s, hs, hready⟩ => ⟨s, hs.congr h.symm, hready⟩,
    fun ⟨s, hs, hready⟩ => ⟨s, hs.congr h, hready⟩⟩

theorem storedReady_of_write {status : Status}
    (h : Carries p.namespaceName p.name (.writeStatus p status) j (.ok ()) j') :
    StoredReady j' ↔ SaysReady status := by
  obtain ⟨hmerged, q, hq⟩ := merged_of_writeStatus h
  obtain ⟨stored, hstored, hconditions⟩ := stores_conditions hmerged hq
  have hsays : SaysReady stored ↔ SaysReady status := by rw [SaysReady, SaysReady, hconditions]
  rw [← hsays]
  constructor
  · rintro ⟨s, hs, hready⟩
    rwa [hstored.unique hs]
  · exact fun hready => ⟨stored, hstored, hready⟩

/-- What one reconcile by the leader makes of the stored condition, if the write of a status that it
attempts succeeds: it is that the reconcile succeeds, or what it was before where no status is
written, which is where the workers cannot be applied. -/
theorem storedReady_of_reconcile (hleads : settings.isLeader = true)
    (hcalls : Exchanges (reconcilePlan now settings p) calls (.done result))
    (hanswers : Follows (Carries p.namespaceName p.name) calls j j')
    (hwritten : ∀ status r, ⟨.writeStatus p status, r⟩ ∈ calls → r = .ok ()) :
    ((∃ delay, result = .ok delay) ↔ Succeeds p calls) ∧
      ((Writes p calls ∧ ¬ CannotApply p calls ∧
          (StoredReady j' ↔ ∃ delay, result = .ok delay)) ∨
        (¬ Writes p calls ∧ CannotApply p calls ∧ (¬ ∃ delay, result = .ok delay) ∧
          (StoredReady j' ↔ StoredReady j))) := by
  obtain ⟨u, rfl, hending⟩ := ending_of_reconcilePlan hcalls
  rw [succeeds_counted, cannotApply_counted]
  rcases hending.written_or_unapplied hleads with
    ⟨before, status, r, after, rfl, hbefore, happly, rfl, hsays, hsucceeds⟩ |
    ⟨hspares, happly, hfails, e, rfl⟩
  · have hmem : (⟨.writeStatus p status, r⟩ : ClusterExchange) ∈
        before ++ [⟨.writeStatus p status, r⟩] ++ counted (onceWritten r after) := by simp
    cases hwritten status r hmem
    refine ⟨hsucceeds, .inl ⟨⟨status, _, hmem⟩, happly, ?_⟩⟩
    rw [List.append_assoc, follows_append] at hanswers
    obtain ⟨mid, -, last, hwrite, hrest⟩ := hanswers
    rw [storedReady_congr (status_eq_of_follows sparesStatus_counted hrest),
      storedReady_of_write hwrite]
    exact hsays
  · have hall : ∀ c ∈ u ++ counted (.error e), c.question.SparesStatus :=
      List.forall_mem_append.2 ⟨hspares, sparesStatus_counted⟩
    refine ⟨iff_of_false nofun hfails, .inr ⟨?_, happly, nofun, ?_⟩⟩
    · rintro ⟨status, r, hmem⟩
      exact hall _ hmem
    · exact storedReady_congr (status_eq_of_follows hall hanswers)

/-! ## Runs of reconciles -/

/-- A reconcile that has come to its end: the pool as it was read, the calls and the result. -/
structure ReconcileRecord where
  pool : BufferPool
  calls : List ClusterExchange
  result : Except OperatorError Delay

/-- The leader reconciles the pool of this name again and again. Whatever it reads of it each time,
whatever its calls are answered, and whatever is edited in between but the stored status, every
write of a status succeeds that is attempted. -/
inductive LeaderRuns (ns name : String) (start : Json) : List ReconcileRecord → Json → Prop
  | started : LeaderRuns ns name start [] start
  | edited {records : List ReconcileRecord} {j j' : Json} (h : LeaderRuns ns name start records j)
      (hedit : j'.get? "status" = j.get? "status") : LeaderRuns ns name start records j'
  | reconciled {records : List ReconcileRecord} {j j' : Json} {now : Instant} {settings : Settings}
      {p : BufferPool} {calls : List ClusterExchange} {result : Except OperatorError Delay}
      (h : LeaderRuns ns name start records j) (hleads : settings.isLeader = true)
      (hns : p.namespaceName = ns) (hname : p.name = name)
      (hcalls : Exchanges (reconcilePlan now settings p) calls (.done result))
      (hanswers : Follows (Carries ns name) calls j j')
      (hwritten : ∀ status r, ⟨.writeStatus p status, r⟩ ∈ calls → r = .ok ()) :
      LeaderRuns ns name start (records ++ [⟨p, calls, result⟩]) j'

/-- The stored condition tells how the last of the reconciles went that wrote a status. These are
all but the ones that could not apply the workers, which do not succeed either: after one of those
the pool stays ready as long as it was before. -/
theorem ready_since_last_write {start : Json} {records : List ReconcileRecord}
    (h : LeaderRuns ns name start records j) :
    (∀ r ∈ records, ((∃ delay, r.result = .ok delay) ↔ Succeeds r.pool r.calls) ∧
      (¬ Writes r.pool r.calls ↔ CannotApply r.pool r.calls) ∧
      (CannotApply r.pool r.calls → ¬ ∃ delay, r.result = .ok delay)) ∧
    ((∀ r ∈ records, ¬ Writes r.pool r.calls) → (StoredReady j ↔ StoredReady start)) ∧
    ∀ before r after, records = before ++ r :: after → Writes r.pool r.calls →
      (∀ s ∈ after, ¬ Writes s.pool s.calls) →
      (StoredReady j ↔ ∃ delay, r.result = .ok delay) := by
  induction h with
  | started =>
    refine ⟨List.forall_mem_nil _, fun _ => .rfl, fun before r after heq => ?_⟩
    simp at heq
  | edited _ hedit ih =>
    simp only [storedReady_congr hedit]
    exact ih
  | @reconciled records j j' now settings p calls result _ hleads hns hname hcalls hanswers
      hwritten ih =>
    obtain ⟨hrecords, hnone, hlast⟩ := ih
    subst hns hname
    obtain ⟨hsucceeds, hstep⟩ := storedReady_of_reconcile hleads hcalls hanswers hwritten
    refine ⟨List.forall_mem_append.2 ⟨hrecords, ?_⟩, fun hall => ?_, ?_⟩
    · refine List.forall_mem_singleton.2 ⟨hsucceeds, ?_⟩
      rcases hstep with ⟨hwrites, happly, -⟩ | ⟨hwrites, happly, hfails, -⟩ <;>
        simp_all
    · obtain ⟨hbefore, hlatest⟩ := List.forall_mem_append.1 hall
      rcases hstep with ⟨hwrites, -⟩ | ⟨-, -, -, hkept⟩
      · exact absurd hwrites (hlatest _ (List.mem_singleton_self _))
      · exact hkept.trans (hnone hbefore)
    · intro before r after heq hwrites hafter
      -- The last that wrote is this reconcile, or an earlier one and this has written nothing.
      rcases after.eq_nil_or_concat with rfl | ⟨after, latest, rfl⟩
      · obtain ⟨rfl, hr⟩ := List.append_inj' heq rfl
        cases hr
        rcases hstep with ⟨-, -, htells⟩ | ⟨hnot, -⟩
        · exact htells
        · exact absurd hwrites hnot
      · rw [List.concat_eq_append, ← List.cons_append, ← List.append_assoc] at heq
        obtain ⟨rfl, hr⟩ := List.append_inj' heq rfl
        cases hr
        rw [List.concat_eq_append] at hafter
        obtain ⟨hbetween, hlatest⟩ := List.forall_mem_append.1 hafter
        rcases hstep with ⟨hlatestWrites, -⟩ | ⟨-, -, -, hkept⟩
        · exact absurd hlatestWrites (hlatest _ (List.mem_singleton_self _))
        · exact hkept.trans (hlast _ _ _ rfl hwrites hbetween)

/-! ## Ready while the service cannot be applied -/

/-- A reconcile of a valid pool without draining, all of whose calls succeed. -/
theorem exchanges_withoutDraining {set : StatefulSet} (hleads : settings.isLeader = true)
    (hvalid : p.spec.isValid = true) (hset : Worker.statefulSet p = .ok set)
    (hoff : p.spec.drainEnabled = false) :
    Exchanges (reconcilePlan now settings p)
      (applied p set ++ [⟨.writeStatus p (statusWithoutDraining now.fullText p), .ok ()⟩])
      (.done (.ok settings.requeue)) := by
  unfold reconcilePlan planPool planWorkers
  simp only [hleads, hvalid, hset, hoff, Bool.not_true, Bool.not_false, Bool.false_eq_true,
    if_true, if_false]
  exact .ask (.ask (.ask (.stop _)))

theorem exchanges_serviceFailed (hleads : settings.isLeader = true)
    (hvalid : p.spec.isValid = true) (e : OperatorError) :
    Exchanges (reconcilePlan now settings p)
      (⟨.applyService p, .error e⟩ :: counted (.error e)) (.done (.error e)) := by
  unfold reconcilePlan planPool
  simp only [hleads, hvalid, Bool.not_true, Bool.false_eq_true, if_false]
  exact .ask (.ask (.stop _))

section

variable {α : Type} [Resource α] {a : α} {place object : String}

/-- An object is applied by a request that is answered with an object. -/
theorem yields_applyObject {answer : Json} (hname : object.isEmpty = false)
    (hread : ∃ b, decode answer = (.ok b : Decoded α)) :
    Yields (Keeps ns name) (discard (viaClient (applyObject place object a)) :
      OperatorScript Unit).run j (.ok ()) j := by
  obtain ⟨b, hb⟩ := hread
  refine yields_discard_iff.2 ⟨.ok b, ?_, rfl⟩
  rw [run_applyObject, hname]
  exact yields_ask_iff.2 ⟨.ok answer, .other _ (fun _ => nofun) rfl, by rw [resultOfRead, hb]; rfl⟩

theorem yields_applyObject_error (hname : object.isEmpty = false) (e : ClientError) :
    Yields (Keeps ns name) (discard (viaClient (applyObject place object a)) :
      OperatorScript Unit).run j (.error (.client e)) j := by
  refine yields_discard_iff.2 ⟨.error e, ?_, rfl⟩
  rw [run_applyObject, hname]
  exact yields_ask_iff.2 ⟨.error e, .other _ (fun _ => nofun) rfl, rfl⟩

end

/-- The beginning of the year 2026. -/
def newYear : Instant := ⟨1767225600000000000⟩

/-- The settings of an operator that leads and looks again after a minute. -/
def leading : Settings := { isLeader := true, requeue := .seconds 60 }

/-- The status that the first reconcile of the pool `logs` writes. -/
def idleStatus : Status := statusWithoutDraining newYear.fullText logsPool

/-- The pool as it is read for the second reconcile. -/
def logsIdle : BufferPool := { logsPool with status := some idleStatus }

/-- The document of the pool after the first reconcile. -/
def logsIdleDocument : Json :=
  (Json.obj [("status", encode idleStatus)]).mergePatch (encode logsPool)

/-- The answer to the second reconcile, which applies the service. -/
def unavailable : OperatorError :=
  .client (.api ⟨"Failure", "the server is not available", "ServiceUnavailable", 503⟩)

def firstReconcile (set : StatefulSet) : ReconcileRecord where
  pool := logsPool
  calls := applied logsPool set ++ [⟨.writeStatus logsPool idleStatus, .ok ()⟩]
  result := .ok (.seconds 60)

def secondReconcile : ReconcileRecord where
  pool := logsIdle
  calls := ⟨.applyService logsIdle, .error unavailable⟩ :: counted (.error unavailable)
  result := .error unavailable

/-- The workers of the pool can be built, and are read from the document that they are sent as. -/
theorem logsWorkers : ∃ set, Worker.statefulSet logsPool = .ok set ∧
    ∃ stored, decode (encode set) = (.ok stored : Decoded StatefulSet) := by
  have hbuilt : ((Worker.statefulSet logsPool).toOption.bind fun set =>
      (decode (encode set) : Decoded StatefulSet).toOption).isSome = true := by decide +kernel
  cases hset : Worker.statefulSet logsPool with
  | error e =>
    rw [hset] at hbuilt
    cases hbuilt
  | ok set =>
    rw [hset] at hbuilt
    exact ⟨set, rfl, ok_of_isSome hbuilt⟩

theorem carries_idleStatus : Carries "default" "logs" (.writeStatus logsPool idleStatus)
    (encode logsPool) (.ok ()) logsIdleDocument :=
  yields_writeStatus (by decide) (ok_of_isSome (by decide +kernel))

theorem leaderRuns_logs : ∃ set, Worker.statefulSet logsPool = .ok set ∧
    LeaderRuns "default" "logs" (encode logsPool) [firstReconcile set, secondReconcile]
      logsIdleDocument := by
  obtain ⟨set, hset, hstored⟩ := logsWorkers
  have hservice : Carries "default" "logs" (.applyService logsPool) (encode logsPool) (.ok ())
      (encode logsPool) :=
    yields_applyObject (by decide) (ok_of_isSome (by decide +kernel) :
      ∃ stored, decode (encode (Worker.headlessService logsPool)) = (.ok stored : Decoded Service))
  have hworkers : Carries "default" "logs" (.applyWorkers logsPool set) (encode logsPool) (.ok ())
      (encode logsPool) := yields_applyObject (by decide) hstored
  have hrefused : Carries "default" "logs" (.applyService logsIdle) logsIdleDocument
      (.error unavailable) logsIdleDocument := yields_applyObject_error (by decide) _
  have hcounted : Carries "default" "logs"
      (.measure (.reconcileError controllerName unavailable.metricLabel)) logsIdleDocument ()
      logsIdleDocument := .ask (.measured _ rfl) ⟨[], .stop _, rfl⟩
  have hfirst : Exchanges (reconcilePlan newYear leading logsPool)
      (firstReconcile set).calls (.done (firstReconcile set).result) :=
    exchanges_withoutDraining rfl (by decide) hset (by decide)
  have hsecond : Exchanges (reconcilePlan newYear leading logsIdle)
      secondReconcile.calls (.done secondReconcile.result) :=
    exchanges_serviceFailed rfl (by decide) _
  refine ⟨set, hset, .reconciled (.reconciled .started rfl rfl rfl hfirst
    ⟨_, hservice, _, hworkers, _, carries_idleStatus, rfl⟩ ?_) rfl rfl rfl hsecond
    ⟨_, hrefused, _, hcounted, rfl⟩ ?_⟩
  · rintro status r h
    simp only [firstReconcile, applied, List.cons_append, List.nil_append, List.mem_cons,
      List.not_mem_nil, or_false] at h
    rcases h with h | h | h <;> cases h
    rfl
  · rintro status r h
    rcases List.mem_cons.1 h with h | h
    · cases h
    · cases List.mem_singleton.1 h

/-- The pool is still ready by what the first reconcile wrote, though the second has failed. -/
theorem ready_since_last_write_logs :
    StoredReady logsIdleDocument ∧ ¬ ∃ delay, secondReconcile.result = .ok delay := by
  obtain ⟨set, hset, hrun⟩ := leaderRuns_logs
  obtain ⟨hrecords, -, hlast⟩ := ready_since_last_write hrun
  have hcannot : CannotApply secondReconcile.pool secondReconcile.calls :=
    ⟨by decide, .inl ⟨unavailable, List.mem_cons_self⟩⟩
  obtain ⟨-, hunwritten, hfails⟩ := hrecords secondReconcile (by simp)
  have hwrites : Writes (firstReconcile set).pool (firstReconcile set).calls :=
    ⟨idleStatus, .ok (), by simp [firstReconcile]⟩
  refine ⟨(hlast [] _ [secondReconcile] rfl hwrites ?_).2 ⟨_, rfl⟩, hfails hcannot⟩
  exact List.forall_mem_singleton.2 (hunwritten.2 hcannot)

/-- Not after every reconcile is the pool ready exactly if that reconcile has succeeded: a ready
pool whose service can no longer be applied stays ready. -/
theorem stays_ready_unapplied :
    ¬ ∀ (ns name : String) (start j : Json) (records : List ReconcileRecord) (r : ReconcileRecord),
      LeaderRuns ns name start (records ++ [r]) j →
      (StoredReady j ↔ ∃ delay, r.result = .ok delay) := by
  intro hall
  obtain ⟨set, hset, hrun⟩ := leaderRuns_logs
  have hready : StoredReady logsIdleDocument :=
    (storedReady_of_write carries_idleStatus).2 (saysReady_statusWithoutDraining _ _)
  obtain ⟨delay, hok⟩ := (hall _ _ _ _ [firstReconcile set] secondReconcile hrun).1 hready
  cases hok

end VolumeDrain.Operator
