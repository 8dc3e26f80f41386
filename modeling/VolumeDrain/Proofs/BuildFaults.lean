import VolumeDrain.Proofs.Completion
import VolumeDrain.Proofs.Endings
import VolumeDrain.Proofs.Gates
import VolumeDrain.Proofs.Steps

/-!
# What a pass cannot build

A fault of building that a pass records at a volume is that of the placeholder or of the drain job
for this volume, and a placeholder can only be missing its ordinal. Where the errors of volumes are
the result of a reconcile, its pass has recorded them, and the pool was found valid and its workers
were built before.
-/
namespace VolumeDrain.Drain

open Manifest Pool Script

variable {p : BufferPool} {v : Claim} {t : List StoreExchange} {e : BuildError}

theorem error_of_claimOrdinal (h : claimOrdinal v = .error e) : e = .noOrdinal (nameOf v) := by
  rw [claimOrdinal] at h
  split at h
  · cases h
  · exact (Except.error.inj h).symm

theorem error_of_placeholderPod (h : placeholderPod p v = .error e) :
    e = .noOrdinal (nameOf v) := by
  rw [placeholderPod] at h
  cases hordinal : claimOrdinal v with
  | ok ordinal =>
    rw [hordinal] at h
    cases h
  | error e' =>
    rw [hordinal] at h
    cases h
    exact error_of_claimOrdinal hordinal

/-! ## Steps that cannot be taken -/

/-- No call is answered with a failure to build. -/
theorem Takes.halt_of_build {rest : List Step} (h : Takes rest t (some (.build e))) :
    .halt (.build e) ∈ rest := by
  generalize hfault : some (VolumeFault.build e) = fault at h
  induction h with
  | finished | putOff => cases hfault
  | goesOn _ _ ih => exact List.mem_cons_of_mem _ (ih hfault)
  | failed _ _ hrecorded =>
    cases hfault
    cases hrecorded
  | halted fault rest =>
    cases hfault
    exact List.mem_cons_self

theorem mem_onceBuilt {α : Type} {object : Except BuildError α} {after : α → List Step}
    {fault : VolumeFault} (h : .halt fault ∈ onceBuilt object after) :
    (∃ a, .halt fault ∈ after a) ∨ ∃ e, object = .error e ∧ fault = .build e := by
  unfold onceBuilt at h
  split at h
  · rename_i a
    exact .inl ⟨a, h⟩
  · rename_i e
    cases List.mem_singleton.1 h
    exact .inr ⟨e, rfl, rfl⟩

/-- An action only builds the placeholder and the drain job of its volume. -/
theorem unbuilt_of_mem_steps {job : Option Job} {action : DrainAction}
    (h : .halt (.build e) ∈ steps p v job action) :
    placeholderPod p v = .error e ∨ drainerJob p v = .error e := by
  cases action with
  | none => cases h
  | reclaim | reportFailure => simp [steps] at h
  | cancel =>
    cases job with
    | none => cases h
    | some job => cases hd : job.metadata.isTerminating <;> simp [steps, hd] at h
  | finish =>
    rcases List.mem_cons.1 h with h | h
    · cases h
    rcases mem_onceBuilt h with ⟨placeholder, h⟩ | ⟨e', hbuild, heq⟩
    · cases job <;> simp at h
    · cases heq
      exact .inl hbuild
  | release =>
    rcases mem_onceBuilt h with ⟨placeholder, h⟩ | ⟨e', hbuild, heq⟩
    · simp at h
    · cases heq
      exact .inl hbuild
  | start =>
    rcases mem_onceBuilt h with ⟨placeholder, h⟩ | ⟨e', hbuild, heq⟩
    · rcases mem_onceBuilt h with ⟨built, h⟩ | ⟨e', hbuild, heq⟩
      · simp at h
      · cases heq
        exact .inr hbuild
    · cases heq
      exact .inl hbuild

/-- A fault of building that is recorded at a volume is that of its placeholder or drain job. -/
theorem unbuilt_of_pass {out : PassOutcome} (h : Exchanges (drainPass p) t (.done (.ok out)))
    {o : VolumeOutcome} (ho : o ∈ out.volumes) (hfault : o.fault = some (.build e)) :
    ∃ v, nameOf v = o.volume ∧ (placeholderPod p v = .error e ∨ drainerJob p v = .error e) := by
  obtain ⟨s, u, rfl, -, hhandled⟩ := exchanges_drainPass_ok h
  obtain ⟨turns, -, -, houtcomes, hturns⟩ := turns_handleVolumes hhandled
  rw [houtcomes] at ho
  obtain ⟨turn, hturn, rfl⟩ := List.mem_map.1 ho
  have hproceeds := hturns turn hturn
  have htakes := hproceeds.takes
  rw [hfault] at htakes
  exact ⟨turn.volume, hproceeds.volume_eq.symm, unbuilt_of_mem_steps htakes.halt_of_build⟩

theorem Surveys.observation {Question : Type} {Reply : Question → Type} {ask : Read → Question}
    {failure : (read : Read) → Reply (ask read) → Option OperatorError} {reads : List Read}
    {t : List (Exchange Reply)} {e : OperatorError} (h : Surveys ask failure reads t (some e)) :
    ∃ what source, e = .observation what source := by
  generalize hout : some e = out at h
  induction h with
  | all => cases hout
  | fail =>
    cases hout
    exact ⟨_, _, rfl⟩
  | next _ _ ih => exact ih hout

end VolumeDrain.Drain

namespace VolumeDrain.Operator

open Api Drain Manifest Pool Script

variable {now : Instant} {settings : Settings} {p : BufferPool} {t : List ApiExchange}
  {e : OperatorError} {errors : List VolumeError}

/-! ## Errors of volumes as the result of a reconcile -/

/-- Where the client fails, the error is the client's. -/
theorem client_of_discard {α : Type} {step : ClientScript α}
    (h : Exchanges (discard (viaClient step) : OperatorScript Unit).run t (.done (.error e))) :
    ∃ c, e = .client c := by
  rw [run_discard_viaClient] at h
  obtain ⟨x, t₁, t₂, rfl, -, hdone⟩ := h.of_bind_done
  obtain ⟨-, hresult⟩ := hdone.of_done
  cases x with
  | ok a => cases hresult
  | error c =>
    cases hresult
    exact ⟨c, rfl⟩

theorem not_drain_of_discard {α : Type} {step : ClientScript α} : ¬ Exchanges
    (discard (viaClient step) : OperatorScript Unit).run t (.done (.error (.drain errors))) :=
  fun h => nomatch client_of_discard h

/-- The errors of volumes are not those of writing a status. -/
theorem result_of_written {status : Status} {u : List ClusterExchange}
    {r : Except OperatorError Unit} {after : Except OperatorError Delay}
    (hcarried : Carried ClusterCall.requests (u ++ [⟨.writeStatus p status, r⟩]) t)
    (h : .error (.drain errors) = onceWritten r after) : after = .error (.drain errors) := by
  obtain ⟨t₁, t₂, rfl, -, hwrite⟩ := hcarried.of_append
  obtain ⟨t₂, t₃, rfl, hwrite, -⟩ := hwrite.of_cons
  cases r with
  | ok a => exact h.symm
  | error e =>
    cases h
    exact absurd hwrite not_drain_of_discard

/-- A reconcile whose result are errors of volumes has found the pool valid, built its workers, and
got these errors from its pass. -/
theorem passed_of_drain_errors
    (h : Exchanges (reconcile now settings p) t (.done (.error (.drain errors)))) :
    p.spec.isValid = true ∧ p.spec.drainEnabled = true ∧ (∃ set, Worker.statefulSet p = .ok set) ∧
      ∃ u out, Exchanges (drainPass p) u (.done (.ok out)) ∧ out.errors = errors := by
  rw [← expand_reconcilePlan] at h
  obtain ⟨u, hplan, hcarried⟩ := exchanges_of_expand h
  obtain ⟨v, rfl, hending⟩ := ending_of_reconcilePlan hplan
  obtain ⟨t₁, t₂, rfl, hends, -⟩ := hcarried.of_append
  generalize hresult : (.error (.drain errors) : Except OperatorError Delay) = result at hending
  cases hending with
  | standby | unbuilt => cases hresult
  | refused => cases result_of_written (u := []) hends hresult
  | serviceFailed =>
    cases hresult
    obtain ⟨t, t', rfl, hservice, -⟩ := hends.of_cons
    exact absurd hservice not_drain_of_discard
  | workersFailed =>
    cases hresult
    obtain ⟨t, t', rfl, -, hworkers⟩ := hends.of_cons
    obtain ⟨t', t'', rfl, hworkers, -⟩ := hworkers.of_cons
    exact absurd hworkers not_drain_of_discard
  | withoutDraining => cases result_of_written hends hresult
  | unobserved _ _ _ _ hpass =>
    cases result_of_written hends hresult
    obtain ⟨_, _, -, hsurvey, -⟩ := surveys_drainPass hpass
    exact nomatch hsurvey.observation
  | @passed set u out told hleads hvalid hset hon hpass htold r =>
    have hafter := result_of_written hends hresult
    rw [resultOfPass] at hafter
    split at hafter
    · cases hafter
      exact ⟨hvalid, hon, ⟨set, hset⟩, u, out, hpass, rfl⟩
    · cases hafter

end VolumeDrain.Operator
