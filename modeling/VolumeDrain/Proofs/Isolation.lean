import Mathlib.Data.List.Pairwise
import VolumeDrain.Proofs.Completion
import VolumeDrain.Proofs.Exclusion
import VolumeDrain.Proofs.Relisting

/-!
# Volumes in isolation

What a pass does about a volume does not depend on the other volumes: not on the order in which they
are listed, and not on what becomes of the calls for them. Each volume has the outcome that it would
have if it were dealt with first, and so have its objects.
-/
namespace VolumeDrain.Drain

open Manifest Script

variable {S α : Type} {object : ObjectName → S → α}
  {answer answer' : (c : StoreCall) → S → c.Reply × S} {p : BufferPool} {σ σ' : Snapshot}
  {v w : Claim} {volumes : List Claim} {s : S}

/-! ## Volumes in turn -/

/-- The volumes are listed, with different ordinals. -/
def Apart (σ : Snapshot) (volumes : List Claim) : Prop :=
  (∀ v ∈ volumes, v ∈ σ.volumes) ∧
    volumes.Pairwise fun v w => Text.trailingOrdinal? (nameOf v) ≠ Text.trailingOrdinal? (nameOf w)

theorem Apart.of_cons (h : Apart σ (v :: volumes)) :
    Apart σ volumes ∧ v ∈ σ.volumes ∧ ∀ w ∈ volumes, ∀ o, OfVolume p w o → ¬ OfVolume p v o := by
  obtain ⟨hlisted, hdistinct⟩ := h
  obtain ⟨hother, hdistinct⟩ := List.pairwise_cons.1 hdistinct
  refine ⟨⟨fun w hw => hlisted w (List.mem_cons_of_mem _ hw), hdistinct⟩,
    hlisted v List.mem_cons_self, fun w hw o ho => ?_⟩
  exact not_ofVolume_of_ordinal_ne (Ne.symm (hother w hw)) ho

/-- What is done about a volume is the same after what was done about another one. -/
theorem run_handleVolume_after (hstore : Isolates object answer) (hsep : Separate p σ)
    (hv : v ∈ σ.volumes) (hw : w ∈ σ.volumes) (hother : ∀ o, OfVolume p w o → ¬ OfVolume p v o) :
    let s₁ := (run answer (handleVolume p σ v) s).2
    (run answer (handleVolume p σ w) s₁).1 = (run answer (handleVolume p σ w) s).1 ∧
      transcript answer (handleVolume p σ w) s₁ = transcript answer (handleVolume p σ w) s ∧
        ∀ o, OfVolume p w o → object o (run answer (handleVolume p σ w) s₁).2 =
          object o (run answer (handleVolume p σ w) s).2 :=
  run_agree hstore (hsep.names_handleVolume hw) (fun _ _ _ _ => rfl) fun o ho =>
    run_frame hstore (hsep.names_handleVolume hv) s (hother o ho)

theorem run_handleVolumes_cons (volumes : List Claim) (s : S) :
    run answer (handleVolumes p σ (v :: volumes)) s =
      ((run answer (handleVolume p σ v) s).1 ::
          (run answer (handleVolumes p σ volumes) (run answer (handleVolume p σ v) s).2).1,
        (run answer (handleVolumes p σ volumes) (run answer (handleVolume p σ v) s).2).2) := by
  rw [handleVolumes, run_bind, run_bind]
  rfl

theorem transcript_handleVolumes_cons (volumes : List Claim) (s : S) :
    transcript answer (handleVolumes p σ (v :: volumes)) s =
      transcript answer (handleVolume p σ v) s ++
        transcript answer (handleVolumes p σ volumes) (run answer (handleVolume p σ v) s).2 := by
  rw [handleVolumes, transcript_bind, transcript_bind]
  exact congrArg (_ ++ ·) (List.append_nil _)

/-- Every volume has the outcome that it would have if it were dealt with first. -/
theorem run_handleVolumes (hstore : Isolates object answer) (hsep : Separate p σ)
    (h : Apart σ volumes) (s : S) :
    (run answer (handleVolumes p σ volumes) s).1 =
      volumes.map fun v => (run answer (handleVolume p σ v) s).1 := by
  induction volumes generalizing s with
  | nil => rfl
  | cons v volumes ih =>
    obtain ⟨hrest, hv, hother⟩ := h.of_cons (p := p)
    rw [run_handleVolumes_cons, List.map_cons, ih hrest]
    -- By induction each of the rest comes out as if it were the next one after `v`.
    refine congrArg (List.cons _) (List.map_congr_left fun w hw => ?_)
    exact (run_handleVolume_after hstore hsep hv (hrest.1 w hw) (hother w hw)).1

/-- So have its objects. -/
theorem object_handleVolumes (hstore : Isolates object answer) (hsep : Separate p σ)
    (h : Apart σ volumes) (s : S) (hw : w ∈ volumes) {o : ObjectName} (ho : OfVolume p w o) :
    object o (run answer (handleVolumes p σ volumes) s).2 =
      object o (run answer (handleVolume p σ w) s).2 := by
  induction volumes generalizing s with
  | nil => simp at hw
  | cons v volumes ih =>
    obtain ⟨hrest, hv, hother⟩ := h.of_cons (p := p)
    rw [run_handleVolumes_cons]
    by_cases hlater : w ∈ volumes
    · refine (ih hrest _ hlater).trans ?_
      exact (run_handleVolume_after hstore hsep hv (hrest.1 w hlater) (hother w hlater)).2.2 o ho
    · -- Nothing is done about the objects of the first volume later on.
      obtain rfl : w = v := (List.mem_cons.1 hw).resolve_right hlater
      refine run_frame hstore (hsep.names_handleVolumes hrest.1) _ ?_
      rintro ⟨x, hx, hox⟩
      exact hother x hx o hox ho

/-- So have the calls that are made for it. -/
theorem filter_transcript_handleVolumes (hstore : Isolates object answer) (hsep : Separate p σ)
    (h : Apart σ volumes) (s : S) (hw : w ∈ volumes) :
    (transcript answer (handleVolumes p σ volumes) s).filter (isAbout p w) =
      transcript answer (handleVolume p σ w) s := by
  induction volumes generalizing s with
  | nil => simp at hw
  | cons v volumes ih =>
    obtain ⟨hrest, hv, hother⟩ := h.of_cons (p := p)
    rw [transcript_handleVolumes_cons, List.filter_append]
    by_cases hlater : w ∈ volumes
    · have hfirst : (transcript answer (handleVolume p σ v) s).filter (isAbout p w) = [] :=
        (hsep.names_handleVolume hv).filter_isAbout_eq_nil
          (fun o hov how => hother w hlater o how hov) s
      rw [hfirst, List.nil_append, ih hrest _ hlater]
      exact (run_handleVolume_after hstore hsep hv (hrest.1 w hlater) (hother w hlater)).2.1
    · obtain rfl : w = v := (List.mem_cons.1 hw).resolve_right hlater
      have hothers : (transcript answer (handleVolumes p σ volumes)
          (run answer (handleVolume p σ w) s).2).filter (isAbout p w) = [] := by
        refine (hsep.names_handleVolumes hrest.1).filter_isAbout_eq_nil ?_ _
        rintro o ⟨x, hx, hox⟩
        exact hother x hx o hox
      rw [(hsep.names_handleVolume hv).filter_isAbout_eq_self, hothers, List.append_nil]

/-! ## Whole passes -/

theorem object?_of_mem_readPlan {c : StoreCall} (h : c ∈ readPlan p) : c.object? = none := by
  simp only [readPlan, List.mem_cons, List.not_mem_nil, or_false] at h
  rcases h with rfl | rfl | rfl | rfl | rfl <;> rfl

/-- A script of reads leaves the store as it is, and gets the same from every store that answers
reads alike. -/
theorem run_reads {β : Type} {script : StoreScript β}
    (h : ∀ t rest, Exchanges script t rest → ∀ e ∈ t, e.question.object? = none)
    (hreads : ∀ c : StoreCall, c.object? = none → (answer c s).2 = s)
    (hsame : ∀ c : StoreCall, c.object? = none → answer' c s = answer c s) :
    (run answer script s).2 = s ∧ run answer' script s = run answer script s := by
  induction script with
  | done b => exact ⟨rfl, rfl⟩
  | ask c resume ih =>
    have hc : c.object? = none :=
      h _ _ (.ask (.stop (resume (answer c s).1))) ⟨c, (answer c s).1⟩ List.mem_cons_self
    have hrest := ih (answer c s).1 fun t rest ht e he =>
      h _ rest (.ask ht) e (List.mem_cons_of_mem _ he)
    rwa [run_ask, run_ask, hsame c hc, hreads c hc]

theorem object?_of_mem_takeSnapshot {t : List StoreExchange}
    {rest : StoreScript (Except OperatorError Snapshot)}
    (h : Exchanges (takeSnapshot p).run t rest) {e : StoreExchange} (he : e ∈ t) :
    e.question.object? = none := by
  obtain ⟨left, hleft, -⟩ := enacts_takeSnapshot h
  exact object?_of_mem_readPlan (hleft.mem_plan he)

theorem run_takeSnapshot (hstore : Isolates object answer)
    (hsame : ∀ c : StoreCall, c.object? = none → answer' c = answer c) :
    (run answer (takeSnapshot p).run s).2 = s ∧
      run answer' (takeSnapshot p).run s = run answer (takeSnapshot p).run s :=
  run_reads (fun _ _ ht _ he => object?_of_mem_takeSnapshot ht he)
    (fun c hc => hstore.reads c s hc) fun c hc => congrFun (hsame c hc) s

/-- A pass that has its snapshot deals with the volumes of it. -/
theorem run_drainPass (hstore : Isolates object answer)
    (hσ : (run answer (takeSnapshot p).run s).1 = .ok σ) :
    run answer (drainPass p) s =
      (.ok { replicas := σ.replicas, volumes := (run answer (handleVolumes p σ σ.volumes) s).1 },
        (run answer (handleVolumes p σ σ.volumes) s).2) := by
  have hstate := (run_takeSnapshot (p := p) (s := s) hstore fun _ _ => rfl).1
  rw [drainPass, run_bind, hσ, hstate]
  exact run_bind _ _ _ _

theorem filter_transcript_drainPass (hstore : Isolates object answer)
    (hσ : (run answer (takeSnapshot p).run s).1 = .ok σ) :
    (transcript answer (drainPass p) s).filter (isAbout p v) =
      (transcript answer (handleVolumes p σ σ.volumes) s).filter (isAbout p v) := by
  have hstate := (run_takeSnapshot (p := p) (s := s) hstore fun _ _ => rfl).1
  have hreads : (transcript answer (takeSnapshot p).run s).filter (isAbout p v) = [] := by
    refine List.filter_eq_nil_iff.2 fun e he habout => ?_
    rw [isAbout, object?_of_mem_takeSnapshot (exchanges_transcript answer _ s) he] at habout
    cases habout
  rw [drainPass, transcript_bind, hσ, hstate, List.filter_append, hreads, List.nil_append]
  exact congrArg (List.filter _) ((transcript_bind _ _ _ _).trans (List.append_nil _))

theorem Separate.apart (h : Separate p σ) : Apart σ σ.volumes :=
  ⟨fun _ => id, h.ordinals⟩

/-- The outcome of a volume that is dealt with first. -/
def outcomeOf (answer : (c : StoreCall) → S → c.Reply × S) (p : BufferPool) (σ : Snapshot) (s : S)
    (v : Claim) : VolumeOutcome :=
  (run answer (handleVolume p σ v) s).1

theorem volume_outcomeOf : (outcomeOf answer p σ s v).volume = nameOf v := by
  rw [outcomeOf, handleVolume, run_bind]
  rfl

/-- The objects that belong to no listed volume stay as they are. -/
theorem object_handleVolumes_other (hstore : Isolates object answer) (hsep : Separate p σ) (s : S)
    {o : ObjectName} (ho : ∀ w ∈ σ.volumes, ¬ OfVolume p w o) :
    object o (run answer (handleVolumes p σ σ.volumes) s).2 = object o s :=
  run_frame hstore (hsep.names_handleVolumes fun _ => id) s fun ⟨w, hw, how⟩ => ho w hw how

/-- A pass deals with each listed volume as if with that one first, and with nothing else. -/
theorem drainPass_by_volume (hstore : Isolates object answer)
    (hσ : (run answer (takeSnapshot p).run s).1 = .ok σ) (hsep : Separate p σ) :
    (run answer (drainPass p) s).1 = .ok
        { replicas := σ.replicas, volumes := σ.volumes.map (outcomeOf answer p σ s) } ∧
      (∀ o, (∀ w ∈ σ.volumes, ¬ OfVolume p w o) →
        object o (run answer (drainPass p) s).2 = object o s) ∧
      ∀ w ∈ σ.volumes,
        (transcript answer (drainPass p) s).filter (isAbout p w) =
          transcript answer (handleVolume p σ w) s ∧
        ∀ o, OfVolume p w o → object o (run answer (drainPass p) s).2 =
          object o (run answer (handleVolume p σ w) s).2 := by
  rw [run_drainPass hstore hσ, run_handleVolumes hstore hsep hsep.apart]
  refine ⟨rfl, fun o ho => object_handleVolumes_other hstore hsep s ho, fun w hw => ⟨?_, ?_⟩⟩
  · rw [filter_transcript_drainPass hstore hσ]
    exact filter_transcript_handleVolumes hstore hsep hsep.apart s hw
  · exact fun o ho => object_handleVolumes hstore hsep hsep.apart s hw ho

/-- What is done about a volume is the same in a store that answers the calls about it alike. -/
theorem handleVolume_agrees (hstore : Isolates object answer) (hsep : Separate p σ)
    (hw : w ∈ σ.volumes)
    (hsame : ∀ c o, c.object? = some o → OfVolume p w o → answer' c = answer c) (s : S) :
    outcomeOf answer' p σ s w = outcomeOf answer p σ s w ∧
      transcript answer' (handleVolume p σ w) s = transcript answer (handleVolume p σ w) s ∧
        ∀ o, OfVolume p w o → object o (run answer' (handleVolume p σ w) s).2 =
          object o (run answer (handleVolume p σ w) s).2 := by
  obtain ⟨hresult, htranscript, hobjects⟩ :=
    run_agree hstore (hsep.names_handleVolume hw) hsame (s := s) fun _ _ => rfl
  exact ⟨hresult.symm, htranscript.symm, fun o ho => (hobjects o ho).symm⟩

theorem Separate.ordinal_ne (h : Separate p σ) (hv : v ∈ σ.volumes) (hw : w ∈ σ.volumes)
    (hne : w ≠ v) : Text.trailingOrdinal? (nameOf w) ≠ Text.trailingOrdinal? (nameOf v) :=
  have : Std.Symm fun v w : Claim =>
      Text.trailingOrdinal? (nameOf v) ≠ Text.trailingOrdinal? (nameOf w) :=
    ⟨fun _ _ => Ne.symm⟩
  h.ordinals.forall hw hv hne

theorem Separate.outcomeFor?_eq_some_iff (h : Separate p σ) {out : PassOutcome}
    (hout : out.volumes = σ.volumes.map (outcomeOf answer p σ' s)) {name : String}
    {o : VolumeOutcome} :
    out.outcomeFor? name = some o ↔
      ∃ w ∈ σ.volumes, nameOf w = name ∧ outcomeOf answer p σ' s w = o := by
  have hmem : ∀ o, o ∈ out.volumes ∧ o.volume = name ↔
      ∃ w ∈ σ.volumes, nameOf w = name ∧ outcomeOf answer p σ' s w = o := by
    intro o
    rw [hout, List.mem_map]
    constructor
    · rintro ⟨⟨w, hw, rfl⟩, hname⟩
      exact ⟨w, hw, volume_outcomeOf.symm.trans hname, rfl⟩
    · rintro ⟨w, hw, hname, rfl⟩
      exact ⟨⟨w, hw, rfl⟩, volume_outcomeOf.trans hname⟩
  have hfound : ∀ o, out.outcomeFor? name = some o → o ∈ out.volumes ∧ o.volume = name := by
    intro o ho
    rw [PassOutcome.outcomeFor?] at ho
    exact ⟨List.mem_of_find?_eq_some ho, by simpa using List.find?_some ho⟩
  rw [← hmem]
  constructor
  · exact hfound o
  · rintro ⟨ho, hname⟩
    obtain ⟨other, hother⟩ : ∃ other, out.outcomeFor? name = some other :=
      Option.isSome_iff_exists.1 (List.find?_isSome.2 ⟨o, ho, beq_iff_eq.2 hname⟩)
    obtain ⟨w, hw, hwname, rfl⟩ := (hmem o).1 ⟨ho, hname⟩
    obtain ⟨x, hx, hxname, rfl⟩ := (hmem other).1 (hfound other hother)
    obtain rfl : x = w := by
      by_contra hne
      exact h.ordinal_ne hw hx hne (by rw [hxname, hwname])
    exact hother

/-- In whatever order objects are listed, each volume has the same outcome and each object comes
out the same. -/
theorem drainPass_relisted (hstore : Isolates object answer)
    (hσ : (run answer (takeSnapshot p).run s).1 = .ok σ) (hsep : Separate p σ)
    (h : Relists answer answer') :
    ∃ out out', (run answer (drainPass p) s).1 = .ok out ∧
      (run answer' (drainPass p) s).1 = .ok out' ∧ out.SameUpToOrder out' ∧
      ∀ o, object o (run answer' (drainPass p) s).2 = object o (run answer (drainPass p) s).2 := by
  have hstore' := h.isolates hstore
  have halike := alike_takeSnapshot hstore h p s
  rw [hσ] at halike
  cases hσ' : (run answer' (takeSnapshot p).run s).1 with
  | error e =>
    rw [hσ'] at halike
    exact halike.elim
  | ok σ' =>
    rw [hσ'] at halike
    have hsame : σ.SameUpToOrder σ' := halike
    have hsep' := hsep.sameUpToOrder hsame
    -- Both the snapshot and the store make no difference to what is done about one volume.
    have hvolume : ∀ w ∈ σ.volumes, outcomeOf answer' p σ' s w = outcomeOf answer p σ s w ∧
        ∀ o, OfVolume p w o → object o (run answer' (handleVolume p σ' w) s).2 =
          object o (run answer (handleVolume p σ w) s).2 := by
      intro w hw
      obtain ⟨houtcome, -, hobjects⟩ := handleVolume_agrees hstore hsep hw
        (fun c o hc _ => h.eq_of_object hc) s
      rw [outcomeOf, handleVolume_eq hsep hsame hw]
      exact ⟨houtcome, hobjects⟩
    obtain ⟨hout, hothers, hown⟩ := drainPass_by_volume hstore hσ hsep
    obtain ⟨hout', hothers', hown'⟩ := drainPass_by_volume hstore' hσ' hsep'
    have houtcomes : σ'.volumes.map (outcomeOf answer' p σ' s) =
        σ'.volumes.map (outcomeOf answer p σ s) :=
      List.map_congr_left fun w hw => (hvolume w (hsame.volumes.mem_iff.2 hw)).1
    rw [houtcomes] at hout'
    have hperm := hsame.volumes.map (outcomeOf answer p σ s)
    refine ⟨_, _, hout, hout', ⟨hperm, fun name => ?_, hsame.replicas, counts_eq_of_perm hperm,
      requeueAfter_eq_of_perm hperm⟩, fun o => ?_⟩
    · refine Option.ext fun o => ?_
      rw [hsep'.outcomeFor?_eq_some_iff rfl, hsep.outcomeFor?_eq_some_iff rfl]
      exact exists_congr fun w => and_congr_left fun _ => hsame.volumes.mem_iff.symm
    · -- An object belongs to a listed volume, or both passes leave it alone.
      by_cases ho : ∃ w ∈ σ.volumes, OfVolume p w o
      · obtain ⟨w, hw, how⟩ := ho
        rw [(hown w hw).2 o how, (hown' w (hsame.volumes.mem_iff.1 hw)).2 o how]
        exact (hvolume w hw).2 o how
      · rw [hothers o fun w hw how => ho ⟨w, hw, how⟩,
          hothers' o fun w hw how => ho ⟨w, hsame.volumes.mem_iff.2 hw, how⟩]

/-- A pass that cannot take its snapshot ends with the error and changes nothing. -/
theorem run_drainPass_of_error (hstore : Isolates object answer) {e : OperatorError}
    (hσ : (run answer (takeSnapshot p).run s).1 = .error e) :
    run answer (drainPass p) s = (.error e, s) := by
  have hstate := (run_takeSnapshot (p := p) (s := s) hstore fun _ _ => rfl).1
  rw [drainPass, run_bind, hσ, hstate]
  rfl

theorem drainPass_relisted_of_error (hstore : Isolates object answer) {e : OperatorError}
    (hσ : (run answer (takeSnapshot p).run s).1 = .error e) (h : Relists answer answer') :
    run answer' (drainPass p) s = run answer (drainPass p) s := by
  have halike := alike_takeSnapshot hstore h p s
  rw [hσ] at halike
  have hσ' : (run answer' (takeSnapshot p).run s).1 = .error e := by
    cases hσ' : (run answer' (takeSnapshot p).run s).1 with
    | error e' =>
      rw [hσ'] at halike
      exact congrArg Except.error halike.symm
    | ok σ' =>
      rw [hσ'] at halike
      exact halike.elim
  rw [run_drainPass_of_error hstore hσ, run_drainPass_of_error (h.isolates hstore) hσ']

/-- Whatever becomes of the calls for one volume, each other volume has the same outcome, the same
calls are made for it, and its objects come out the same. -/
theorem drainPass_unaffected (hstore : Isolates object answer)
    (hσ : (run answer (takeSnapshot p).run s).1 = .ok σ) (hsep : Separate p σ)
    (hstore' : Isolates object answer') (hv : v ∈ σ.volumes)
    (hsame : ∀ c : StoreCall, (∀ o, c.object? = some o → ¬ OfVolume p v o) →
      answer' c = answer c) :
    ∃ out out', (run answer (drainPass p) s).1 = .ok out ∧
      (run answer' (drainPass p) s).1 = .ok out' ∧
      ∀ w ∈ σ.volumes, w ≠ v →
        (∃ o, out.outcomeFor? (nameOf w) = some o ∧ out'.outcomeFor? (nameOf w) = some o) ∧
        (transcript answer' (drainPass p) s).filter (isAbout p w) =
          (transcript answer (drainPass p) s).filter (isAbout p w) ∧
        ∀ o, OfVolume p w o → object o (run answer' (drainPass p) s).2 =
          object o (run answer (drainPass p) s).2 := by
  have hreads : ∀ c : StoreCall, c.object? = none → answer' c = answer c := fun c hc =>
    hsame c fun o ho => by rw [hc] at ho; cases ho
  have hσ' : (run answer' (takeSnapshot p).run s).1 = .ok σ := by
    rw [(run_takeSnapshot hstore hreads).2, hσ]
  obtain ⟨hout, -, hown⟩ := drainPass_by_volume hstore hσ hsep
  obtain ⟨hout', -, hown'⟩ := drainPass_by_volume hstore' hσ' hsep
  refine ⟨_, _, hout, hout', fun w hw hne => ?_⟩
  have hsame' : ∀ c o, c.object? = some o → OfVolume p w o → answer' c = answer c := by
    intro c o hc how
    refine hsame c fun o' ho' hov => ?_
    obtain rfl : o = o' := Option.some.inj (hc.symm.trans ho')
    exact not_ofVolume_of_ordinal_ne (hsep.ordinal_ne hv hw hne) how hov
  obtain ⟨houtcome, htranscript, hobjects⟩ := handleVolume_agrees hstore hsep hw hsame' s
  refine ⟨⟨outcomeOf answer p σ s w, ?_, ?_⟩, ?_, fun o how => ?_⟩
  · exact (hsep.outcomeFor?_eq_some_iff rfl).2 ⟨w, hw, rfl, rfl⟩
  · exact (hsep.outcomeFor?_eq_some_iff rfl).2 ⟨w, hw, rfl, houtcome⟩
  · rw [(hown w hw).1, (hown' w hw).1, htranscript]
  · rw [(hown w hw).2 o how, (hown' w hw).2 o how, hobjects o how]

/-! ## Two volumes, one of which fails -/

open MemoryStore

/-- The pool scaled down to no workers, with two volumes left. -/
def logsTwoUnused : MemoryStore where
  volumes := .ofList ([0, 1].map fun (i : Nat) => (logsPool.claimName i, bareVolume logsPool i))

/-- The placeholder of the first volume cannot be made. -/
def logsPlaceholderFails : StoreCall → Option FaultEffect := fun c =>
  if c.object? = some (.pod (logsPool.placeholderName 0)) then
    some (.fail (.client (.transport "timeout")))
  else none

theorem run_takeSnapshot_logsTwoUnused :
    (run (answerUnder fun _ => none) (takeSnapshot logsPool).run logsTwoUnused).1 =
      .ok (logsTwoUnused.view logsPool 0) :=
  taken_of_follows (exchanges_transcript _ _ _)
    (follows_transcript (f := id) (fun c s => Succeeds.carried c s) _ _) rfl

theorem ordinals_logsTwoUnused :
    logsTwoUnused.volumes.values.map (fun v => Text.trailingOrdinal? (nameOf v)) =
      [some 0, some 1] := by
  decide +kernel

theorem pairwise_volumes_view {R : Claim → Claim → Prop} {st : MemoryStore} {n : Int32}
    (h : st.volumes.values.Pairwise R) : (st.view p n).volumes.Pairwise R :=
  h.filter _

theorem jobs_logsTwoUnused : (logsTwoUnused.view logsPool 0).jobs = [] :=
  rfl

theorem separate_logsTwoUnused : Separate logsPool (logsTwoUnused.view logsPool 0) where
  ordinals := by
    refine pairwise_volumes_view (List.pairwise_map.1 ?_)
    rw [ordinals_logsTwoUnused]
    decide
  jobName v _ job hjob := by
    rw [jobs_logsTwoUnused] at hjob
    cases hjob
  oneJob v _ := by
    rw [jobs_logsTwoUnused]
    exact .nil

theorem bareVolume_inj {i j : Nat} (h : bareVolume p i = bareVolume p j) : i = j := by
  have hname : p.claimName i = p.claimName j := congrArg (fun v => v.metadata.name.getD "") h
  exact p.claimName_inj.1 hname

theorem get?_twoVolumes (p : BufferPool) {i : Nat} (h : i < 2) :
    (KeyMap.ofList ([0, 1].map fun (i : Nat) => (p.claimName i, bareVolume p i))).get?
      (p.claimName i) = some (bareVolume p i) := by
  simp only [KeyMap.ofList, List.map_cons, List.map_nil, List.foldl_cons, List.foldl_nil,
    KeyMap.get?_insert, p.claimName_inj]
  obtain rfl | rfl : i = 0 ∨ i = 1 := by omega
  · rfl
  · rfl

theorem mem_logsTwoUnused {i : Nat} (h : i < 2) :
    bareVolume logsPool i ∈ (logsTwoUnused.view logsPool 0).volumes :=
  (mem_volumes_view_iff_drainable wellNamed_logsPool).2
    ⟨⟨_, get?_twoVolumes logsPool h⟩, drainable_bareVolume logsPool i⟩

theorem answerUnder_logsPlaceholderFails {c : StoreCall}
    (hc : ∀ o, c.object? = some o → ¬ OfVolume logsPool (bareVolume logsPool 0) o) :
    answerUnder logsPlaceholderFails c = answerUnder (fun _ => none) c := by
  have hfirst : OfVolume logsPool (bareVolume logsPool 0) (.pod (logsPool.placeholderName 0)) :=
    ⟨0, logsPool.trailingOrdinal?_claimName.trans (if_pos (Nat.zero_le _)), rfl⟩
  have hnone : logsPlaceholderFails c = none := if_neg fun hobject => hc _ hobject hfirst
  funext s
  simp only [answerUnder, hnone]

/-! ## Isolation -/

/-- Volumes do not get in each other's way. In whatever order the store lists volumes, pods and
jobs, a pass fails alike or each volume has the same outcome, and each object comes out the same.
If other replies are given to the calls for one listed volume, such as failures, each other volume
still has its outcome, the same calls are made for it and its objects come out the same. -/
theorem volumes_isolated (hstore : Isolates object answer)
    (hsep : ∀ σ, (run answer (takeSnapshot p).run s).1 = .ok σ → Separate p σ) :
    (∀ answer', Relists answer answer' →
      Alike PassOutcome.SameUpToOrder (run answer (drainPass p) s).1
        (run answer' (drainPass p) s).1 ∧
      ∀ o, object o (run answer' (drainPass p) s).2 = object o (run answer (drainPass p) s).2) ∧
    ∀ answer' σ v, Isolates object answer' → (run answer (takeSnapshot p).run s).1 = .ok σ →
      v ∈ σ.volumes →
      (∀ c : StoreCall, (∀ o, c.object? = some o → ¬ OfVolume p v o) → answer' c = answer c) →
      ∃ out out', (run answer (drainPass p) s).1 = .ok out ∧
        (run answer' (drainPass p) s).1 = .ok out' ∧
        ∀ w ∈ σ.volumes, w ≠ v →
          (∃ o, out.outcomeFor? (nameOf w) = some o ∧ out'.outcomeFor? (nameOf w) = some o) ∧
          (transcript answer' (drainPass p) s).filter (isAbout p w) =
            (transcript answer (drainPass p) s).filter (isAbout p w) ∧
          ∀ o, OfVolume p w o → object o (run answer' (drainPass p) s).2 =
            object o (run answer (drainPass p) s).2 := by
  refine ⟨fun answer' h => ?_, fun answer' σ v hstore' hσ hv hsame =>
    drainPass_unaffected hstore hσ (hsep σ hσ) hstore' hv hsame⟩
  cases hσ : (run answer (takeSnapshot p).run s).1 with
  | error e =>
    rw [drainPass_relisted_of_error hstore hσ h, run_drainPass_of_error hstore hσ]
    exact ⟨rfl, fun _ => rfl⟩
  | ok σ =>
    obtain ⟨out, out', hout, hout', hsame, hobjects⟩ :=
      drainPass_relisted hstore hσ (hsep σ hσ) h
    rw [hout, hout']
    exact ⟨hsame, hobjects⟩

/-- The drain of the second volume is started though the one of the first volume cannot be. -/
theorem volumes_isolated_logs : ∃ out out',
    (run (answerUnder fun _ => none) (drainPass logsPool) logsTwoUnused).1 = .ok out ∧
      (run (answerUnder logsPlaceholderFails) (drainPass logsPool) logsTwoUnused).1 = .ok out' ∧
      ∃ o, out.outcomeFor? (logsPool.claimName 1) = some o ∧
        out'.outcomeFor? (logsPool.claimName 1) = some o := by
  obtain ⟨-, hfailures⟩ := volumes_isolated (isolates_answerUnder fun _ => none)
    (p := logsPool) (s := logsTwoUnused) fun σ hσ => by
      rw [run_takeSnapshot_logsTwoUnused] at hσ
      exact Except.ok.inj hσ ▸ separate_logsTwoUnused
  have hne : bareVolume logsPool 1 ≠ bareVolume logsPool 0 := fun heq =>
    absurd (bareVolume_inj heq) (by decide)
  obtain ⟨out, out', hout, hout', hothers⟩ := hfailures (answerUnder logsPlaceholderFails) _
    (bareVolume logsPool 0) (isolates_answerUnder _) run_takeSnapshot_logsTwoUnused
    (mem_logsTwoUnused (by decide)) fun _ => answerUnder_logsPlaceholderFails
  exact ⟨out, out', hout, hout',
    (hothers (bareVolume logsPool 1) (mem_logsTwoUnused (by decide)) hne).1⟩

end VolumeDrain.Drain
