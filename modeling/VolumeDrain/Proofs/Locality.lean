import VolumeDrain.Proofs.Pass

/-!
# Calls and the objects they name

In a store whose calls depend on the object they name and change no other, what a script gets told
and what it does depend on the objects that it names, and it leaves all others alone. Scripts that
name different objects can then be looked at one by one, whatever order they run in.
-/
namespace VolumeDrain.Drain

open Manifest Script

/-- The name of an object of the store. -/
inductive ObjectName where
  | volume (name : String)
  | pod (name : String)
  | job (name : String)
deriving DecidableEq, Repr

/-- The object that a call names. The reads name none. -/
def StoreCall.object? : StoreCall → Option ObjectName
  | listVolumes _ _ => none
  | listPods _ _ => none
  | listJobs _ _ => none
  | replicaCount _ => none
  | mark volume _ => some (.volume (nameOf volume))
  | deleteJob job _ => some (.job (nameOf job))
  | settleJob job _ => some (.job (nameOf job))
  | settlePod pod _ => some (.pod (nameOf pod))

/-- The calls are about the objects that they name. Whether a call succeeds or fails is a matter of
the call and of its object, not of what was called before. -/
structure Isolates {S α : Type} (object : ObjectName → S → α)
    (answer : (c : StoreCall) → S → c.Reply × S) : Prop where
  reads : ∀ c s, c.object? = none → (answer c s).2 = s
  others : ∀ c s o o', c.object? = some o → o' ≠ o → object o' (answer c s).2 = object o' s
  own : ∀ c s s' o, c.object? = some o → object o s = object o s' →
    (answer c s).1 = (answer c s').1 ∧ object o (answer c s).2 = object o (answer c s').2

/-- Whoever answers the script, all its calls name objects of this kind. -/
def Names {β : Type} (O : ObjectName → Prop) (script : StoreScript β) : Prop :=
  ∀ t rest, Exchanges script t rest → ∀ e ∈ t, ∃ o, e.question.object? = some o ∧ O o

variable {S α β : Type} {object : ObjectName → S → α}
  {answer answer' : (c : StoreCall) → S → c.Reply × S} {O : ObjectName → Prop}
  {script : StoreScript β} {p : BufferPool} {σ : Snapshot} {v w : Claim}

theorem Names.head {c : StoreCall} {resume : c.Reply → StoreScript β}
    (h : Names O (.ask c resume)) (r : c.Reply) : ∃ o, c.object? = some o ∧ O o :=
  h _ _ (.ask (.stop (resume r))) ⟨c, r⟩ List.mem_cons_self

theorem Names.tail {c : StoreCall} {resume : c.Reply → StoreScript β}
    (h : Names O (.ask c resume)) (r : c.Reply) : Names O (resume r) :=
  fun _ rest ht e he => h _ rest (.ask ht) e (List.mem_cons_of_mem _ he)

/-! ## One script -/

/-- Two stores that agree on the objects that a script names, and on the calls about them, are
asked the same by it, end it alike and agree on these objects in the end. -/
theorem run_agree (hstore : Isolates object answer) (h : Names O script)
    (hsame : ∀ c o, c.object? = some o → O o → answer' c = answer c) {s s' : S}
    (hs : ∀ o, O o → object o s = object o s') :
    (run answer script s).1 = (run answer' script s').1 ∧
      transcript answer script s = transcript answer' script s' ∧
        ∀ o, O o → object o (run answer script s).2 = object o (run answer' script s').2 := by
  induction script generalizing s s' with
  | done b => exact ⟨rfl, rfl, hs⟩
  | ask c resume ih =>
    obtain ⟨o, hc, ho⟩ := h.head (answer c s).1
    obtain ⟨hreply, hown⟩ := hstore.own c s s' o hc (hs o ho)
    -- The call changes the object it names in both stores alike, and no other in either.
    have hnext : ∀ o', O o' → object o' (answer c s).2 = object o' (answer c s').2 := by
      intro o' ho'
      by_cases heq : o' = o
      · rw [heq, hown]
      · rw [hstore.others c s o o' hc heq, hstore.others c s' o o' hc heq, hs o' ho']
    obtain ⟨hresult, htranscript, hobjects⟩ := ih (answer c s).1 (h.tail _) hnext
    rw [hreply] at hresult htranscript hobjects
    rw [transcript, transcript, run_ask, run_ask, hsame c o hc ho, hreply]
    exact ⟨hresult, by rw [htranscript], hobjects⟩

/-- A script leaves the objects alone that it does not name. -/
theorem run_frame (hstore : Isolates object answer) (h : Names O script) (s : S) {o : ObjectName}
    (ho : ¬ O o) : object o (run answer script s).2 = object o s := by
  induction script generalizing s with
  | done b => rfl
  | ask c resume ih =>
    obtain ⟨named, hc, hnamed⟩ := h.head (answer c s).1
    have hne : o ≠ named := fun heq => ho (heq ▸ hnamed)
    exact (ih _ (h.tail _) _).trans (hstore.others c s named o hc hne)

theorem names_of_mem_transcript (h : Names O script) {s : S} {e : StoreExchange}
    (he : e ∈ transcript answer script s) : ∃ o, e.question.object? = some o ∧ O o :=
  h _ _ (exchanges_transcript answer script s) e he

/-! ## The objects of a volume -/

/-- The object is the volume, or has the name of its placeholder or of its drain job. -/
def OfVolume (p : BufferPool) (v : Claim) : ObjectName → Prop
  | .volume name => name = nameOf v
  | .pod name => ∃ o, Text.trailingOrdinal? (nameOf v) = some o ∧ name = p.placeholderName o
  | .job name => ∃ o, Text.trailingOrdinal? (nameOf v) = some o ∧ name = p.drainerName o

instance : DecidablePred (OfVolume p v)
  | .volume name => inferInstanceAs (Decidable (name = nameOf v))
  | .pod name => inferInstanceAs (Decidable
    (∃ o, o ∈ Text.trailingOrdinal? (nameOf v) ∧ name = p.placeholderName o))
  | .job name => inferInstanceAs (Decidable
    (∃ o, o ∈ Text.trailingOrdinal? (nameOf v) ∧ name = p.drainerName o))

/-- Whether a call and its reply are about an object of the volume. -/
def isAbout (p : BufferPool) (v : Claim) (e : StoreExchange) : Bool :=
  e.question.object?.any fun o => OfVolume p v o

theorem isAbout_iff {e : StoreExchange} {o : ObjectName} (h : e.question.object? = some o) :
    isAbout p v e = true ↔ OfVolume p v o := by
  rw [isAbout, h, Option.any_some, decide_eq_true_iff]

theorem Names.filter_isAbout_eq_self (h : Names (OfVolume p v) script) (s : S) :
    (transcript answer script s).filter (isAbout p v) = transcript answer script s := by
  refine List.filter_eq_self.2 fun e he => ?_
  obtain ⟨o, hobject, ho⟩ := names_of_mem_transcript h he
  exact (isAbout_iff hobject).2 ho

theorem Names.filter_isAbout_eq_nil (h : Names O script) (hother : ∀ o, O o → ¬ OfVolume p v o)
    (s : S) : (transcript answer script s).filter (isAbout p v) = [] := by
  refine List.filter_eq_nil_iff.2 fun e he habout => ?_
  obtain ⟨o, hobject, ho⟩ := names_of_mem_transcript h he
  exact hother o ho ((isAbout_iff hobject).1 habout)

/-- Volumes are listed with different ordinals, and each has at most one drain job, which has the
name of its ordinal. -/
structure Separate (p : BufferPool) (σ : Snapshot) : Prop where
  ordinals : σ.volumes.Pairwise fun v w =>
    Text.trailingOrdinal? (nameOf v) ≠ Text.trailingOrdinal? (nameOf w)
  jobName : ∀ v ∈ σ.volumes, ∀ job ∈ σ.jobs, job.claimOf p.bufferVolumeName = some (nameOf v) →
    ∃ o, Text.trailingOrdinal? (nameOf v) = some o ∧ nameOf job = p.drainerName o
  oneJob : ∀ v ∈ σ.volumes, σ.jobs.Pairwise fun job other =>
    job.claimOf p.bufferVolumeName = some (nameOf v) →
      other.claimOf p.bufferVolumeName ≠ some (nameOf v)

theorem not_ofVolume_of_ordinal_ne {o : ObjectName}
    (hne : Text.trailingOrdinal? (nameOf v) ≠ Text.trailingOrdinal? (nameOf w))
    (hv : OfVolume p v o) : ¬ OfVolume p w o := by
  intro hw
  cases o with
  | volume name => exact hne (by rw [← show name = nameOf v from hv, show name = nameOf w from hw])
  | pod name =>
    obtain ⟨i, hi, hname⟩ := hv
    obtain ⟨j, hj, hname'⟩ := hw
    have hij : i = j := p.placeholderName_inj.1 (hname.symm.trans hname')
    exact hne (by rw [hi, hj, hij])
  | job name =>
    obtain ⟨i, hi, hname⟩ := hv
    obtain ⟨j, hj, hname'⟩ := hw
    have hij : i = j := p.drainerName_inj.1 (hname.symm.trans hname')
    exact hne (by rw [hi, hj, hij])

theorem ofVolume_placeholderPod {pod : Pod} (h : placeholderPod p v = .ok pod) :
    OfVolume p v (.pod (nameOf pod)) := by
  obtain ⟨i, ho, hmeta⟩ := metadata_placeholderPod h
  have hname : nameOf pod = p.placeholderName i := congrArg ObjectMeta.nameOrStem hmeta
  exact ⟨i, trailingOrdinal_of_claimOrdinal ho, hname⟩

theorem ofVolume_drainerJob {job : Job} (h : drainerJob p v = .ok job) :
    OfVolume p v (.job (nameOf job)) := by
  obtain ⟨i, pod, ho, -, hmeta, -, -⟩ := metadata_drainerJob h
  have hname : nameOf job = p.drainerName i := congrArg ObjectMeta.nameOrStem hmeta
  exact ⟨i, trailingOrdinal_of_claimOrdinal ho, hname⟩

theorem Separate.ofVolume_job (h : Separate p σ) (hv : v ∈ σ.volumes) {job : Job}
    (hjob : σ.IsJobOf p (nameOf v) job) : OfVolume p v (.job (nameOf job)) := by
  obtain ⟨before, after, hjobs, hclaim, -⟩ := hjob
  refine h.jobName v hv job ?_ hclaim
  rw [hjobs]
  exact List.mem_append_right _ List.mem_cons_self

theorem Separate.object_of_justified (h : Separate p σ) (hv : v ∈ σ.volumes) {c : StoreCall}
    (hc : Justified p σ v c) : ∃ o, c.object? = some o ∧ OfVolume p v o := by
  cases c with
  | mark volume mark =>
    have hvolume : volume = v := by cases mark <;> exact hc.1
    exact ⟨_, rfl, congrArg nameOf hvolume⟩
  | deleteJob job propagation =>
    have hjob : σ.IsJobOf p (nameOf v) job := by cases propagation <;> exact hc.1
    exact ⟨_, rfl, h.ofVolume_job hv hjob⟩
  | settleJob job presence =>
    cases presence with
    | present => exact ⟨_, rfl, ofVolume_drainerJob hc.1⟩
    | absent => exact hc.elim
  | settlePod pod presence =>
    have hpod : placeholderPod p v = .ok pod := by cases presence <;> exact hc.1
    exact ⟨_, rfl, ofVolume_placeholderPod hpod⟩
  | _ => exact hc.elim

/-- What is done about a volume names the volume's own objects. -/
theorem Separate.names_handleVolume (h : Separate p σ) (hv : v ∈ σ.volumes) :
    Names (OfVolume p v) (handleVolume p σ v) := by
  intro t rest ht e he
  obtain ⟨left, hleft, -⟩ := enacts_handleVolume ht
  exact h.object_of_justified hv (justified_of_mem_planFor (hleft.mem_plan he))

theorem Separate.names_handleVolumes (h : Separate p σ) {volumes : List Claim}
    (hlisted : ∀ v ∈ volumes, v ∈ σ.volumes) :
    Names (fun o => ∃ v ∈ volumes, OfVolume p v o) (handleVolumes p σ volumes) := by
  intro t rest ht e he
  obtain ⟨v, hv, hc⟩ := (treats_handleVolumes ht).justified he
  obtain ⟨o, hobject, ho⟩ := h.object_of_justified (hlisted v hv) hc
  exact ⟨o, hobject, v, hv, ho⟩

/-! ## The store in memory -/

namespace MemoryStore

/-- An object of the store in memory. A job comes with the time at which it would be deleted. -/
inductive Entry where
  | volume (stored : Option Claim)
  | pod (stored : Option Pod)
  | job (stored : Option Job) (now : Instant)

/-- What the store holds under a name. -/
def entry : ObjectName → MemoryStore → Entry
  | .volume name, s => .volume (s.volumes.get? name)
  | .pod name, s => .pod (s.pods.get? name)
  | .job name, s => .job (s.jobs.get? name) s.now

/-- Answers a call. The faults strike the same calls over and over. -/
def answerUnder (faults : StoreCall → Option FaultEffect) (c : StoreCall) (s : MemoryStore) :
    c.Reply × MemoryStore :=
  match (faults c).bind c.struck with
  | some reply => (reply, s)
  | none => carryOut c s

end MemoryStore

open MemoryStore

section

variable {s : MemoryStore} {o : ObjectName} {key : String}

theorem entry_volumes {m : KeyMap Claim} (hne : o ≠ .volume key)
    (hm : ∀ name, name ≠ key → m.get? name = s.volumes.get? name) :
    entry o { s with volumes := m } = entry o s := by
  cases o with
  | volume name => exact congrArg Entry.volume (hm name fun heq => hne (congrArg _ heq))
  | pod | job => rfl

theorem entry_pods {m : KeyMap Pod} (hne : o ≠ .pod key)
    (hm : ∀ name, name ≠ key → m.get? name = s.pods.get? name) :
    entry o { s with pods := m } = entry o s := by
  cases o with
  | pod name => exact congrArg Entry.pod (hm name fun heq => hne (congrArg _ heq))
  | volume | job => rfl

theorem entry_jobs {m : KeyMap Job} (hne : o ≠ .job key)
    (hm : ∀ name, name ≠ key → m.get? name = s.jobs.get? name) :
    entry o { s with jobs := m } = entry o s := by
  cases o with
  | job name => exact congrArg (Entry.job · s.now) (hm name fun heq => hne (congrArg _ heq))
  | volume | pod => rfl

end

theorem entry_carryOut_other {c : StoreCall} {s : MemoryStore} {o o' : ObjectName}
    (hc : c.object? = some o) (hne : o' ≠ o) : entry o' (carryOut c s).2 = entry o' s := by
  have hinsert : ∀ {α : Type} (m : KeyMap α) (key : String) (value : α) (name : String),
      name ≠ key → (m.insert key value).get? name = m.get? name :=
    fun m key value name hname => (m.get?_insert key name value).trans (if_neg hname)
  have herase : ∀ {α : Type} (m : KeyMap α) (key name : String),
      name ≠ key → (m.erase key).get? name = m.get? name :=
    fun m key name hname => (m.get?_erase key name).trans (if_neg hname)
  cases c with
  | listVolumes | listPods | listJobs | replicaCount => cases hc
  | mark volume mark =>
    cases hc
    simp only [carryOut]
    split
    · rfl
    · exact entry_volumes hne (hinsert _ _ _)
  | deleteJob job propagation =>
    cases hc
    cases propagation with
    | background => exact entry_jobs hne (herase _ _)
    | foreground =>
      simp only [carryOut]
      split
      · rfl
      · exact entry_jobs hne (hinsert _ _ _)
  | settleJob job presence =>
    cases hc
    cases presence with
    | absent => exact entry_jobs hne (herase _ _)
    | present =>
      simp only [carryOut]
      split
      · rfl
      · exact entry_jobs hne (hinsert _ _ _)
  | settlePod pod presence =>
    cases hc
    cases presence with
    | absent => exact entry_pods hne (herase _ _)
    | present =>
      simp only [carryOut]
      split
      · split <;> rfl
      · exact entry_pods hne (hinsert _ _ _)

theorem carryOut_congr {c : StoreCall} {s s' : MemoryStore} {o : ObjectName}
    (hc : c.object? = some o) (hs : entry o s = entry o s') :
    (carryOut c s).1 = (carryOut c s').1 ∧
      entry o (carryOut c s).2 = entry o (carryOut c s').2 := by
  cases c with
  | listVolumes | listPods | listJobs | replicaCount => cases hc
  | mark volume mark =>
    cases hc
    have hvolume : s.volumes.get? (nameOf volume) = s'.volumes.get? (nameOf volume) :=
      Entry.volume.inj hs
    simp only [carryOut, ← hvolume]
    split
    · exact ⟨rfl, hs⟩
    · exact ⟨rfl, by simp only [entry, KeyMap.get?_insert, if_true]⟩
  | deleteJob job propagation =>
    cases hc
    obtain ⟨hjob, hnow⟩ := Entry.job.inj hs
    cases propagation with
    | background => exact ⟨rfl, by simp only [carryOut, entry, KeyMap.get?_erase, if_true, hnow]⟩
    | foreground =>
      simp only [carryOut, ← hjob]
      split
      · exact ⟨rfl, hs⟩
      · exact ⟨rfl, by simp only [entry, KeyMap.get?_insert, if_true, hnow]⟩
  | settleJob job presence =>
    cases hc
    obtain ⟨hjob, hnow⟩ := Entry.job.inj hs
    cases presence with
    | absent => exact ⟨rfl, by simp only [carryOut, entry, KeyMap.get?_erase, if_true, hnow]⟩
    | present =>
      have hcontains : s.jobs.contains (nameOf job) = s'.jobs.contains (nameOf job) :=
        congrArg Option.isSome hjob
      simp only [carryOut, ← hcontains]
      split
      · exact ⟨rfl, hs⟩
      · exact ⟨rfl, by simp only [entry, KeyMap.get?_insert, if_true, hnow]⟩
  | settlePod pod presence =>
    cases hc
    have hpod : s.pods.get? (nameOf pod) = s'.pods.get? (nameOf pod) := Entry.pod.inj hs
    cases presence with
    | absent => exact ⟨rfl, by simp only [carryOut, entry, KeyMap.get?_erase, if_true]⟩
    | present =>
      simp only [carryOut, ← hpod]
      split
      · split <;> exact ⟨rfl, hs⟩
      · exact ⟨rfl, by simp only [entry, KeyMap.get?_insert, if_true]⟩

theorem isolates_answerUnder (faults : StoreCall → Option FaultEffect) :
    Isolates entry (answerUnder faults) where
  reads c s hc := by
    rw [answerUnder]
    split
    · rfl
    · cases c with
      | listVolumes | listPods | listJobs | replicaCount => rfl
      | mark | deleteJob | settleJob | settlePod => cases hc
  others c s o o' hc hne := by
    rw [answerUnder]
    split
    · rfl
    · exact entry_carryOut_other hc hne
  own c s s' o hc hs := by
    rw [answerUnder, answerUnder]
    split
    · exact ⟨rfl, hs⟩
    · exact carryOut_congr hc hs

end VolumeDrain.Drain
