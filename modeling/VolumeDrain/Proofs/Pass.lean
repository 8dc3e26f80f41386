import VolumeDrain.Proofs.Turn

/-!
# Passes over a cluster

A pass as one step of a cluster: its calls are answered in any of the ways a cluster can answer,
and it may be cut off after any of them. A tidy cluster stays tidy, and every ordinal takes one
turn, which holds all that the pass exchanged about it.
-/
namespace VolumeDrain.Drain

open Manifest Script MemoryStore

/-- A pass over a cluster can have these exchanges, in whole or up to where it is cut off, and
leave the cluster in this state. -/
def Pass (p : BufferPool) (s : MemoryStore) (t : List StoreExchange) (s' : MemoryStore) : Prop :=
  ∃ rest, Exchanges (drainPass p) t rest ∧ Follows Answers t s s'

variable {p : BufferPool} {s s' : MemoryStore} {t u : List StoreExchange} {i : Nat} {v : Claim}
  {n : Int32}

/-- The store in memory runs passes of this kind, whatever faults it is to show. -/
theorem pass_of_answer (p : BufferPool) (s : MemoryStore) :
    Pass p s.quiet (transcript answer (drainPass p) s) (run answer (drainPass p) s).2.quiet :=
  ⟨_, exchanges_transcript answer (drainPass p) s,
    follows_transcript answers_answer (drainPass p) s⟩

/-! ## Reads -/

theorem eq_of_follows_reads (h : Follows Answers t s s')
    (ht : ∀ e ∈ t, e.question ∈ readPlan p) : s' = s := by
  induction t generalizing s with
  | nil => exact h
  | cons e t ih =>
    obtain ⟨mid, he, hrest⟩ := h
    have hmid : mid = s := by
      have hread := ht e List.mem_cons_self
      obtain ⟨c, r⟩ := e
      simp only [readPlan, List.mem_cons, List.not_mem_nil, or_false] at hread
      rcases hread with rfl | rfl | rfl | rfl | rfl
      · exact he.of_listVolumes.1
      · exact he.of_listPods.1
      · exact he.of_listPods.1
      · exact he.of_replicaCount.1
      · exact he.of_listJobs.1
    rw [← hmid]
    exact ih hrest fun e' he' => ht e' (List.mem_cons_of_mem _ he')

/-- The snapshot of a pass is the view of the cluster that it was taken of. -/
theorem view_of_follows_reads {σ : Snapshot} (h : Follows Answers (σ.reads p) s s') :
    s' = s ∧ s.replicas = .ok σ.replicas ∧ σ = s.view p σ.replicas := by
  obtain ⟨_, h₁, _, h₂, _, h₃, _, h₄, _, h₅, h₆⟩ := h
  obtain ⟨rfl, hvolumes⟩ := h₁.of_listVolumes
  obtain ⟨rfl, hworkers⟩ := h₂.of_listPods
  obtain ⟨rfl, hplaceholders⟩ := h₃.of_listPods
  obtain ⟨rfl, hreplicas⟩ := h₄.of_replicaCount
  obtain ⟨rfl, hjobs⟩ := h₅.of_listJobs
  refine ⟨h₆, hreplicas _ rfl, ?_⟩
  obtain ⟨volumes, workers, placeholders, replicas, jobs⟩ := σ
  rw [MemoryStore.view, ← hvolumes _ rfl, ← hworkers _ rfl, ← hplaceholders _ rfl, ← hjobs _ rfl]

/-- Where calls can be carried out, the reads of a pass can show what is there. -/
theorem follows_reads {answers : (c : StoreCall) → MemoryStore → c.Reply → MemoryStore → Prop}
    (hcarried : ∀ c s, answers c s (carryOut c s).1 (carryOut c s).2) (h : s.replicas = .ok n) :
    Follows answers ((s.view p n).reads p) s s := by
  refine ⟨s, hcarried (.listVolumes _ _) s, s, hcarried (.listPods _ _) s, s,
    hcarried (.listPods _ _) s, s, ?_, s, hcarried (.listJobs _ _) s, rfl⟩
  have hcount := hcarried (.replicaCount p) s
  simp only [carryOut] at hcount
  rw [h] at hcount
  exact hcount

/-- A pass stops within its reads and changes nothing, or deals with the volumes it sees. -/
theorem Pass.cases (h : Pass p s t s') :
    (s' = s ∧ ∀ e ∈ t, e.question ∈ readPlan p) ∨
      ∃ n u, s.replicas = .ok n ∧ t = (s.view p n).reads p ++ u ∧
        Treats p (s.view p n) (s.view p n).volumes u ∧ Follows Answers u s s' := by
  obtain ⟨rest, hexchanges, hfollows⟩ := h
  rcases exchanges_drainPass hexchanges with ⟨left, hleft⟩ | ⟨σ, u, rest', rfl, hu, -⟩
  · have hreads : ∀ e ∈ t, e.question ∈ readPlan p := fun e he => hleft.mem_plan he
    exact .inl ⟨eq_of_follows_reads hfollows hreads, hreads⟩
  · obtain ⟨mid, hreads, hrest⟩ := follows_append.1 hfollows
    obtain ⟨rfl, hreplicas, hview⟩ := view_of_follows_reads hreads
    have htreats := treats_handleVolumes hu
    rw [hview] at htreats
    exact .inr ⟨σ.replicas, u, hreplicas, by rw [← hview], htreats, hrest⟩

/-! ## Volumes -/

theorem Treats.justified {σ : Snapshot} {volumes : List Claim} (h : Treats p σ volumes t)
    {e : StoreExchange} (he : e ∈ t) : ∃ v ∈ volumes, Justified p σ v e.question := by
  induction h with
  | stop => simp at he
  | @volume v volumes t u left ht _ ih =>
    rcases List.mem_append.1 he with he | he
    · exact ⟨v, List.mem_cons_self, justified_of_mem_planFor (ht.mem_plan he)⟩
    · obtain ⟨w, hw, hjustified⟩ := ih he
      exact ⟨w, List.mem_cons_of_mem _ hw, hjustified⟩

theorem Tidy.name_of_listed (h : Tidy p s) (hp : p.WellNamed) (hv : v ∈ (s.view p n).volumes) :
    ∃ i : Nat, nameOf v = p.claimName i ∧ s.volumes.get? (p.claimName i) = some v := by
  obtain ⟨⟨key, hkey⟩, hplays, -⟩ := (mem_volumes_view_iff hp).1 hv
  have hproper := h.volumes key v hkey
  obtain ⟨i, rfl⟩ := hproper.ordinal hplays
  exact ⟨i, hproper.name_eq, hkey⟩

/-- Where volumes are stored under their names, no two listed ones share a name. -/
theorem selected_distinct {α : Type} [Resource α] {objects : KeyMap α}
    (hname : ∀ key a, objects.get? key = some a → nameOf a = key) (selector : String) :
    (selected objects selector).Pairwise fun a b => nameOf a ≠ nameOf b := by
  refine List.Pairwise.filter _ (List.pairwise_map.2 ?_)
  refine objects.sorted.imp_of_mem fun {a b} ha hb hlt heq => ?_
  rw [hname a.1 a.2 (KeyMap.mem_entries_iff.1 ha), hname b.1 b.2 (KeyMap.mem_entries_iff.1 hb)]
    at heq
  exact String.lt_irrefl _ (heq ▸ hlt)

theorem listed_distinct (hname : ∀ key v, s.volumes.get? key = some v → nameOf v = key) :
    (s.view p n).volumes.Pairwise fun v w => nameOf v ≠ nameOf w :=
  selected_distinct hname p.drainableSelector

theorem Tidy.listed_distinct (h : Tidy p s) :
    (s.view p n).volumes.Pairwise fun v w => nameOf v ≠ nameOf w :=
  Drain.listed_distinct fun key v hv => (h.volumes key v hv).name_eq

theorem Tidy.of_follows {s₀ : MemoryStore} (h₀ : Tidy p s₀) (hp : p.WellNamed) (h : Tidy p s)
    (hf : Follows Answers t s s')
    (ht : ∀ e ∈ t, ∃ v ∈ (s₀.view p n).volumes, Justified p (s₀.view p n) v e.question) :
    Tidy p s' := by
  induction t generalizing s with
  | nil => exact hf ▸ h
  | cons e t ih =>
    obtain ⟨mid, he, hrest⟩ := hf
    obtain ⟨v, hv, hjustified⟩ := ht e List.mem_cons_self
    obtain ⟨i, hname, -⟩ := h₀.name_of_listed hp hv
    exact ih (h.of_answers hname hjustified he) hrest
      fun e' he' => ht e' (List.mem_cons_of_mem _ he')

/-- While volumes are dealt with in turn, an ordinal takes at most one turn. -/
theorem turn_of_treats {s₁ s₂ : MemoryStore} {volumes : List Claim} (h : Tidy p s)
    (hp : p.WellNamed) (hlisted : ∀ v ∈ volumes, v ∈ (s.view p n).volumes)
    (hdistinct : volumes.Pairwise fun v w => nameOf v ≠ nameOf w)
    (ht : Treats p (s.view p n) volumes t) (hf : Follows Answers t s₁ s₂)
    (hs : s₁.slot p i = s.slot p i) :
    ∃ u, (∀ e ∈ u, e ∈ t) ∧ (∀ e ∈ t, Concerns p i e.question → e ∈ u) ∧
      Turn p i (s.slot p i) u (s₂.slot p i) := by
  induction ht generalizing s₁ with
  | stop =>
    rw [hf]
    exact ⟨[], by simp, by simp, .idle rfl hs⟩
  | @volume v volumes t u left he hu ih =>
    obtain ⟨mid, hft, hfu⟩ := follows_append.1 hf
    obtain ⟨hother, hdistinct'⟩ := List.pairwise_cons.1 hdistinct
    have hv := hlisted v List.mem_cons_self
    have hlisted' : ∀ w ∈ volumes, w ∈ (s.view p n).volumes :=
      fun w hw => hlisted w (List.mem_cons_of_mem _ hw)
    obtain ⟨j, hname, -⟩ := h.name_of_listed hp hv
    by_cases hij : i = j
    · subst hij
      -- The calls for the volumes that follow are about other ordinals.
      have hlater : ∀ e ∈ u, ¬ Concerns p i e.question := by
        intro e he hconcerns
        obtain ⟨w, hw, hjustified⟩ := hu.justified he
        obtain ⟨k, hwname, -⟩ := h.name_of_listed hp (hlisted' w hw)
        have hik := h.ordinal_eq hp hwname hjustified hconcerns
        exact hother w hw (by rw [hname, hwname, hik])
      refine ⟨t, fun e he => List.mem_append_left _ he, fun e he hconcerns => ?_, ?_⟩
      · rcases List.mem_append.1 he with he | he
        · exact he
        · exact absurd hconcerns (hlater e he)
      · rw [slot_eq_of_follows hfu hlater]
        exact turn_of_enacts h hp hv hname he hft hs
    · have hfree : ∀ e ∈ t, ¬ Concerns p i e.question := fun e het hconcerns =>
        hij (h.ordinal_eq hp hname
          (justified_of_mem_planFor (he.mem_plan het)) hconcerns)
      obtain ⟨w, hsub, hall, hturn⟩ := ih hlisted' hdistinct' hfu
        ((slot_eq_of_follows hft hfree).trans hs)
      refine ⟨w, fun e he => List.mem_append_right _ (hsub e he), fun e he hconcerns => ?_, hturn⟩
      rcases List.mem_append.1 he with he | he
      · exact absurd hconcerns (hfree e he)
      · exact hall e he hconcerns

/-! ## The pass as a step -/

theorem not_concerns_of_read {c : StoreCall} (h : c ∈ readPlan p) : ¬ Concerns p i c := by
  simp only [readPlan, List.mem_cons, List.not_mem_nil, or_false] at h
  rcases h with rfl | rfl | rfl | rfl | rfl <;> exact id

theorem read_of_mem_reads {σ : Snapshot} {e : StoreExchange} (h : e ∈ σ.reads p) :
    e.question ∈ readPlan p := by
  simp only [Snapshot.reads, List.mem_cons, List.not_mem_nil, or_false] at h
  rcases h with rfl | rfl | rfl | rfl | rfl <;> simp [readPlan]

/-- A call of a pass about an ordinal is justified by the view of the cluster as it was before. -/
theorem Pass.justified (h : Tidy p s) (hp : p.WellNamed) (hpass : Pass p s t s')
    {e : StoreExchange} (he : e ∈ t) (hconcerns : Concerns p i e.question) :
    ∃ n v, s.replicas = .ok n ∧ v ∈ (s.view p n).volumes ∧ nameOf v = p.claimName i ∧
      (s.slot p i).volume = some v ∧ Justified p (s.view p n) v e.question := by
  rcases hpass.cases with ⟨-, hreads⟩ | ⟨n, u, hreplicas, rfl, htreats, -⟩
  · exact absurd hconcerns (not_concerns_of_read (hreads e he))
  · rcases List.mem_append.1 he with he | he
    · exact absurd hconcerns (not_concerns_of_read (read_of_mem_reads he))
    · obtain ⟨v, hv, hjustified⟩ := htreats.justified he
      obtain ⟨j, hname, hstored⟩ := h.name_of_listed hp hv
      obtain rfl := h.ordinal_eq hp hname hjustified hconcerns
      exact ⟨n, v, hreplicas, hv, hname, hstored, hjustified⟩

theorem Pass.tidy (h : Tidy p s) (hp : p.WellNamed) (hpass : Pass p s t s') : Tidy p s' := by
  rcases hpass.cases with ⟨rfl, -⟩ | ⟨n, u, -, -, htreats, hfollows⟩
  · exact h
  · exact Tidy.of_follows h hp h hfollows fun e he => htreats.justified he

/-- In a pass every ordinal takes a turn, which holds the exchanges about it. -/
theorem Pass.turn (h : Tidy p s) (hp : p.WellNamed) (hpass : Pass p s t s') (i : Nat) :
    ∃ u, (∀ e ∈ u, e ∈ t) ∧ (∀ e ∈ t, Concerns p i e.question → e ∈ u) ∧
      Turn p i (s.slot p i) u (s'.slot p i) := by
  rcases hpass.cases with ⟨rfl, hreads⟩ | ⟨n, u, -, rfl, htreats, hfollows⟩
  · refine ⟨[], by simp, fun e he hc => ?_, .idle rfl rfl⟩
    exact absurd hc (not_concerns_of_read (hreads e he))
  · obtain ⟨w, hsub, hall, hturn⟩ := turn_of_treats h hp (fun v hv => hv) h.listed_distinct
      htreats hfollows rfl
    refine ⟨w, fun e he => List.mem_append_right _ (hsub e he), fun e he hc => ?_, hturn⟩
    rcases List.mem_append.1 he with he | he
    · exact absurd hc (not_concerns_of_read (read_of_mem_reads he))
    · exact hall e he hc

theorem Pass.replicas_eq (h : Pass p s t s') : s'.replicas = s.replicas := by
  obtain ⟨-, -, hfollows⟩ := h
  induction t generalizing s with
  | nil => rw [hfollows]
  | cons e t ih =>
    obtain ⟨mid, he, hrest⟩ := hfollows
    exact (ih hrest).trans he.replicas_eq

/-- Where the replica count can be read, a pass in which every call is carried out enacts the plan
of every listed volume. -/
theorem exists_pass (p : BufferPool) (h : s.replicas = .ok n) :
    ∃ u s', Pass p s ((s.view p n).reads p ++ u) s' ∧
      (∀ e ∈ u, ∃ s, e.reply = (carryOut e.question s).1) ∧
      ∀ v ∈ (s.view p n).volumes, ∃ w, (∀ e ∈ w, e ∈ u) ∧
        Enacts (planFor p (s.view p n) v) w [] := by
  have hexchanges := exchanges_transcript carryOut
    (handleVolumes p (s.view p n) (s.view p n).volumes) s
  have hfollows := follows_transcript (f := id) Answers.carried
    (handleVolumes p (s.view p n) (s.view p n).volumes) s
  refine ⟨_, _, ⟨_, exchanges_drainPass_of hexchanges,
    follows_append.2 ⟨s, follows_reads Answers.carried h, hfollows⟩⟩,
    fun e he => reply_of_mem_transcript he, ?_⟩
  intro v hv
  obtain ⟨before, w, after, hsplit, hw⟩ := enacted_of_handleVolumes hexchanges hv
  refine ⟨w, fun e he => ?_, hw⟩
  rw [hsplit]
  exact List.mem_append_left _ (List.mem_append_right _ he)

end VolumeDrain.Drain
