import VolumeDrain.Proofs.LeaseTakeover

/-!
# Who is told that it leads

A takeover names the version that was read, a creation needs that there is no lease; a renewal names
no version and is carried out on whatever lease is stored. So a call that renews is told that it
leads even where the lease was taken over since it was read. That is the only way in which a call is
told so without holding the lease.
-/
namespace VolumeDrain.Operator

open Api Json Manifest Script

/-- Contact `k` renews a lease that was taken over behind its back: of the takeovers that landed
since its call was told of the lease, the last is another candidate's. -/
def Overtaken (ns : String) (contacts : List Contact) (k : Nat) (c : Contact) : Prop :=
  c.Renews ns ∧ ∃ i r m t lease, Informs ns contacts i k r c ∧ i < m ∧ m < k ∧
    contacts[m]? = some t ∧ t.TakesOver ns lease ∧ t.Lands ∧ t.identity ≠ c.identity ∧
    ∀ n u read, m < n → n < k → contacts[n]? = some u → u.TakesOver ns read → ¬u.Lands

section

variable {ns : String} {start : Server} {e : Election} {i k : Nat} {c : Contact}

/-- No takeover has landed from contact `i` on up to contact `k`. -/
def Untaken (ns : String) (contacts : List Contact) (i k : Nat) : Prop :=
  ∀ n u lease, i ≤ n → n < k → contacts[n]? = some u → u.TakesOver ns lease → ¬u.Lands

theorem Untaken.succ {contacts : List Contact} (h : Untaken ns contacts i k)
    (hlast : ∀ u lease, contacts[k]? = some u → u.TakesOver ns lease → ¬u.Lands) :
    Untaken ns contacts i (k + 1) := by
  intro n u lease hin hnk hu
  rcases Nat.lt_or_eq_of_le (Nat.le_of_lt_succ hnk) with hnk | rfl
  · exact h n u lease hin hnk hu
  · exact hlast u lease hu

/-- What a contact makes of the holder of a stored lease. -/
theorem Sound.holder_after (h : Sound ns start e) (hc : e.contacts[k]? = some c) {j : Json}
    (hj : storedLease ns c.before = some j) :
    (∃ j', storedLease ns c.after = some j') ∧
      ((holder ns c.after = holderOf j ∧ ∀ lease, c.TakesOver ns lease → ¬c.Lands) ∨
        ∃ lease, c.TakesOver ns lease ∧ c.Lands ∧ holder ns c.after = some c.identity) := by
  rcases (h.explained k c hc).effect with
    ⟨⟨hversion, hstored⟩, -⟩ | ⟨i, r, w, document, hinforms, -, hrequest, hmade, hstamps⟩
  · refine ⟨⟨j, hstored.trans hj⟩, .inl ⟨?_, fun lease _ hlands => ?_⟩⟩
    · rw [holder, hstored, hj]
      rfl
    · exact absurd hlands (Nat.not_lt.2 (Nat.le_of_eq hversion))
  · refine ⟨⟨_, hstamps.2⟩, ?_⟩
    rw [hstamps.holder]
    rw [hj] at hmade
    cases hmade with
    | renewed =>
      refine .inl ⟨holderOf_renewed c.now j, fun lease htakes => ?_⟩
      have hpatch := (Request.merge.inj (hrequest.symm.trans htakes)).2.2.2
      exact absurd hpatch (renewPatch_ne_takeoverPatch _ _ _ _)
    | @takenOver lease =>
      exact .inr ⟨lease, hrequest, hstamps.lands, holderOf_takenOver _ _ _ _⟩

/-- Since a contact found the lease stored, either no takeover has landed and the holder is the
same, or the holder is the candidate of the last one. -/
theorem Sound.holder_since (h : Sound ns start e) {j : Json}
    (hj : storedLease ns (serverAt start e.contacts i) = some j) (hik : i ≤ k)
    (hk : k ≤ e.contacts.length) :
    (∃ j', storedLease ns (serverAt start e.contacts k) = some j') ∧
      ((holder ns (serverAt start e.contacts k) = holderOf j ∧ Untaken ns e.contacts i k) ∨
        ∃ m t lease, i ≤ m ∧ m < k ∧ e.contacts[m]? = some t ∧ t.TakesOver ns lease ∧ t.Lands ∧
          holder ns (serverAt start e.contacts k) = some t.identity ∧
          Untaken ns e.contacts (m + 1) k) := by
  induction hik with
  | refl =>
    refine ⟨⟨j, hj⟩, .inl ⟨by rw [holder, hj]; rfl, fun n u lease hin hni => ?_⟩⟩
    omega
  | @step k hik ih =>
    obtain ⟨⟨j', hj'⟩, hholder⟩ := ih (Nat.le_of_succ_le hk)
    have hsame : holder ns (serverAt start e.contacts k) = holderOf j' := by
      rw [holder, hj']
      rfl
    rw [hsame] at hholder
    have hu : e.contacts[k]? = some e.contacts[k] := List.getElem?_eq_getElem hk
    generalize e.contacts[k] = u at hu
    rw [← h.before_eq hu] at hj'
    obtain ⟨hstored, hafter⟩ := h.holder_after hu hj'
    rw [Nat.succ_eq_add_one, serverAt_succ hu]
    refine ⟨hstored, ?_⟩
    rcases hafter with ⟨hkept, hnone⟩ | ⟨lease, htakes, hlands, htaken⟩
    · have hlast : ∀ v lease, e.contacts[k]? = some v → v.TakesOver ns lease → ¬v.Lands := by
        intro v lease hv
        cases hu.symm.trans hv
        exact hnone lease
      rw [hkept]
      rcases hholder with ⟨hholder, hrest⟩ |
        ⟨m, t, lease, him, hmk, ht, htakes, hlands, hholder, hrest⟩
      · exact .inl ⟨hholder, hrest.succ hlast⟩
      · exact .inr ⟨m, t, lease, him, Nat.lt_succ_of_lt hmk, ht, htakes, hlands, hholder,
          hrest.succ hlast⟩
    · refine .inr ⟨k, u, lease, hik, Nat.lt_succ_self k, hu, htakes, hlands, htaken, ?_⟩
      intro n v read hkn hnk
      omega

/-- A call that renews was told of a lease that names its candidate. -/
theorem decision_renew {now : Instant} {identity : String} {answer : Except ClientError Json}
    (h : decision now identity answer = .write .renew) :
    ∃ j, answer = .ok j ∧ holderOf j = some identity := by
  unfold decision at h
  split at h
  · cases h
  · cases h
  · rename_i read hget
    split at h
    · rename_i hholder
      obtain ⟨j, hj, hdecode⟩ := resultOfGet_eq_some hget
      exact ⟨j, hj, (holder_of_decode hdecode).symm.trans hholder⟩
    · split at h
      · cases h
      · cases h

theorem Sound.holder_taken (h : Sound ns start e) {m : Nat} {t : Contact} {lease : Lease}
    (ht : e.contacts[m]? = some t) (htakes : t.TakesOver ns lease) (hlands : t.Lands) :
    ∃ j, storedLease ns t.after = some j ∧ holderOf j = some t.identity := by
  rcases (h.explained m t ht).effect with
    ⟨⟨hversion, -⟩, -⟩ | ⟨_, _, w, document, -, -, hrequest, hmade, hstamps⟩
  · exact absurd hlands (Nat.not_lt.2 (Nat.le_of_eq hversion))
  · refine ⟨_, hstamps.2, (holderOf_stamped _ _).trans ?_⟩
    rcases hmade.holder with ⟨rfl, -⟩ | ⟨-, hholder⟩
    · have hpatch := (Request.merge.inj (hrequest.symm.trans htakes)).2.2.2
      exact absurd hpatch (renewPatch_ne_takeoverPatch _ _ _ _)
    · exact hholder

/-- Where a renewal was overtaken, the lease is another candidate's. -/
theorem Overtaken.holder_ne (h : Overtaken ns e.contacts k c) (hs : Sound ns start e) :
    holder ns (serverAt start e.contacts k) ≠ some c.identity := by
  obtain ⟨-, i, r, m, t, lease, hinforms, -, hmk, ht, htakes, hlands, hother, hlast⟩ := h
  obtain ⟨j, hj, hholder⟩ := hs.holder_taken ht htakes hlands
  have hsucc : serverAt start e.contacts (m + 1) = t.after := serverAt_succ ht
  rw [← hsucc] at hj
  have hlength : k ≤ e.contacts.length :=
    Nat.le_of_lt (List.getElem?_eq_some_iff.1 hinforms.sent).1
  rcases (hs.holder_since hj (Nat.succ_le_of_lt hmk) hlength).2 with
    ⟨hsame, -⟩ | ⟨n, u, read, hmn, hnk, hu, hutakes, hulands, -⟩
  · rw [hsame, hholder]
    exact fun heq => hother (Option.some.inj heq)
  · exact absurd hulands (hlast n u read hmn hnk hu hutakes)

/-- A renewal that was not overtaken meets a lease of its candidate. -/
theorem Sound.holder_of_renews (h : Sound ns start e) {r : Contact}
    (hinforms : Informs ns e.contacts i k r c) (hrenews : c.Renews ns)
    (hdecision : decision c.now c.identity r.reply = .write .renew)
    (hnot : ¬Overtaken ns e.contacts k c) :
    holder ns (serverAt start e.contacts k) = some c.identity := by
  obtain ⟨j, htold, hholder⟩ := decision_renew hdecision
  have hlength : k ≤ e.contacts.length :=
    Nat.le_of_lt (List.getElem?_eq_some_iff.1 hinforms.sent).1
  have hsince := h.holder_since (hinforms.before_eq h htold) (Nat.le_of_lt hinforms.earlier) hlength
  rcases hsince.2 with ⟨hsame, -⟩ | ⟨m, t, lease, him, hmk, ht, htakes, hlands, hlast, huntaken⟩
  · rw [hsame, hholder]
  · rw [hlast]
    refine Classical.byContradiction fun hother => ?_
    have hne : i ≠ m := by
      rintro rfl
      cases hinforms.asked.symm.trans ht
      cases hinforms.request.symm.trans htakes
    exact hnot ⟨hrenews, i, r, m, t, lease, hinforms, Nat.lt_of_le_of_ne him hne, hmk, ht, htakes,
      hlands, fun heq => hother (congrArg some heq), huntaken⟩

end

/-- Whoever is told that it leads holds the lease as its write left it, unless it renewed a lease
that had been taken over since it was told of it. -/
theorem leads_iff_not_overtaken {ns : String} {start : Server} {moves : List Move} {k : Nat}
    {c : Contact} (hc : (Election.run ns start moves).contacts[k]? = some c)
    (htrue : c.result = some (.ok true)) :
    holder ns c.after = some c.identity ↔
      ¬Overtaken ns (Election.run ns start moves).contacts k c := by
  have hs := sound_run ns start moves
  rcases (hs.explained k c hc).effect with
    ⟨-, hfalse⟩ | ⟨i, r, w, document, hinforms, hdecision, hrequest, hmade, hstamps⟩
  · exact absurd htrue hfalse
  · rw [hstamps.holder]
    rcases hmade.holder with ⟨rfl, j, hj, hholder⟩ | ⟨hwrite, hholder⟩
    · have hbefore : holder ns (serverAt start (Election.run ns start moves).contacts k) =
          holderOf j := by
        rw [← hs.before_eq hc, holder, hj]
        rfl
      rw [hholder, ← hbefore]
      exact ⟨fun heq hovertaken => hovertaken.holder_ne hs heq,
        hs.holder_of_renews hinforms hrequest hdecision⟩
    · refine ⟨fun _ hovertaken => ?_, fun _ => hholder⟩
      have hrenews : c.Renews ns := hovertaken.1
      rw [Contact.Renews, hrequest] at hrenews
      cases w with
      | create => cases hrenews
      | renew => exact hwrite rfl
      | takeOver lease =>
        have hpatch := (Request.merge.inj hrenews).2.2.2
        exact renewPatch_ne_takeoverPatch _ _ _ _ hpatch.symm

/-- The first operator is told of its lease, the second one takes it over, then the first renews. -/
def overtakingMoves : List Move :=
  [.start "operator-a" ⟨1000000000000000000⟩, .start "operator-b" ⟨1000000001000000000⟩,
   .request 0, .request 1, .request 1, .request 0]

theorem contact_of_outcome {ns : String} {contacts : List Contact} {k : Nat} {identity : String}
    {told : Bool} {after : Option String}
    (h : (contacts.map (Contact.outcome ns))[k]? = some (identity, some told, after)) :
    ∃ c, contacts[k]? = some c ∧ c.identity = identity ∧ c.result = some (.ok told) ∧
      holder ns c.after = after := by
  rw [List.getElem?_map] at h
  obtain ⟨c, hc, houtcome⟩ := Option.map_eq_some_iff.1 h
  obtain ⟨hidentity, htold, hholder⟩ := Prod.mk.inj houtcome |>.imp_right Prod.mk.inj
  obtain ⟨result, hresult, hok⟩ := Option.bind_eq_some_iff.1 htold
  cases result with
  | ok led =>
    cases hok
    exact ⟨c, hc, hidentity, hresult, hholder⟩
  | error e => cases hok

theorem outcomes_overtaking :
    (Election.run "ops" leaseServer overtakingMoves).contacts.map (Contact.outcome "ops") =
      [("operator-a", none, some "operator-a"), ("operator-b", none, some "operator-a"),
       ("operator-b", some true, some "operator-b"),
       ("operator-a", some true, some "operator-b")] := by
  decide +kernel

theorem leads_iff_not_overtaken_ops :
    ∃ c, (Election.run "ops" leaseServer overtakingMoves).contacts[3]? = some c ∧
      c.result = some (.ok true) ∧ c.identity = "operator-a" ∧
      holder "ops" c.after = some "operator-b" ∧
      Overtaken "ops" (Election.run "ops" leaseServer overtakingMoves).contacts 3 c := by
  obtain ⟨c, hc, hidentity, htrue, hholder⟩ :=
    contact_of_outcome (k := 3) (congrArg (·[3]?) outcomes_overtaking)
  refine ⟨c, hc, htrue, hidentity, hholder, Classical.byContradiction fun hnot => ?_⟩
  have hclaimed := (leads_iff_not_overtaken hc htrue).2 hnot
  rw [hholder, hidentity] at hclaimed
  exact absurd hclaimed (by decide)

/-- An operator is told that it leads by a renewal of the lease that another one holds by then. -/
theorem told_to_lead_overtaken :
    ¬∀ (k : Nat) (c : Contact),
      (Election.run "ops" leaseServer overtakingMoves).contacts[k]? = some c →
      c.result = some (.ok true) → holder "ops" c.after = some c.identity := by
  intro h
  obtain ⟨c, hc, hidentity, htrue, hholder⟩ :=
    contact_of_outcome (k := 3) (congrArg (·[3]?) outcomes_overtaking)
  have hclaimed := h 3 c hc htrue
  rw [hholder, hidentity] at hclaimed
  exact absurd hclaimed (by decide)

end VolumeDrain.Operator
