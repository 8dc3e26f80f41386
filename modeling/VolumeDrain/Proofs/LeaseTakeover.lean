import VolumeDrain.Proofs.Election
import VolumeDrain.Proofs.Numerals

/-!
# Taking over the lease

In every run of an election the holder of a stored lease changes only by a takeover, and a takeover
is carried out only on the very document that its call was told of and found expired. A write that
landed since makes it fail, so of the takeovers of one version one succeeds at most.

What this rests on is that the server gives every version once: the stored lease has one to begin
with, and none that is still to be given.
-/
namespace VolumeDrain.Operator

open Api Json Manifest Script

/-- A stored lease has a version, which is none of those still to be given. -/
def Versioned (ns : String) (s : Server) : Prop :=
  ∀ j, storedLease ns s = some j →
    ∃ v, Server.versionOf j = some v ∧ ∀ n, s.version < n → v ≠ toString n

/-- From one server to a later one, nothing was written or the stored lease is of a version that was
given in between. -/
def Later (ns : String) (s s' : Server) : Prop :=
  Leaves ns s s' ∨ s.version < s'.version ∧ ∃ j n, storedLease ns s' = some j ∧
    Server.versionOf j = some (toString n) ∧ s.version < n ∧ n ≤ s'.version

/-- The holder of the stored lease. -/
def holder (ns : String) (s : Server) : Option String := (storedLease ns s).bind holderOf

namespace Contact

/-- The request was carried out as a write: the server has given a version number. -/
def Lands (c : Contact) : Prop := c.before.version < c.after.version

/-- The request takes over a lease that was read. -/
def TakesOver (ns : String) (c : Contact) (lease : Lease) : Prop :=
  c.request = .merge (placeOf Lease (some ns)) leaseName false
    (takeoverPatch c.now c.identity lease)

/-- The request renews the lease. -/
def Renews (ns : String) (c : Contact) : Prop :=
  c.request = .merge (placeOf Lease (some ns)) leaseName false (renewPatch c.now)

end Contact

/-- Contact `k` takes over the lease that its call was told of in contact `i`: an expired one by the
clock of the call. -/
structure Takeover (ns : String) (contacts : List Contact) (i k : Nat) (r c : Contact) (j : Json)
    (lease : Lease) : Prop extends Informs ns contacts i k r c where
  told : r.reply = .ok j
  read : decode j = (.ok lease : Decoded Lease)
  expired : Expired c.now lease
  takesOver : c.TakesOver ns lease

section

variable {ns : String} {s s' s'' : Server}

theorem Leaves.refl (ns : String) (s : Server) : Leaves ns s s := ⟨rfl, rfl⟩

theorem Later.trans (h : Later ns s s') (h' : Later ns s' s'') : Later ns s s'' := by
  rcases h with ⟨hversion, hstored⟩ | ⟨hlt, hgiven⟩
  · rcases h' with ⟨hversion', hstored'⟩ | ⟨hlt', hgiven'⟩
    · exact .inl ⟨hversion'.trans hversion, hstored'.trans hstored⟩
    · exact .inr (hversion ▸ ⟨hlt', hgiven'⟩)
  · rcases h' with ⟨hversion', hstored'⟩ | ⟨hlt', j, n, hj, hn, hlow, hhigh⟩
    · rw [← hversion', ← hstored'] at hgiven
      exact .inr ⟨hversion' ▸ hlt, hgiven⟩
    · exact .inr ⟨Nat.lt_trans hlt hlt', j, n, hj, hn, Nat.lt_trans hlt hlow, hhigh⟩

theorem Later.version_le (h : Later ns s s') : s.version ≤ s'.version := by
  rcases h with ⟨hversion, -⟩ | ⟨hlt, -⟩
  · exact Nat.le_of_eq hversion.symm
  · exact Nat.le_of_lt hlt

theorem Later.versioned (h : Later ns s s') (hs : Versioned ns s) : Versioned ns s' := by
  intro j hj
  rcases h with ⟨hversion, hstored⟩ | ⟨-, k, n, hk, hn, -, hhigh⟩
  · rw [hversion]
    exact hs j (hstored ▸ hj)
  · cases hk.symm.trans hj
    refine ⟨toString n, hn, fun m hm heq => ?_⟩
    have hnm : n = m := Text.toString_injective heq
    omega

/-- A version that is still stored tells that nothing was written. -/
theorem Later.leaves {j k : Json} (h : Later ns s s') (hs : Versioned ns s)
    (hj : storedLease ns s = some j) (hk : storedLease ns s' = some k)
    (hversion : Server.versionOf k = Server.versionOf j) : Leaves ns s s' := by
  rcases h with h | ⟨-, k', n, hk', hn, hlow, -⟩
  · exact h
  · cases hk'.symm.trans hk
    obtain ⟨v, hv, hgiven⟩ := hs j hj
    exact absurd (Option.some.inj (hv.symm.trans (hversion.symm.trans hn))) (hgiven n hlow)

end

/-! ## What a contact makes of the lease -/

section

variable {ns : String} {contacts : List Contact} {k : Nat} {c : Contact}

theorem returned_decision (now : Instant) (ns identity : String)
    (answer : Except ClientError Json) :
    returned ((decision now identity answer).script now ns identity) ≠ some (.ok true) := by
  unfold decision
  split
  · exact nofun
  · exact nofun
  · split
    · exact nofun
    · split
      · exact nofun
      · exact nofun

theorem result_of_error (w : Write) (e : ClientError) : w.result (.error e) ≠ .ok true := by
  cases w with
  | create => exact nofun
  | renew => exact nofun
  | takeOver lease =>
    change (if e.isConflict then .ok false else .error e : Except ClientError Bool) ≠ .ok true
    split
    · exact nofun
    · exact nofun

/-- A contact leaves the lease alone and does not make its call leader, or it is a write that its
call decided on, which was carried out. -/
theorem Explained.effect (h : Explained ns contacts k c) :
    (Leaves ns c.before c.after ∧ c.result ≠ some (.ok true)) ∨
      ∃ i r w document, Informs ns contacts i k r c ∧
        decision c.now c.identity r.reply = .write w ∧
        c.request = w.request c.now ns c.identity ∧
        Made c.now ns c.identity w (storedLease ns c.before) document ∧
        Stamps ns c.before c.after document := by
  unfold Contact.after
  cases h with
  | read hrequest hfirst hresult =>
    refine .inl ⟨hrequest ▸ (answer_read ns c.before).1, ?_⟩
    rw [hresult]
    exact returned_decision _ _ _ _
  | @write i r w hinforms hdecision hrequest hresult =>
    have hwrite := answer_write w c.now ns c.identity c.before
    rw [← hrequest] at hwrite
    rcases hwrite with ⟨hleaves, e, he⟩ | ⟨document, hmade, hstamps, -⟩
    · refine .inl ⟨hleaves, fun htrue => ?_⟩
      rw [hresult, Contact.reply, he] at htrue
      exact result_of_error w e (Option.some.inj htrue)
    · exact .inr ⟨i, r, w, document, hinforms, hdecision, hrequest, hmade, hstamps⟩

/-! ## Holder and version of what is kept -/

variable {now : Instant} {identity : String} {w : Write} {stored : Option Json} {document : Json}

/-- A renewal keeps the holder; every other write puts its candidate in. -/
theorem Made.holder (h : Made now ns identity w stored document) :
    (w = .renew ∧ ∃ j, stored = some j ∧ holderOf document = holderOf j) ∨
      (w ≠ .renew ∧ holderOf document = some identity) := by
  cases h with
  | created => exact .inr ⟨nofun, holderOf_newLease now ns identity⟩
  | renewed j => exact .inl ⟨rfl, j, rfl, holderOf_renewed now j⟩
  | takenOver => exact .inr ⟨nofun, holderOf_takenOver now identity _ _⟩

theorem Made.metadata (h : Made now ns identity w stored document)
    (hstored : ∀ j, stored = some j → ∃ v, Server.versionOf j = some v) :
    ∃ m, document.get? "metadata" = some (.obj m) := by
  cases h with
  | created => exact metadata_newLease now ns identity
  | renewed j =>
    obtain ⟨v, hv⟩ := hstored j rfl
    rw [metadata_renewed]
    exact metadata_of_versionOf hv
  | takenOver => exact metadata_takenOver now identity _ _

theorem Stamps.holder {s s' : Server} (h : Stamps ns s s' document) :
    Operator.holder ns s' = holderOf document := by
  rw [Operator.holder, h.2]
  exact holderOf_stamped _ _

theorem Stamps.lands (h : Stamps ns c.before c.after document) : c.Lands :=
  Nat.lt_of_succ_le (Nat.le_of_eq h.1.symm)

theorem Explained.later (h : Explained ns contacts k c) (hv : Versioned ns c.before) :
    Later ns c.before c.after := by
  rcases h.effect with ⟨hleaves, -⟩ | ⟨i, r, w, document, -, -, -, hmade, hversion, hstored⟩
  · exact .inl hleaves
  · obtain ⟨m, hm⟩ := hmade.metadata fun j hj => (hv j hj).imp fun _ h => h.1
    exact .inr ⟨by omega, _, c.before.version + 1, hstored, versionOf_stamped hm _, by omega,
      by omega⟩

end

/-! ## Along a run -/

section

variable {ns : String} {start : Server} {e : Election} {i k : Nat} {r c : Contact} {lease : Lease}

/-- The server before contact `k` of an election, or after the last one. -/
def serverAt (start : Server) (contacts : List Contact) (k : Nat) : Server :=
  serverAfter start (contacts.take k)

theorem serverAt_succ {contacts : List Contact} (h : contacts[k]? = some c) :
    serverAt start contacts (k + 1) = c.after := by
  rw [serverAt, serverAfter, List.getLast?_take, if_neg (Nat.succ_ne_zero k), Nat.add_sub_cancel, h]
  rfl

theorem serverAt_succ_of_none {contacts : List Contact} (h : contacts[k]? = none) :
    serverAt start contacts (k + 1) = serverAt start contacts k := by
  have hle : contacts.length ≤ k := List.getElem?_eq_none_iff.1 h
  rw [serverAt, serverAt, List.take_of_length_le hle,
    List.take_of_length_le (Nat.le_succ_of_le hle)]

theorem Sound.before_eq (h : Sound ns start e) (hc : e.contacts[k]? = some c) :
    c.before = serverAt start e.contacts k := h.linked k c hc

/-- What each request does to the server, a run of requests does. -/
theorem Sound.later_succ (h : Sound ns start e) (hv : Versioned ns (serverAt start e.contacts k)) :
    Later ns (serverAt start e.contacts k) (serverAt start e.contacts (k + 1)) := by
  cases hk : e.contacts[k]? with
  | none =>
    rw [serverAt_succ_of_none hk]
    exact .inl (Leaves.refl ns _)
  | some c =>
    rw [serverAt_succ hk, ← h.before_eq hk]
    rw [← h.before_eq hk] at hv
    exact (h.explained k c hk).later hv

theorem Sound.versioned (h : Sound ns start e) (hstart : Versioned ns start) (k : Nat) :
    Versioned ns (serverAt start e.contacts k) := by
  induction k with
  | zero => exact hstart
  | succ k ih => exact (h.later_succ ih).versioned ih

theorem Sound.later (h : Sound ns start e) (hstart : Versioned ns start) (hik : i ≤ k) :
    Later ns (serverAt start e.contacts i) (serverAt start e.contacts k) := by
  induction hik with
  | refl => exact .inl (Leaves.refl ns _)
  | @step k _ ih => exact ih.trans (h.later_succ (h.versioned hstart k))

/-- A contact that lands between two others tells them apart by the version of the server. -/
theorem Sound.version_lt {m : Nat} {t : Contact} (h : Sound ns start e)
    (hstart : Versioned ns start) (him : i ≤ m) (hmk : m < k) (ht : e.contacts[m]? = some t)
    (hlands : t.Lands) :
    (serverAt start e.contacts i).version < (serverAt start e.contacts k).version := by
  have hto := (h.later hstart him).version_le
  have hfrom := (h.later hstart (Nat.succ_le_of_lt hmk)).version_le
  rw [Nat.succ_eq_add_one, serverAt_succ ht] at hfrom
  rw [← h.before_eq ht] at hto
  exact Nat.lt_of_le_of_lt hto (Nat.lt_of_lt_of_le hlands hfrom)

/-! ## Takeovers -/

theorem resultOfGet_eq_some {α : Type} [Resource α] {a : α} {answer : Except ClientError Json}
    (h : resultOfGet answer = .ok (some a)) :
    ∃ j, answer = .ok j ∧ decode j = (.ok a : Decoded α) := by
  cases answer with
  | error e => exact nomatch (resultOfGet_error_eq_ok h).1
  | ok j =>
    have hread : (resultOfRead (.ok j) : Except ClientError α) =
        Except.mapError .undecodable (decode j) := rfl
    rw [resultOfGet, hread] at h
    cases hj : (decode j : Decoded α) with
    | error e =>
      rw [hj] at h
      cases h
    | ok read =>
      rw [hj] at h
      cases h
      exact ⟨j, rfl, hj⟩

theorem renewPatch_ne_takeoverPatch (now now' : Instant) (identity : String) (lease : Lease) :
    renewPatch now ≠ takeoverPatch now' identity lease :=
  fun h => nomatch congrArg (Json.get? "metadata") h

/-- A call that takes over was told of a lease that had expired. -/
theorem decision_takeOver {now : Instant} {identity : String} {answer : Except ClientError Json}
    (h : decision now identity answer = .write (.takeOver lease)) :
    ∃ j, answer = .ok j ∧ decode j = (.ok lease : Decoded Lease) ∧ Expired now lease := by
  unfold decision at h
  split at h
  · cases h
  · cases h
  · rename_i read hget
    split at h
    · cases h
    · split at h
      · rename_i hexpired
        cases h
        obtain ⟨j, hj, hdecode⟩ := resultOfGet_eq_some hget
        exact ⟨j, hj, hdecode, leaseExpired_iff.1 hexpired⟩
      · cases h

theorem Informs.before_eq (h : Sound ns start e) (hinforms : Informs ns e.contacts i k r c)
    {j : Json} (hj : r.reply = .ok j) :
    storedLease ns (serverAt start e.contacts i) = some j := by
  rw [← h.before_eq hinforms.asked]
  have hread := (answer_read ns r.before).2 j
  rw [← hinforms.request] at hread
  exact hread hj

/-- A takeover patch is sent only for an expired lease that its call was told of. -/
theorem Sound.takeover (h : Sound ns start e) (hc : e.contacts[k]? = some c)
    (htakes : c.TakesOver ns lease) : ∃ i r j read, Takeover ns e.contacts i k r c j read ∧
      c.result = some ((Write.takeOver read).result c.reply) := by
  unfold Contact.TakesOver at htakes
  cases h.explained k c hc with
  | read hrequest => cases hrequest.symm.trans htakes
  | @write i r w hinforms hdecision hrequest hresult =>
    cases w with
    | create => cases hrequest.symm.trans htakes
    | renew =>
      have hpatch := (Request.merge.inj (hrequest.symm.trans htakes)).2.2.2
      exact absurd hpatch (renewPatch_ne_takeoverPatch _ _ _ _)
    | takeOver read =>
      obtain ⟨j, hj, hdecode, hexpired⟩ := decision_takeOver hdecision
      exact ⟨i, r, j, read, ⟨hinforms, hj, hdecode, hexpired, hrequest⟩, hresult⟩

/-- What a call returns after its takeover is up to the answer. -/
theorem Takeover.result_eq {j : Json} (h : Takeover ns e.contacts i k r c j lease)
    (hs : Sound ns start e) : c.result = some ((Write.takeOver lease).result c.reply) := by
  obtain ⟨i', r', j', read, h', hresult⟩ := hs.takeover h.sent h.takesOver
  cases h.toInforms.unique hs.explained h'.toInforms
  cases h.asked.symm.trans h'.asked
  cases h.told.symm.trans h'.told
  cases h.read.symm.trans h'.read
  exact hresult

/-- A takeover that is carried out finds the version that its call was told of, and so nothing was
written since. -/
theorem Takeover.leaves {j : Json} (h : Takeover ns e.contacts i k r c j lease)
    (hs : Sound ns start e) (hstart : Versioned ns start) (hlands : c.Lands) :
    Leaves ns (serverAt start e.contacts i) (serverAt start e.contacts k) := by
  have hasked := h.toInforms.before_eq hs h.told
  obtain ⟨v, hv, -⟩ := hs.versioned hstart i j hasked
  have hread : lease.metadata.resourceVersion = some v := (version_of_decode h.read).trans hv
  rcases answer_write (.takeOver lease) c.now ns c.identity c.before with
    ⟨hleaves, -⟩ | ⟨document, hmade, -, -⟩
  · have hsame : c.after.version = c.before.version := by
      rw [Contact.after, h.takesOver]
      exact hleaves.1
    exact absurd hlands (Nat.not_lt.2 (Nat.le_of_eq hsame))
  · generalize hstored : storedLease ns c.before = stored at hmade
    cases hmade with
    | @takenOver _ found hversion =>
      rw [hs.before_eq h.sent] at hstored
      exact (hs.later hstart (Nat.le_of_lt h.earlier)).leaves (hs.versioned hstart i) hasked hstored
        ((hversion v hread).trans hv.symm)

/-- A takeover after a write that its call was not told of is refused, unless a fault strikes it. -/
theorem Takeover.stale {j : Json} (h : Takeover ns e.contacts i k r c j lease)
    (hs : Sound ns start e) (hstart : Versioned ns start)
    (hgrown : (serverAt start e.contacts i).version < (serverAt start e.contacts k).version) :
    Leaves ns c.before c.after ∧ c.result ≠ some (.ok true) ∧
      (¬Struck c.request c.before → c.result = some (.ok false)) := by
  have hrefused : Leaves ns c.before c.after ∧ c.result ≠ some (.ok true) := by
    rcases (hs.explained k c h.sent).effect with hleaves | ⟨_, _, _, _, -, -, -, -, hstamps⟩
    · exact hleaves
    · have hsame := (h.leaves hs hstart hstamps.lands).1
      omega
  refine ⟨hrefused.1, hrefused.2, fun hstruck => ?_⟩
  obtain ⟨v, hv, hgiven⟩ := hs.versioned hstart i j (h.toInforms.before_eq hs h.told)
  rcases hs.later hstart (Nat.le_of_lt h.earlier) with
    ⟨hsame, -⟩ | ⟨-, found, n, hfound, hn, hlow, -⟩
  · omega
  · have hstale : Server.versionOf found ≠ some v := fun heq =>
      hgiven n hlow (Option.some.inj (heq.symm.trans hn))
    rw [← hs.before_eq h.sent] at hfound
    have hreply := answer_stale hfound ((version_of_decode h.read).trans hv) hstale
      (h.takesOver ▸ hstruck)
    rw [h.result_eq hs, Contact.reply, h.takesOver]
    exact congrArg (fun answer => some ((Write.takeOver lease).result answer)) hreply

/-- A call that is told that it leads has written the lease. -/
theorem Sound.lands_of_true (h : Sound ns start e) (hc : e.contacts[k]? = some c)
    (htrue : c.result = some (.ok true)) : c.Lands := by
  rcases (h.explained k c hc).effect with ⟨-, hfalse⟩ | ⟨_, _, _, _, -, -, -, -, hstamps⟩
  · exact absurd htrue hfalse
  · exact hstamps.lands

/-- Where the stored holder changes, a call has taken over exactly the lease that is stored. -/
theorem Sound.holder_changes (h : Sound ns start e) (hstart : Versioned ns start)
    (hc : e.contacts[k]? = some c) {j : Json} (hj : storedLease ns c.before = some j) :
    ∃ j', storedLease ns c.after = some j' ∧ (holderOf j' ≠ holderOf j →
      holderOf j' = some c.identity ∧ ∃ i r lease, Takeover ns e.contacts i k r c j lease) := by
  rcases (h.explained k c hc).effect with
    ⟨hleaves, -⟩ | ⟨i, r, w, document, hinforms, hdecision, hrequest, hmade, hstamps⟩
  · exact ⟨j, hleaves.2.trans hj, fun hne => absurd rfl hne⟩
  · refine ⟨_, hstamps.2, fun hne => ?_⟩
    have hholder : holderOf (stamped c.before document) = holderOf document := holderOf_stamped _ _
    rw [hholder] at hne ⊢
    rw [hj] at hmade
    cases hmade with
    | renewed => exact absurd (holderOf_renewed c.now j) hne
    | @takenOver lease =>
      refine ⟨holderOf_takenOver _ _ _ _, i, r, lease, ?_⟩
      obtain ⟨told, htold, hdecode, hexpired⟩ := decision_takeOver hdecision
      have htakeover : Takeover ns e.contacts i k r c told lease :=
        ⟨hinforms, htold, hdecode, hexpired, hrequest⟩
      have hsame := (htakeover.leaves h hstart hstamps.lands).2
      rw [← h.before_eq hc, hj, hinforms.before_eq h htold] at hsame
      cases hsame
      exact htakeover

/-- Two takeovers of one version are not both carried out. -/
theorem Takeover.not_lt {i' k' : Nat} {r' c' : Contact} {j j' : Json} {lease' : Lease}
    (h : Takeover ns e.contacts i k r c j lease) (h' : Takeover ns e.contacts i' k' r' c' j' lease')
    (hs : Sound ns start e) (hstart : Versioned ns start) (hlands : c.Lands) (hlands' : c'.Lands)
    (hversion : Server.versionOf j = Server.versionOf j') : ¬k < k' := by
  intro hlt
  have hstored := (h.leaves hs hstart hlands).2.trans (h.toInforms.before_eq hs h.told)
  have hstored' := (h'.leaves hs hstart hlands').2.trans (h'.toInforms.before_eq hs h'.told)
  have hsame := ((hs.later hstart (Nat.le_of_lt hlt)).leaves (hs.versioned hstart k) hstored
    hstored' hversion.symm).1
  have hgrown := hs.version_lt hstart (Nat.le_refl k) hlt h.sent hlands
  omega

end

/-! ## A takeover happens once -/

/-- A live lease is not stolen, and of those who would take an expired one over one does at most. -/
structure FairTakeovers (ns : String) (contacts : List Contact) : Prop where
  /-- A takeover is tried only for an expired lease that its call was told of. -/
  judged : ∀ k c lease, contacts[k]? = some c → c.TakesOver ns lease →
    ∃ i r j read, Takeover ns contacts i k r c j read
  /-- The holder of a stored lease changes only by the takeover of exactly that lease. -/
  changes : ∀ k c j, contacts[k]? = some c → storedLease ns c.before = some j →
    ∃ j', storedLease ns c.after = some j' ∧ (holderOf j' ≠ holderOf j →
      holderOf j' = some c.identity ∧ ∃ i r lease, Takeover ns contacts i k r c j lease)
  /-- A takeover that comes after any write since is refused and leaves the lease as it is. -/
  late : ∀ i k r c j lease, Takeover ns contacts i k r c j lease →
    (∃ m w, i < m ∧ m < k ∧ contacts[m]? = some w ∧ w.Lands) →
    storedLease ns c.after = storedLease ns c.before ∧ c.result ≠ some (.ok true) ∧
      (¬Struck c.request c.before → c.result = some (.ok false))
  /-- Of the takeovers of one version one succeeds at most. -/
  once : ∀ i k r c j lease i' k' r' c' j' lease', Takeover ns contacts i k r c j lease →
    Takeover ns contacts i' k' r' c' j' lease' → Server.versionOf j = Server.versionOf j' →
    c.result = some (.ok true) → c'.result = some (.ok true) → k = k'

theorem taken_over_once {ns : String} {start : Server} (hstart : Versioned ns start)
    (moves : List Move) : FairTakeovers ns (Election.run ns start moves).contacts := by
  have hs := sound_run ns start moves
  constructor
  case judged =>
    intro k c lease hc htakes
    obtain ⟨i, r, j, read, htakeover, -⟩ := hs.takeover hc htakes
    exact ⟨i, r, j, read, htakeover⟩
  case changes => exact fun k c j hc hj => hs.holder_changes hstart hc hj
  case late =>
    rintro i k r c j lease htakeover ⟨m, w, him, hmk, hw, hlands⟩
    have hgrown := hs.version_lt hstart (Nat.le_of_lt him) hmk hw hlands
    obtain ⟨hleaves, hresult⟩ := htakeover.stale hs hstart hgrown
    exact ⟨hleaves.2, hresult⟩
  case once =>
    intro i k r c j lease i' k' r' c' j' lease' h h' hversion htrue htrue'
    have hlands := hs.lands_of_true h.sent htrue
    have hlands' := hs.lands_of_true h'.sent htrue'
    refine Nat.le_antisymm (Nat.not_lt.1 ?_) (Nat.not_lt.1 ?_)
    · exact h'.not_lt h hs hstart hlands' hlands hversion.symm
    · exact h.not_lt h' hs hstart hlands hlands' hversion

/-- A lease of the first operator, renewed for the last time at the turn of the millennium. -/
def expiredLease : Json := .obj
  [("apiVersion", .str "coordination.k8s.io/v1"), ("kind", .str "Lease"),
   ("metadata", .obj
    [("name", .str leaseName), ("namespace", .str "ops"), ("resourceVersion", .str "5")]),
   ("spec", .obj
    [("holderIdentity", .str "operator-a"), ("leaseDurationSeconds", .int 15),
     ("renewTime", .str "2000-01-01T00:00:00.000000Z")])]

/-- The server that stores this lease alone. -/
def leaseServer : Server := { objects := [(⟨"leases", "ops", leaseName⟩, expiredLease)] }

/-- Whose request it was, what its call was told, and who holds the lease afterwards. -/
def Contact.outcome (ns : String) (c : Contact) : String × Option Bool × Option String :=
  (c.identity, c.result.bind Except.toOption, holder ns c.after)

/-- Two operators are told of the expired lease of a third before either takes it over. -/
def racingMoves : List Move :=
  [.start "operator-b" ⟨1000000000000000000⟩, .start "operator-c" ⟨1000000001000000000⟩,
   .request 0, .request 1, .request 1, .request 0]

theorem versioned_leaseServer : Versioned "ops" leaseServer := by
  intro j hj
  have hlease : j = expiredLease := (Option.some.inj hj).symm
  refine ⟨"5", by rw [hlease]; rfl, fun n hn heq => ?_⟩
  have hfive : (5 : Nat) = n := Text.toString_injective heq
  have hversion : leaseServer.version = 1000 := rfl
  omega

theorem taken_over_once_ops : Versioned "ops" leaseServer ∧
    FairTakeovers "ops" (Election.run "ops" leaseServer racingMoves).contacts ∧
    (Election.run "ops" leaseServer racingMoves).contacts.map (Contact.outcome "ops") =
      [("operator-b", none, some "operator-a"), ("operator-c", none, some "operator-a"),
       ("operator-c", some true, some "operator-c"),
       ("operator-b", some false, some "operator-c")] :=
  ⟨versioned_leaseServer, taken_over_once versioned_leaseServer racingMoves, by decide +kernel⟩

end VolumeDrain.Operator
