import VolumeDrain.Proofs.LeaseCalls

/-!
# Elections

Any number of calls for one lease are under way at a time, each of a candidate with its own clock.
A run of an election is a list of moves: a call begins, or the next request of a call reaches the
server. So every interleaving of the requests is a run. Each request is kept with the server as it
was before, which tells how it was answered and what it left behind.
-/
namespace VolumeDrain.Operator

open Api Json Manifest Script

/-- A call for the lease, by the clock of its candidate, and what is left of it. -/
structure Attempt where
  identity : String
  now : Instant
  rest : ApiScript (Except ClientError Bool)

/-- A request of a call that reached the server, and what the call returned with the answer if it
came to its end. -/
structure Contact where
  attempt : Nat
  identity : String
  now : Instant
  before : Server
  request : Request
  result : Option (Except ClientError Bool)

namespace Contact

/-- How the request was answered. -/
def reply (c : Contact) : Except ClientError Json := (c.before.answer (.request c.request)).1

/-- The server once the request was answered. -/
def after (c : Contact) : Server := (c.before.answer (.request c.request)).2

end Contact

/-- The server, the calls that have begun and the requests that reached the server so far. -/
structure Election where
  server : Server
  attempts : List Attempt := []
  contacts : List Contact := []

/-- What happens next: a candidate begins a call at its own time, or a call sends a request. -/
inductive Move where
  | start (identity : String) (now : Instant)
  | request (attempt : Nat)

/-- What a call returned, if it has come to its end. -/
def returned {α : Type} : ApiScript α → Option α
  | .done a => some a
  | .ask _ _ => none

namespace Election

/-- The election after a move. A call that has come to its end sends nothing. -/
def move (ns : String) (e : Election) : Move → Election
  | .start identity now =>
    { e with attempts := e.attempts ++ [⟨identity, now, (acquireOrRenew now ns identity).run⟩] }
  | .request i =>
    match e.attempts[i]? with
    | some ⟨identity, now, .ask (.request r) resume⟩ =>
      let answer := e.server.answer (.request r)
      { server := answer.2
        attempts := e.attempts.set i ⟨identity, now, resume answer.1⟩
        contacts := e.contacts ++ [⟨i, identity, now, e.server, r, returned (resume answer.1)⟩] }
    | _ => e

/-- The election after some moves, the first of which meets the server as given. -/
def run (ns : String) (start : Server) (moves : List Move) : Election :=
  moves.foldl (move ns) { server := start }

end Election

/-- The server after the requests so far. -/
def serverAfter (start : Server) (contacts : List Contact) : Server :=
  contacts.getLast?.elim start Contact.after

/-- Contact `k` is a request of the call that asked for the lease in contact `i`. -/
structure Informs (ns : String) (contacts : List Contact) (i k : Nat) (r c : Contact) : Prop where
  earlier : i < k
  asked : contacts[i]? = some r
  sent : contacts[k]? = some c
  attempt : r.attempt = c.attempt
  request : r.request = readRequest ns

/-- How contact `k` came about: its call asked for the lease, or it wrote what it had decided on
when it was told of the lease. -/
inductive Explained (ns : String) (contacts : List Contact) (k : Nat) (c : Contact) : Prop
  | read (hrequest : c.request = readRequest ns)
      (hfirst : ∀ i r, i < k → contacts[i]? = some r → r.attempt ≠ c.attempt)
      (hresult : c.result =
        returned ((decision c.now c.identity c.reply).script c.now ns c.identity))
  | write {i : Nat} {r : Contact} {w : Write} (hinforms : Informs ns contacts i k r c)
      (hdecision : decision c.now c.identity r.reply = .write w)
      (hrequest : c.request = w.request c.now ns c.identity)
      (hresult : c.result = some (w.result c.reply))

/-- How far call `i` has come: it has sent nothing, it has decided on a write, or it is over. -/
inductive Progress (ns : String) (contacts : List Contact) (i : Nat) (a : Attempt) : Prop
  | waiting (hrest : a.rest = (acquireOrRenew a.now ns a.identity).run)
      (hnone : ∀ r ∈ contacts, r.attempt ≠ i)
  | informed {r : Contact} {w : Write} (hmem : r ∈ contacts) (hattempt : r.attempt = i)
      (hrequest : r.request = readRequest ns)
      (hdecision : decision a.now a.identity r.reply = .write w)
      (hrest : a.rest = (Decision.write w).script a.now ns a.identity)
  | finished {result : Except ClientError Bool} (hrest : a.rest = .done result)

/-- What is true of an election at any time. -/
structure Sound (ns : String) (start : Server) (e : Election) : Prop where
  server : e.server = serverAfter start e.contacts
  linked : ∀ k c, e.contacts[k]? = some c → c.before = serverAfter start (e.contacts.take k)
  explained : ∀ k c, e.contacts[k]? = some c → Explained ns e.contacts k c
  begun : ∀ c ∈ e.contacts, c.attempt < e.attempts.length
  progress : ∀ i a, e.attempts[i]? = some a → Progress ns e.contacts i a

theorem getElem?_concat_iff {α : Type} {l : List α} {last x : α} {k : Nat} :
    (l ++ [last])[k]? = some x ↔ l[k]? = some x ∨ k = l.length ∧ x = last := by
  rcases Nat.lt_trichotomy k l.length with hlt | rfl | hgt
  · simp [List.getElem?_append_left hlt, Nat.ne_of_lt hlt]
  · simp [eq_comm]
  · simp [List.getElem?_append_right (Nat.le_of_lt hgt), Nat.ne_of_gt hgt, Nat.le_of_lt hgt,
      Nat.sub_ne_zero_of_lt hgt]

section

variable {ns : String} {start : Server} {e : Election} {contacts : List Contact} {c d : Contact}
  {i k : Nat} {a : Attempt}

theorem Informs.concat {r : Contact} (h : Informs ns contacts i k r c) (d : Contact) :
    Informs ns (contacts ++ [d]) i k r c where
  earlier := h.earlier
  asked := List.getElem?_append_left (List.getElem?_eq_some_iff.1 h.asked).1 ▸ h.asked
  sent := List.getElem?_append_left (List.getElem?_eq_some_iff.1 h.sent).1 ▸ h.sent
  attempt := h.attempt
  request := h.request

theorem Explained.concat (h : Explained ns contacts k c) (hk : contacts[k]? = some c)
    (d : Contact) : Explained ns (contacts ++ [d]) k c := by
  have hlt : k < contacts.length := (List.getElem?_eq_some_iff.1 hk).1
  cases h with
  | read hrequest hfirst hresult =>
    refine .read hrequest (fun i r hi hr => hfirst i r hi ?_) hresult
    rwa [List.getElem?_append_left (Nat.lt_trans hi hlt)] at hr
  | write hinforms hdecision hrequest hresult =>
    exact .write (hinforms.concat d) hdecision hrequest hresult

/-- A call that does not send the new request has come as far as before. -/
theorem Progress.concat (h : Progress ns contacts i a) (hd : d.attempt ≠ i) :
    Progress ns (contacts ++ [d]) i a := by
  cases h with
  | waiting hrest hnone =>
    refine .waiting hrest fun r hr => ?_
    rcases List.mem_append.1 hr with hr | hr
    · exact hnone r hr
    · exact List.mem_singleton.1 hr ▸ hd
  | informed hmem hattempt hrequest hdecision hrest =>
    exact .informed (List.mem_append_left _ hmem) hattempt hrequest hdecision hrest
  | finished hrest => exact .finished hrest

/-- A call asks for the lease once. -/
theorem Informs.unique {j : Nat} {r s : Contact}
    (hexplained : ∀ k c, contacts[k]? = some c → Explained ns contacts k c)
    (hr : Informs ns contacts i k r c) (hs : Informs ns contacts j k s c) : i = j := by
  have hnot : ∀ {i j : Nat} {r s : Contact}, Informs ns contacts i k r c →
      Informs ns contacts j k s c → ¬i < j := by
    intro i j r s hr hs hlt
    cases hexplained j s hs.asked with
    | read _ hfirst _ => exact hfirst i r hlt hr.asked (hr.attempt.trans hs.attempt.symm)
    | @write _ _ w _ _ hrequest _ =>
      rw [hs.request] at hrequest
      cases w <;> cases hrequest
  exact Nat.le_antisymm (Nat.not_lt.1 (hnot hs hr)) (Nat.not_lt.1 (hnot hr hs))

/-! ## Every election is sound -/

theorem sound_init (ns : String) (start : Server) : Sound ns start { server := start } where
  server := rfl
  linked _ _ h := nomatch h
  explained _ _ h := nomatch h
  begun _ h := nomatch h
  progress _ _ h := nomatch h

/-- The request that a call sends next is explained by how far the call has come. -/
theorem explained_next {r : Request}
    {resume : Except ClientError Json → ApiScript (Except ClientError Bool)}
    (h : Progress ns contacts i a) (hrest : a.rest = .ask (.request r) resume)
    (hc : c = ⟨i, a.identity, a.now, e.server, r, returned (resume c.reply)⟩) :
    Explained ns (contacts ++ [c]) contacts.length c ∧
      Progress ns (contacts ++ [c]) i { a with rest := resume c.reply } := by
  have hattempt : c.attempt = i := congrArg Contact.attempt hc
  have hidentity : c.identity = a.identity := congrArg Contact.identity hc
  have hnow : c.now = a.now := congrArg Contact.now hc
  have hrequest : c.request = r := congrArg Contact.request hc
  have hresult : c.result = returned (resume c.reply) := congrArg Contact.result hc
  have hlast : c ∈ contacts ++ [c] := List.mem_append_right _ (List.mem_singleton_self c)
  cases h with
  | waiting hwaiting hnone =>
    rw [hwaiting, run_acquireOrRenew] at hrest
    cases hrest
    rw [← hnow, ← hidentity] at hresult ⊢
    refine ⟨.read hrequest (fun j s hj hs => ?_) hresult, ?_⟩
    · rw [List.getElem?_append_left hj] at hs
      exact hattempt ▸ hnone s (List.mem_of_getElem? hs)
    · cases hdecision : decision c.now c.identity c.reply with
      | final result => exact .finished (congrArg (Decision.script c.now ns c.identity) hdecision)
      | write w =>
        exact .informed hlast hattempt hrequest hdecision
          (congrArg (Decision.script c.now ns c.identity) hdecision)
  | @informed s w hmem hsent hasked hdecision hwrite =>
    rw [hwrite] at hrest
    cases hrest
    refine ⟨?_, .finished rfl⟩
    obtain ⟨j, hj⟩ := List.mem_iff_getElem?.1 hmem
    have hlt : j < contacts.length := (List.getElem?_eq_some_iff.1 hj).1
    rw [← hnow, ← hidentity] at hrequest hdecision
    refine .write ⟨hlt, ?_, List.getElem?_concat_length, hsent.trans hattempt.symm, hasked⟩
      hdecision hrequest hresult
    rwa [List.getElem?_append_left hlt]
  | finished hover => exact nomatch hrest.symm.trans hover

theorem Sound.begin (h : Sound ns start e) (identity : String) (now : Instant) :
    Sound ns start (e.move ns (.start identity now)) where
  server := h.server
  linked := h.linked
  explained := h.explained
  begun c hc := by
    have hlt := h.begun c hc
    simp only [Election.move, List.length_append, List.length_singleton]
    omega
  progress i a ha := by
    rcases getElem?_concat_iff.1 ha with ha | ⟨rfl, rfl⟩
    · exact h.progress i a ha
    · exact .waiting rfl fun r hr => Nat.ne_of_lt (h.begun r hr)

theorem Sound.send (h : Sound ns start e) {r : Request}
    {resume : Except ClientError Json → ApiScript (Except ClientError Bool)}
    (ha : e.attempts[i]? = some a) (hrest : a.rest = .ask (.request r) resume)
    (hc : c = ⟨i, a.identity, a.now, e.server, r, returned (resume c.reply)⟩) :
    Sound ns start
      { server := c.after
        attempts := e.attempts.set i { a with rest := resume c.reply }
        contacts := e.contacts ++ [c] } := by
  have hbefore : c.before = e.server := congrArg Contact.before hc
  have hattempt : c.attempt = i := congrArg Contact.attempt hc
  have hlt : i < e.attempts.length := (List.getElem?_eq_some_iff.1 ha).1
  obtain ⟨hexplained, hprogress⟩ := explained_next (h.progress i a ha) hrest hc
  constructor
  case server => simp [serverAfter]
  case linked =>
    intro k d hd
    rcases getElem?_concat_iff.1 hd with hd | ⟨rfl, rfl⟩
    · have hk : k < e.contacts.length := (List.getElem?_eq_some_iff.1 hd).1
      rw [List.take_append_of_le_length (Nat.le_of_lt hk)]
      exact h.linked k d hd
    · rw [List.take_left, hbefore, h.server]
  case explained =>
    intro k d hd
    rcases getElem?_concat_iff.1 hd with hd | ⟨rfl, rfl⟩
    · exact (h.explained k d hd).concat hd c
    · exact hexplained
  case begun =>
    intro d hd
    rw [List.length_set]
    rcases List.mem_append.1 hd with hd | hd
    · exact h.begun d hd
    · exact List.mem_singleton.1 hd ▸ hattempt ▸ hlt
  case progress =>
    intro j b hb
    by_cases hne : i = j
    · subst hne
      rw [List.getElem?_set_self hlt] at hb
      cases hb
      exact hprogress
    · rw [List.getElem?_set_ne hne] at hb
      exact (h.progress j b hb).concat (hattempt ▸ hne)

theorem Sound.move (h : Sound ns start e) (m : Move) : Sound ns start (e.move ns m) := by
  cases m with
  | start identity now => exact h.begin identity now
  | request i =>
    rw [Election.move]
    split
    · rename_i ha
      exact h.send (c := ⟨i, _, _, e.server, _, _⟩) ha rfl rfl
    · exact h

theorem Sound.moves (h : Sound ns start e) (moves : List Move) :
    Sound ns start (moves.foldl (Election.move ns) e) := by
  induction moves generalizing e with
  | nil => exact h
  | cons m rest ih => exact ih (h.move m)

theorem sound_run (ns : String) (start : Server) (moves : List Move) :
    Sound ns start (Election.run ns start moves) :=
  (sound_init ns start).moves moves

end

end VolumeDrain.Operator
