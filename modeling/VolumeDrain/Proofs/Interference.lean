import VolumeDrain.Proofs.LeaseCalls
import VolumeDrain.Proofs.Names

/-!
# What happens to an object in the meantime

Between the moment at which an object is read and the moment at which a change of it arrives, others
may have written over it, deleted it, and created it anew. The server gives each version number
once, and so the version that was read tells whether anything of this has happened: it is stored
still if the object was left alone, and by no document that came later.

A write by others is any document in the place of any object, under the next version number. That is
more than the requests of this program can do.
-/
namespace VolumeDrain.Api

open Json Operator

/-- What can happen to a server between two requests of a program. -/
inductive Interference where
  /-- A request, of this program or another, is answered. -/
  | request (r : Request)
  /-- A document is written in the place of an object. -/
  | write (key : ObjectKey) (document : Json)
  /-- A deletion comes to its end. -/
  | removal (key : ObjectKey)

/-- The server afterwards. -/
def Interference.apply (s : Server) : Interference → Server
  | request r => (s.answer (.request r)).2
  | write key document => (s.storeStamped key document).2
  | removal key => s.remove key

/-- The server after what happened, one thing after another. -/
def Server.after (s : Server) (between : List Interference) : Server :=
  between.foldl Interference.apply s

/-- Nothing of what happened has touched the object under a key: no write, no deletion and no new
creation. -/
def Untouched (key : ObjectKey) (s : Server) : List Interference → Prop
  | [] => True
  | i :: rest => (i.apply s).get? key = s.get? key ∧ Untouched key (i.apply s) rest

/-- From one server to a later one the object under a key is as it was, or else any version that it
names was given in between. -/
def Onward (key : ObjectKey) (s s' : Server) : Prop :=
  s.version ≤ s'.version ∧ (s'.get? key = s.get? key ∨
    ∀ j v, s'.get? key = some j → Server.versionOf j = some v →
      ∃ n, s.version < n ∧ n ≤ s'.version ∧ v = toString n)

variable {key other : ObjectKey} {s s' s'' : Server} {j j' : Json} {v : String}
  {between later : List Interference}

theorem after_append (s : Server) (between later : List Interference) :
    s.after (between ++ later) = (s.after between).after later := List.foldl_append

theorem untouched_append : Untouched key s (between ++ later) ↔
    Untouched key s between ∧ Untouched key (s.after between) later := by
  induction between generalizing s with
  | nil => exact (iff_of_eq (true_and _)).symm
  | cons i rest ih =>
    change _ ∧ Untouched key (i.apply s) (rest ++ later) ↔ _
    rw [ih, ← and_assoc]
    rfl

theorem get?_after_of_untouched (h : Untouched key s between) :
    (s.after between).get? key = s.get? key := by
  induction between generalizing s with
  | nil => rfl
  | cons i rest ih => exact (ih h.2).trans h.1

/-! ## Storing -/

theorem lookup_insertObject_ne (h : other ≠ key) (object : Json)
    (objects : List (ObjectKey × Json)) :
    (Server.insertObject key object objects).lookup other = objects.lookup other := by
  have hne : (other == key) = false := beq_eq_false_iff_ne.2 h
  induction objects with
  | nil => simp [Server.insertObject, List.lookup_cons, hne]
  | cons e rest ih =>
    rw [Server.insertObject]
    split
    · rw [List.lookup_cons, hne]
    · split
      · rename_i heq
        have hhead : (other == e.1) = false := heq ▸ hne
        rw [List.lookup_cons, hne, List.lookup_cons, hhead]
      · rw [List.lookup_cons, List.lookup_cons, ih]

theorem get?_storeStamped (s : Server) (key : ObjectKey) (document : Json) :
    (s.storeStamped key document).2.get? key = some (stamped s document) :=
  lookup_insertObject key _ _

theorem get?_storeStamped_ne (h : other ≠ key) (s : Server) (document : Json) :
    (s.storeStamped key document).2.get? other = s.get? other :=
  lookup_insertObject_ne h _ _

theorem get?_remove (s : Server) (key other : ObjectKey) :
    (s.remove key).get? other = if other = key then none else s.get? other := by
  rw [Server.get?, Server.get?, Server.remove]
  induction s.objects with
  | nil => simp
  | cons e rest ih =>
    by_cases he : e.1 = key
    · rw [List.filter_cons_of_neg (by simp [he]), ih, List.lookup_cons]
      by_cases hkey : other = key
      · rw [if_pos hkey, if_pos hkey]
      · have hne : (other == e.1) = false := beq_eq_false_iff_ne.2 (he ▸ hkey)
        rw [if_neg hkey, if_neg hkey, hne]
    · rw [List.filter_cons_of_pos (by simp [he]), List.lookup_cons, List.lookup_cons, ih]
      by_cases hkey : other = key
      · have hne : (other == e.1) = false :=
          beq_eq_false_iff_ne.2 fun heq => he (heq.symm.trans hkey)
        rw [hne, if_pos hkey]
      · rw [if_neg hkey, if_neg hkey]

/-- A document that was kept under a version names that version, or none if it is no object or its
metadata is none. -/
theorem eq_of_versionOf_stamped (h : Server.versionOf (stamped s j) = some v) :
    v = toString (s.version + 1) := by
  cases j with
  | obj members =>
    rw [Server.versionOf, textAt?_pair, stamped, Server.withMeta, get?_put] at h
    generalize ((obj members).get? "metadata").getD (obj []) = metadata at h
    cases metadata with
    | obj fields =>
      rw [Option.getD_some, get?_put] at h
      exact (Option.some.inj h).symm
    | null | bool | int | decimal | str | arr => cases h
  | null | bool | int | decimal | str | arr => cases h

/-! ## One step -/

theorem Onward.of_eq (hversion : s'.version = s.version) (h : s'.get? key = s.get? key) :
    Onward key s s' :=
  ⟨Nat.le_of_eq hversion.symm, .inl h⟩

theorem Onward.of_objects (hversion : s'.version = s.version) (hobjects : s'.objects = s.objects) :
    Onward key s s' :=
  .of_eq hversion (by rw [Server.get?, Server.get?, hobjects])

theorem Onward.refl (key : ObjectKey) (s : Server) : Onward key s s := .of_eq rfl rfl

theorem Onward.trans (h : Onward key s s') (h' : Onward key s' s'') : Onward key s s'' := by
  refine ⟨Nat.le_trans h.1 h'.1, ?_⟩
  rcases h'.2 with hsame | hgiven
  · rw [hsame]
    rcases h.2 with h | h
    · exact .inl h
    · refine .inr fun j v hj hv => ?_
      obtain ⟨n, hlow, hhigh, hn⟩ := h j v hj hv
      exact ⟨n, hlow, Nat.le_trans hhigh h'.1, hn⟩
  · refine .inr fun j v hj hv => ?_
    obtain ⟨n, hlow, hhigh, hn⟩ := hgiven j v hj hv
    exact ⟨n, Nat.lt_of_le_of_lt h.1 hlow, hhigh, hn⟩

theorem onward_storeStamped (other : ObjectKey) (s : Server) (key : ObjectKey) (document : Json) :
    Onward other s (s.storeStamped key document).2 := by
  refine ⟨Nat.le_succ s.version, ?_⟩
  by_cases hkey : other = key
  · refine .inr fun j v hj hv => ⟨s.version + 1, Nat.lt_succ_self _, Nat.le_refl _, ?_⟩
    rw [hkey, get?_storeStamped] at hj
    cases hj
    exact eq_of_versionOf_stamped hv
  · exact .inl (get?_storeStamped_ne hkey s document)

theorem onward_remove (other : ObjectKey) (s : Server) (key : ObjectKey) :
    Onward other s (s.remove key) := by
  refine ⟨Nat.le_refl _, ?_⟩
  rw [get?_remove]
  split
  · exact .inr nofun
  · exact .inl rfl

theorem onward_patch (other : ObjectKey) (s : Server) (key : ObjectKey) (change : Json)
    (creates : Bool) : Onward other s (s.patch key change creates).2 := by
  unfold Server.patch
  split
  · split
    · exact onward_storeStamped other s key _
    · exact .refl other s
  · split
    · exact .refl other s
    · exact onward_storeStamped other s key _

theorem onward_serve (other : ObjectKey) (s : Server) (r : Request) :
    Onward other s (s.serve r).2 := by
  cases r with
  | list place selector => exact .refl other s
  | get place name =>
    simp only [Server.serve]
    split
    · exact .refl other s
    · exact .refl other s
  | create place object =>
    simp only [Server.serve]
    split
    · exact .refl other s
    · split
      · exact .refl other s
      · exact onward_storeStamped other s _ _
  | apply place name object => exact onward_patch other s _ _ _
  | merge place name status change => exact onward_patch other s _ _ _
  | delete place name propagation =>
    simp only [Server.serve]
    split
    · exact .refl other s
    · split
      · exact onward_storeStamped other s _ _
      · exact onward_remove other s _

theorem onward_answer (key : ObjectKey) (s : Server) (r : Request) :
    Onward key s (s.answer (.request r)).2 := by
  by_cases hstruck : Struck r s
  · obtain ⟨-, hobjects, hversion⟩ := answer_of_struck hstruck
    exact .of_objects hversion hobjects
  · obtain ⟨s', hobjects, hversion, hanswer⟩ := answer_of_not_struck hstruck
    have hprepared : Onward key s s' := .of_objects hversion hobjects
    rw [hanswer]
    exact hprepared.trans (onward_serve key s' r)

theorem onward_apply (key : ObjectKey) (s : Server) (i : Interference) :
    Onward key s (i.apply s) := by
  cases i with
  | request r => exact onward_answer key s r
  | write other document => exact onward_storeStamped key s other document
  | removal other => exact onward_remove key s other

/-! ## All of what happens -/

theorem onward_after (key : ObjectKey) (s : Server) (between : List Interference) :
    Onward key s (s.after between) := by
  induction between generalizing s with
  | nil => exact .refl key s
  | cons i rest ih => exact (onward_apply key s i).trans (ih _)

/-- A document that the server keeps after something else was stored in its place names another
version than the one that was stored before. -/
theorem Onward.stale (h : Onward key s s') (hchanged : s'.get? key ≠ s.get? key)
    (hfresh : ∀ n, s.version < n → v ≠ toString n) (hj : s'.get? key = some j) :
    Server.versionOf j ≠ some v := by
  intro hv
  rcases h.2 with hsame | hgiven
  · exact hchanged hsame
  · obtain ⟨n, hlow, -, hn⟩ := hgiven j v hj hv
    exact hfresh n hlow hn

/-- A version that was stored and is none of those still to be given is not stored again once the
object was touched. -/
theorem stale_of_touched (hfresh : ∀ n, s.version < n → v ≠ toString n)
    (h : ¬Untouched key s between) (hj : (s.after between).get? key = some j) :
    Server.versionOf j ≠ some v := by
  induction between generalizing s with
  | nil => exact absurd trivial h
  | cons i rest ih =>
    have hstep := onward_apply key s i
    by_cases hsame : (i.apply s).get? key = s.get? key
    · have hrest : ¬Untouched key (i.apply s) rest := fun hrest => h ⟨hsame, hrest⟩
      exact ih (fun n hn => hfresh n (Nat.lt_of_le_of_lt hstep.1 hn)) hrest hj
    · -- The first step writes over the object, whatever the later ones do.
      intro hv
      rcases (onward_after key (i.apply s) rest).2 with hkept | hgiven
      · exact hstep.stale hsame hfresh (hkept ▸ hj) hv
      · obtain ⟨n, hlow, -, hn⟩ := hgiven j v hj hv
        exact hfresh n (Nat.lt_of_le_of_lt hstep.1 hlow) hn

end VolumeDrain.Api
