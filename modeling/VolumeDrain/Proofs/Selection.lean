import VolumeDrain.Drain.MemoryStore
import VolumeDrain.Pool.Validation

/-!
# What selectors select

A selector written as a text reads back as itself, so long as its keys and values hold none of the
characters that separate terms. The labels of a pool are of this kind, for the platform admits no
others in names: what a pass lists for a role are exactly the objects that carry the labels of that
role, and no object is listed for two roles, or for pools of two names.
-/
namespace VolumeDrain

open Manifest

namespace Manifest

/-- The text holds no character that means something in a selector. -/
def PlainText (s : String) : Prop := ∀ c ∈ s.toList, c ≠ ',' ∧ c ≠ '=' ∧ c ≠ '!'

instance : DecidablePred PlainText := fun s => List.decidableBAll _ s.toList

/-- No key and no value of the labels holds such a character. -/
def PlainLabels (labels : Labels) : Prop := ∀ e ∈ labels.entries, PlainText e.1 ∧ PlainText e.2

instance : DecidablePred PlainLabels := fun labels => List.decidableBAll _ labels.entries

namespace SelectorTerm

/-- The term's key and value are plain. -/
def Plain : SelectorTerm → Prop
  | is key value => PlainText key ∧ PlainText value
  | isNot key value => PlainText key ∧ PlainText value
  | has key => PlainText key ∧ key ≠ ""

theorem cutUnequal_eq_none {cs : List Char} (h : '!' ∉ cs) : cutUnequal cs = none := by
  induction cs with
  | nil => rfl
  | cons c rest ih =>
    rw [List.mem_cons, not_or] at h
    rw [cutUnequal.eq_2 c rest fun _ hc _ => h.1 hc.symm, ih h.2]
    rfl

theorem cutUnequal_append {key value : List Char} (h : '!' ∉ key) :
    cutUnequal (key ++ '!' :: '=' :: value) = some (key, value) := by
  induction key with
  | nil => rfl
  | cons c rest ih =>
    rw [List.mem_cons, not_or] at h
    rw [List.cons_append, cutUnequal.eq_2 c _ fun _ hc _ => h.1 hc.symm, ih h.2]
    rfl

theorem cutEqual_eq_none {cs : List Char} (h : '=' ∉ cs) : cutEqual cs = none := by
  induction cs with
  | nil => rfl
  | cons c rest ih =>
    rw [List.mem_cons, not_or] at h
    rw [cutEqual.eq_2 c rest (Ne.symm h.1), ih h.2]
    rfl

theorem cutEqual_append {key value : List Char} (h : '=' ∉ key) :
    cutEqual (key ++ '=' :: value) = some (key, value) := by
  induction key with
  | nil => rfl
  | cons c rest ih =>
    rw [List.mem_cons, not_or] at h
    rw [List.cons_append, cutEqual.eq_2 c _ (Ne.symm h.1), ih h.2]
    rfl

theorem not_mem_of_plain {s : String} (h : PlainText s) :
    ',' ∉ s.toList ∧ '=' ∉ s.toList ∧ '!' ∉ s.toList :=
  ⟨fun hc => (h _ hc).1 rfl, fun hc => (h _ hc).2.1 rfl, fun hc => (h _ hc).2.2 rfl⟩

theorem read_text {t : SelectorTerm} (h : t.Plain) : read t.text.toList = t := by
  cases t with
  | is key value =>
    obtain ⟨-, hkey, hbang⟩ := not_mem_of_plain h.1
    obtain ⟨-, -, hvalue⟩ := not_mem_of_plain h.2
    have htext : (is key value).text.toList = key.toList ++ '=' :: value.toList := by simp [text]
    have hnone : '!' ∉ key.toList ++ '=' :: value.toList := by simp [hbang, hvalue]
    rw [htext, read, cutUnequal_eq_none hnone, cutEqual_append hkey]
    simp
  | isNot key value =>
    have hbang := (not_mem_of_plain h.1).2.2
    have htext : (isNot key value).text.toList = key.toList ++ '!' :: '=' :: value.toList := by
      simp [text]
    rw [htext, read, cutUnequal_append hbang]
    simp
  | has key =>
    obtain ⟨-, hkey, hbang⟩ := not_mem_of_plain h.1
    rw [text, read, cutUnequal_eq_none hbang, cutEqual_eq_none hkey]
    simp

theorem comma_notMem_text {t : SelectorTerm} (h : t.Plain) : ',' ∉ t.text.toList := by
  cases t with
  | is key value => simp [text, (not_mem_of_plain h.1).1, (not_mem_of_plain h.2).1]
  | isNot key value => simp [text, (not_mem_of_plain h.1).1, (not_mem_of_plain h.2).1]
  | has key => exact (not_mem_of_plain h.1).1

theorem text_ne_nil {t : SelectorTerm} (h : t.Plain) : t.text.toList ≠ [] := by
  cases t with
  | is key value => simp [text]
  | isNot key value => simp [text]
  | has key => simpa [text] using h.2

end SelectorTerm

namespace Selector

theorem parts_of_notMem {cs : List Char} (h : ',' ∉ cs) : parts cs = [cs] := by
  induction cs with
  | nil => rfl
  | cons c rest ih =>
    rw [List.mem_cons, not_or] at h
    rw [parts.eq_3 _ _ (Ne.symm h.1), ih h.2]

theorem parts_ne_nil (cs : List Char) : parts cs ≠ [] := by
  rcases cs with _ | ⟨c, rest⟩
  · simp [parts]
  · rw [parts.eq_def]
    split
    · simp
    · simp
    · split <;> simp

/-- Every comma separates parts. -/
theorem parts_append (a b : List Char) : parts (a ++ ',' :: b) = parts a ++ parts b := by
  induction a with
  | nil => rfl
  | cons c rest ih =>
    by_cases hc : c = ','
    · subst hc
      rw [List.cons_append, parts, parts, ih]
      rfl
    · rw [List.cons_append, parts.eq_3 _ _ hc, parts.eq_3 _ _ hc, ih]
      cases hrest : parts rest with
      | nil => exact absurd hrest (parts_ne_nil rest)
      | cons part more => rfl

theorem read_append (a b : String) : read (a ++ "," ++ b) = read a ++ read b := by
  have htext : (a ++ "," ++ b).toList = a.toList ++ ',' :: b.toList := by simp
  simp only [read, htext, parts_append, List.filter_append, List.map_append]

theorem read_term_text {t : SelectorTerm} (h : t.Plain) : read t.text = [t] := by
  rw [read, parts_of_notMem (SelectorTerm.comma_notMem_text h)]
  simp [SelectorTerm.text_ne_nil h, SelectorTerm.read_text h]

theorem read_text {s : Selector} (h : ∀ t ∈ s, t.Plain) : read s.text = s := by
  induction s with
  | nil => rfl
  | cons t rest ih =>
    have ht := read_term_text (h t List.mem_cons_self)
    cases rest with
    | nil => simpa [text] using ht
    | cons u more =>
      have hcons : text (t :: u :: more) = t.text ++ "," ++ text (u :: more) := by
        simp [text, String.intercalate_cons_cons, String.append_assoc]
      rw [hcons, read_append, ht, ih fun v hv => h v (List.mem_cons_of_mem _ hv)]
      rfl

theorem read_ofLabels {labels : Labels} (h : PlainLabels labels) :
    read (ofLabels labels).text = ofLabels labels :=
  read_text fun t ht => by
    obtain ⟨e, he, rfl⟩ := List.mem_map.1 ht
    exact h e he

theorem holds_ofLabels_iff {labels others : Labels} :
    (ofLabels others).holds labels = true ↔
      ∀ key value, others.get? key = some value → labels.get? key = some value := by
  simp only [holds, ofLabels, List.all_map, List.all_eq_true, Prod.forall, KeyMap.mem_entries_iff,
    Function.comp_apply, SelectorTerm.holds, beq_iff_eq]

end Selector

end Manifest

/-! ## Labels of a pool -/

namespace BufferPool

/-- The platform admits the pool's name: it is made of the characters of DNS labels and of dots. -/
def WellNamed (p : BufferPool) : Prop := ∀ c ∈ p.name.toList, Pool.isLabelChar c ∨ c = '.'

instance : DecidablePred WellNamed := fun p => List.decidableBAll _ p.name.toList

/-- The labels are those of an object that plays the role in the pool. -/
def Plays (p : BufferPool) (role : Role) (labels : Labels) : Prop :=
  ∀ key value, (p.labels role).get? key = some value → labels.get? key = some value

variable {p q : BufferPool} {role role' : Role} {labels : Labels} {key : String}

theorem get?_labels :
    (p.labels role).get? key =
      if key = "app.kubernetes.io/name" then some "buffer-worker"
      else if key = "app.kubernetes.io/managed-by" then some managerName
      else if key = "app.kubernetes.io/instance" then some p.name
      else if key = "app.kubernetes.io/component" then some role.text
      else none := by
  simp only [BufferPool.labels, KeyMap.ofList, List.foldl_cons, List.foldl_nil, KeyMap.get?_insert,
    KeyMap.get?_empty]

theorem WellNamed.plainText (h : p.WellNamed) : PlainText p.name := by
  intro c hc
  refine ⟨?_, ?_, ?_⟩ <;> rintro rfl <;> exact absurd (h _ hc) (by decide)

theorem plainLabels_labels (h : PlainText p.name) : PlainLabels (p.labels role) := by
  rintro ⟨key, value⟩ he
  have hv := KeyMap.mem_entries_iff.1 he
  change PlainText key ∧ PlainText value
  have hcases : (key = "app.kubernetes.io/name" ∧ value = "buffer-worker") ∨
      (key = "app.kubernetes.io/managed-by" ∧ value = managerName) ∨
      (key = "app.kubernetes.io/instance" ∧ value = p.name) ∨
      (key = "app.kubernetes.io/component" ∧ value = role.text) := by
    rw [get?_labels] at hv
    grind
  rcases hcases with ⟨rfl, rfl⟩ | ⟨rfl, rfl⟩ | ⟨rfl, rfl⟩ | ⟨rfl, rfl⟩
  · exact ⟨by decide, by decide⟩
  · exact ⟨by decide, by decide⟩
  · exact ⟨by decide, h⟩
  · exact ⟨by decide, by cases role <;> decide⟩

theorem holds_selector_iff_of_plain (h : PlainText p.name) :
    (Selector.read (p.selector role)).holds labels = true ↔ p.Plays role labels := by
  rw [selector, Selector.read_ofLabels (plainLabels_labels h), Selector.holds_ofLabels_iff, Plays]

theorem holds_selector_iff (h : p.WellNamed) :
    (Selector.read (p.selector role)).holds labels = true ↔ p.Plays role labels :=
  holds_selector_iff_of_plain h.plainText

/-- The drainable volumes are those with the labels of workers that are not opted out. -/
theorem holds_drainableSelector_iff_of_plain (h : PlainText p.name) :
    (Selector.read p.drainableSelector).holds labels = true ↔
      p.Plays .worker labels ∧ labels.get? optOutLabel ≠ some "no" := by
  have hplain : (SelectorTerm.isNot optOutLabel "no").Plain := ⟨by decide, by decide⟩
  rw [drainableSelector, Selector.read_append, Selector.read_term_text hplain, Selector.holds,
    List.all_append, Bool.and_eq_true, ← Selector.holds, holds_selector_iff_of_plain h]
  simp [SelectorTerm.holds]

theorem holds_drainableSelector_iff (h : p.WellNamed) :
    (Selector.read p.drainableSelector).holds labels = true ↔
      p.Plays .worker labels ∧ labels.get? optOutLabel ≠ some "no" :=
  holds_drainableSelector_iff_of_plain h.plainText

theorem plays_labels : p.Plays role (p.labels role) := fun _ _ h => h

theorem Plays.name_eq (h : p.Plays role labels) (hother : q.Plays role' labels) :
    p.name = q.name := by
  have hp := h "app.kubernetes.io/instance" p.name (by simp [get?_labels])
  have hq := hother "app.kubernetes.io/instance" q.name (by simp [get?_labels])
  exact Option.some.inj (hp.symm.trans hq)

theorem Plays.role_eq (h : p.Plays role labels) (hother : q.Plays role' labels) : role = role' := by
  have hcomponent := h "app.kubernetes.io/component" role.text (by simp [get?_labels])
  rw [hother "app.kubernetes.io/component" role'.text (by simp [get?_labels])] at hcomponent
  cases role <;> cases role' <;> simp_all [Role.text]

/-- The labels of an object tell its pool and its role. -/
theorem plays_labels_iff : p.Plays role (q.labels role') ↔ p.name = q.name ∧ role = role' := by
  constructor
  · exact fun h => ⟨h.name_eq plays_labels, h.role_eq plays_labels⟩
  · rintro ⟨hname, rfl⟩
    rw [Plays, labels, labels, hname]
    exact fun _ _ h => h

/-- Whether labels are those of a role depends on the entries under that role's keys alone. -/
theorem plays_congr {others : Labels}
    (h : ∀ other, (p.labels role).get? other ≠ none → others.get? other = labels.get? other) :
    p.Plays role others ↔ p.Plays role labels := by
  refine forall_congr' fun other => forall_congr' fun value => imp_congr_right fun hv => ?_
  rw [h other (hv ▸ Option.some_ne_none value)]

theorem plays_insert (hkey : (p.labels role).get? key = none) {value : String} :
    p.Plays role (labels.insert key value) ↔ p.Plays role labels :=
  plays_congr fun other hother => by
    have hne : other ≠ key := fun heq => hother (heq ▸ hkey)
    rw [KeyMap.get?_insert, if_neg hne]

theorem plays_erase (hkey : (p.labels role).get? key = none) :
    p.Plays role (labels.erase key) ↔ p.Plays role labels :=
  plays_congr fun other hother => by
    have hne : other ≠ key := fun heq => hother (heq ▸ hkey)
    rw [KeyMap.get?_erase, if_neg hne]

/-- A selector written from plain labels selects, when it is read back, exactly the objects that
carry all of these labels, whatever else they carry. The selector of a pool's volumes selects those
with the labels of its workers, less those that are opted out; and the selector of one pool and role
selects what was labelled for a pool and role exactly if it is that role of a pool of that name. -/
theorem selectors_select_exactly {wanted : Labels} (hwanted : PlainLabels wanted) {p : BufferPool}
    (hp : PlainText p.name) (q : BufferPool) (role role' : Role) (labels : Labels) :
    ((Selector.read (Selector.ofLabels wanted).text).holds labels = true ↔
      ∀ key value, wanted.get? key = some value → labels.get? key = some value) ∧
    ((Selector.read p.drainableSelector).holds labels = true ↔
      (∀ key value, (p.labels .worker).get? key = some value → labels.get? key = some value) ∧
        labels.get? optOutLabel ≠ some "no") ∧
    ((Selector.read (p.selector role)).holds (q.labels role') = true ↔
      p.name = q.name ∧ role = role') := by
  refine ⟨?_, holds_drainableSelector_iff_of_plain hp, ?_⟩
  · rw [Selector.read_ofLabels hwanted, Selector.holds_ofLabels_iff]
  · rw [holds_selector_iff_of_plain hp, plays_labels_iff]

/-- Labels with a hyphen in one value and nothing in the other. -/
def coldLabels : Labels := .ofList [("tier", "cold-1"), ("zone", "")]

/-- Objects are found by the labels that they were given, whatever they were given besides, and the
objects of `logs` are told from those of `logs-2`. -/
theorem selectors_select_exactly_cold :
    PlainLabels coldLabels ∧ PlainText (ofSpec "logs" {}).name ∧
    (Selector.read "tier=cold-1,zone=").holds (coldLabels.insert "disk" "ssd") = true ∧
    (Selector.read "tier=cold-1,zone=").holds (coldLabels.insert "zone" "b") = false ∧
    (Selector.read (ofSpec "logs" {}).drainableSelector).holds
      (((ofSpec "logs" {}).labels .worker).insert optOutLabel "yes") = true ∧
    (Selector.read (ofSpec "logs" {}).drainableSelector).holds
      (((ofSpec "logs" {}).labels .worker).insert optOutLabel "no") = false ∧
    (Selector.read ((ofSpec "logs" {}).selector .worker)).holds
      ((ofSpec "logs-2" {}).labels .worker) = false := by
  have hwanted : PlainLabels coldLabels := by decide
  have hp : PlainText (ofSpec "logs" {}).name := by decide
  have htext : (Selector.ofLabels coldLabels).text = "tier=cold-1,zone=" := by decide
  have hselects := selectors_select_exactly hwanted hp (ofSpec "logs-2" {}) .worker .worker
  rw [htext] at hselects
  refine ⟨hwanted, hp, (hselects _).1.2 fun key value hv => ?_, Bool.eq_false_iff.2 fun h => ?_,
    (hselects _).2.1.2 ⟨(plays_insert (by decide)).2 plays_labels, ?_⟩,
    Bool.eq_false_iff.2 fun h => ?_, Bool.eq_false_iff.2 fun h => ?_⟩
  · have hdisk : coldLabels.get? "disk" = none := by decide
    have hne : key ≠ "disk" := by
      rintro rfl
      rw [hdisk] at hv
      cases hv
    rwa [KeyMap.get?_insert, if_neg hne]
  · have hzone := (hselects _).1.1 h "zone" "" (by decide)
    rw [KeyMap.get?_insert] at hzone
    exact absurd hzone (by decide)
  · rw [KeyMap.get?_insert, if_pos rfl]
    decide
  · exact ((hselects _).2.1.1 h).2 (by rw [KeyMap.get?_insert, if_pos rfl])
  · exact absurd ((hselects coldLabels).2.2.1 h).1 (by decide)

end BufferPool

namespace Drain.MemoryStore

theorem mem_selected_iff {α : Type} [Resource α] {objects : KeyMap α} {selector : String} {a : α} :
    a ∈ selected objects selector ↔
      (∃ key, objects.get? key = some a) ∧
        (Selector.read selector).holds (metadata a).labelMap = true := by
  rw [selected, List.mem_filter, KeyMap.mem_values_iff]

end Drain.MemoryStore

end VolumeDrain
