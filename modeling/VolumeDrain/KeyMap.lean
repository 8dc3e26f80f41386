/-!
# Maps with string keys

A finite map kept as a list of entries in strictly increasing key order. The order is the order
of code points, which is also the byte order of the keys' UTF-8 text, so listing a map lists it in
the order in which label selectors and documents are written.
-/
namespace VolumeDrain

/-- A finite map from strings, listed in strictly increasing key order. -/
structure KeyMap (α : Type) where
  entries : List (String × α)
  sorted : entries.Pairwise (fun a b => a.1 < b.1)
deriving DecidableEq

namespace KeyMap

variable {α : Type}

/-- The map without entries. -/
def empty : KeyMap α := ⟨[], List.Pairwise.nil⟩

instance : Inhabited (KeyMap α) := ⟨empty⟩
instance : EmptyCollection (KeyMap α) := ⟨empty⟩

/-- Puts an entry at its place in a list of entries, replacing one with the same key. -/
def insertEntry (key : String) (value : α) : List (String × α) → List (String × α)
  | [] => [(key, value)]
  | e :: rest =>
    if key < e.1 then (key, value) :: e :: rest
    else if key = e.1 then (key, value) :: rest
    else e :: insertEntry key value rest

theorem mem_insertEntry {key : String} {value : α} {l : List (String × α)} {e : String × α}
    (h : e ∈ insertEntry key value l) : e = (key, value) ∨ e ∈ l := by
  induction l with
  | nil => simpa [insertEntry] using h
  | cons a t ih =>
    unfold insertEntry at h
    split at h
    · simpa using h
    · split at h
      · rcases List.mem_cons.1 h with h | h
        · exact .inl h
        · exact .inr (List.mem_cons_of_mem _ h)
      · rcases List.mem_cons.1 h with h | h
        · exact .inr (h ▸ List.mem_cons_self)
        · exact (ih h).imp_right (List.mem_cons_of_mem _)

theorem insertEntry_sorted {key : String} {value : α} {l : List (String × α)}
    (h : l.Pairwise (fun a b => a.1 < b.1)) :
    (insertEntry key value l).Pairwise (fun a b => a.1 < b.1) := by
  induction l with
  | nil => simp [insertEntry]
  | cons a t ih =>
    obtain ⟨ha, ht⟩ := List.pairwise_cons.1 h
    unfold insertEntry
    split
    · rename_i hlt
      refine List.pairwise_cons.2 ⟨fun b hb => ?_, h⟩
      rcases List.mem_cons.1 hb with hb | hb
      · exact hb ▸ hlt
      · exact String.lt_trans hlt (ha b hb)
    · rename_i hle
      split
      · rename_i heq
        exact List.pairwise_cons.2 ⟨fun b hb => heq ▸ ha b hb, ht⟩
      · rename_i hne
        refine List.pairwise_cons.2 ⟨fun b hb => ?_, ih ht⟩
        rcases mem_insertEntry hb with hb | hb
        · subst hb
          exact Std.lt_of_le_of_ne (String.not_lt.1 hle) (Ne.symm hne)
        · exact ha b hb

/-- The map with one entry added or replaced. -/
def insert (m : KeyMap α) (key : String) (value : α) : KeyMap α :=
  ⟨insertEntry key value m.entries, insertEntry_sorted m.sorted⟩

/-- The map without the entry of a key. -/
def erase (m : KeyMap α) (key : String) : KeyMap α :=
  ⟨m.entries.filter (fun e => e.1 != key), m.sorted.filter _⟩

/-- The value of a key. -/
def get? (m : KeyMap α) (key : String) : Option α := m.entries.lookup key

/-- Whether a key has an entry. -/
def contains (m : KeyMap α) (key : String) : Bool := (m.get? key).isSome

/-- Looking up looks at the first entry, then at the others. -/
theorem lookup_cons_eq (key : String) (e : String × α) (l : List (String × α)) :
    (e :: l).lookup key = if key = e.1 then some e.2 else l.lookup key := by
  obtain ⟨k, v⟩ := e
  rw [List.lookup_cons]
  by_cases h : key = k
  · simp [h]
  · simp [h, beq_eq_false_iff_ne.2 h]

theorem lookup_insertEntry (key other : String) (value : α) (l : List (String × α)) :
    (insertEntry key value l).lookup other =
      if other = key then some value else l.lookup other := by
  induction l with
  | nil => simp [insertEntry, lookup_cons_eq]
  | cons e rest ih => grind [insertEntry, lookup_cons_eq]

/-- Looking up after an insertion finds the new value under its key, and the old ones elsewhere. -/
theorem get?_insert (m : KeyMap α) (key other : String) (value : α) :
    (m.insert key value).get? other = if other = key then some value else m.get? other :=
  lookup_insertEntry key other value m.entries

theorem lookup_filter_ne (key other : String) (l : List (String × α)) :
    (l.filter fun e => e.1 != key).lookup other = if other = key then none else l.lookup other := by
  induction l with
  | nil => simp
  | cons e rest ih =>
    by_cases h : e.1 = key
    · rw [List.filter_cons_of_neg (by simp [h]), ih, lookup_cons_eq, h]
      split <;> rfl
    · rw [List.filter_cons_of_pos (by simp [h]), lookup_cons_eq, lookup_cons_eq, ih]
      grind

/-- Looking up after an erasure finds nothing under the erased key, and the old values elsewhere. -/
theorem get?_erase (m : KeyMap α) (key other : String) :
    (m.erase key).get? other = if other = key then none else m.get? other :=
  lookup_filter_ne key other m.entries

/-- What holds of every entry holds after an insertion, if it holds of what was inserted. -/
theorem forall_get?_insert {m : KeyMap α} {P : String → α → Prop} {key : String} {value : α}
    (h : ∀ k v, m.get? k = some v → P k v) (hvalue : P key value) :
    ∀ k v, (m.insert key value).get? k = some v → P k v := by
  intro k v hk
  rw [get?_insert] at hk
  split at hk
  · rename_i heq
    cases hk
    exact heq ▸ hvalue
  · exact h k v hk

theorem forall_get?_erase {m : KeyMap α} {P : String → α → Prop} {key : String}
    (h : ∀ k v, m.get? k = some v → P k v) :
    ∀ k v, (m.erase key).get? k = some v → P k v := by
  intro k v hk
  rw [get?_erase] at hk
  split at hk
  · cases hk
  · exact h k v hk

@[simp] theorem get?_empty (key : String) : (empty : KeyMap α).get? key = none := rfl

/-- The map of the entries of a list, a later entry replacing an earlier one of the same key. -/
def ofList (l : List (String × α)) : KeyMap α := l.foldl (fun m e => m.insert e.1 e.2) empty

theorem forall_get?_ofList {l : List (String × α)} {P : String → α → Prop}
    (h : ∀ e ∈ l, P e.1 e.2) : ∀ k v, (ofList l).get? k = some v → P k v := by
  have hfold : ∀ (l : List (String × α)) (m : KeyMap α), (∀ e ∈ l, P e.1 e.2) →
      (∀ k v, m.get? k = some v → P k v) →
      ∀ k v, (l.foldl (fun m e => m.insert e.1 e.2) m).get? k = some v → P k v := by
    intro l
    induction l with
    | nil => exact fun m _ hm => hm
    | cons e rest ih =>
      intro m hl hm
      exact ih _ (fun e' he' => hl e' (List.mem_cons_of_mem _ he'))
        (forall_get?_insert hm (hl e List.mem_cons_self))
  exact hfold l empty h nofun

theorem eq_of_entries {m m' : KeyMap α} (h : m.entries = m'.entries) : m = m' := by
  obtain ⟨l, hl⟩ := m
  obtain ⟨l', hl'⟩ := m'
  cases h
  rfl

theorem insertEntry_of_lt {key : String} {value : α} {l : List (String × α)}
    (h : ∀ e ∈ l, e.1 < key) : insertEntry key value l = l ++ [(key, value)] := by
  induction l with
  | nil => rfl
  | cons e rest ih =>
    have hlt : e.1 < key := h e List.mem_cons_self
    have hnot : ¬ key < e.1 := fun hkey => String.lt_irrefl _ (String.lt_trans hlt hkey)
    have hne : key ≠ e.1 := fun heq => String.lt_irrefl _ (heq ▸ hlt)
    rw [insertEntry, if_neg hnot, if_neg hne, ih fun e' he' => h e' (List.mem_cons_of_mem _ he')]
    rfl

/-- A map is that of its own entries. -/
theorem ofList_entries (m : KeyMap α) : ofList m.entries = m := by
  -- The entries after those that are in the map already come after them in order, too.
  have hfold : ∀ (l : List (String × α)) (acc : KeyMap α),
      (acc.entries ++ l).Pairwise (fun a b => a.1 < b.1) →
      (l.foldl (fun m e => m.insert e.1 e.2) acc).entries = acc.entries ++ l := by
    intro l
    induction l with
    | nil => simp
    | cons e rest ih =>
      intro acc hsorted
      have hlast : (acc.insert e.1 e.2).entries = acc.entries ++ [e] :=
        insertEntry_of_lt fun e' he' =>
          (List.pairwise_append.1 hsorted).2.2 e' he' e List.mem_cons_self
      rw [List.foldl_cons, ih, hlast, List.append_assoc, List.singleton_append]
      rw [hlast, List.append_assoc, List.singleton_append]
      exact hsorted
  exact eq_of_entries (hfold m.entries empty m.sorted)

/-- The keys, in increasing order. -/
def keys (m : KeyMap α) : List String := m.entries.map (·.1)

/-- The values, in the order of their keys. -/
def values (m : KeyMap α) : List α := m.entries.map (·.2)

theorem mem_entries_iff {m : KeyMap α} {key : String} {value : α} :
    (key, value) ∈ m.entries ↔ m.get? key = some value := by
  obtain ⟨l, hl⟩ := m
  change (key, value) ∈ l ↔ l.lookup key = some value
  induction l with
  | nil => simp
  | cons e rest ih =>
    obtain ⟨he, hrest⟩ := List.pairwise_cons.1 hl
    rw [lookup_cons_eq, List.mem_cons, ih hrest]
    by_cases h : key = e.1
    · have hnot : rest.lookup key ≠ some value := fun hl => by
        have hlt := he (key, value) ((ih hrest).2 hl)
        exact String.lt_irrefl _ (h ▸ hlt)
      rw [if_pos h, or_iff_left hnot, h, Prod.ext_iff]
      simp [eq_comm]
    · rw [if_neg h]
      exact or_iff_right fun he => h (congrArg Prod.fst he)

theorem mem_values_iff {m : KeyMap α} {value : α} :
    value ∈ m.values ↔ ∃ key, m.get? key = some value := by
  simp only [values, List.mem_map, Prod.exists, mem_entries_iff, exists_eq_right]

/-- What is kept of the entries does not see an insertion that replaces and puts nothing kept. -/
theorem filter_insertEntry {keep : String × α → Bool} {key : String} {value : α}
    {l : List (String × α)} (hnew : keep (key, value) = false)
    (hold : ∀ old, l.lookup key = some old → keep (key, old) = false) :
    (insertEntry key value l).filter keep = l.filter keep := by
  induction l with
  | nil => simp [insertEntry, hnew]
  | cons e rest ih =>
    rw [insertEntry]
    split
    · exact List.filter_cons_of_neg (by simp [hnew])
    · split
      · rename_i heq
        have he : keep e = false := by
          have h := hold e.2 (by rw [lookup_cons_eq, if_pos heq])
          rwa [heq] at h
        rw [List.filter_cons_of_neg (by simp [hnew]), List.filter_cons_of_neg (by simp [he])]
      · rename_i hne
        have hrest := ih fun old h => hold old (by rw [lookup_cons_eq, if_neg hne, h])
        rw [List.filter_cons, List.filter_cons, hrest]

/-- What is kept of the entries does not see the erasure of what is not kept. -/
theorem filter_erase {keep : String × α → Bool} {m : KeyMap α} {key : String}
    (hold : ∀ old, m.get? key = some old → keep (key, old) = false) :
    (m.erase key).entries.filter keep = m.entries.filter keep := by
  rw [erase, List.filter_filter]
  refine List.filter_congr fun e he => ?_
  by_cases heq : e.1 = key
  · have hgone := hold e.2 (heq ▸ mem_entries_iff.1 he)
    rw [← heq] at hgone
    simp [hgone]
  · simp [heq]

/-- The entries that satisfy a test. -/
def filter (p : String → α → Bool) (m : KeyMap α) : KeyMap α :=
  ⟨m.entries.filter (fun e => p e.1 e.2), m.sorted.filter _⟩

theorem get?_filter (m : KeyMap α) (p : String → α → Bool) (key : String) :
    (m.filter p).get? key = (m.get? key).filter (p key) := by
  refine Option.ext fun value => ?_
  rw [Option.filter_eq_some_iff, ← mem_entries_iff, ← mem_entries_iff, filter, List.mem_filter]

end KeyMap

end VolumeDrain
