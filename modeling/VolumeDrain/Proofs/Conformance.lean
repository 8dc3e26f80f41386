import VolumeDrain.Json.Schema
import VolumeDrain.Proofs.Documents

/-!
# Documents that satisfy a schema

A schema is given to a cluster as a document, and `Json.satisfies` reads such a document the way a
cluster does: it compares the type, the range of integers, the items of lists, the properties of
objects and the properties that have to be there. Members that the schema does not name are allowed,
and `null` is allowed only where the schema is nullable.

For each form of a schema the documents that satisfy what is written for it are then said in terms
of its parts. The descriptions and default values that are written along make no difference.
-/
namespace VolumeDrain

namespace Json

/-- Whether a schema names a type, or none at all. -/
def isOfType (schema : Json) (type : String) : Bool := (schema.get? "type").all (· == .str type)

/-- Whether an integer is in the range of the format that a schema names. -/
def inFormat (schema : Json) (n : Int) : Bool :=
  match schema.textAt? ["format"] with
  | some "int32" => -2147483648 ≤ n && n < 2147483648
  | some "int64" => -9223372036854775808 ≤ n && n < 9223372036854775808
  | _ => true

/-- Whether members have all the names that a schema requires. -/
def hasRequired (schema : Json) (members : Members) : Bool :=
  match schema.get? "required" with
  | some (arr names) =>
    names.all fun name => name.text?.any fun name => (members.lookup name).isSome
  | _ => true

/-- The schema of the member of a name: that of the property, or else that of additional ones. -/
def memberSchema? (schema : Json) (name : String) : Option Json :=
  (schema.path? ["properties", name]).or (schema.get? "additionalProperties")

mutual

/-- Whether a document satisfies a schema. -/
def satisfies (schema : Json) : Json → Bool
  | null => schema.get? "nullable" == some (bool true)
  | bool _ => schema.isOfType "boolean"
  | int n => (schema.isOfType "integer" || schema.isOfType "number") && schema.inFormat n
  | decimal _ _ => schema.isOfType "number"
  | str _ => schema.isOfType "string"
  | arr items => schema.isOfType "array" && itemsSatisfy (schema.get? "items") items
  | obj members =>
    schema.isOfType "object" && schema.hasRequired members && membersSatisfy schema members

/-- Whether all items of a list satisfy their schema, if there is one. -/
def itemsSatisfy (schema : Option Json) : List Json → Bool
  | [] => true
  | j :: rest => schema.all (satisfies · j) && itemsSatisfy schema rest

/-- Whether the members of an object satisfy the schemas that an object's schema has for them. -/
def membersSatisfy (schema : Json) : List (String × Json) → Bool
  | [] => true
  | (name, j) :: rest =>
    (schema.memberSchema? name).all (satisfies · j) && membersSatisfy schema rest

end

theorem itemsSatisfy_eq (schema : Option Json) (items : List Json) :
    itemsSatisfy schema items = items.all fun j => schema.all (satisfies · j) := by
  induction items with
  | nil => rfl
  | cons j rest ih => rw [itemsSatisfy, ih, List.all_cons]

theorem membersSatisfy_eq (schema : Json) (members : Members) :
    membersSatisfy schema members =
      members.all fun m => (schema.memberSchema? m.1).all (satisfies · m.2) := by
  induction members with
  | nil => rfl
  | cons m rest ih => rw [membersSatisfy, ih, List.all_cons]

/-- The parts of a schema that say which documents other than `null` satisfy it. -/
def keywords : List String :=
  ["type", "format", "items", "required", "properties", "additionalProperties"]

theorem satisfies_congr {s t : Json} (h : ∀ k ∈ keywords, s.get? k = t.get? k) {j : Json}
    (hj : j ≠ null) : s.satisfies j = t.satisfies j := by
  have htype : s.isOfType = t.isOfType := by
    funext type
    rw [isOfType, isOfType, h "type" (by decide)]
  cases j with
  | null => exact absurd rfl hj
  | bool | decimal | str => rw [satisfies, satisfies, htype]
  | int n =>
    have hformat : s.inFormat n = t.inFormat n := by
      rw [inFormat, inFormat, textAt?, textAt?, path?, path?, h "format" (by decide)]
    rw [satisfies, satisfies, htype, hformat]
  | arr items => rw [satisfies, satisfies, htype, h "items" (by decide)]
  | obj members =>
    have hrequired : s.hasRequired members = t.hasRequired members := by
      rw [hasRequired, hasRequired, h "required" (by decide)]
    have hmember : s.memberSchema? = t.memberSchema? := by
      funext name
      rw [memberSchema?, memberSchema?, path?, path?, h "properties" (by decide),
        h "additionalProperties" (by decide)]
    rw [satisfies, satisfies, htype, hrequired, membersSatisfy_eq, membersSatisfy_eq, hmember]

theorem get?_put_keyword {name : String} (hname : name ∉ keywords) (value s : Json) :
    ∀ k ∈ keywords, (s.put name value).get? k = s.get? k :=
  fun _ hk => get?_put_ne (ne_of_mem_of_not_mem hk hname) value s

/-- What is no keyword makes no difference to the documents that satisfy a schema. -/
theorem satisfies_put {name : String} (hname : name ∉ keywords) (hnull : name ≠ "nullable")
    (value s j : Json) : (s.put name value).satisfies j = s.satisfies j := by
  by_cases hj : j = null
  · rw [hj, satisfies, satisfies, get?_put_ne hnull.symm]
  · exact satisfies_congr (get?_put_keyword hname value s) hj

end Json

namespace Schema

open Json (satisfies)

theorem document_isObject : (s : Schema) → ∃ members, s.document = .obj members
  | any | text | boolean | int32 | int64 | list _ | map _ | object _ => ⟨_, rfl⟩
  | nullable inner => by
    obtain ⟨members, h⟩ := document_isObject inner
    exact ⟨_, by rw [document, h]; rfl⟩
  | described _ inner => by
    obtain ⟨members, h⟩ := document_isObject inner
    exact ⟨_, by rw [document, h]; rfl⟩

/-- Whether what is written for a schema allows a document. -/
def Admits (s : Schema) (j : Json) : Prop := s.document.satisfies j = true

section

variable {s : Schema} {j : Json}

theorem admits_described {words : String} : (described words s).Admits j ↔ s.Admits j := by
  rw [Admits, Admits, document, Json.satisfies_put (by decide) (by decide)]

theorem admits_nullable : (nullable s).Admits j ↔ j = .null ∨ s.Admits j := by
  rw [Admits, Admits, document]
  by_cases hj : j = .null
  · obtain ⟨members, h⟩ := document_isObject s
    subst hj
    rw [satisfies, h, Json.get?_put]
    exact iff_of_true rfl (.inl rfl)
  · rw [Json.satisfies_congr (Json.get?_put_keyword (by decide) _ _) hj]
    exact (or_iff_right hj).symm

/-- Whatever is not `null` is allowed where nothing is said. -/
theorem admits_any : any.Admits j ↔ j ≠ .null := by
  cases j with
  | null => exact iff_of_false nofun (absurd rfl)
  | bool | int | decimal | str => exact iff_of_true rfl nofun
  | arr items =>
    refine iff_of_true ?_ nofun
    change Json.itemsSatisfy none items = true
    rw [Json.itemsSatisfy_eq]
    exact List.all_eq_true.2 fun _ _ => rfl
  | obj members =>
    refine iff_of_true ?_ nofun
    change Json.membersSatisfy any.document members = true
    rw [Json.membersSatisfy_eq]
    exact List.all_eq_true.2 fun _ _ => rfl

theorem admits_text : text.Admits j ↔ ∃ t, j = .str t := by
  cases j with
  | str t => exact iff_of_true rfl ⟨t, rfl⟩
  | null | bool | int | decimal | arr | obj => exact iff_of_false nofun nofun

theorem admits_boolean : boolean.Admits j ↔ ∃ b, j = .bool b := by
  cases j with
  | bool b => exact iff_of_true rfl ⟨b, rfl⟩
  | null | str | int | decimal | arr | obj => exact iff_of_false nofun nofun

theorem admits_int32 : int32.Admits j ↔ ∃ n, j = .int n ∧ -2147483648 ≤ n ∧ n < 2147483648 := by
  cases j with
  | int n =>
    change (decide (-2147483648 ≤ n) && decide (n < 2147483648)) = true ↔ _
    simp
  | null | bool | str | decimal | arr | obj => exact iff_of_false nofun nofun

theorem admits_int64 :
    int64.Admits j ↔ ∃ n, j = .int n ∧ -9223372036854775808 ≤ n ∧ n < 9223372036854775808 := by
  cases j with
  | int n =>
    change (decide (-9223372036854775808 ≤ n) && decide (n < 9223372036854775808)) = true ↔ _
    simp
  | null | bool | str | decimal | arr | obj => exact iff_of_false nofun nofun

theorem admits_list : (list s).Admits j ↔ ∃ items, j = .arr items ∧ ∀ i ∈ items, s.Admits i := by
  cases j with
  | arr items =>
    change Json.itemsSatisfy (some s.document) items = true ↔ _
    rw [Json.itemsSatisfy_eq]
    simp [Admits]
  | null | bool | str | int | decimal | obj => exact iff_of_false nofun nofun

theorem admits_map :
    (map s).Admits j ↔ ∃ members, j = .obj members ∧ ∀ m ∈ members, s.Admits m.2 := by
  cases j with
  | obj members =>
    change Json.membersSatisfy (map s).document members = true ↔ _
    have hmember (name : String) : (map s).document.memberSchema? name = some s.document := rfl
    rw [Json.membersSatisfy_eq]
    simp only [hmember]
    simp [Admits]
  | null | bool | str | int | decimal | arr => exact iff_of_false nofun nofun

end

/-! ## Objects -/

/-- The members of an object have the properties that are required, and those that the properties
name are as they say. -/
structure Fits (properties : List (String × Absence × Schema)) (members : Json.Members) : Prop where
  present : ∀ p ∈ properties, p.2.1 = .refused → (members.lookup p.1).isSome
  allowed : ∀ m ∈ members, ∀ p, properties.lookup m.1 = some p → p.2.Admits m.2

/-- What is written for a property: its schema, with the default value. -/
def propertyDocument : Absence → Schema → Json
  | .default value, s => s.document.put "default" value
  | .refused, s | .allowed, s => s.document

theorem propertyDocuments_cons (name : String) (absence : Absence) (s : Schema)
    (rest : List (String × Absence × Schema)) :
    propertyDocuments ((name, absence, s) :: rest) =
      (name, propertyDocument absence s) :: propertyDocuments rest := by
  cases absence <;> rfl

theorem satisfies_propertyDocument {absence : Absence} {s : Schema} {j : Json} :
    (propertyDocument absence s).satisfies j = true ↔ s.Admits j := by
  cases absence with
  | refused | allowed => rfl
  | default value => rw [propertyDocument, Json.satisfies_put (by decide) (by decide), Admits]

variable {properties : List (String × Absence × Schema)} {members : Json.Members}

theorem satisfies_lookup_propertyDocuments {name : String} {j : Json} :
    ((propertyDocuments properties).lookup name).all (satisfies · j) = true ↔
      ∀ p, properties.lookup name = some p → p.2.Admits j := by
  induction properties with
  | nil => exact iff_of_true rfl nofun
  | cons p rest ih =>
    obtain ⟨own, absence, s⟩ := p
    rw [propertyDocuments_cons, KeyMap.lookup_cons_eq, KeyMap.lookup_cons_eq]
    by_cases hname : name = own
    · simp only [if_pos hname, Option.all_some, Option.some.injEq, forall_eq']
      exact satisfies_propertyDocument
    · simp only [if_neg hname]
      exact ih

theorem mem_requiredNames {name : String} :
    name ∈ requiredNames properties ↔ ∃ p ∈ properties, p.2.1 = .refused ∧ p.1 = name := by
  rw [requiredNames, List.mem_mergeSort, List.mem_filterMap]
  refine exists_congr fun p => and_congr_right fun _ => ?_
  cases p.2.1 <;> simp

/-- What the schema of an object says of each keyword. -/
theorem get?_document_object (properties : List (String × Absence × Schema)) (keyword : String) :
    (object properties).document.get? keyword =
      (List.lookup keyword [("type", some (.str "object")),
        ("properties", some (.obj (propertyDocuments properties))),
        ("required", if (requiredNames properties).isEmpty then none
          else some (.arr ((requiredNames properties).map .str)))]).join := by
  rw [document]
  refine Json.lookup_written ?_ keyword
  show ["type", "properties", "required"].Nodup
  decide

theorem hasRequired_object : (object properties).document.hasRequired members = true ↔
    ∀ p ∈ properties, p.2.1 = .refused → (members.lookup p.1).isSome := by
  have hnames : (∀ name ∈ requiredNames properties, (members.lookup name).isSome) ↔
      ∀ p ∈ properties, p.2.1 = .refused → (members.lookup p.1).isSome := by
    simp only [mem_requiredNames]
    exact ⟨fun h p hp href => h p.1 ⟨p, hp, href, rfl⟩, fun h _ ⟨p, hp, href, hname⟩ =>
      hname ▸ h p hp href⟩
  rw [← hnames, Json.hasRequired, get?_document_object]
  cases requiredNames properties with
  | nil => simp [KeyMap.lookup_cons_eq]
  | cons name rest => simp [KeyMap.lookup_cons_eq, Json.text?]

theorem memberSchema?_object (name : String) :
    (object properties).document.memberSchema? name =
      (propertyDocuments properties).lookup name := by
  rw [Json.memberSchema?, Json.path?, get?_document_object, get?_document_object]
  simp [KeyMap.lookup_cons_eq, Json.path?, Json.get?]

theorem admits_object {j : Json} :
    (object properties).Admits j ↔ ∃ members, j = .obj members ∧ Fits properties members := by
  cases j with
  | obj members =>
    have hadmits : (object properties).Admits (.obj members) ↔
        (object properties).document.hasRequired members = true ∧
          Json.membersSatisfy (object properties).document members = true := by
      change (_ && _) = true ↔ _
      rw [Bool.and_eq_true]
      rfl
    rw [hadmits, hasRequired_object, Json.membersSatisfy_eq, List.all_eq_true]
    simp only [memberSchema?_object, satisfies_lookup_propertyDocuments]
    constructor
    · rintro ⟨hpresent, hallowed⟩
      exact ⟨members, rfl, hpresent, hallowed⟩
    · rintro ⟨_, h, hpresent, hallowed⟩
      cases h
      exact ⟨hpresent, hallowed⟩
  | null =>
    refine iff_of_false ?_ nofun
    rw [Admits, satisfies, get?_document_object]
    nofun
  | bool | str | int | decimal | arr => exact iff_of_false nofun nofun

end Schema

end VolumeDrain
