import Mathlib.Data.List.Nodup
import Mathlib.Data.Rat.Defs
import Mathlib.Tactic.Common

/-!
# JSON documents and codecs

A codec writes values as JSON documents and reads them back, and carries the proof that
reading inverts writing.  Codecs are built from codecs: texts and numbers, enumerations,
lists, values that may be null, values that have passed a check, and objects.

An object is written field by field.  `Record` is a group of fields under distinct
names; a field may be required, may have a default, or may be left out when it is
absent.  The law of a record speaks of its fields among any others, so that the law of
two records together follows from theirs.  An object read back may hold no other names.
-/

set_option autoImplicit false

/-! ## Documents -/

/-- A JSON document.  Whole numbers are told apart from others. -/
inductive Json where
  | null
  | bool (value : Bool)
  | int (value : Int)
  | float (value : ℚ)
  | string (value : String)
  | array (items : List Json)
  | object (fields : List (String × Json))

namespace Json

mutual

/-- No object in the document has a name twice. -/
def Distinct : Json → Prop
  | .array items => DistinctItems items
  | .object fields => (fields.map Prod.fst).Nodup ∧ DistinctFields fields
  | _ => True

def DistinctItems : List Json → Prop
  | [] => True
  | item :: rest => item.Distinct ∧ DistinctItems rest

def DistinctFields : List (String × Json) → Prop
  | [] => True
  | (_, value) :: rest => value.Distinct ∧ DistinctFields rest

end

mutual

def decidableDistinct : (json : Json) → Decidable json.Distinct
  | .array items =>
      have := decidableDistinctItems items
      decidable_of_iff _ (iff_of_eq (Distinct.eq_1 items).symm)
  | .object fields =>
      have := decidableDistinctFields fields
      decidable_of_iff _ (iff_of_eq (Distinct.eq_2 fields).symm)
  | .null | .bool _ | .int _ | .float _ | .string _ => .isTrue (by simp [Distinct])

def decidableDistinctItems : (items : List Json) → Decidable (DistinctItems items)
  | [] => .isTrue trivial
  | item :: rest =>
      have := decidableDistinct item
      have := decidableDistinctItems rest
      inferInstanceAs (Decidable (item.Distinct ∧ DistinctItems rest))

def decidableDistinctFields : (fields : List (String × Json)) → Decidable (DistinctFields fields)
  | [] => .isTrue trivial
  | (_, value) :: rest =>
      have := decidableDistinct value
      have := decidableDistinctFields rest
      inferInstanceAs (Decidable (value.Distinct ∧ DistinctFields rest))

end

instance (json : Json) : Decidable json.Distinct := decidableDistinct json

theorem distinctItems_iff {items : List Json} :
    DistinctItems items ↔ ∀ item ∈ items, item.Distinct := by
  induction items with
  | nil => simp [DistinctItems]
  | cons item rest ih => simp [DistinctItems, ih]

theorem distinctFields_iff {fields : List (String × Json)} :
    DistinctFields fields ↔ ∀ field ∈ fields, field.2.Distinct := by
  induction fields with
  | nil => simp [DistinctFields]
  | cons field rest ih =>
      obtain ⟨name, value⟩ := field
      simp [DistinctFields, ih]

end Json

/-! ## Codecs -/

/-- Values written as documents and read back. -/
structure Codec (α : Type) where
  encode : α → Json
  decode : Json → Option α
  distinct : ∀ value, (encode value).Distinct
  decode_encode : ∀ value, decode (encode value) = some value

namespace Codec

variable {α β : Type}

def text : Codec String where
  encode := .string
  decode
    | .string value => some value
    | _ => none
  distinct _ := by simp [Json.Distinct]
  decode_encode _ := rfl

theorem text_ne_null (value : String) : text.encode value ≠ .null := by
  rintro ⟨⟩

def bool : Codec Bool where
  encode := .bool
  decode
    | .bool value => some value
    | _ => none
  distinct _ := by simp [Json.Distinct]
  decode_encode _ := rfl

def int : Codec Int where
  encode := .int
  decode
    | .int value => some value
    | _ => none
  distinct _ := by simp [Json.Distinct]
  decode_encode _ := rfl

theorem int_ne_null (value : Int) : int.encode value ≠ .null := by
  rintro ⟨⟩

/-- A number; a whole one may stand for it. -/
def float : Codec ℚ where
  encode := .float
  decode
    | .float value => some value
    | .int value => some value
    | _ => none
  distinct _ := by simp [Json.Distinct]
  decode_encode _ := rfl

/-- Values that are represented by others and checked when they are read. -/
def checked (codec : Codec α) (represent : β → α) (check : α → Option β)
    (check_represent : ∀ value, check (represent value) = some value) : Codec β where
  encode value := codec.encode (represent value)
  decode json := (codec.decode json).bind check
  distinct value := codec.distinct (represent value)
  decode_encode value := by
    rw [codec.decode_encode, Option.bind_some, check_represent]

/-- An enumeration, by the texts of its members. -/
def enumeration [DecidableEq α] (members : List α) (value : α → String)
    (found : ∀ member, members.find? (fun other => decide (value other = value member)) =
      some member := by intro member; cases member <;> decide +kernel) : Codec α :=
  text.checked value (fun text => members.find? fun other => decide (value other = text)) found

/-- Read a value that may be null. -/
def readNullable (read : Json → Option α) : Json → Option (Option α)
  | .null => some none
  | json => (read json).map some

theorem readNullable_of_ne {read : Json → Option α} {json : Json} {value : α}
    (notNull : json ≠ .null) (reads : read json = some value) :
    readNullable read json = some (some value) := by
  cases json with
  | null => exact absurd rfl notNull
  | _ => exact congrArg (Option.map some) reads

/-- A value that may be null. -/
def nullable (codec : Codec α)
    (notNull : ∀ value, codec.encode value ≠ .null := by
      first
      | exact Codec.text_ne_null
      | exact Codec.int_ne_null
      | rintro _ ⟨⟩) : Codec (Option α) where
  encode
    | some value => codec.encode value
    | none => .null
  decode := readNullable codec.decode
  distinct value := by
    cases value with
    | none => simp [Json.Distinct]
    | some value => exact codec.distinct value
  decode_encode value := by
    cases value with
    | none => rfl
    | some value => exact readNullable_of_ne (notNull value) (codec.decode_encode value)

/-- A list of values. -/
def list (codec : Codec α) : Codec (List α) where
  encode values := .array (values.map codec.encode)
  decode
    | .array items => items.mapM codec.decode
    | _ => none
  distinct values := by
    simp only [Json.Distinct, Json.distinctItems_iff, List.forall_mem_map]
    exact fun value _ => codec.distinct value
  decode_encode values := by
    dsimp only
    induction values with
    | nil => rfl
    | cons value rest ih =>
        simp [codec.decode_encode, ih]

end Codec

/-! ## Records -/

/-- A group of fields of an object, under these names. -/
structure Record (names : List String) (α : Type) where
  write : α → List (String × Json)
  read : List (String × Json) → Option α
  nodup : names.Nodup
  sublist : ∀ value, ((write value).map Prod.fst).Sublist names
  distinct : ∀ value, ∀ field ∈ write value, field.2.Distinct
  read_write : ∀ value before after, (∀ name ∈ names, name ∉ before.map Prod.fst) →
    (∀ name ∈ names, name ∉ after.map Prod.fst) →
    read (before ++ write value ++ after) = some value

namespace Record

variable {α β : Type} {names others : List String}

/-- Fields under other names are not found. -/
theorem lookup_absent {name : String} {fields : List (String × Json)}
    (absent : name ∉ fields.map Prod.fst) : fields.lookup name = none := by
  rw [List.lookup_eq_none_iff]
  intro field mem
  have different : name ≠ field.1 := by
    rintro rfl
    exact absent (List.mem_map_of_mem mem)
  simpa using different

theorem lookup_among {name : String} {value : Json} {before after : List (String × Json)}
    (absent : name ∉ before.map Prod.fst) :
    (before ++ [(name, value)] ++ after).lookup name = some value := by
  rw [List.append_assoc, List.lookup_append, lookup_absent absent]
  simp

/-- A field that is always written and must be there. -/
def required (name : String) (codec : Codec α) : Record [name] α where
  write value := [(name, codec.encode value)]
  read fields := (fields.lookup name).bind codec.decode
  nodup := List.nodup_singleton name
  sublist _ := List.Sublist.refl _
  distinct value field mem := by
    obtain rfl := List.mem_singleton.mp mem
    exact codec.distinct value
  read_write value before after absent _ := by
    rw [lookup_among (absent name (List.mem_singleton_self name))]
    exact codec.decode_encode value

/-- A field that is always written and need not be there. -/
def defaulted (name : String) (codec : Codec α) (default : α) : Record [name] α where
  write value := [(name, codec.encode value)]
  read fields :=
    match fields.lookup name with
    | some json => codec.decode json
    | none => some default
  nodup := List.nodup_singleton name
  sublist _ := List.Sublist.refl _
  distinct value field mem := by
    obtain rfl := List.mem_singleton.mp mem
    exact codec.distinct value
  read_write value before after absent _ := by
    rw [lookup_among (absent name (List.mem_singleton_self name))]
    exact codec.decode_encode value

/-- A field that is written unless its value is absent. -/
def omitted (name : String) (codec : Codec α)
    (notNull : ∀ value, codec.encode value ≠ .null := by
      first
      | exact Codec.text_ne_null
      | exact Codec.int_ne_null
      | rintro _ ⟨⟩) :
    Record [name] (Option α) where
  write
    | some value => [(name, codec.encode value)]
    | none => []
  read fields :=
    match fields.lookup name with
    | some json => Codec.readNullable codec.decode json
    | none => some none
  nodup := List.nodup_singleton name
  sublist value := by
    cases value with
    | none => exact List.nil_sublist _
    | some value => exact List.Sublist.refl _
  distinct value field mem := by
    cases value with
    | none => cases mem
    | some value =>
        obtain rfl := List.mem_singleton.mp mem
        exact codec.distinct value
  read_write value before after absentBefore absentAfter := by
    have before' := absentBefore name (List.mem_singleton_self name)
    have after' := absentAfter name (List.mem_singleton_self name)
    cases value with
    | none =>
        have absent : name ∉ (before ++ [] ++ after).map Prod.fst := by
          simpa using ⟨by simpa using before', by simpa using after'⟩
        rw [lookup_absent absent]
    | some value =>
        rw [lookup_among before']
        exact Codec.readNullable_of_ne (notNull value) (codec.decode_encode value)

theorem keys_of_write (record : Record names α) {value : α} {name : String}
    (mem : name ∈ (record.write value).map Prod.fst) : name ∈ names :=
  (record.sublist value).subset mem

/-- Two groups of fields under different names. -/
def pair (first : Record names α) (second : Record others β)
    (apart : ∀ name ∈ names, name ∉ others := by decide +kernel) :
    Record (names ++ others) (α × β) where
  write value := first.write value.1 ++ second.write value.2
  read fields := do
    let left ← first.read fields
    let right ← second.read fields
    return (left, right)
  nodup := List.nodup_append'.mpr ⟨first.nodup, second.nodup, fun name left right =>
    apart name left right⟩
  sublist value := by
    rw [List.map_append]
    exact (first.sublist value.1).append (second.sublist value.2)
  distinct value field mem := by
    rcases List.mem_append.mp mem with left | right
    · exact first.distinct value.1 field left
    · exact second.distinct value.2 field right
  read_write value before after absentBefore absentAfter := by
    have left : first.read (before ++ (first.write value.1 ++ second.write value.2) ++ after) =
        some value.1 := by
      have regroup : before ++ (first.write value.1 ++ second.write value.2) ++ after =
          before ++ first.write value.1 ++ (second.write value.2 ++ after) := by simp
      rw [regroup]
      refine first.read_write value.1 before _ (fun name mem => ?_) fun name mem => ?_
      · exact absentBefore name (List.mem_append_left _ mem)
      · rw [List.map_append, List.mem_append]
        rintro (written | behind)
        · exact apart name mem (second.keys_of_write written)
        · exact absentAfter name (List.mem_append_left _ mem) behind
    have right : second.read (before ++ (first.write value.1 ++ second.write value.2) ++ after) =
        some value.2 := by
      have regroup : before ++ (first.write value.1 ++ second.write value.2) ++ after =
          (before ++ first.write value.1) ++ second.write value.2 ++ after := by simp
      rw [regroup]
      refine second.read_write value.2 _ after (fun name mem => ?_) fun name mem => ?_
      · rw [List.map_append, List.mem_append]
        rintro (front | written)
        · exact absentBefore name (List.mem_append_right _ mem) front
        · exact apart name (first.keys_of_write written) mem
      · exact absentAfter name (List.mem_append_right _ mem)
    rw [left, right]
    rfl

/-- The fields of a record are an object without repeated names. -/
theorem distinct_object (record : Record names α) (value : α) :
    (Json.object (record.write value)).Distinct := by
  rw [Json.Distinct, Json.distinctFields_iff]
  exact ⟨record.nodup.sublist (record.sublist value), record.distinct value⟩

/-- **Objects.**  A value is written as the fields of a record, and read from an object
that has no other names. -/
def object (record : Record names α) (represent : β → α) (build : α → Option β)
    (build_represent : ∀ value, build (represent value) = some value) : Codec β where
  encode value := .object (record.write (represent value))
  decode
    | .object fields =>
        if ∀ field ∈ fields, field.1 ∈ names then (record.read fields).bind build else none
    | _ => none
  distinct value := record.distinct_object (represent value)
  decode_encode value := by
    have known : ∀ field ∈ record.write (represent value), field.1 ∈ names :=
      fun field mem => record.keys_of_write (List.mem_map_of_mem mem)
    have read := record.read_write (represent value) [] [] (fun _ _ => List.not_mem_nil)
      fun _ _ => List.not_mem_nil
    rw [List.nil_append, List.append_nil] at read
    dsimp only
    rw [if_pos known, read, Option.bind_some, build_represent]

end Record

/-! ## Texts -/

/-- A library that prints documents and parses what it has printed. -/
structure JsonLibrary (Text : Type) where
  render : Json → Text
  parse : Text → Option Json
  parse_render : ∀ json, json.Distinct → parse (render json) = some json

namespace Codec

variable {α Text : Type} (library : JsonLibrary Text) (codec : Codec α)

/-- The text of a value. -/
def print (value : α) : Text := library.render (codec.encode value)

/-- The value of a text. -/
def scan (printed : Text) : Option α := (library.parse printed).bind codec.decode

/-- **What is printed is read back.** -/
theorem scan_print (value : α) : codec.scan library (codec.print library value) = some value := by
  rw [scan, print, library.parse_render _ (codec.distinct value), Option.bind_some,
    codec.decode_encode]

end Codec
