import Mathlib
import MarkupTree.Proofs.Markup.Scanner
import MarkupTree.Proofs.Values.Walks

/-!
Reading attributes back. A scanner that cuts their text at the spaces outside double quotes finds what
the fields show, one after the other; so no value reaches beyond its own attribute.
-/

namespace MarkupTree.Markup

/-- An attribute as markup says it. -/
inductive Attribute where
  | bare (name : String)
  | quoted (name text : String)
  deriving DecidableEq, Repr

namespace Attribute

def unquoted (text : String) : String :=
  String.intercalate "&quot;" ((Text.pieces '"' text.toList).map String.ofList)

/-- What a field shows: `false` and `null` nothing, `true` and the empty text its name alone. -/
def ofField? (name : String) : Value → Option Attribute
  | .null | .bool false => none
  | .bool true => some (.bare name)
  | .string text => some (if text = "" then .bare name else .quoted name (unquoted text))
  | value => some (.quoted name (unquoted value.display))

def written : Attribute → String
  | bare name => name
  | quoted name text => name ++ "=\"" ++ text ++ "\""

def read? (piece : List Char) : Option Attribute :=
  match Text.cut? '=' piece with
  | none => if piece = [] ∨ '"' ∈ piece then none else some (.bare (String.ofList piece))
  | some (name, behind) =>
      match behind with
      | '"' :: rest =>
          match Text.cut? '"' rest with
          | some (text, []) =>
              if name = [] ∨ '"' ∈ name then none
              else some (.quoted (String.ofList name) (String.ofList text))
          | _ => none
      | _ => none

end Attribute

def spread (part : List Char) : List (List Char) → List (List Char)
  | [] => [part]
  | first :: others => (part ++ first) :: others

def cutOutside (within : Bool) : List Char → List (List Char)
  | [] => [[]]
  | c :: rest =>
      if c = ' ' ∧ within = false then [] :: cutOutside within rest
      else spread [c] (cutOutside (if c = '"' then !within else within) rest)

def attributes? (text : String) : Option (List Attribute) :=
  if text = "" then some [] else (cutOutside false text.toList).mapM Attribute.read?

/-- The attributes that fields show, in their order. -/
def shown (fields : Fields Value) : List Attribute :=
  fields.filterMap fun field => Attribute.ofField? field.1 field.2

/-- A name that a scanner can tell from what is around it. -/
def IsKey (name : String) : Prop := name ≠ "" ∧ ∀ c ∈ name.toList, c ∉ [' ', '=', '"']

theorem spread_spread (part other : List Char) (pieces : List (List Char)) :
    spread part (spread other pieces) = spread (part ++ other) pieces := by
  cases pieces <;> simp [spread]

section Cutting

variable {within : Bool} {part behind : List Char}

theorem exists_cutOutside_eq_cons (within : Bool) (text : List Char) :
    ∃ first others, cutOutside within text = first :: others := by
  cases text with
  | nil => exact ⟨[], [], rfl⟩
  | cons c rest =>
      rw [cutOutside]
      split
      · exact ⟨_, _, rfl⟩
      · cases cutOutside (if c = '"' then !within else within) rest <;> exact ⟨_, _, rfl⟩

theorem cutOutside_plain (free : ∀ c ∈ part, c ≠ '"' ∧ (c = ' ' → within = true)) :
    cutOutside within (part ++ behind) = spread part (cutOutside within behind) := by
  induction part with
  | nil =>
      obtain ⟨first, others, pieces⟩ := exists_cutOutside_eq_cons within behind
      rw [List.nil_append, pieces]
      rfl
  | cons c rest ih =>
      obtain ⟨⟨unquoted, space⟩, others⟩ := List.forall_mem_cons.mp free
      have inside : ¬ (c = ' ' ∧ within = false) := by
        rintro ⟨same, outside⟩
        rw [space same] at outside
        cases outside
      rw [List.cons_append, cutOutside, if_neg inside, if_neg unquoted, ih others, spread_spread,
        List.singleton_append]

theorem cutOutside_quote :
    cutOutside within ('"' :: behind) = spread ['"'] (cutOutside (!within) behind) := by
  rw [cutOutside, if_neg (by simp), if_pos rfl]

end Cutting

namespace IsKey

variable {name : String} (isKey : IsKey name)

include isKey

theorem ne_of_mem {c : Char} (member : c ∈ name.toList) : c ≠ ' ' ∧ c ≠ '=' ∧ c ≠ '"' := by
  simpa using isKey.2 c member

theorem given : name.toList ≠ [] := fun empty => isKey.1 (String.toList_eq_nil_iff.mp empty)

theorem cut?_eq_none : Text.cut? '=' name.toList = none :=
  Text.cut?_eq_none fun member => (isKey.ne_of_mem member).2.1 rfl

theorem cutOutside_append (behind : List Char) :
    cutOutside false (name.toList ++ behind) = spread name.toList (cutOutside false behind) := by
  refine cutOutside_plain fun c member => ?_
  obtain ⟨space, _, unquoted⟩ := isKey.ne_of_mem member
  exact ⟨unquoted, fun same => absurd same space⟩

end IsKey

namespace Attribute

def Sound : Attribute → Prop
  | bare name => IsKey name
  | quoted name text => IsKey name ∧ '"' ∉ text.toList

namespace Sound

variable {item : Attribute} (sound : item.Sound)

include sound

theorem cutOutside_append (behind : List Char) :
    cutOutside false (item.written.toList ++ behind) =
      spread item.written.toList (cutOutside false behind) := by
  cases item with
  | bare name => exact IsKey.cutOutside_append sound behind
  | quoted name text =>
      obtain ⟨isKey, free⟩ := sound
      have plain : ∀ c ∈ text.toList, c ≠ '"' ∧ (c = ' ' → true = true) := by
        intro c member
        exact ⟨fun same => free (same ▸ member), fun _ => rfl⟩
      have equals : ∀ c ∈ ['='], c ≠ '"' ∧ (c = ' ' → false = true) := by simp
      calc cutOutside false ((quoted name text).written.toList ++ behind)
        _ = cutOutside false (name.toList ++ (['='] ++ '"' :: (text.toList ++ '"' :: behind))) := by
          simp [written]
        _ = spread name.toList (spread ['='] (spread ['"'] (spread text.toList
            (spread ['"'] (cutOutside false behind))))) := by
          rw [isKey.cutOutside_append, cutOutside_plain equals, cutOutside_quote, Bool.not_false,
            cutOutside_plain plain, cutOutside_quote, Bool.not_true]
        _ = spread (quoted name text).written.toList (cutOutside false behind) := by
          simp [spread_spread, written]

theorem given : item.written ≠ "" := by
  cases item with
  | bare name => exact sound.1
  | quoted name text => simp [written]

theorem read?_written : read? item.written.toList = some item := by
  cases item with
  | bare name =>
      have isKey : IsKey name := sound
      have unquoted : '"' ∉ name.toList := fun member => (isKey.ne_of_mem member).2.2 rfl
      simp [read?, written, isKey.cut?_eq_none, isKey.given, unquoted]
  | quoted name text =>
      obtain ⟨isKey, free⟩ := sound
      have unquoted : '"' ∉ name.toList := fun member => (isKey.ne_of_mem member).2.2 rfl
      have letters : (quoted name text).written.toList =
          name.toList ++ '=' :: '"' :: (text.toList ++ ['"']) := by simp [written]
      have cut := Text.cut?_append_of_eq_none isKey.cut?_eq_none ('"' :: (text.toList ++ ['"']))
      have ended := Text.cut?_append_of_eq_none (Text.cut?_eq_none free) []
      simp [read?, letters, cut, ended, isKey.given, unquoted]

end Sound

theorem cutOutside_intercalate {attributes : List Attribute} (given : attributes ≠ [])
    (sound : ∀ item ∈ attributes, item.Sound) :
    cutOutside false (String.intercalate " " (attributes.map written)).toList =
      attributes.map fun item => item.written.toList := by
  induction attributes with
  | nil => exact absurd rfl given
  | cons item rest ih =>
      obtain ⟨own, others⟩ := List.forall_mem_cons.mp sound
      cases rest with
      | nil =>
          have whole := own.cutOutside_append []
          rw [List.append_nil] at whole
          simp [whole, cutOutside, spread]
      | cons next rest =>
          have following := ih (List.cons_ne_nil next rest) others
          have letters : (String.intercalate " " ((item :: next :: rest).map written)).toList =
              item.written.toList ++ ' ' ::
                (String.intercalate " " ((next :: rest).map written)).toList := by
            simp [String.intercalate_cons_cons]
          rw [letters, own.cutOutside_append, cutOutside, if_pos ⟨rfl, rfl⟩, following]
          simp [spread]

theorem mapM_read?_written {attributes : List Attribute}
    (sound : ∀ item ∈ attributes, item.Sound) :
    (attributes.map fun item => item.written.toList).mapM read? = some attributes := by
  induction attributes with
  | nil => rfl
  | cons item rest ih =>
      obtain ⟨own, others⟩ := List.forall_mem_cons.mp sound
      rw [List.map_cons, List.mapM_cons, own.read?_written, ih others]
      rfl

end Attribute

theorem attributes?_intercalate {attributes : List Attribute}
    (sound : ∀ item ∈ attributes, item.Sound) :
    attributes? (String.intercalate " " (attributes.map Attribute.written)) = some attributes := by
  cases attributes with
  | nil => rfl
  | cons item rest =>
      have own := (sound item List.mem_cons_self).given
      have cut := Attribute.cutOutside_intercalate (List.cons_ne_nil item rest) sound
      have given : String.intercalate " " ((item :: rest).map Attribute.written) ≠ "" := by
        intro empty
        rw [empty] at cut
        exact own (String.toList_eq_nil_iff.mp (List.cons.inj cut).1.symm)
      rw [attributes?, if_neg given, cut, Attribute.mapM_read?_written sound]

section Fields

variable {fields other : Fields Value}

theorem intercalate_pieces (text : List Char) :
    List.intercalate "&quot;".toList (Text.pieces '"' text) = text.flatMap Html.escapeLetter := by
  induction text with
  | nil => rfl
  | cons c rest ih =>
      obtain ⟨first, others, pieces⟩ := List.exists_cons_of_ne_nil (Text.pieces_ne_nil '"' rest)
      rw [List.flatMap_cons, ← ih, Text.pieces, Html.escapeLetter, pieces]
      by_cases same : c = '"'
      · simp [same, List.intercalate_cons_cons]
      · cases others <;> simp [same, List.intercalate_cons_cons]

theorem unquoted_eq_escape (text : String) : Attribute.unquoted text = Html.escape text := by
  apply String.toList_injective
  have letters : String.toList ∘ String.ofList = id := funext fun _ => String.toList_ofList
  rw [Attribute.unquoted, Html.escape, String.toList_ofList, String.toList_intercalate,
    List.map_map, letters, List.map_id, intercalate_pieces]

theorem entry_eq (name : String) (value : Value) :
    Html.entry name value = (Attribute.ofField? name value).map Attribute.written := by
  have quoted (text : String) : (Attribute.quoted name (Attribute.unquoted text)).written =
      name ++ "=\"" ++ Html.escape text ++ "\"" := by
    rw [unquoted_eq_escape, Attribute.written]
  cases value with
  | null => rfl
  | bool flag => cases flag <;> rfl
  | string text =>
      by_cases empty : text = ""
      · simp [Html.entry, Attribute.ofField?, Value.asString?, empty, Attribute.written]
      · simp [Html.entry, Attribute.ofField?, Value.asString?, Value.display, empty, quoted]
  | number n => simp [Html.entry, Attribute.ofField?, Value.asString?, quoted]
  | array items => simp [Html.entry, Attribute.ofField?, Value.asString?, quoted]
  | object entries => simp [Html.entry, Attribute.ofField?, Value.asString?, quoted]

theorem attributes_eq (fields : Fields Value) :
    Html.attributes fields = String.intercalate " " ((shown fields).map Attribute.written) := by
  rw [Html.attributes, shown, List.map_filterMap]
  simp only [entry_eq]

theorem sound_of_mem_shown (keys : ∀ field ∈ fields, IsKey field.1) :
    ∀ item ∈ shown fields, item.Sound := by
  have free (text : String) : '"' ∉ (Attribute.unquoted text).toList := by
    rw [unquoted_eq_escape]
    exact not_mem_escape text
  intro item member
  obtain ⟨⟨name, value⟩, present, shows⟩ := List.mem_filterMap.mp member
  have isKey : IsKey name := keys _ present
  unfold Attribute.ofField? at shows
  split at shows
  · cases shows
  · cases shows
  · cases shows
    exact isKey
  · obtain rfl := Option.some.inj shows
    split
    · exact isKey
    · exact ⟨isKey, free _⟩
  · cases shows
    exact ⟨isKey, free _⟩

end Fields

/--
What is written for fields is read back as what they show, so no value adds, removes or changes another
attribute, and only fields that show the same are written alike.
-/
theorem attributes_read_back (fields : Fields Value) (keys : ∀ field ∈ fields, IsKey field.1) :
    attributes? (Html.attributes fields) = some (shown fields) ∧
    (∀ before name value behind, fields = before ++ (name, value) :: behind → ∀ other : Value,
      attributes? (Html.attributes (before ++ (name, other) :: behind)) =
        some (shown before ++ (Attribute.ofField? name other).toList ++ shown behind)) ∧
    ∀ others : Fields Value, (∀ field ∈ others, IsKey field.1) →
      (Html.attributes fields = Html.attributes others ↔ shown fields = shown others) := by
  have read {fields : Fields Value} (keys : ∀ field ∈ fields, IsKey field.1) :
      attributes? (Html.attributes fields) = some (shown fields) := by
    rw [attributes_eq, attributes?_intercalate (sound_of_mem_shown keys)]
  refine ⟨read keys, ?_, fun others keys' => ⟨fun same => ?_, fun same => ?_⟩⟩
  · rintro before name value behind rfl other
    rw [List.forall_mem_append, List.forall_mem_cons] at keys
    obtain ⟨front, isKey, back⟩ := keys
    have kept : ∀ field ∈ before ++ (name, other) :: behind, IsKey field.1 :=
      List.forall_mem_append.mpr ⟨front, List.forall_mem_cons.mpr ⟨isKey, back⟩⟩
    rw [read kept]
    simp only [shown, List.filterMap_append, List.filterMap_cons]
    cases Attribute.ofField? name other <;> simp
  · have here := read keys
    rw [same, read keys'] at here
    exact (Option.some.inj here).symm
  · rw [attributes_eq, attributes_eq, same]

def baitedFields : Fields Value :=
  [("title", .string "\" onclick=\"x\" "), ("hidden", .bool false), ("checked", .bool true),
    ("data-a", .array [.string "b =\"", .null, .array [.bool true]]), ("gone", .null),
    ("alt", .string ""), ("rest", .object [("k", .string "v")])]

theorem baitedFields_read_back : (∀ field ∈ baitedFields, IsKey field.1) ∧
    attributes? (Html.attributes baitedFields) =
      some [.quoted "title" "&quot; onclick=&quot;x&quot; ", .bare "checked",
        .quoted "data-a" "b =&quot;,,true", .bare "alt", .quoted "rest" "[object Object]"] := by
  have keys : ∀ field ∈ baitedFields, IsKey field.1 := by simp [baitedFields, IsKey]
  refine ⟨keys, (attributes_read_back baitedFields keys).1.trans ?_⟩
  cbv

end MarkupTree.Markup
