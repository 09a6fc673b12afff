import Mathlib
import MarkupTree.Html
import MarkupTree.Text.Blank

/-!
Reading markup back. A scanner takes markup for start tags, end tags and the texts between them; of a
start tag only the name counts, and a mark within a quoted attribute value is no mark.
-/

namespace MarkupTree.Markup

inductive Event where
  | opens (name : String)
  | closes (name : String)
  | text (content : String)
  deriving DecidableEq, Repr

inductive Mode where
  | text (read : List Char)
  /-- Right behind the mark that begins a tag. -/
  | tag
  | startName (read : List Char)
  | attributes (name : List Char)
  /-- Within the quotes of an attribute. -/
  | value (name : List Char)
  | endName (read : List Char)

def flush (pending : List Char) (events : List Event) : List Event :=
  if pending = [] then events else .text (String.ofList pending) :: events

@[simp] def scan : Mode → List Char → Option (List Event)
  | .text pending, [] => some (flush pending [])
  | _, [] => none
  | .text pending, c :: rest =>
      if c = '<' then (scan .tag rest).map (flush pending)
      else scan (.text (pending ++ [c])) rest
  | .tag, c :: rest =>
      if c = '/' then scan (.endName []) rest
      else if c = '>' ∨ Text.isBlank c = true then none
      else scan (.startName [c]) rest
  | .startName read, c :: rest =>
      if c = '>' then (scan (.text []) rest).map (.opens (String.ofList read) :: ·)
      else if Text.isBlank c = true then scan (.attributes read) rest
      else scan (.startName (read ++ [c])) rest
  | .attributes name, c :: rest =>
      if c = '"' then scan (.value name) rest
      else if c = '>' then (scan (.text []) rest).map (.opens (String.ofList name) :: ·)
      else scan (.attributes name) rest
  | .value name, c :: rest =>
      if c = '"' then scan (.attributes name) rest else scan (.value name) rest
  | .endName read, c :: rest =>
      if c = '>' then (scan (.text []) rest).map (.closes (String.ofList read) :: ·)
      else scan (.endName (read ++ [c])) rest

def events? (markup : String) : Option (List Event) := scan (.text []) markup.toList

def IsName (name : String) : Prop :=
  name ≠ "" ∧ ∀ c ∈ name.toList, Text.isBlank c = false ∧ c ∉ ['<', '>', '/', '"', '=']

instance : DecidablePred IsName := fun name =>
  inferInstanceAs (Decidable (name ≠ "" ∧ ∀ c ∈ name.toList,
    Text.isBlank c = false ∧ c ∉ ['<', '>', '/', '"', '=']))

section Parts

variable {part behind pending read name : List Char}

theorem scan_run (mode : List Char → Mode) (read : List Char)
    (reads : ∀ c ∈ part, ∀ before rest,
      scan (mode before) (c :: rest) = scan (mode (before ++ [c])) rest) :
    scan (mode read) (part ++ behind) = scan (mode (read ++ part)) behind := by
  induction part generalizing read with
  | nil => simp
  | cons c rest ih =>
      obtain ⟨first, others⟩ := List.forall_mem_cons.mp reads
      rw [List.cons_append, first, ih _ others, List.append_assoc, List.singleton_append]

theorem scan_text (free : '<' ∉ part) :
    scan (.text pending) (part ++ behind) = scan (.text (pending ++ part)) behind := by
  refine scan_run .text pending fun c member before rest => ?_
  rw [scan, if_neg (ne_of_mem_of_not_mem member free)]

theorem scan_startName (free : ∀ c ∈ part, Text.isBlank c = false ∧ c ≠ '>') :
    scan (.startName read) (part ++ behind) = scan (.startName (read ++ part)) behind := by
  refine scan_run .startName read fun c member before rest => ?_
  obtain ⟨visible, other⟩ := free c member
  rw [scan, if_neg other, visible, if_neg Bool.false_ne_true]

theorem scan_endName (free : '>' ∉ part) :
    scan (.endName read) (part ++ behind) = scan (.endName (read ++ part)) behind := by
  refine scan_run .endName read fun c member before rest => ?_
  rw [scan, if_neg (ne_of_mem_of_not_mem member free)]

theorem scan_attributes (free : ∀ c ∈ part, c ≠ '"' ∧ c ≠ '>') :
    scan (.attributes name) (part ++ behind) = scan (.attributes name) behind := by
  refine scan_run (fun _ => .attributes name) [] fun c member _ rest => ?_
  obtain ⟨unquoted, inside⟩ := free c member
  rw [scan, if_neg unquoted, if_neg inside]

theorem scan_value (free : '"' ∉ part) :
    scan (.value name) (part ++ behind) = scan (.value name) behind := by
  refine scan_run (fun _ => .value name) [] fun c member _ rest => ?_
  rw [scan, if_neg (ne_of_mem_of_not_mem member free)]

end Parts

namespace IsName

variable {name : String} (isName : IsName name)

include isName

theorem ne_of_mem {c : Char} (member : c ∈ name.toList) :
    Text.isBlank c = false ∧ c ≠ '<' ∧ c ≠ '>' ∧ c ≠ '/' ∧ c ≠ '"' := by
  obtain ⟨visible, other⟩ := isName.2 c member
  simp only [List.mem_cons, List.not_mem_nil, not_or] at other
  exact ⟨visible, other.1, other.2.1, other.2.2.1, other.2.2.2.1⟩

theorem not_mem_greater : '>' ∉ name.toList :=
  fun member => (isName.ne_of_mem member).2.2.1 rfl

theorem exists_cons : ∃ c rest, name.toList = c :: rest :=
  List.exists_cons_of_ne_nil fun empty => isName.1 (String.toList_eq_nil_iff.mp empty)

theorem scan_tag (behind : List Char) :
    scan .tag (name.toList ++ behind) = scan (.startName name.toList) behind := by
  obtain ⟨c, rest, letters⟩ := isName.exists_cons
  have own : c ∈ name.toList := letters ▸ List.mem_cons_self
  obtain ⟨visible, _, inside, slash, _⟩ := isName.ne_of_mem own
  have others : ∀ d ∈ rest, Text.isBlank d = false ∧ d ≠ '>' := by
    intro d member
    obtain ⟨visible, _, inside, _⟩ := isName.ne_of_mem (letters ▸ List.mem_cons_of_mem c member)
    exact ⟨visible, inside⟩
  have more : ¬ (c = '>' ∨ Text.isBlank c = true) := by simp [inside, visible]
  rw [letters, List.cons_append, scan, if_neg slash, if_neg more, scan_startName others]
  rfl

theorem scan_attribute (tag behind : List Char) :
    scan (.attributes tag) (name.toList ++ behind) = scan (.attributes tag) behind := by
  refine scan_attributes fun c member => ?_
  obtain ⟨_, _, inside, _, unquoted⟩ := isName.ne_of_mem member
  exact ⟨unquoted, inside⟩

end IsName

section Tags

variable {fields : Fields Value}

theorem not_mem_escape (text : String) : '"' ∉ (Html.escape text).toList := by
  rw [Html.escape, String.toList_ofList, List.mem_flatMap]
  rintro ⟨c, _, member⟩
  unfold Html.escapeLetter at member
  split at member
  · simp at member
  · rename_i other
    exact other (List.mem_singleton.mp member).symm

theorem scan_entry {name shown : String} {value : Value} (isName : IsName name)
    (written : Html.entry name value = some shown) (tag behind : List Char) :
    scan (.attributes tag) (shown.toList ++ behind) = scan (.attributes tag) behind := by
  have quoted (text : String) :
      scan (.attributes tag) ((name ++ "=\"" ++ Html.escape text ++ "\"").toList ++ behind) =
        scan (.attributes tag) behind := by
    calc scan (.attributes tag) ((name ++ "=\"" ++ Html.escape text ++ "\"").toList ++ behind)
      _ = scan (.attributes tag)
          (name.toList ++ ('=' :: '"' :: ((Html.escape text).toList ++ '"' :: behind))) := by simp
      _ = scan (.attributes tag) ('=' :: '"' :: ((Html.escape text).toList ++ '"' :: behind)) :=
        isName.scan_attribute tag _
      _ = scan (.value tag) ((Html.escape text).toList ++ '"' :: behind) := by
        rw [scan, if_neg (by decide), if_neg (by decide), scan, if_pos rfl]
      -- an escaped text has no quote, so only the one behind it ends the value
      _ = scan (.value tag) ('"' :: behind) := scan_value (not_mem_escape text)
      _ = scan (.attributes tag) behind := by rw [scan, if_pos rfl]
  unfold Html.entry at written
  split at written
  · cases written
  · cases written
  · cases written
    exact isName.scan_attribute tag behind
  · split at written
    · cases written
      exact isName.scan_attribute tag behind
    · cases written
      exact quoted _

theorem scan_shown {shown : List String}
    (each : ∀ text ∈ shown, ∀ tag behind, scan (.attributes tag) (text.toList ++ behind) =
      scan (.attributes tag) behind) (tag behind : List Char) :
    scan (.attributes tag) ((String.intercalate " " shown).toList ++ behind) =
      scan (.attributes tag) behind := by
  have blank (text : List Char) : scan (.attributes tag) (' ' :: text) = scan (.attributes tag) text := by
    rw [scan, if_neg (by decide), if_neg (by decide)]
  rw [String.toList_intercalate]
  induction shown with
  | nil => rfl
  | cons text rest ih =>
      obtain ⟨own, others⟩ := List.forall_mem_cons.mp each
      cases rest with
      | nil => simpa using own tag behind
      | cons next rest =>
          calc scan (.attributes tag)
                (List.intercalate " ".toList ((text :: next :: rest).map String.toList) ++ behind)
            _ = scan (.attributes tag) (text.toList ++ (' ' ::
                (List.intercalate " ".toList ((next :: rest).map String.toList) ++ behind))) := by
              simp [List.intercalate]
            _ = scan (.attributes tag)
                (List.intercalate " ".toList ((next :: rest).map String.toList) ++ behind) := by
              rw [own, blank]
            _ = scan (.attributes tag) behind := ih others

theorem scan_fields (named : ∀ field ∈ fields, IsName field.1) (tag behind : List Char) :
    scan (.attributes tag) ((Html.attributes fields).toList ++ behind) =
      scan (.attributes tag) behind := by
  refine scan_shown (fun text member tag behind => ?_) tag behind
  obtain ⟨field, present, written⟩ := List.mem_filterMap.mp member
  exact scan_entry (named field present) written tag behind

/-- A start tag is one event, whatever its attributes hold. -/
theorem scan_opening {element : String} (isName : IsName element)
    (named : ∀ field ∈ fields, IsName field.1) (pending behind : List Char) :
    scan (.text pending) ((Html.opening element fields).toList ++ '>' :: behind) =
      (scan (.text []) behind).map fun events => flush pending (.opens element :: events) := by
  have closes : scan (.attributes element.toList) ('>' :: behind) =
      (scan (.text []) behind).map (.opens element :: ·) := by
    rw [scan, if_neg (by decide), if_pos rfl, String.ofList_toList]
  unfold Html.opening
  dsimp only
  split
  · calc scan (.text pending) (("<" ++ element).toList ++ '>' :: behind)
      _ = scan (.text pending) ('<' :: (element.toList ++ '>' :: behind)) := by simp
      _ = (scan (.startName element.toList) ('>' :: behind)).map (flush pending) := by
        rw [scan, if_pos rfl, isName.scan_tag]
      _ = ((scan (.text []) behind).map (.opens element :: ·)).map (flush pending) := by
        rw [scan, if_pos rfl, String.ofList_toList]
      _ = (scan (.text []) behind).map fun events => flush pending (.opens element :: events) :=
        Option.map_map ..
  · calc scan (.text pending) (("<" ++ element ++ " " ++ Html.attributes fields).toList ++ '>' :: behind)
      _ = scan (.text pending)
          ('<' :: (element.toList ++ ' ' :: ((Html.attributes fields).toList ++ '>' :: behind))) := by
        simp
      _ = (scan (.attributes element.toList) ((Html.attributes fields).toList ++ '>' :: behind)).map
          (flush pending) := by
        rw [scan, if_pos rfl, isName.scan_tag, scan, if_neg (by decide), if_pos (by decide)]
      _ = ((scan (.text []) behind).map (.opens element :: ·)).map (flush pending) := by
        rw [scan_fields named, closes]
      _ = (scan (.text []) behind).map fun events => flush pending (.opens element :: events) :=
        Option.map_map ..

theorem scan_closing {element : String} (isName : IsName element) (pending behind : List Char) :
    scan (.text pending) (("</" ++ element ++ ">").toList ++ behind) =
      (scan (.text []) behind).map fun events => flush pending (.closes element :: events) := by
  have letters : ("</" ++ element ++ ">").toList ++ behind =
      '<' :: '/' :: (element.toList ++ '>' :: behind) := by simp
  rw [letters, scan, if_pos rfl, scan, if_pos rfl, scan_endName isName.not_mem_greater, scan,
    if_pos rfl, List.nil_append, String.ofList_toList, Option.map_map]
  rfl

end Tags

end MarkupTree.Markup
