import MarkupTree.Node.Basic
import MarkupTree.Proofs.Markup.Scanner

/-!
What a tree says in the order of the document, and markup that is read back as just that: an element
is a pair of tags around its content, whatever its attributes hold.
-/

namespace MarkupTree

namespace Markup

def mergedBehind (pending : List Char) : List Event → List Event
  | [] => flush pending []
  | .text content :: rest => mergedBehind (pending ++ content.toList) rest
  | .opens name :: rest => flush pending (.opens name :: mergedBehind [] rest)
  | .closes name :: rest => flush pending (.closes name :: mergedBehind [] rest)

def merged (events : List Event) : List Event := mergedBehind [] events

def Nested : List String → List Event → Prop
  | [], [] => True
  | _ :: _, [] => False
  | around, .text _ :: rest => Nested around rest
  | around, .opens name :: rest => Nested (name :: around) rest
  | [], .closes _ :: _ => False
  | inner :: around, .closes name :: rest => name = inner ∧ Nested around rest

def Event.isText : Event → Bool
  | .text _ => true
  | _ => false

/-- No text is empty, and none follows another one. -/
structure Separated (events : List Event) : Prop where
  given : .text "" ∉ events
  apart : events.IsChain fun event next => event.isText = false ∨ next.isText = false

theorem nested_flush {around : List String} {pending : List Char} {events : List Event} :
    Nested around (flush pending events) ↔ Nested around events := by
  unfold flush
  split
  · exact Iff.rfl
  · cases around <;> exact Iff.rfl

theorem nested_mergedBehind {around : List String} {pending : List Char} {events : List Event} :
    Nested around (mergedBehind pending events) ↔ Nested around events := by
  induction events generalizing around pending with
  | nil => exact nested_flush
  | cons event rest ih =>
      cases event with
      | text content =>
          rw [mergedBehind, ih]
          cases around <;> exact Iff.rfl
      | opens name =>
          rw [mergedBehind, nested_flush]
          cases around <;> exact ih
      | closes name =>
          rw [mergedBehind, nested_flush]
          cases around with
          | nil => exact Iff.rfl
          | cons inner around => exact and_congr_right fun _ => ih

def Whole (events : List Event) : Prop :=
  ∀ around rest, Nested around (events ++ rest) ↔ Nested around rest

namespace Whole

variable {events others : List Event}

theorem nil : Whole [] := fun _ _ => Iff.rfl

theorem text (content : String) : Whole [.text content] := by
  intro around rest
  cases around <;> exact Iff.rfl

theorem append (first : Whole events) (second : Whole others) : Whole (events ++ others) := by
  intro around rest
  rw [List.append_assoc, first, second]

theorem nested (whole : Whole events) : Nested [] events := by
  have ended := (whole [] []).mpr trivial
  rwa [List.append_nil] at ended

end Whole

def enclosed (element : Option String) (content : List Event) : List Event :=
  match element with
  | none => content
  | some name => .opens name :: (content ++ [.closes name])

theorem Whole.enclosed {content : List Event} (whole : Whole content) (element : Option String) :
    Whole (Markup.enclosed element content) := by
  cases element with
  | none => exact whole
  | some name =>
      intro around rest
      calc Nested around (.opens name :: (content ++ [.closes name]) ++ rest)
        _ ↔ Nested (name :: around) (content ++ .closes name :: rest) := by
          rw [List.cons_append, List.append_assoc]
          cases around <;> exact Iff.rfl
        _ ↔ Nested (name :: around) (.closes name :: rest) := whole _ _
        _ ↔ Nested around rest := ⟨And.right, fun nested => ⟨rfl, nested⟩⟩

end Markup

namespace Node

open Markup (Event)

mutual

def events : Node → List Event
  | ⟨element, _, _, _, children, _, _, _, _⟩ => Markup.enclosed element (contentEvents children)

def contentEvents : Option Children → List Event
  | none => []
  | some children => childrenEvents children

def childrenEvents : Children → List Event
  | .text content => [.text content]
  | .nodes items => itemsEvents items
  | .call _ => []

def itemsEvents : List Node → List Event
  | [] => []
  | node :: rest => events node ++ itemsEvents rest

end

mutual

theorem whole_events : ∀ node : Node, Markup.Whole node.events
  | ⟨element, _, _, _, children, _, _, _, _⟩ => (whole_contentEvents children).enclosed element

theorem whole_contentEvents : ∀ children, Markup.Whole (contentEvents children)
  | none => .nil
  | some children => whole_childrenEvents children

theorem whole_childrenEvents : ∀ children, Markup.Whole (childrenEvents children)
  | .text content => .text content
  | .nodes items => whole_itemsEvents items
  | .call _ => .nil

theorem whole_itemsEvents : ∀ items, Markup.Whole (itemsEvents items)
  | [] => .nil
  | node :: rest => (whole_events node).append (whole_itemsEvents rest)

end

end Node

namespace Markup

theorem separated_flush {pending : List Char} {events : List Event}
    (separated : Separated events) (free : ∀ event ∈ events.head?, event.isText = false) :
    Separated (flush pending events) := by
  unfold flush
  split
  · exact separated
  · rename_i given
    constructor
    · refine List.not_mem_cons_of_ne_of_not_mem ?_ separated.given
      intro same
      have empty := Event.text.inj same
      exact given (String.ofList_eq_empty_iff.mp empty.symm)
    · exact List.isChain_cons.mpr ⟨fun event first => .inr (free event first), separated.apart⟩

theorem separated_cons {event : Event} {events : List Event} (mark : event.isText = false)
    (separated : Separated events) : Separated (event :: events) := by
  constructor
  · refine List.not_mem_cons_of_ne_of_not_mem ?_ separated.given
    rintro rfl
    cases mark
  · exact List.isChain_cons.mpr ⟨fun next _ => .inl mark, separated.apart⟩

theorem separated_mergedBehind (pending : List Char) (events : List Event) :
    Separated (mergedBehind pending events) := by
  have nil : Separated [] := ⟨List.not_mem_nil, List.isChain_nil⟩
  induction events generalizing pending with
  | nil => exact separated_flush nil (by simp)
  | cons event rest ih =>
      cases event with
      | text content => exact ih _
      | opens name => exact separated_flush (separated_cons rfl (ih [])) (by rintro _ ⟨⟩; rfl)
      | closes name => exact separated_flush (separated_cons rfl (ih [])) (by rintro _ ⟨⟩; rfl)

/-- Markup is read back as events, whatever follows it and whatever text goes before it. -/
def Reads (markup : String) (events : List Event) : Prop :=
  ∀ behind others, (∀ pending, scan (.text pending) behind = some (mergedBehind pending others)) →
    ∀ pending, scan (.text pending) (markup.toList ++ behind) =
      some (mergedBehind pending (events ++ others))

namespace Reads

variable {markup other : String} {events others : List Event}

theorem empty : Reads "" [] := fun _ _ behind pending => behind pending

theorem append (first : Reads markup events) (second : Reads other others) :
    Reads (markup ++ other) (events ++ others) := by
  intro behind rest read pending
  rw [String.toList_append, List.append_assoc, List.append_assoc]
  exact first _ _ (second behind rest read) pending

theorem text {content : String} (free : '<' ∉ content.toList) : Reads content [.text content] := by
  intro behind rest read pending
  rw [scan_text free, read]
  rfl

theorem element {name : String} {fields : Fields Value} (isName : IsName name)
    (named : ∀ field ∈ fields, IsName field.1) (inner : Reads markup events) :
    Reads (Html.compose (some name) fields markup none)
      (.opens name :: (events ++ [.closes name])) := by
  intro behind rest read pending
  -- what follows the content is the end tag, before which a text may still be pending
  have closing : ∀ pending, scan (.text pending) (("</" ++ name ++ ">").toList ++ behind) =
      some (mergedBehind pending (.closes name :: rest)) := by
    intro pending
    rw [scan_closing isName, read []]
    rfl
  have letters : (Html.compose (some name) fields markup none).toList ++ behind =
      (Html.opening name fields).toList ++ '>' ::
        (markup.toList ++ (("</" ++ name ++ ">").toList ++ behind)) := by
    simp [Html.compose]
  have following : .opens name :: (events ++ [.closes name]) ++ rest =
      .opens name :: (events ++ .closes name :: rest) := by simp
  rw [letters, scan_opening isName named, inner _ _ closing [], following]
  rfl

theorem events? (reads : Reads markup events) : Markup.events? markup = some (merged events) := by
  have ended := reads [] [] (fun pending => by rw [scan, mergedBehind]) []
  rwa [List.append_nil, List.append_nil] at ended

end Reads

end Markup

end MarkupTree
