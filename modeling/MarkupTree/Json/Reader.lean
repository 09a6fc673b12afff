import MarkupTree.Json.Token
/-!
Reading JSON texts: tokens are read from left to right with a stack of what is still open, so that
the depth of a document is bounded by a rule and not by the reader.
-/

namespace MarkupTree.Json

inductive Frame where
  | array (items : List Json)
  | object (entries : List (String × Json)) (name : String)

inductive Expected where
  | value
  | itemOrEnd
  | name
  | nameOrEnd
  | colon
  | separator
  | nothing
  deriving DecidableEq

/-- How far a text was read: what may come next, what is open, and the document once it is whole. -/
structure Progress where
  expected : Expected
  frames : List Frame
  result : Option Json

structure Rules where
  /-- The deepest nesting that is read, if there is a bound. -/
  depth : Option Nat
  /-- Leaves that stand for nothing are passed over as `false` instead of refused. -/
  lenient : Bool

def Rules.leaf? (rules : Rules) (json : Option Json) : Option Json :=
  if rules.lenient then some (json.getD (.bool false)) else json

/-- Outside of nested objects a name must stand for a text. -/
def Rules.name? (rules : Rules) (frames : List Frame) (name : Option String) : Option String :=
  if rules.lenient && !frames.isEmpty then some (name.getD "") else name

def deliver (json : Json) : List Frame → Progress
  | [] => ⟨.nothing, [], some json⟩
  | .array items :: frames => ⟨.separator, .array (json :: items) :: frames, none⟩
  | .object entries name :: frames =>
      ⟨.separator, .object ((name, json) :: entries) name :: frames, none⟩

def Rules.enter? (rules : Rules) (expected : Expected) (frame : Frame) (frames : List Frame) :
    Option Progress :=
  match rules.depth with
  | some depth => if frames.length < depth then some ⟨expected, frame :: frames, none⟩ else none
  | none => some ⟨expected, frame :: frames, none⟩

def step? (rules : Rules) (progress : Progress) (mark : Mark) : Option Progress :=
  match progress.expected, mark, progress.frames with
  | .value, .openArray, frames | .itemOrEnd, .openArray, frames =>
      rules.enter? .itemOrEnd (.array []) frames
  | .value, .openObject, frames | .itemOrEnd, .openObject, frames =>
      rules.enter? .nameOrEnd (.object [] "") frames
  | .value, .leaf json, frames | .itemOrEnd, .leaf json, frames =>
      (rules.leaf? json).map (deliver · frames)
  | .value, .text content, frames | .itemOrEnd, .text content, frames =>
      (rules.leaf? (content.map .string)).map (deliver · frames)
  | .itemOrEnd, .closeArray, .array items :: frames
  | .separator, .closeArray, .array items :: frames =>
      some (deliver (.array items.reverse) frames)
  | .nameOrEnd, .closeObject, .object entries _ :: frames
  | .separator, .closeObject, .object entries _ :: frames =>
      some (deliver (.object entries.reverse) frames)
  | .name, .text content, .object entries _ :: frames
  | .nameOrEnd, .text content, .object entries _ :: frames =>
      (rules.name? frames content).map fun name => ⟨.colon, .object entries name :: frames, none⟩
  | .colon, .colon, frames => some ⟨.value, frames, none⟩
  | .separator, .comma, .array items :: frames => some ⟨.value, .array items :: frames, none⟩
  | .separator, .comma, .object entries name :: frames =>
      some ⟨.name, .object entries name :: frames, none⟩
  | _, _, _ => none

def readWith? (rules : Rules) (text : String) : Option Json := do
  let marks ← marks? text.toList
  let progress ← marks.foldlM (step? rules) ⟨.value, [], none⟩
  progress.result

def read? : String → Option Json := readWith? ⟨none, false⟩

def readFile? : String → Option Json := readWith? ⟨some 127, false⟩

/-- A file of settings, in which what no setting uses is passed over. -/
def readSettings? : String → Option Json := readWith? ⟨none, true⟩

end MarkupTree.Json
