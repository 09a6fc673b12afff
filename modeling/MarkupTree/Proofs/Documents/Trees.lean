import MarkupTree.Node.Equality
import MarkupTree.Node.Json
import MarkupTree.Proofs.Documents.Values
import Mathlib.Data.List.Nodup

/-!
Trees that were read from a document. Written as a document again they are read back the same, with
their nodes, bindings and fields in the same order; only the signs of zeros are not written.
-/

namespace MarkupTree

namespace Slot

theorem ofName?_name (slot : Slot) : ofName? slot.name = some slot := by
  cases slot <;> rfl

theorem name_of_ofName? {name : String} {slot : Slot} (named : ofName? name = some slot) :
    slot.name = name := by
  simpa using List.find?_some named

end Slot

namespace Node

def fill? (json : Json) (node : Node) : Slot → Option Node
  | .element => json.optionalText?.map fun text => { node with element := text }
  | .elementPath => json.optionalText?.map fun text => { node with elementPath := text }
  | .attributes => (bindingsSlot? json).map fun bindings => { node with attributes := bindings }
  | .props => (bindingsSlot? json).map fun bindings => { node with props := bindings }
  | .children => (childrenSlot? json).map fun children => { node with children := children }
  | .childrenPath => json.optionalText?.map fun text => { node with childrenPath := text }
  | .childrenExpression =>
      json.optionalText?.map fun text => { node with childrenExpression := text }
  | .closing => json.optionalText?.map fun text => { node with closing := text }

theorem ofEntries?_slot (slot : Slot) (json : Json) (rest : List (String × Json)) :
    ofEntries? ((slot.name, json) :: rest) =
      (ofEntries? rest).bind fun node => node.fill? json slot := by
  rw [ofEntries?, slot.ofName?_name]
  cases ofEntries? rest with
  | none => rfl
  | some node =>
      cases slot <;> simp only [fill?, Option.map_eq_bind] <;> rfl

theorem ofEntries?_field {name : String} (free : Slot.ofName? name = none) (json : Json)
    (rest : List (String × Json)) :
    ofEntries? ((name, json) :: rest) = (ofEntries? rest).map fun node =>
      { node with fields := (name, Value.ofJson json) :: node.fields } := by
  rw [ofEntries?, free, Option.map_eq_bind]
  rfl

mutual

def unsigned : Node → Node
  | ⟨element, elementPath, attributes, props, children, childrenPath, childrenExpression, closing,
      fields⟩ =>
      ⟨element, elementPath, attributes.map Bindings.unsigned, props.map Bindings.unsigned,
        unsignedChildren children, childrenPath, childrenExpression, closing,
        Value.unsignedFields fields⟩

def unsignedChildren : Option Children → Option Children
  | none => none
  | some children => some (unsignedContent children)

def unsignedContent : Children → Children
  | .text content => .text content
  | .nodes items => .nodes (unsignedItems items)
  | .call call => .call call.unsigned

def unsignedItems : List Node → List Node
  | [] => []
  | node :: rest => unsigned node :: unsignedItems rest

end

theorem unsigned_eq (node : Node) : node.unsigned = { node with
    attributes := node.attributes.map Bindings.unsigned
    props := node.props.map Bindings.unsigned
    children := node.children.map unsignedContent
    fields := Value.unsignedFields node.fields } := by
  obtain ⟨element, elementPath, attributes, props, children, childrenPath, childrenExpression,
    closing, fields⟩ := node
  cases children <;> rfl

structure KeptContent (children : Children) : Prop where
  read : childrenSlot? (childrenToJson children) = some (some (unsignedContent children))
  same : equalContent (unsignedContent children) children = true

/-- The parts of a node are read back as they are written. -/
structure Kept (node : Node) : Prop where
  attributes : ∀ bindings, node.attributes = some bindings → bindings.Spelled
  props : ∀ bindings, node.props = some bindings → bindings.Spelled
  children : ∀ children, node.children = some children → KeptContent children
  fields : Value.FieldsSpelled node.fields
  free : ∀ name ∈ Fields.names node.fields, Slot.ofName? name = none

theorem spelled_of_bindingsSlot? {json : Json} (finite : json.IsFinite) {read : Option Bindings}
    (found : bindingsSlot? json = some read) (bindings : Bindings) (given : read = some bindings) :
    bindings.Spelled := by
  subst given
  unfold bindingsSlot? at found
  split at found
  · cases found
  · obtain ⟨other, inner, same⟩ := Option.map_eq_some_iff.mp found
    cases same
    exact Bindings.spelled_of_ofJson? finite inner

theorem Kept.of_fill? {node filled : Node} (kept : node.Kept) {json : Json} (finite : json.IsFinite)
    (inner : ∀ children, childrenSlot? json = some (some children) → KeptContent children)
    {slot : Slot} (read : node.fill? json slot = some filled) : filled.Kept := by
  cases slot
  case attributes =>
    obtain ⟨bindings, found, rfl⟩ := Option.map_eq_some_iff.mp read
    exact { kept with attributes := spelled_of_bindingsSlot? finite found }
  case props =>
    obtain ⟨bindings, found, rfl⟩ := Option.map_eq_some_iff.mp read
    exact { kept with props := spelled_of_bindingsSlot? finite found }
  case children =>
    obtain ⟨children, found, rfl⟩ := Option.map_eq_some_iff.mp read
    exact { kept with children := fun content given => inner content (given ▸ found) }
  all_goals
    obtain ⟨text, _, rfl⟩ := Option.map_eq_some_iff.mp read
    exact { kept with }

/-! Writing the slots of a node one in front of the other. -/

theorem ofEntries?_toJsonEntries {fields : Fields Value} (spelled : Value.FieldsSpelled fields)
    (free : ∀ name ∈ Fields.names fields, Slot.ofName? name = none) :
    ofEntries? (Value.toJsonEntries fields) = some { fields := Value.unsignedFields fields } := by
  induction fields with
  | nil => rfl
  | cons entry rest ih =>
      obtain ⟨name, value⟩ := entry
      obtain ⟨own, others⟩ := List.forall_mem_cons.mp free
      rw [Value.toJsonEntries, ofEntries?_field own, ih spelled.2 others, Option.map_some,
        Value.ofJson_toJson spelled.1, Value.unsignedFields]

theorem ofEntries?_entryOf {α : Type} (slot : Slot) (toJson : α → Json) {part : Option α}
    {rest : List (String × Json)} {node filled : Node} (read : ofEntries? rest = some node)
    (absent : part = none → node = filled)
    (present : ∀ x, part = some x → node.fill? (toJson x) slot = some filled) :
    ofEntries? (entryOf slot toJson part ++ rest) = some filled := by
  cases part with
  | none => rw [entryOf, List.nil_append, read, absent rfl]
  | some x =>
      rw [entryOf, List.singleton_append, ofEntries?_slot, read, Option.bind_some, present x rfl]

theorem bindingsSlot?_toJson {bindings : Bindings} (spelled : bindings.Spelled) :
    bindingsSlot? bindings.toJson = some (some bindings.unsigned) := by
  have read := Bindings.ofJson?_toJson spelled
  change (Bindings.ofJson? bindings.toJson).map some = _
  rw [read, Option.map_some]

def slotEntry (node : Node) : Slot → List (String × Json)
  | .element => entryOf .element .string node.element
  | .elementPath => entryOf .elementPath .string node.elementPath
  | .attributes => entryOf .attributes Bindings.toJson node.attributes
  | .props => entryOf .props Bindings.toJson node.props
  | .children => entryOf .children childrenToJson node.children
  | .childrenPath => entryOf .childrenPath .string node.childrenPath
  | .childrenExpression => entryOf .childrenExpression .string node.childrenExpression
  | .closing => entryOf .closing .string node.closing

theorem toJson_eq (node : Node) :
    node.toJson = .object (Slot.all.flatMap node.slotEntry ++ Value.toJsonEntries node.fields) := by
  obtain ⟨element, elementPath, attributes, props, children, childrenPath, childrenExpression,
    closing, fields⟩ := node
  have entry : childrenEntry children = entryOf .children childrenToJson children := by
    cases children <;> rfl
  rw [toJson, entry]
  simp only [Slot.all, List.flatMap_cons, List.flatMap_nil, List.append_nil, slotEntry,
    List.append_assoc]

def only (node : Node) (slots : List Slot) : Node where
  element := if .element ∈ slots then node.element else none
  elementPath := if .elementPath ∈ slots then node.elementPath else none
  attributes := if .attributes ∈ slots then node.attributes else none
  props := if .props ∈ slots then node.props else none
  children := if .children ∈ slots then node.children else none
  childrenPath := if .childrenPath ∈ slots then node.childrenPath else none
  childrenExpression := if .childrenExpression ∈ slots then node.childrenExpression else none
  closing := if .closing ∈ slots then node.closing else none
  fields := node.fields

theorem Kept.ofEntries?_slots {node : Node} (kept : node.Kept) {slots : List Slot}
    (distinct : slots.Nodup) :
    ofEntries? (slots.flatMap node.slotEntry ++ Value.toJsonEntries node.fields) =
      some (node.unsigned.only slots) := by
  rw [unsigned_eq]
  induction slots with
  | nil => exact ofEntries?_toJsonEntries kept.fields kept.free
  | cons slot rest ih =>
      obtain ⟨fresh, others⟩ := List.nodup_cons.mp distinct
      rw [List.flatMap_cons, List.append_assoc]
      cases slot
      case attributes =>
        refine ofEntries?_entryOf .attributes _ (ih others) (fun absent => ?_)
          (fun bindings given => ?_)
        · simp [only, absent]
        · simp [only, fill?, given, bindingsSlot?_toJson (kept.attributes bindings given)]
      case props =>
        refine ofEntries?_entryOf .props _ (ih others) (fun absent => ?_) (fun bindings given => ?_)
        · simp [only, absent]
        · simp [only, fill?, given, bindingsSlot?_toJson (kept.props bindings given)]
      case children =>
        refine ofEntries?_entryOf .children _ (ih others) (fun absent => ?_)
          (fun children given => ?_)
        · simp [only, absent]
        · simp [only, fill?, given, (kept.children children given).read]
      all_goals
        refine ofEntries?_entryOf _ _ (ih others) (fun absent => ?_) (fun text given => ?_)
        · simp [only, absent]
        · simp [only, fill?, given, Json.optionalText?]

theorem slotEntries_names (node : Node) (slots : List Slot) :
    ((slots.flatMap node.slotEntry).map Prod.fst).Sublist (slots.map Slot.name) := by
  induction slots with
  | nil => exact List.Sublist.slnil
  | cons slot rest ih =>
      have own : ((node.slotEntry slot).map Prod.fst).Sublist [slot.name] := by
        cases slot <;> simp only [slotEntry, entryOf] <;> split <;> simp
      rw [List.flatMap_cons, List.map_append, List.map_cons, ← List.singleton_append]
      exact own.append ih

theorem once_of_count_le {entries : List (String × Json)} {name : String}
    (count : (entries.map Prod.fst).count name ≤ 1) : Json.once entries name = true := by
  rw [List.count, List.countP_map, List.countP_eq_length_filter] at count
  simpa [Json.once, Function.comp_def, beq_eq_decide] using count

theorem Kept.once {node : Node} (kept : node.Kept) (slot : Slot) :
    Json.once (Slot.all.flatMap node.slotEntry ++ Value.toJsonEntries node.fields) slot.name := by
  have fieldNames (fields : Fields Value) :
      (Value.toJsonEntries fields).map Prod.fst = Fields.names fields := by
    induction fields with
    | nil => rfl
    | cons entry rest ih => exact congrArg (entry.1 :: ·) ih
  have names : (Slot.all.map Slot.name).Nodup := by decide
  have slots := List.nodup_iff_count_le_one.mp
    (names.sublist (node.slotEntries_names Slot.all)) slot.name
  have fields : (Fields.names node.fields).count slot.name = 0 := by
    refine List.count_eq_zero.mpr ?_
    intro member
    have free := kept.free slot.name member
    rw [slot.ofName?_name] at free
    cases free
  apply once_of_count_le
  rw [List.map_append, List.count_append, fieldNames, fields]
  exact slots

theorem Kept.ofJson?_toJson {node : Node} (kept : node.Kept)
    (distinct : Fields.Distinct node.fields) : ofJson? node.toJson = some node.unsigned := by
  have all (node : Node) : node.only Slot.all = node := by
    obtain ⟨element, elementPath, attributes, props, children, childrenPath, childrenExpression,
      closing, fields⟩ := node
    rfl
  have once : (Slot.all.all fun slot => Json.once
      (Slot.all.flatMap node.slotEntry ++ Value.toJsonEntries node.fields) slot.name) = true :=
    List.all_eq_true.mpr fun slot _ => kept.once slot
  rw [toJson_eq, ofJson?, if_pos once, kept.ofEntries?_slots (by decide), all, Option.map_some,
    unsigned_eq, Fields.collect_of_distinct (Value.distinct_unsignedFields distinct)]

theorem equalBindings_unsigned {bindings : Option Bindings}
    (spelled : ∀ given, bindings = some given → given.Spelled) :
    equalBindings (bindings.map Bindings.unsigned) bindings = true := by
  cases bindings with
  | none => rfl
  | some given => exact Bindings.equal_unsigned (spelled given rfl)

theorem Kept.beq_unsigned {node : Node} (kept : node.Kept)
    (distinct : Fields.Distinct node.fields) : (node.unsigned == node) = true := by
  have attributes := equalBindings_unsigned kept.attributes
  have props := equalBindings_unsigned kept.props
  have fields : Value.equalFields (Value.unsignedFields node.fields) node.fields = true :=
    Value.object_beq_unsigned distinct (Value.fields_beq_unsigned kept.fields)
  have children : equalChildren (unsignedChildren node.children) node.children = true := by
    cases given : node.children with
    | none => rw [unsignedChildren, equalChildren]
    | some children =>
        rw [unsignedChildren, equalChildren]
        exact (kept.children children given).same
  obtain ⟨element, elementPath, attributes, props, children, childrenPath, childrenExpression,
    closing, fields⟩ := node
  change equal (unsigned _) _ = true
  rw [unsigned, equal]
  simp only [beq_self_eq_true, Bool.and_self, *]

theorem keptContent_call {call : Call} (spelled : call.Spelled) : KeptContent (.call call) where
  read := by
    have read := Call.ofJson?_toJson spelled
    change (Call.ofJson? call.toJson).map (fun found => some (Children.call found)) = _
    rw [read, Option.map_some, unsignedContent]
  same := by
    rw [unsignedContent, equalContent]
    exact Call.beq_unsigned spelled

theorem Kept.collect {node : Node} (kept : node.Kept) :
    ({ node with fields := Fields.collect node.fields } : Node).Kept := by
  refine { kept with fields := kept.fields.collect, free := ?_ }
  intro name member
  obtain ⟨entry, collected, rfl⟩ := List.mem_map.mp member
  exact kept.free _ (List.mem_map.mpr ⟨entry, Fields.mem_of_mem_collect collected, rfl⟩)

theorem Kept.cons {node : Node} (kept : node.Kept) {name : String} {value : Value}
    (free : Slot.ofName? name = none) (spelled : value.Spelled) :
    ({ node with fields := (name, value) :: node.fields } : Node).Kept :=
  { kept with
    fields := ⟨spelled, kept.fields⟩
    free := List.forall_mem_cons.mpr ⟨free, kept.free⟩ }

mutual

theorem ofJson?_toJson :
    ∀ {json : Json} {node : Node}, json.IsFinite → ofJson? json = some node →
      ofJson? node.toJson = some node.unsigned ∧ (node.unsigned == node) = true
  | .object entries, node, finite, read => by
      rw [ofJson?] at read
      split at read
      · obtain ⟨written, found, rfl⟩ := Option.map_eq_some_iff.mp read
        have kept := (kept_of_ofEntries? finite found).collect
        have distinct := Fields.distinct_collect written.fields
        exact ⟨kept.ofJson?_toJson distinct, kept.beq_unsigned distinct⟩
      · cases read

theorem kept_of_ofEntries? :
    ∀ {entries : List (String × Json)} {node : Node}, Json.EntriesFinite entries →
      ofEntries? entries = some node → node.Kept
  | [], node, _, read => by
      cases read
      constructor <;> simp [Value.FieldsSpelled, Fields.names]
  | (name, json) :: rest, node, finite, read => by
      cases named : Slot.ofName? name with
      | none =>
          rw [ofEntries?_field named] at read
          obtain ⟨others, found, rfl⟩ := Option.map_eq_some_iff.mp read
          exact (kept_of_ofEntries? finite.2 found).cons named (Value.spelled_ofJson finite.1)
      | some slot =>
          rw [← Slot.name_of_ofName? named, ofEntries?_slot] at read
          obtain ⟨others, found, filled⟩ := Option.bind_eq_some_iff.mp read
          exact (kept_of_ofEntries? finite.2 found).of_fill? finite.1
            (fun children inner => keptContent_of_childrenSlot? finite.1 inner) filled

theorem keptContent_of_childrenSlot? :
    ∀ {json : Json} {children : Children}, json.IsFinite →
      childrenSlot? json = some (some children) → KeptContent children
  | .string text, children, _, read => by
      cases read
      exact ⟨rfl, by rw [unsignedContent, equalContent, beq_self_eq_true]⟩
  | .array items, children, finite, read => by
      rw [childrenSlot?] at read
      -- An array that is no list of nodes may be a call, and that is written as an object.
      split at read
      · rename_i nodes found
        cases read
        obtain ⟨again, same⟩ := ofItems?_toJsonItems finite found
        exact ⟨by rw [childrenToJson, childrenSlot?, again, unsignedContent],
          by rw [unsignedContent, equalContent, same]⟩
      · obtain ⟨call, found, same⟩ := Option.map_eq_some_iff.mp read
        cases same
        exact keptContent_call (Call.spelled_of_ofJson? finite found)
  | .object entries, children, finite, read => by
      change (Call.ofJson? (.object entries)).map (fun found => some (Children.call found)) =
        _ at read
      obtain ⟨call, found, same⟩ := Option.map_eq_some_iff.mp read
      cases same
      exact keptContent_call (Call.spelled_of_ofJson? finite found)

theorem ofItems?_toJsonItems :
    ∀ {items : List Json} {nodes : List Node}, Json.ItemsFinite items →
      ofItems? items = some nodes →
      ofItems? (toJsonItems nodes) = some (unsignedItems nodes) ∧
        equalItems (unsignedItems nodes) nodes = true
  | [], nodes, _, read => by
      cases read
      exact ⟨rfl, by rw [unsignedItems, equalItems]⟩
  | item :: rest, nodes, finite, read => by
      rw [ofItems?] at read
      obtain ⟨node, first, read⟩ := Option.bind_eq_some_iff.mp read
      obtain ⟨others, behind, read⟩ := Option.bind_eq_some_iff.mp read
      cases read
      obtain ⟨own, same⟩ := ofJson?_toJson finite.1 first
      obtain ⟨further, alike⟩ := ofItems?_toJsonItems finite.2 behind
      constructor
      · rw [toJsonItems, ofItems?, own, further, unsignedItems]
        rfl
      · rw [unsignedItems, equalItems, alike, Bool.and_true]
        exact same

end

end Node

namespace Fragment

/-- The tree without the signs of the zeros in its bindings and fields. -/
def unsigned : Fragment → Fragment
  | .one node => .one node.unsigned
  | .many nodes => .many (Node.unsignedItems nodes)

theorem ofJson?_node (node : Node) : ofJson? node.toJson = (Node.ofJson? node.toJson).map .one := by
  rw [Node.toJson_eq]
  rfl

theorem beq_unsigned {json : Json} {tree : Fragment} (finite : json.IsFinite)
    (read : ofJson? json = some tree) : (tree.unsigned == tree) = true := by
  unfold ofJson? at read
  split at read
  · obtain ⟨nodes, found, rfl⟩ := Option.map_eq_some_iff.mp read
    exact (Node.ofItems?_toJsonItems finite found).2
  · obtain ⟨node, found, rfl⟩ := Option.map_eq_some_iff.mp read
    exact (Node.ofJson?_toJson finite found).2

/--
A tree that a document spells is written as a document that spells it again: no node, binding or
field is lost, moved, or read back as another one. Numbers are read back as equal ones; the ones that
are written as integers are exact, and of those only a zero can lose its sign.
-/
theorem read_back_toJson {json : Json} {tree : Fragment} (finite : json.IsFinite)
    (read : ofJson? json = some tree) :
    ofJson? tree.toJson = some tree.unsigned ∧ (tree.unsigned == tree) = true := by
  refine ⟨?_, beq_unsigned finite read⟩
  unfold ofJson? at read
  split at read
  · obtain ⟨nodes, found, rfl⟩ := Option.map_eq_some_iff.mp read
    rw [toJson, ofJson?, (Node.ofItems?_toJsonItems finite found).1, Option.map_some, unsigned]
  · obtain ⟨node, found, rfl⟩ := Option.map_eq_some_iff.mp read
    rw [toJson, ofJson?_node, (Node.ofJson?_toJson finite found).1, Option.map_some, unsigned]

def linkDocument : Json :=
  .object [("props", .null), ("foreach", .array [.string "items", .object []]),
    ("attributes", .object [("____x", .string "a"), ("__==x", .string "b"), ("==x", .string "c"),
      ("x", .object [("parameters", .integer 3), ("utility", .string "f"), ("more", .null)]),
      ("__n", .number 1.5), ("m", .number (-0.0)), ("k", .integer 1000000000000000)]),
    ("children", .array [.object [("children", .array [.string "f"])],
      .object [("element", .string "b"), ("children", .object [("utility", .string "g")])]]),
    ("element", .string "a"), ("class", .object [("z", .bool true), ("a", .string "d")])]

def link : Fragment :=
  .one
    { element := some "a"
      attributes := some [("__x", .path "a"), ("==x", .path "b"), ("x", .expression "c"),
        ("x", .call ⟨"f", [.number (Float.ofInt 3)]⟩), ("__n", .literal (.number 1.5)),
        ("m", .literal (.number (-0.0))), ("k", .literal (.number (Float.ofInt 1000000000000000)))]
      children := some (.nodes [{ children := some (.call ⟨"f", []⟩) },
        { element := some "b", children := some (.call ⟨"g", []⟩) }])
      fields := [("foreach", .array [.string "items", .object []]),
        ("class", .object [("z", .bool true), ("a", .string "d")])] }

theorem link_read_back :
    linkDocument.IsFinite ∧ ofJson? linkDocument = some link ∧
      ofJson? link.toJson = some link.unsigned ∧ (link.unsigned == link) = true := by
  have finite : linkDocument.IsFinite := by
    simp only [linkDocument, Json.IsFinite, Json.EntriesFinite, Json.ItemsFinite, true_and,
      and_true]
    decide
  have read : ofJson? linkDocument = some link := by rfl
  exact ⟨finite, read, read_back_toJson finite read⟩

end Fragment

end MarkupTree
