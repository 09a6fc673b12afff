import MarkupTree.Proofs.Markup.Reading
import MarkupTree.Proofs.Rendering.Configured
import MarkupTree.Proofs.Rendering.Inlining

/-!
Static trees: nothing in them is looked up, computed or left to an extension. Their markup is read
back as the tree says it, and nodes without an element leave no trace in it.
-/

namespace MarkupTree

open Markup (IsName Reads)

def Renderer.ActsOnFields (renderer : Renderer) : Prop :=
  ∀ extension ∈ renderer.extensions, ∀ (scope : Scope) (node : Node), node.fields = [] →
    extension.apply scope node = .ok (.proceed node)

theorem Renderer.Canonical.actsOnFields {renderer : Renderer} (canonical : renderer.Canonical) :
    renderer.ActsOnFields :=
  fun extension present scope _ bare =>
    Extension.apply_of_no_fields (canonical extension present) scope bare

def Binding.IsStatic : Binding → Prop
  | .literal (.string _) | .literal (.bool _) => True
  | _ => False

theorem Binding.IsStatic.exists_resolve_eq_ok (scope : Scope) : ∀ {binding : Binding},
    binding.IsStatic → ∃ value, binding.resolve scope = .ok (some value)
  | .literal (.string text), _ => ⟨.string text, rfl⟩
  | .literal (.bool flag), _ => ⟨.bool flag, rfl⟩

/-- A node with an element or without, literal attributes and content, and nothing else. -/
structure Node.Static (components : Registry) (node : Node) : Prop where
  element : ∀ name, node.element = some name →
    IsName name ∧ isComponentName name = false ∧ Fields.find? components name = none
  attributes : ∀ entry ∈ node.attributes.getD [], IsName entry.1 ∧ entry.2.IsStatic
  text : ∀ content, node.children = some (.text content) → '<' ∉ content.toList
  call : ∀ call, node.children ≠ some (.call call)
  elementPath : node.elementPath = none
  props : node.props = none
  childrenPath : node.childrenPath = none
  childrenExpression : node.childrenExpression = none
  closing : node.closing = none
  fields : node.fields = []

theorem Bindings.exists_resolve_eq_ok {bindings : Bindings}
    (static : ∀ entry ∈ bindings, IsName entry.1 ∧ entry.2.IsStatic) (scope : Scope) :
    ∃ fields, bindings.resolve scope = .ok fields ∧ ∀ field ∈ fields, IsName field.1 := by
  suffices each : ∃ entries, resolveEach scope bindings = .ok entries ∧
      ∀ entry ∈ entries, IsName entry.1 by
    obtain ⟨entries, resolved, named⟩ := each
    refine ⟨Fields.collect entries, ?_, fun field member => ?_⟩
    · rw [resolve, resolved]
      rfl
    · exact named field (Fields.mem_of_mem_collect member)
  induction bindings with
  | nil => exact ⟨[], rfl, by simp⟩
  | cons entry rest ih =>
      obtain ⟨name, binding⟩ := entry
      obtain ⟨⟨isName, plain⟩, others⟩ := List.forall_mem_cons.mp static
      obtain ⟨entries, resolved, named⟩ := ih others
      obtain ⟨value, own⟩ := plain.exists_resolve_eq_ok scope
      refine ⟨(name, value) :: entries, ?_, List.forall_mem_cons.mpr ⟨isName, named⟩⟩
      rw [resolveEach, own, resolved]
      rfl

namespace Node.Static

variable {components : Registry} {node : Node} (static : node.Static components)

include static

theorem exists_attributes (scope : Scope) :
    ∃ fields, Bindings.resolveOptional scope node.attributes = .ok fields ∧
      ∀ field ∈ fields, IsName field.1 := by
  have own := static.attributes
  cases given : node.attributes with
  | none => exact ⟨[], rfl, by simp⟩
  | some bindings =>
      rw [given] at own
      exact Bindings.exists_resolve_eq_ok own scope

theorem resolveElement (scope : Scope) : resolveElement scope node node = node.element := by
  rw [MarkupTree.resolveElement, static.elementPath]
  simp

theorem renderChildren {scope : Scope}
    (below : ∀ items, node.children = some (.nodes items) →
      ∃ markup, scope.deeper items scope.props = .ok markup ∧ Reads markup (itemsEvents items)) :
    ∃ markup, MarkupTree.renderChildren scope node = .ok markup ∧
      Reads markup (contentEvents node.children) := by
  have unbound : boundContent scope node = .ok "" := by
    rw [boundContent, static.childrenPath, static.childrenExpression]
  unfold MarkupTree.renderChildren
  cases given : node.children with
  | none => exact ⟨"", unbound, .empty⟩
  | some children =>
      cases children with
      | text content =>
          refine ⟨content, ?_, .text (static.text content given)⟩
          by_cases empty : content = ""
          · simp only [empty, if_true, unbound]
          · simp only [empty, if_false]
      | nodes items => exact below items given
      | call found => exact absurd given (static.call found)

theorem events_eq :
    node.events = Markup.enclosed node.element (contentEvents node.children) := by
  cases node
  rfl

end Node.Static

namespace Renderer

section

variable {renderer : Renderer} (acts : renderer.ActsOnFields)

include acts

theorem renderNode_reads {scope : Scope} {node : Node} (static : node.Static renderer.components)
    (below : ∀ items props, node.children = some (.nodes items) →
      ∃ markup, scope.deeper items props = .ok markup ∧ Reads markup (Node.itemsEvents items)) :
    ∃ markup, renderer.renderNode scope node = .ok markup ∧ Reads markup node.events := by
  have own : renderer.component? node = none := by
    cases named : node.element with
    | none => rw [component?, named]; rfl
    | some name =>
        rw [component?, named]
        exact (static.element name named).2.2
  have unnamed : node.element.filter isComponentName = none := by
    cases named : node.element with
    | none => rfl
    | some name => simp [Option.filter, (static.element name named).2.1]
  have inherits : nodeProps scope node = .ok scope.props := by
    rw [nodeProps, static.props]
  obtain ⟨fields, resolved, namedFields⟩ := static.exists_attributes (scope.withProps scope.props)
  have within : ∀ items, node.children = some (.nodes items) → ∃ markup,
      (scope.withProps scope.props).deeper items (scope.withProps scope.props).props = .ok markup ∧
        Reads markup (Node.itemsEvents items) := fun items => below items scope.props
  obtain ⟨content, rendered, reads⟩ := static.renderChildren within
  have unchanged : Extension.applyAll (scope.withProps scope.props) renderer.extensions node =
      .ok (.proceed node) :=
    Extension.applyAll_of_acts fun extension present => acts extension present _ node static.fields
  refine ⟨Html.compose node.element fields content none, ?_, ?_⟩
  · rw [renderNode, inherits]
    simp only [bind, Except.bind, own, unnamed]
    rw [renderElement, unchanged]
    simp only [bind, Except.bind, resolved, rendered, static.resolveElement, static.closing]
    rfl
  · rw [static.events_eq]
    cases named : node.element with
    | none => exact reads
    | some name => exact .element (static.element name named).1 namedFields reads

omit acts in
theorem mapM_reads {f : Node → Except Fault String} {nodes : List Node}
    (each : ∀ node ∈ nodes, ∃ markup, f node = .ok markup ∧ Reads markup node.events) :
    ∃ parts, nodes.mapM f = .ok parts ∧ Reads (String.join parts) (Node.itemsEvents nodes) := by
  induction nodes with
  | nil => exact ⟨[], rfl, .empty⟩
  | cons node rest ih =>
      obtain ⟨own, others⟩ := List.forall_mem_cons.mp each
      obtain ⟨markup, rendered, reads⟩ := own
      obtain ⟨parts, done, all⟩ := ih others
      refine ⟨markup :: parts, ?_, ?_⟩
      · rw [List.mapM_cons, rendered, done]
        rfl
      · rw [String.join_cons]
        exact reads.append all

theorem renderLevels_reads {levels : Nat} {nodes : List Node}
    (static : ∀ depth node, StandsAt node depth nodes →
      depth < levels ∧ node.Static renderer.components) (props : Value) :
    ∃ markup, renderer.renderLevels levels nodes props = .ok markup ∧
      Reads markup (Node.itemsEvents nodes) := by
  induction levels generalizing nodes props with
  | zero =>
      cases nodes with
      | nil => exact ⟨"", rfl, .empty⟩
      | cons node rest => exact absurd (static 0 node (.here List.mem_cons_self)).1 (Nat.lt_irrefl 0)
  | succ levels ih =>
      have each : ∀ node ∈ nodes, ∃ markup, renderer.renderNode (renderer.scope
          (renderer.renderLevels levels) (renderer.options.maxDepth - levels) props) node = .ok markup ∧
            Reads markup node.events := by
        intro node present
        refine renderNode_reads acts (static 0 node (.here present)).2 fun items inner content => ?_
        -- the nodes within stand a level deeper, where a level less is left
        refine ih (fun depth other inside => ?_) inner
        have within := static (depth + 1) other (.within present content inside)
        exact ⟨Nat.lt_of_succ_lt_succ within.1, within.2⟩
      obtain ⟨parts, done, reads⟩ := mapM_reads each
      refine ⟨String.join parts, ?_, reads⟩
      rw [renderLevels, done]
      rfl

/--
The markup of a static tree says what the tree says, in the order of the document: its elements open
and close around their content, each end tag closes the innermost element that is open, and adjacent
texts are one.
-/
theorem render_read_back {tree : Fragment}
    (static : ∀ depth node, StandsAt node depth tree.nodes →
      depth ≤ renderer.options.maxDepth ∧ node.Static renderer.components) (props : Value) :
    ∃ markup, renderer.render tree props = .ok markup ∧
      Markup.events? markup = some (Markup.merged (Node.itemsEvents tree.nodes)) ∧
      Markup.Separated (Markup.merged (Node.itemsEvents tree.nodes)) ∧
      Markup.Nested [] (Markup.merged (Node.itemsEvents tree.nodes)) := by
  obtain ⟨markup, rendered, reads⟩ := renderLevels_reads acts (fun depth node stands =>
    ⟨Nat.lt_succ_of_le (static depth node stands).1, (static depth node stands).2⟩) props
  refine ⟨markup, rendered, reads.events?, Markup.separated_mergedBehind [] _, ?_⟩
  exact Markup.nested_mergedBehind.mpr (Node.whole_itemsEvents tree.nodes).nested

end

def low : Renderer where
  extensions := Extension.canonical
  options := { maxDepth := 2 }

def baitedLink : Node where
  element := some "a"
  attributes := some [("title", .literal (.string "</a><b c=\"d\">")), ("alt", .literal (.string "")),
    ("hidden", .literal (.bool true)), ("download", .literal (.bool false))]
  children := some (.nodes [.ofText "2", { children := some (.nodes [.ofText " > 1"]) },
    .ofElement "br"])

theorem ofText_static {content : String} (free : '<' ∉ content.toList) :
    (Node.ofText content).Static low.components := by
  constructor
  case text =>
    rintro _ ⟨⟩
    exact free
  all_goals simp [Node.ofText]

theorem baitedLink_static {depth : Nat} {node : Node}
    (stands : StandsAt node depth [.ofText "1 > 0, ", baitedLink]) :
    depth ≤ low.options.maxDepth ∧ node.Static low.components := by
  have lower (name : String) : Fields.find? low.components name = none := rfl
  rcases depth with _ | _ | _ | depth
  · refine ⟨by decide, ?_⟩
    rcases List.mem_cons.mp (standsAt_zero.mp stands) with rfl | present
    · exact ofText_static (by decide +kernel)
    · obtain rfl := List.mem_singleton.mp present
      constructor
      case element =>
        rintro _ ⟨⟩
        exact ⟨by simp [IsName, Text.isBlank], by cbv, lower _⟩
      case attributes => simp [baitedLink, Binding.IsStatic, IsName, Text.isBlank]
      all_goals simp [baitedLink]
  · refine ⟨by decide, ?_⟩
    have among : node = .ofText "2" ∨ node = { children := some (.nodes [.ofText " > 1"]) } ∨
        node = .ofElement "br" := by
      simpa [standsAt_succ, standsAt_zero, baitedLink, Node.ofText] using stands
    rcases among with rfl | rfl | rfl
    · exact ofText_static (by decide +kernel)
    · constructor <;> simp
    · constructor
      case element =>
        rintro _ ⟨⟩
        exact ⟨by simp [IsName, Text.isBlank], by cbv, lower _⟩
      all_goals simp [Node.ofElement]
  · refine ⟨by decide, ?_⟩
    have only : node = .ofText " > 1" := by
      simpa [standsAt_succ, standsAt_zero, baitedLink, Node.ofText, Node.ofElement] using stands
    subst only
    exact ofText_static (by decide +kernel)
  · simp [standsAt_succ, baitedLink, Node.ofText, Node.ofElement] at stands

theorem baitedLink_read_back :
    low.ActsOnFields ∧
    (∀ depth node, StandsAt node depth [.ofText "1 > 0, ", baitedLink] →
      depth ≤ low.options.maxDepth ∧ node.Static low.components) ∧
    ∃ markup, low.render (.many [.ofText "1 > 0, ", baitedLink]) .null = .ok markup ∧
      Markup.events? markup = some [.text "1 > 0, ", .opens "a", .text "2 > 1", .opens "br",
        .closes "br", .closes "a"] ∧
      Markup.Nested [] [.text "1 > 0, ", .opens "a", .text "2 > 1", .opens "br", .closes "br",
        .closes "a"] := by
  have acts : low.ActsOnFields := (canonical_of_extensions rfl).actsOnFields
  have static (depth : Nat) (node : Node) := @baitedLink_static depth node
  have said : Markup.merged (Node.itemsEvents [.ofText "1 > 0, ", baitedLink]) =
      [.text "1 > 0, ", .opens "a", .text "2 > 1", .opens "br", .closes "br", .closes "a"] := by cbv
  obtain ⟨markup, rendered, read, _, nested⟩ := @render_read_back low acts (.many _) static .null
  exact ⟨acts, static, markup, rendered, read.trans (congrArg some said), said ▸ nested⟩

end Renderer

end MarkupTree
