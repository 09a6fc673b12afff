import Mathlib
import MarkupTree.Proofs.Rendering.Calls
import MarkupTree.Proofs.Rendering.Faults

/-!
Renders with sound settings: no element asks for a component, every call names known utilities, and
no expression renders. Whatever becomes of the bindings of a tree, nothing ends such a render but the
depth limit, and this does so exactly if a node stands below it.
-/

namespace MarkupTree

/-- A node stands in a tree, so many levels below its top. -/
inductive StandsAt (node : Node) : Nat → List Node → Prop
  | here {nodes : List Node} (present : node ∈ nodes) : StandsAt node 0 nodes
  | within {depth : Nat} {nodes items : List Node} {parent : Node} (present : parent ∈ nodes)
      (content : parent.children = some (.nodes items)) (inside : StandsAt node depth items) :
      StandsAt node (depth + 1) nodes

theorem standsAt_zero {node : Node} {nodes : List Node} : StandsAt node 0 nodes ↔ node ∈ nodes where
  mp stands := by
    cases stands with
    | here present => exact present
  mpr := .here

theorem standsAt_succ {node : Node} {depth : Nat} {nodes : List Node} :
    StandsAt node (depth + 1) nodes ↔ ∃ parent ∈ nodes, ∃ items,
      parent.children = some (.nodes items) ∧ StandsAt node depth items where
  mp stands := by
    cases stands with
    | within present content inside => exact ⟨_, present, _, content, inside⟩
  mpr := by
    rintro ⟨parent, present, items, content, inside⟩
    exact .within present content inside

/-- No call of `render` stands in the expression that a source spells, if it spells one. -/
def RendersNothing (source : String) : Prop :=
  ∀ expr, parse source = .ok expr → expr.callsRender = false

theorem rendersNothing_iff {source : String} :
    RendersNothing source ↔ (parse source).map Expr.callsRender ≠ .ok true := by
  unfold RendersNothing
  cases parse source <;> simp [Except.map]

def Binding.Configured (utilities : Utilities) : Binding → Prop
  | .literal _ | .path _ => True
  | .expression source => RendersNothing source
  | .call found => found.Registered utilities

/-- A node that has no component for an element, and asks for nothing that is not there. -/
structure Node.Configured (utilities : Utilities) (node : Node) : Prop where
  element : ∀ name, node.element = some name → isComponentName name = false
  attributes : ∀ entry ∈ node.attributes.getD [], entry.2.Configured utilities
  props : ∀ entry ∈ node.props.getD [], entry.2.Configured utilities
  call : ∀ call, node.children = some (.call call) → call.Registered utilities
  expression : ∀ source, node.childrenExpression = some source → RendersNothing source

/-- A renderer without components and without extensions. -/
structure Renderer.IsBare (renderer : Renderer) : Prop where
  components : renderer.components = []
  extensions : renderer.extensions = []

section Parts

variable {kind : Fault → Prop} {scope : Scope}

/-! None of these fails, so they fail in any way that one may ask for. -/

theorem Scope.applyCall_failsOnly {call : Call} (registered : call.Registered scope.utilities) :
    FailsOnly kind (scope.applyCall call) := by
  obtain ⟨value, applied⟩ := exists_applyCall_eq_ok registered
  rw [applied]
  exact .ok value

theorem RendersNothing.evaluateSoft {source : String} (plain : RendersNothing source) :
    FailsOnly kind (scope.evaluateSoft source) := by
  refine scope.evaluateSoft_failsOnly_of_permits fun expr parsed renders => ?_
  rw [plain expr parsed] at renders
  cases renders

theorem Binding.Configured.resolve {binding : Binding}
    (configured : binding.Configured scope.utilities) : FailsOnly kind (binding.resolve scope) := by
  cases binding with
  | literal value => cases value <;> exact .ok _
  | path dotted => exact .ok _
  | expression source => exact (RendersNothing.evaluateSoft configured).map present
  | call found => exact (Scope.applyCall_failsOnly configured).map present

theorem Bindings.resolve_failsOnly {bindings : Bindings}
    (configured : ∀ entry ∈ bindings, entry.2.Configured scope.utilities) :
    FailsOnly kind (bindings.resolve scope) := by
  refine FailsOnly.map ?_ Fields.collect
  induction bindings with
  | nil => exact .ok []
  | cons entry rest ih =>
      obtain ⟨own, others⟩ := List.forall_mem_cons.mp configured
      rw [resolveEach]
      refine own.resolve.bind fun value => (ih others).bind fun fields => ?_
      cases value <;> exact .ok _

namespace Node.Configured

variable {node : Node}

theorem nodeProps (configured : node.Configured scope.utilities) :
    FailsOnly kind (Renderer.nodeProps scope node) := by
  have own := configured.props
  unfold Renderer.nodeProps
  split
  · rename_i bindings given
    rw [given] at own
    exact (Bindings.resolve_failsOnly own).map Value.object
  · exact .ok _

theorem attributes_resolve (configured : node.Configured scope.utilities) :
    FailsOnly kind (Bindings.resolveOptional scope node.attributes) := by
  have own := configured.attributes
  cases given : node.attributes with
  | none => exact .ok []
  | some bindings =>
      rw [given] at own
      exact Bindings.resolve_failsOnly own

theorem boundContent (configured : node.Configured scope.utilities) :
    FailsOnly kind (MarkupTree.boundContent scope node) := by
  unfold MarkupTree.boundContent
  split
  · exact .ok _
  · rename_i source _ given
    exact (configured.expression source given).evaluateSoft.map contentText
  · exact .ok _

theorem renderChildren (configured : node.Configured scope.utilities)
    (below : ∀ items, node.children = some (.nodes items) →
      FailsOnly kind (scope.deeper items scope.props)) :
    FailsOnly kind (MarkupTree.renderChildren scope node) := by
  unfold MarkupTree.renderChildren
  split
  · split
    · exact configured.boundContent
    · exact .ok _
  · rename_i items given
    exact below items given
  · rename_i call given
    exact (Scope.applyCall_failsOnly (configured.call call given)).map contentText
  · exact configured.boundContent

end Node.Configured

end Parts

namespace Renderer

variable {renderer : Renderer}

namespace IsBare

theorem component? (bare : renderer.IsBare) (node : Node) : renderer.component? node = none := by
  rw [Renderer.component?, bare.components]
  cases node.element <;> rfl

theorem renderElement (bare : renderer.IsBare) (scope : Scope) (node : Node) :
    Renderer.renderElement renderer.extensions scope node = do
      let attributes ← Bindings.resolveOptional scope node.attributes
      let content ← renderChildren scope node
      return Html.compose (resolveElement scope node node) attributes content node.closing := by
  rw [bare.extensions]
  rfl

theorem renderNode_failsOnly {kind : Fault → Prop} (bare : renderer.IsBare) {scope : Scope}
    {node : Node} (configured : node.Configured scope.utilities)
    (below : ∀ items props, node.children = some (.nodes items) →
      FailsOnly kind (scope.deeper items props)) :
    FailsOnly kind (renderer.renderNode scope node) := by
  have unnamed : node.element.filter isComponentName = none := by
    cases named : node.element with
    | none => rfl
    | some name => simp [Option.filter, configured.element name named]
  unfold renderNode
  rw [bare.component?, unnamed]
  refine configured.nodeProps.bind fun props => ?_
  have inner : node.Configured (scope.withProps props).utilities := configured
  dsimp only
  rw [bare.renderElement]
  exact inner.attributes_resolve.bind fun attributes =>
    (inner.renderChildren fun items => below items props).bind fun content => .ok _

theorem deeper_eq_ok (bare : renderer.IsBare) {scope : Scope} {node : Node} {items : List Node}
    (content : node.children = some (.nodes items)) {markup : String}
    (rendered : renderer.renderNode scope node = .ok markup) :
    ∃ props inner, scope.deeper items props = .ok inner := by
  unfold renderNode at rendered
  rw [bare.component?] at rendered
  obtain ⟨props, _, rendered⟩ := exists_of_bind_eq_ok rendered
  dsimp only at rendered
  split at rendered
  · cases rendered
  · rw [bare.renderElement] at rendered
    obtain ⟨attributes, _, rendered⟩ := exists_of_bind_eq_ok rendered
    obtain ⟨inner, below, _⟩ := exists_of_bind_eq_ok rendered
    simp only [renderChildren, content] at below
    exact ⟨props, inner, below⟩

theorem renderLevels_failsOnly (bare : renderer.IsBare) {levels : Nat} {nodes : List Node}
    (configured : ∀ depth node, StandsAt node depth nodes → node.Configured renderer.utilities)
    (props : Value) :
    FailsOnly (fun fault => ∃ node, StandsAt node levels nodes ∧
        fault = .recursionLimit renderer.options.maxDepth node.element)
      (renderer.renderLevels levels nodes props) := by
  induction levels generalizing nodes props with
  | zero =>
      cases nodes with
      | nil => exact .ok ""
      | cons node rest => exact .error ⟨node, .here List.mem_cons_self, rfl⟩
  | succ levels ih =>
      refine FailsOnly.bind (.mapM fun node present => ?_) fun parts => .ok _
      refine bare.renderNode_failsOnly (configured 0 node (.here present)) ?_
      intro items inner content
      have below := ih (fun depth other inside =>
        configured (depth + 1) other (.within present content inside)) inner
      exact below.mono fun fault ⟨other, inside, same⟩ =>
        ⟨other, .within present content inside, same⟩

theorem lt_of_renderLevels_eq_ok (bare : renderer.IsBare) {levels : Nat} {nodes : List Node}
    {props : Value} {markup : String} (rendered : renderer.renderLevels levels nodes props = .ok markup)
    {depth : Nat} {node : Node} (stands : StandsAt node depth nodes) : depth < levels := by
  induction levels generalizing nodes props markup depth with
  | zero =>
      cases nodes with
      | nil =>
          cases stands with
          | here present => cases present
          | within present content inside => cases present
      | cons first rest => cases rendered
  | succ levels ih =>
      obtain ⟨parts, done, _⟩ := exists_of_bind_eq_ok rendered
      cases stands with
      | here present => exact Nat.succ_pos levels
      | within present content inside =>
          obtain ⟨part, own⟩ := exists_of_mapM_eq_ok done _ present
          obtain ⟨inner, below, deeper⟩ := bare.deeper_eq_ok content own
          exact Nat.succ_lt_succ (ih deeper inside)

end IsBare

/--
With sound settings a render gives markup exactly if every node stands within the depth limit, and
otherwise the fault of the limit: no path that leads nowhere, no expression that is ill formed or ill
typed and no utility that fails can end it.
-/
theorem render_eq_ok_iff_of_configured (bare : renderer.IsBare) {tree : Fragment}
    (configured : ∀ depth node, StandsAt node depth tree.nodes →
      node.Configured renderer.utilities) (props : Value) :
    ((∃ markup, renderer.render tree props = .ok markup) ↔
      ∀ depth node, StandsAt node depth tree.nodes → depth ≤ renderer.options.maxDepth) ∧
    (¬ (∀ depth node, StandsAt node depth tree.nodes → depth ≤ renderer.options.maxDepth) →
      ∃ node, StandsAt node (renderer.options.maxDepth + 1) tree.nodes ∧
        renderer.render tree props =
          .error (.recursionLimit renderer.options.maxDepth node.element)) := by
  have fails : FailsOnly _ (renderer.render tree props) :=
    bare.renderLevels_failsOnly configured props
  have within {markup : String} (rendered : renderer.render tree props = .ok markup) :
      ∀ depth node, StandsAt node depth tree.nodes → depth ≤ renderer.options.maxDepth :=
    fun depth node stands => Nat.lt_succ_iff.mp (bare.lt_of_renderLevels_eq_ok rendered stands)
  cases rendered : renderer.render tree props with
  | ok markup => exact ⟨⟨fun _ => within rendered, fun _ => ⟨markup, rfl⟩⟩,
      fun deep => absurd (within rendered) deep⟩
  | error fault =>
      obtain ⟨node, stands, rfl⟩ := fails fault rendered
      have deep : ¬ ∀ depth node, StandsAt node depth tree.nodes →
          depth ≤ renderer.options.maxDepth :=
        fun all => Nat.not_succ_le_self _ (all _ node stands)
      exact ⟨⟨by rintro ⟨_, ⟨⟩⟩, fun all => absurd all deep⟩, fun _ => ⟨node, stands, rfl⟩⟩

def flat : Renderer where
  utilities := [("stamp", fun _ _ => .error "no ink")]
  options := { maxDepth := 1 }

def brokenItem (content : Option Children) : Node where
  element := some "li"
  attributes := some [("title", .expression "list -"), ("id", .path "missing.id"),
    ("date", .call ⟨"stamp", [.object [("utility", .string "stamp")]]⟩)]
  props := some [("n", .expression "-list(n)")]
  children := content
  childrenExpression := some "n / null"

def brokenList (content : Option Children) : Fragment :=
  .one { element := some "ul", children := some (.nodes [brokenItem content]) }

theorem brokenItem_configured {content : Option Children}
    (called : ∀ call, content = some (.call call) → call.Registered flat.utilities) :
    (brokenItem content).Configured flat.utilities := by
  have inner : (Call.mk "stamp" []).Registered flat.utilities := .of rfl (by simp)
  have nested : (Call.mk "stamp" [.object [("utility", .string "stamp")]]).Registered
      flat.utilities := by
    refine .of rfl ?_
    rintro parameter given call found
    obtain rfl := List.mem_singleton.mp given
    cases found
    exact inner
  have unfinished : (parse "list -").map Expr.callsRender = .error (.unexpectedEnd 6) := by cbv
  have calling : (parse "-list(n)").map Expr.callsRender = .ok false := by cbv
  have divided : (parse "n / null").map Expr.callsRender = .ok false := by cbv
  have lower : isComponentName "li" = false := by cbv
  constructor
  case call => exact called
  all_goals simp [brokenItem, lower, Binding.Configured, rendersNothing_iff, nested, unfinished,
    calling, divided]

theorem brokenList_configured (content : Option Children)
    (called : ∀ call, content = some (.call call) → call.Registered flat.utilities)
    (inner : ∀ items depth node, content = some (.nodes items) → StandsAt node depth items →
      node.Configured flat.utilities) :
    ∀ depth node, StandsAt node depth (brokenList content).nodes →
      node.Configured flat.utilities := by
  have lower : isComponentName "ul" = false := by cbv
  intro depth node stands
  cases stands with
  | here present =>
      obtain rfl := List.mem_singleton.mp present
      constructor <;> simp [lower]
  | within present items inside =>
      obtain rfl := List.mem_singleton.mp present
      cases items
      cases inside with
      | here present =>
          obtain rfl := List.mem_singleton.mp present
          exact brokenItem_configured called
      | within present given inside =>
          obtain rfl := List.mem_singleton.mp present
          exact inner _ _ _ given inside

theorem brokenList_ends_at_limit :
    (∃ markup, flat.render (brokenList none) .null = .ok markup) ∧
      flat.render (brokenList (some (.nodes [.ofText "deep"]))) .null =
        .error (.recursionLimit 1 none) := by
  have bare : flat.IsBare := ⟨rfl, rfl⟩
  constructor
  · have configured := brokenList_configured none (by simp) (by simp)
    refine (render_eq_ok_iff_of_configured bare configured .null).1.mpr fun depth node stands => ?_
    change depth ≤ 1
    rcases depth with _ | _ | depth
    · exact Nat.zero_le 1
    · exact Nat.le_refl 1
    · simp [standsAt_succ, brokenList, brokenItem, Fragment.nodes] at stands
  · have configured := brokenList_configured (some (.nodes [.ofText "deep"])) (by simp) (by
      intro items depth node given stands
      cases given
      rcases depth with _ | depth
      · obtain rfl := List.mem_singleton.mp (standsAt_zero.mp stands)
        constructor <;> simp [Node.ofText]
      · simp [standsAt_succ, Node.ofText] at stands)
    have stands {node : Node} : StandsAt node 2 (brokenList (some (.nodes [.ofText "deep"]))).nodes ↔
        node = .ofText "deep" := by
      simp [standsAt_succ, standsAt_zero, brokenList, brokenItem, Fragment.nodes]
    obtain ⟨node, deep, failed⟩ := (render_eq_ok_iff_of_configured bare configured .null).2
      fun all => absurd (all 2 _ (stands.mpr rfl)) (Nat.not_succ_le_self 1)
    obtain rfl := stands.mp deep
    exact failed

end Renderer

end MarkupTree
