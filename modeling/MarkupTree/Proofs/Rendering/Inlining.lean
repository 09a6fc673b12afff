import Mathlib
import MarkupTree.Proofs.Extensions.Ownership

/-!
Components are inlined: a node that asks for a component renders like a node without an element that
has its props and, as children, the nodes of the component.
-/

namespace MarkupTree

/-- The second tree is the first with `new` in place of one `old`, so many levels below its top. -/
inductive ReplacedAt (old new : Node) : Nat → List Node → List Node → Prop
  | here (before behind : List Node) :
      ReplacedAt old new 0 (before ++ old :: behind) (before ++ new :: behind)
  | within {depth : Nat} {items others : List Node} (before behind : List Node) (node : Node)
      (inside : ReplacedAt old new depth items others) :
      ReplacedAt old new (depth + 1)
        (before ++ { node with children := some (.nodes items) } :: behind)
        (before ++ { node with children := some (.nodes others) } :: behind)

def Node.inlined (node : Node) (definition : Fragment) : Node :=
  { props := node.props, children := some (.nodes definition.nodes) }

namespace Extension

theorem apply_of_no_fields {extension : Extension} (canonical : extension.IsCanonical)
    (scope : Scope) {node : Node} (bare : node.fields = []) :
    extension.apply scope node = .ok (.proceed node) := by
  apply apply_of_absent canonical
  intro name _
  rw [Node.field?, bare]
  rfl

theorem applyAll_of_no_fields {extensions : List Extension}
    (canonical : ∀ extension ∈ extensions, extension.IsCanonical) (scope : Scope) {node : Node}
    (bare : node.fields = []) : applyAll scope extensions node = .ok (.proceed node) :=
  applyAll_of_acts fun extension present => apply_of_no_fields (canonical extension present) scope bare

end Extension

namespace Renderer

variable {renderer : Renderer}

theorem renderNode_inlined (canonical : renderer.Canonical) {node : Node} {definition : Fragment}
    (registered : renderer.component? node = some definition) (scope : Scope) :
    renderer.renderNode scope (node.inlined definition) = renderer.renderNode scope node := by
  have props : nodeProps scope (node.inlined definition) = nodeProps scope node := rfl
  have bare : (node.inlined definition).fields = [] := rfl
  have unnamed : renderer.component? (node.inlined definition) = none := rfl
  unfold renderNode
  rw [props, registered, unnamed]
  congr 1
  funext value
  have content (inner : Scope) :
      renderElement renderer.extensions inner (node.inlined definition) =
        inner.deeper definition.nodes inner.props := by
    rw [renderElement, Extension.applyAll_of_no_fields canonical _ bare]
    exact bind_pure (inner.deeper definition.nodes inner.props)
  exact content _

def renamed (renderer : Renderer) (old new : Node) (reached : Prop) : Tolerance Fault where
  frees _ := False
  pairs fault other := fault = other ∨
    reached ∧ fault = .recursionLimit renderer.options.maxDepth old.element ∧
      other = .recursionLimit renderer.options.maxDepth new.element

theorem renderLevels_replaced (canonical : renderer.Canonical) {old new : Node}
    (same : ∀ scope, renderer.renderNode scope new = renderer.renderNode scope old)
    (reached : Prop) {levels depth : Nat} (limit : depth = levels → reached)
    {items others : List Node} (replaced : ReplacedAt old new depth items others) (props : Value) :
    Agree (renderer.renamed old new reached) Eq (renderer.renderLevels levels items props)
      (renderer.renderLevels levels others props) := by
  have covers (fault : Fault) : (renderer.renamed old new reached).Covers fault := .inr (.inl rfl)
  have refl {α : Type} (result : Except Fault α) :
      Agree (renderer.renamed old new reached) Eq result result := .refl covers result
  induction levels generalizing depth items others props with
  | zero =>
      cases replaced with
      | here before behind =>
          cases before with
          | nil => exact .paired (.inr ⟨limit rfl, rfl, rfl⟩)
          | cons first before => exact refl _
      | within before behind node inside => cases before <;> exact refl _
  | succ levels ih =>
      refine Agree.andThen (.mapM ?_) fun parts => .ok _
      have unchanged (scope : Scope) (nodes : List Node) :
          List.Forall₂ (fun a b => Agree (renderer.renamed old new reached) Eq
            (renderer.renderNode scope a) (renderer.renderNode scope b)) nodes nodes :=
        List.forall₂_same.mpr fun _ _ => refl _
      cases replaced with
      | here before behind =>
          refine List.rel_append (unchanged _ before) (.cons ?_ (unchanged _ behind))
          rw [same]
          exact refl _
      | @within depth inner otherInner before behind node inside =>
          refine List.rel_append (unchanged _ before) (.cons ?_ (unchanged _ behind))
          have alike (level : Nat) : Scope.Alike (renderer.renamed old new reached)
              (fun a b => a = b ∨ ReplacedAt old new depth a b)
              (renderer.scope (renderer.renderLevels levels) level props)
              (renderer.scope (renderer.renderLevels levels) level props) := by
            refine
              { context := rfl, utilities := rfl, props := rfl
                missing := fun _ _ => covers _
                itself := fun _ => .inl rfl
                deeper := ?_ }
            intro a b near props
            rcases near with equal | replaced
            · subst equal
              exact refl _
            · exact ih (fun level => limit (congrArg _ level)) replaced props
          exact (alike _).renderNode (fun fault _ => covers fault) canonical
            (.of node (.nodes (.inr inside)) (.same node.fields))

/-- Renders before and after a node is replaced by one that renders alike in every scope. -/
theorem render_replaced (canonical : renderer.Canonical) {old new : Node}
    (same : ∀ scope, renderer.renderNode scope new = renderer.renderNode scope old)
    {depth : Nat} {tree other : Fragment}
    (replaced : ReplacedAt old new depth tree.nodes other.nodes) (props : Value) :
    renderer.render other props = renderer.render tree props ∨
      depth = renderer.options.maxDepth + 1 ∧
        renderer.render tree props =
          .error (.recursionLimit renderer.options.maxDepth old.element) ∧
        renderer.render other props =
          .error (.recursionLimit renderer.options.maxDepth new.element) := by
  have agree := renderLevels_replaced canonical same (depth = renderer.options.maxDepth + 1) id
    replaced props
  change Agree _ Eq (renderer.render tree props) (renderer.render other props) at agree
  generalize renderer.render tree props = first at agree ⊢
  generalize renderer.render other props = second at agree ⊢
  cases agree with
  | values equal => exact .inl (by rw [equal])
  | freed frees => exact False.elim frees
  | paired pairs =>
      rcases pairs with equal | ⟨reached, first, second⟩
      · exact .inl (by rw [equal])
      · exact .inr ⟨reached, by rw [first], by rw [second]⟩

/-- A node that asks for a component may be replaced by the content of the component, wherever it
stands; only the fault of a depth limit that is hit by this very node names another element. All
that the node has besides its element and its props counts for nothing. -/
theorem render_inlined (canonical : renderer.Canonical) {node : Node} {name : String}
    {definition : Fragment} (asks : node.element = some name)
    (registered : Fields.find? renderer.components name = some definition) (depth : Nat)
    (tree : Fragment) (props : Value) :
    (∀ inlined : Fragment,
      ReplacedAt node (node.inlined definition) depth tree.nodes inlined.nodes →
      renderer.render inlined props = renderer.render tree props ∨
        depth = renderer.options.maxDepth + 1 ∧
          renderer.render tree props =
            .error (.recursionLimit renderer.options.maxDepth (some name)) ∧
          renderer.render inlined props =
            .error (.recursionLimit renderer.options.maxDepth none)) ∧
      ∀ (other : Node) (changed : Fragment), other.element = node.element →
        other.props = node.props → ReplacedAt node other depth tree.nodes changed.nodes →
        renderer.render changed props = renderer.render tree props := by
  have found (other : Node) (element : other.element = node.element) :
      renderer.component? other = some definition := by
    rw [component?, element, asks]
    exact registered
  constructor
  · intro inlined replaced
    have result := render_replaced canonical (renderNode_inlined canonical (found node rfl))
      replaced props
    rw [asks] at result
    exact result
  · intro other changed element own replaced
    have same (scope : Scope) : renderer.renderNode scope other = renderer.renderNode scope node := by
      simp only [renderNode, nodeProps, own, found node rfl, found other element]
    rcases render_replaced canonical same replaced props with equal | ⟨_, first, second⟩
    · exact equal
    · rw [first, second, element]

def gallery : Renderer where
  components := [("Card", .many [.ofText "No. ", { element := some "b", childrenPath := some "n" }])]
  extensions := Extension.canonical

def crowdedCard : Node where
  element := some "Card"
  attributes := some [("title", .expression "1 +")]
  props := some [("n", .literal (.string "7"))]
  children := some (.text "lost")
  fields := [("visibleIf", .bool false), ("foreach", .null)]

def galleryPage (card : Node) : Fragment :=
  .one { element := some "main", children := some (.nodes [.ofText "First: ", card]) }

theorem crowdedCard_inlined :
    gallery.Canonical ∧ crowdedCard.element = some "Card" ∧
      ∃ definition, Fields.find? gallery.components "Card" = some definition ∧
        ReplacedAt crowdedCard (crowdedCard.inlined definition) 1
          (galleryPage crowdedCard).nodes (galleryPage (crowdedCard.inlined definition)).nodes ∧
        gallery.render (galleryPage (crowdedCard.inlined definition)) .null =
          .ok "<main>First: No. <b>7</b></main>" := by
  have canonical : gallery.Canonical := by
    simp [Canonical, gallery, Extension.canonical, Extension.IsCanonical]
  have rendered : gallery.render (galleryPage crowdedCard) .null =
      .ok "<main>First: No. <b>7</b></main>" := by cbv
  have replaced (other : Node) :
      ReplacedAt crowdedCard other 1 (galleryPage crowdedCard).nodes (galleryPage other).nodes :=
    .within [] [] { element := some "main" } (.here [.ofText "First: "] [])
  refine ⟨canonical, rfl, _, rfl, replaced _, ?_⟩
  have asks : crowdedCard.element = some "Card" := rfl
  have result := (render_inlined canonical asks rfl 1 (galleryPage crowdedCard) .null).1 _
    (replaced _)
  rcases result with equal | ⟨deep, _⟩
  · rw [equal, rendered]
  · exact absurd deep (by decide)

end Renderer

end MarkupTree
