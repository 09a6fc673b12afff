import MarkupTree.Proofs.Rendering.Inlining
import MarkupTree.Proofs.Rendering.Paths

/-!
Trees in which a path is written as an expression render alike, wherever the path stands: in the
tree itself, in the template of an iteration or in a component.
-/

namespace MarkupTree

theorem Fields.rel_find? {α β : Type} {near : α → β → Prop} {fields : Fields α} {others : Fields β}
    (related : List.Forall₂ (fun own other => own.1 = other.1 ∧ near own.2 other.2) fields others)
    (name : String) : Option.Rel near (find? fields name) (find? others name) := by
  induction related with
  | nil => exact .none
  | @cons own other rest others first _ ih =>
      obtain ⟨key, value⟩ := own
      obtain ⟨_, changed⟩ := other
      obtain ⟨rfl, alike⟩ := first
      simp only [find?, List.lookup_cons]
      split
      · exact .some alike
      · exact ih

/-- One path of a node is written as an expression of the same name, in the same place. -/
inductive Node.Respelled (path : String) : Node → Node → Prop
  | attributes (node : Node) (key : String) (before behind : Bindings) :
      Respelled path
        { node with
          attributes := some (before ++ Binding.classify ("__" ++ key) (.string path) :: behind) }
        { node with
          attributes := some (before ++ Binding.classify ("==" ++ key) (.string path) :: behind) }
  | props (node : Node) (key : String) (before behind : Bindings) :
      Respelled path
        { node with
          props := some (before ++ Binding.classify ("__" ++ key) (.string path) :: behind) }
        { node with
          props := some (before ++ Binding.classify ("==" ++ key) (.string path) :: behind) }
  | content (node : Node) :
      Respelled path { node with childrenPath := some path, childrenExpression := none }
        { node with childrenPath := none, childrenExpression := some path }
  | classes (node : Node) (before behind : Fields Value)
      (fresh : ∀ entry ∈ before ++ behind, entry.1 ≠ "__class" ∧ entry.1 ≠ "==class") :
      Respelled path { node with fields := before ++ ("__class", .string path) :: behind }
        { node with fields := before ++ ("==class", .string path) :: behind }

/-- At most one path below a list of nodes is written as an expression. -/
inductive RespelledIn (path : String) : List Node → List Node → Prop
  | same (items : List Node) : RespelledIn path items items
  | here (before behind : List Node) {node other : Node} (own : Node.Respelled path node other) :
      RespelledIn path (before ++ node :: behind) (before ++ other :: behind)
  | within {items others : List Node} (before behind : List Node) (node : Node)
      (inside : RespelledIn path items others) :
      RespelledIn path
        (before ++ { node with children := some (.nodes items) } :: behind)
        (before ++ { node with children := some (.nodes others) } :: behind)
  | template (before behind : List Node) (node : Node) (above below : Fields Value)
      (source : Value) {body other : Value} {fragment changed : Fragment}
      (read : Fragment.ofValue body = .ok fragment) (reread : Fragment.ofValue other = .ok changed)
      (inside : RespelledIn path fragment.nodes changed.nodes) :
      RespelledIn path
        (before ++ { node with
          fields := above ++ (Foreach.field, .array [source, body]) :: below } :: behind)
        (before ++ { node with
          fields := above ++ (Foreach.field, .array [source, other]) :: below } :: behind)

/-- Nodes that come to the same in every scope, whichever of them spells a path. -/
structure Node.Matches (path : String) (node other : Node) : Prop where
  element : node.element = other.element
  elementPath : node.elementPath = other.elementPath
  children : node.children = other.children
  closing : node.closing = other.closing
  props : ∀ scope, Renderer.nodeProps scope node = Renderer.nodeProps scope other
  content : ∀ scope, boundContent scope node = boundContent scope other
  attributes : Bindings.Same (node.attributes.getD []) (other.attributes.getD [])
  fields : Fields.ClassAlike path node.fields other.fields

theorem Node.Respelled.matches {path : String} (isPath : IsPath path) {node other : Node}
    (respelled : Node.Respelled path node other) : Node.Matches path node other := by
  have plain (node : Node) : Node.Matches path node node :=
    { element := rfl, elementPath := rfl, children := rfl, closing := rfl
      props := fun _ => rfl
      content := fun _ => rfl
      attributes := .refl _
      fields := .same _ }
  cases respelled with
  | attributes node key before behind =>
      exact { plain node with attributes := .respelled isPath key before behind }
  | props node key before behind =>
      refine { plain node with props := ?_ }
      intro scope
      have same := (Bindings.Same.respelled isPath key before behind).resolve scope
      simp only [Renderer.nodeProps, same]
  | content node =>
      refine { plain node with content := ?_ }
      intro scope
      simp only [boundContent, isPath.evaluateSoft]
      rfl
  | classes node before behind fresh =>
      exact { plain node with fields := .respelled before behind fresh }

namespace Node.Matches

variable {path : String} {node other : Node}

theorem setAttribute (alike : Node.Matches path node other) (name : String) (value : Value) :
    Node.Matches path (node.setAttribute name value) (other.setAttribute name value) :=
  { alike with attributes := alike.attributes.set name (.literal value) }

end Node.Matches

inductive Verdict.Matches (path : String) : Verdict → Verdict → Prop
  | proceed {node other : Node} (nodes : Node.Matches path node other) :
      Matches path (.proceed node) (.proceed other)
  | stop : Matches path .stop .stop

namespace Node.Matches

variable {path : String} {node other : Node}

theorem visibleIf (alike : Node.Matches path node other) (scope : Scope) :
    Agree .exact (Verdict.Matches path) (VisibleIf.apply scope node)
      (VisibleIf.apply scope other) := by
  have found : Fields.find? node.fields VisibleIf.field =
      Fields.find? other.fields VisibleIf.field := alike.fields.find? (by decide) (by decide)
  simp only [VisibleIf.apply, Node.field?, ← found]
  cases Fields.find? node.fields VisibleIf.field with
  | none => exact .values (.proceed alike)
  | some condition =>
      refine (Agree.same (scope.valueOf condition)).andThen ?_
      intro value
      split
      · have fields : Fields.ClassAlike path (Fields.erase node.fields VisibleIf.field)
            (Fields.erase other.fields VisibleIf.field) :=
          alike.fields.erase (by decide) (by decide)
        exact .values (.proceed { alike with fields := fields })
      · exact .values .stop

theorem foreach (alike : Node.Matches path node other) (scope : Scope) :
    Agree .exact (Verdict.Matches path) (Foreach.apply scope node) (Foreach.apply scope other) := by
  have found : Fields.find? node.fields Foreach.field = Fields.find? other.fields Foreach.field :=
    alike.fields.find? (by decide) (by decide)
  simp only [Foreach.apply, Node.field?, ← found]
  cases Fields.find? node.fields Foreach.field with
  | none => exact .values (.proceed alike)
  | some declaration =>
      have fields : Fields.ClassAlike path (Fields.erase node.fields Foreach.field)
          (Fields.erase other.fields Foreach.field) := alike.fields.erase (by decide) (by decide)
      exact (Agree.same _).andThen fun parts => (Agree.same _).andThen fun value =>
        (Agree.same _).andThen fun items => (Agree.same _).andThen fun fragment =>
        (Agree.same _).andThen fun contents => .values (.proceed
          { alike with children := rfl, fields := fields })

theorem classShortcut (isPath : IsPath path) (alike : Node.Matches path node other)
    (transform : Option String) (scope : Scope) :
    Agree .exact (Verdict.Matches path) (ClassShortcut.apply transform scope node)
      (ClassShortcut.apply transform scope other) := by
  have fields : Fields.ClassAlike path (ClassShortcut.withoutFields node).fields
      (ClassShortcut.withoutFields other).fields := by
    rw [alike.fields.withoutFields]
    exact .same _
  have bare : Node.Matches path (ClassShortcut.withoutFields node)
      (ClassShortcut.withoutFields other) := { alike with fields := fields }
  simp only [ClassShortcut.apply, ← alike.fields.classes isPath scope]
  refine (Agree.same _).andThen ?_
  intro found
  split
  · exact .values (.proceed bare)
  · refine (Agree.same _).andThen ?_
    intro expanded
    split
    · exact .values (.proceed bare)
    · exact .values (.proceed (bare.setAttribute "class" (.string expanded)))

theorem extension (isPath : IsPath path) (alike : Node.Matches path node other)
    {extension : Extension} (canonical : extension.IsCanonical) (scope : Scope) :
    Agree .exact (Verdict.Matches path) (extension.apply scope node)
      (extension.apply scope other) := by
  cases extension with
  | visibleIf => exact alike.visibleIf scope
  | classShortcut transform => exact alike.classShortcut isPath transform scope
  | foreach => exact alike.foreach scope
  | custom name change => exact False.elim canonical

theorem applyAll (isPath : IsPath path) (alike : Node.Matches path node other)
    {extensions : List Extension} (canonical : ∀ extension ∈ extensions, extension.IsCanonical)
    (scope : Scope) :
    Agree .exact (Verdict.Matches path) (Extension.applyAll scope extensions node)
      (Extension.applyAll scope extensions other) := by
  induction extensions generalizing node other with
  | nil => exact .values (.proceed alike)
  | cons first rest ih =>
      obtain ⟨own, others⟩ := List.forall_mem_cons.mp canonical
      refine (alike.extension isPath own scope).bind ?_
      intro verdict otherVerdict pair
      cases pair with
      | proceed nodes => exact ih nodes others
      | stop => exact .values .stop

theorem renderElement (isPath : IsPath path) (alike : Node.Matches path node other)
    {extensions : List Extension} (canonical : ∀ extension ∈ extensions, extension.IsCanonical)
    (scope : Scope) :
    Renderer.renderElement extensions scope node =
      Renderer.renderElement extensions scope other := by
  refine Agree.exact_iff.mp ((alike.applyAll isPath canonical scope).bind ?_)
  intro verdict otherVerdict pair
  cases pair with
  | stop => exact .ok ""
  | @proceed changed otherChanged nodes =>
      have element :
          resolveElement scope node changed = resolveElement scope other otherChanged := by
        simp only [resolveElement, alike.element, nodes.element, nodes.elementPath]
      have attributes : Bindings.resolveOptional scope changed.attributes =
          Bindings.resolveOptional scope otherChanged.attributes :=
        nodes.attributes.resolveOptional scope
      have content : renderChildren scope changed = renderChildren scope otherChanged := by
        simp only [renderChildren, nodes.children, nodes.content]
      simp only [element, attributes, content, nodes.closing]
      exact .same _

theorem renderNode (isPath : IsPath path) (alike : Node.Matches path node other)
    {renderer : Renderer} (canonical : renderer.Canonical) (scope : Scope) :
    renderer.renderNode scope node = renderer.renderNode scope other := by
  have element (inner : Scope) := alike.renderElement isPath canonical inner
  simp only [Renderer.renderNode, Renderer.component?, alike.props, alike.element, element]

end Node.Matches

namespace Renderer

variable {renderer : Renderer} {path : String}

/-- A path may be written as an expression in the nodes at hand, and in each component. -/
theorem renderLevels_respelled (canonical : renderer.Canonical) (isPath : IsPath path)
    {components : Registry}
    (related : List.Forall₂ (fun own other => own.1 = other.1 ∧
      RespelledIn path own.2.nodes other.2.nodes) renderer.components components)
    (levels : Nat) {items others : List Node} (respelled : RespelledIn path items others)
    (props : Value) :
    renderer.renderLevels levels items props =
      { renderer with components := components }.renderLevels levels others props := by
  induction levels generalizing items others props with
  | zero =>
      cases respelled with
      | same => cases items <;> rfl
      | here before behind own =>
          cases before with
          | nil =>
              -- The fault of the limit names the element, and nothing else of a node.
              have element := (own.matches isPath).element
              simp only [List.nil_append, renderLevels, element]
          | cons first before => rfl
      | within before => cases before <;> rfl
      | template before => cases before <;> rfl
  | succ levels ih =>
      let changed := { renderer with components := components }
      have scopes (depth : Nat) : Scope.Alike .exact (RespelledIn path)
          (renderer.scope (renderer.renderLevels levels) depth props)
          (renderer.scope (changed.renderLevels levels) depth props) :=
        { context := rfl, utilities := rfl, props := rfl
          missing := fun _ _ => Tolerance.covers_exact _
          itself := .same
          deeper := fun near inner => Agree.exact_iff.mpr (ih near inner) }
      have one (depth : Nat) {node other : Node} (near : Node.Alike (RespelledIn path) node other) :
          Agree .exact Eq
            (renderer.renderNode (renderer.scope (renderer.renderLevels levels) depth props) node)
            (changed.renderNode (renderer.scope (changed.renderLevels levels) depth props) other) :=
        (scopes depth).renderNode_of_components (fun fault _ => Tolerance.covers_exact fault)
          canonical rfl (Fields.rel_find? related) near
      have unchanged (depth : Nat) (nodes : List Node) : List.Forall₂ (fun node other =>
          Agree .exact Eq
            (renderer.renderNode (renderer.scope (renderer.renderLevels levels) depth props) node)
            (changed.renderNode (renderer.scope (changed.renderLevels levels) depth props) other))
          nodes nodes :=
        List.forall₂_same.mpr fun node _ => one depth (.refl _ node)
      refine Agree.exact_iff.mp (Agree.andThen (.mapM ?_) fun parts => .ok _)
      cases respelled with
      | same => exact unchanged _ items
      | @here before behind node other own =>
          refine List.rel_append (unchanged _ before) (.cons ?_ (unchanged _ behind))
          -- In one scope the two nodes render alike, so only the scopes are left to compare.
          have equal (scope : Scope) :
              changed.renderNode scope node = changed.renderNode scope other :=
            (own.matches isPath).renderNode isPath (show changed.Canonical from canonical) scope
          have alike := one (renderer.options.maxDepth - levels) (.refl _ node)
          rwa [equal] at alike
      | within before behind node inside =>
          exact List.rel_append (unchanged _ before)
            (.cons (one _ (.of node (.nodes inside) (.same node.fields))) (unchanged _ behind))
      | template before behind node above below source read reread inside =>
          exact List.rel_append (unchanged _ before)
            (.cons (one _ (.of node (.same node.children)
              (.template above below source read reread inside))) (unchanged _ behind))

/--
A path that is an expression, too, has its value in every scope. So any path that a node gives for
an attribute, a prop, its content or its class may be written as an expression: the node renders
alike in every scope, and so does the tree if the node stands in it, in the template of an iteration
or in a component.
-/
theorem render_respelled {path : String} (isPath : IsPath path) :
    (∀ scope : Scope, scope.evaluate path = .ok (scope.lookup path)) ∧
    ∀ renderer : Renderer, renderer.Canonical →
      (∀ node other, Node.Respelled path node other →
        ∀ scope, renderer.renderNode scope other = renderer.renderNode scope node) ∧
      ∀ components : Registry,
        List.Forall₂ (fun own other => own.1 = other.1 ∧
          RespelledIn path own.2.nodes other.2.nodes) renderer.components components →
        ∀ tree other : Fragment, RespelledIn path tree.nodes other.nodes →
          ∀ props,
            { renderer with components }.render other props = renderer.render tree props := by
  refine ⟨isPath.evaluate, ?_⟩
  intro renderer canonical
  constructor
  · intro node other own scope
    exact ((own.matches isPath).renderNode isPath canonical scope).symm
  · intro components related tree other respelled props
    exact (renderLevels_respelled canonical isPath related _ respelled props).symm

def crew : Renderer where
  extensions := Extension.canonical
  context := .object [("people", .array [.object [("name", .string "Ann")]])]

def roster (key : String) : Fragment :=
  .one { element := some "ul", fields := [(Foreach.field, .array [.string "people",
    .object [("element", .string "li"), (key, .string "value.name")]])] }

theorem roster_respelled :
    IsPath "value.name" ∧ crew.Canonical ∧
      RespelledIn "value.name" (roster "__children").nodes (roster "==children").nodes ∧
      crew.render (roster "==children") .null = .ok "<ul><li>Ann</li></ul>" := by
  have isPath : IsPath "value.name" := by
    refine ⟨"value", ["name"], ⟨by decide, by decide, ?_, by decide⟩, by decide, by decide⟩
    rintro ((_ | _) | _ | _) <;> decide
  have canonical : crew.Canonical := canonical_of_extensions rfl
  have read : Fragment.ofValue (.object [("element", .string "li"),
      ("__children", .string "value.name")]) =
      .ok (.one { element := some "li", childrenPath := some "value.name" }) := by cbv
  have reread : Fragment.ofValue (.object [("element", .string "li"),
      ("==children", .string "value.name")]) =
      .ok (.one { element := some "li", childrenExpression := some "value.name" }) := by cbv
  have respelled : RespelledIn "value.name" (roster "__children").nodes
      (roster "==children").nodes :=
    .template [] [] { element := some "ul" } [] [] (.string "people") read reread
      (.here [] [] (.content { element := some "li" }))
  have rendered : crew.render (roster "__children") .null = .ok "<ul><li>Ann</li></ul>" := by cbv
  refine ⟨isPath, canonical, respelled, ?_⟩
  have same := ((render_respelled isPath).2 crew canonical).2 [] .nil _ _ respelled .null
  exact same.trans rendered

end Renderer

end MarkupTree
