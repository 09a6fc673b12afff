import MarkupTree.Proofs.Rendering.Evaluation

/-!
Nodes in two scopes that see the same data. No extension of the library looks at the children of a
node, and an iteration does no more with its template than to render it, so two nodes that differ
only in related children and templates go through the same steps up to the places where these are
rendered.
-/

namespace MarkupTree

def Extension.IsCanonical : Extension → Prop
  | .custom _ _ => False
  | _ => True

def Renderer.Canonical (renderer : Renderer) : Prop :=
  ∀ extension ∈ renderer.extensions, extension.IsCanonical

theorem Renderer.canonical_of_extensions {renderer : Renderer}
    (standard : renderer.extensions = Extension.canonical) : renderer.Canonical := by
  simp [Canonical, standard, Extension.canonical, Extension.IsCanonical]

inductive Renderer.Raises (renderer : Renderer) : Fault → Prop
  | component {name : String} (named : isComponentName name)
      (unknown : Fields.find? renderer.components name = none) :
      Raises renderer (.componentNotFound name)
  | utility {name : String} (unknown : Fields.find? renderer.utilities name = none) :
      Raises renderer (.utilityNotFound name)
  | source {text : String} {found : Kind} (iterates : .foreach ∈ renderer.extensions)
      (noArray : found ≠ .array) (notNull : found ≠ .null) :
      Raises renderer (.iterationSource text found)
  | tree {cause : TreeFault} (iterates : .foreach ∈ renderer.extensions) :
      Raises renderer (.invalidTree cause)

inductive Children.Alike (near : List Node → List Node → Prop) :
    Option Children → Option Children → Prop
  | same (children : Option Children) : Alike near children children
  | nodes {items others : List Node} (related : near items others) :
      Alike near (some (.nodes items)) (some (.nodes others))

inductive Fields.Alike (near : List Node → List Node → Prop) : Fields Value → Fields Value → Prop
  | same (fields : Fields Value) : Alike near fields fields
  | template (before behind : Fields Value) (source : Value) {body other : Value}
      {fragment changed : Fragment} (read : Fragment.ofValue body = .ok fragment)
      (reread : Fragment.ofValue other = .ok changed)
      (related : near fragment.nodes changed.nodes) :
      Alike near (before ++ (Foreach.field, .array [source, body]) :: behind)
        (before ++ (Foreach.field, .array [source, other]) :: behind)

inductive Node.Alike (near : List Node → List Node → Prop) : Node → Node → Prop
  | of (node : Node) {own other : Option Children} {fields others : Fields Value}
      (children : Children.Alike near own other) (declared : Fields.Alike near fields others) :
      Alike near { node with children := own, fields := fields }
        { node with children := other, fields := others }

theorem Node.Alike.refl (near : List Node → List Node → Prop) (node : Node) :
    Node.Alike near node node := by
  have same : Children.Alike near node.children node.children := .same node.children
  have all := Node.Alike.of node same (.same node.fields)
  cases node
  exact all

namespace Fields.Alike

variable {near : List Node → List Node → Prop} {fields others : Fields Value}

theorem find? (alike : Fields.Alike near fields others) {name : String}
    (own : name ≠ Foreach.field) : Fields.find? fields name = Fields.find? others name := by
  cases alike with
  | same => rfl
  | template before behind source read reread related =>
      have passed : (name == Foreach.field) = false := beq_eq_false_iff_ne.mpr own
      simp only [Fields.find?, List.lookup_append, List.lookup_cons, passed]

theorem erase (alike : Fields.Alike near fields others) (name : String) :
    Fields.Alike near (Fields.erase fields name) (Fields.erase others name) := by
  cases alike with
  | same => exact .same _
  | template before behind source read reread related =>
      simp only [Fields.erase, List.filter_append, List.filter_cons]
      split
      · exact .template _ _ source read reread related
      · exact .same _

theorem declaration (alike : Fields.Alike near fields others) :
    Fields.find? fields Foreach.field = Fields.find? others Foreach.field ∨
      ∃ source body other fragment changed,
        Fields.find? fields Foreach.field = some (.array [source, body]) ∧
        Fields.find? others Foreach.field = some (.array [source, other]) ∧
        Fragment.ofValue body = .ok fragment ∧ Fragment.ofValue other = .ok changed ∧
        near fragment.nodes changed.nodes := by
  cases alike with
  | same => exact .inl rfl
  | @template before behind source body other fragment changed read reread related =>
      have found (value : Value) :
          Fields.find? (before ++ (Foreach.field, value) :: behind) Foreach.field =
            (Fields.find? before Foreach.field).or (some value) := by
        simp only [Fields.find?, List.lookup_append, List.lookup_cons, beq_self_eq_true]
      rw [found, found]
      cases Fields.find? before Foreach.field with
      | some earlier => exact .inl rfl
      | none => exact .inr ⟨source, body, other, fragment, changed, rfl, rfl, read, reread, related⟩

end Fields.Alike

inductive Verdict.Alike (near : List Node → List Node → Prop) : Verdict → Verdict → Prop
  | proceed {node other : Node} (nodes : Node.Alike near node other) :
      Alike near (.proceed node) (.proceed other)
  | stop : Alike near .stop .stop

/-! What may be wrong with a declaration, whatever scope it is looked at in. -/

namespace Foreach

variable {tolerance : Tolerance Fault}

theorem parts_agree (tree : ∀ cause, tolerance.Covers (.invalidTree cause)) (declaration : Value) :
    Agree tolerance Eq (parts declaration) (parts declaration) := by
  unfold parts
  split
  · exact .ok _
  · exact .error (tree _)

theorem items_agree (source : ∀ text found, found ≠ .array → found ≠ .null →
      tolerance.Covers (.iterationSource text found)) (origin : Value) (value : Option Value) :
    Agree tolerance Eq (items origin value) (items origin value) := by
  unfold items
  split
  · exact .ok _
  · exact .ok _
  · exact .ok _
  · rename_i found notNull noArray
    refine .error (source _ _ ?_ ?_) <;> cases found <;> simp_all [Value.kind]

theorem template_agree (tree : ∀ cause, tolerance.Covers (.invalidTree cause)) (body : Value) :
    Agree tolerance Eq (template body) (template body) := by
  unfold template
  split
  · exact .ok _
  · exact .error (tree _)

end Foreach

namespace Scope.Alike

variable {tolerance : Tolerance Fault} {near : List Node → List Node → Prop} {a b : Scope}
  {node other : Node}

theorem visibleIf (alike : Alike tolerance near a b) (nodes : Node.Alike near node other) :
    Agree tolerance (Verdict.Alike near) (VisibleIf.apply a node) (VisibleIf.apply b other) := by
  obtain @⟨node, own, other, fields, others, children, declared⟩ := nodes
  have found : Fields.find? fields VisibleIf.field = Fields.find? others VisibleIf.field :=
    declared.find? (by decide)
  simp only [VisibleIf.apply, Node.field?, ← found]
  cases Fields.find? fields VisibleIf.field with
  | none => exact .values (.proceed (.of node children declared))
  | some condition =>
      refine (alike.valueOf condition).andThen ?_
      intro value
      split
      · exact .values (.proceed (.of node children (declared.erase VisibleIf.field)))
      · exact .values .stop

theorem conditional (alike : Alike tolerance near a b) (conditions : List (String × Value)) :
    Agree tolerance Eq (ClassShortcut.conditional a conditions)
      (ClassShortcut.conditional b conditions) := by
  induction conditions with
  | nil => exact .ok []
  | cons entry rest ih =>
      simp only [ClassShortcut.conditional]
      exact (alike.valueOf entry.2).andThen fun value => ih.andThen fun others => .ok _

theorem ofPlain (alike : Alike tolerance near a b) (value : Option Value) :
    Agree tolerance Eq (ClassShortcut.ofPlain a value) (ClassShortcut.ofPlain b value) := by
  unfold ClassShortcut.ofPlain
  split
  · exact alike.conditional _
  · exact .ok _
  · exact .ok _

theorem ofPath (alike : Alike tolerance near a b) (value : Option Value) :
    ClassShortcut.ofPath a value = ClassShortcut.ofPath b value := by
  unfold ClassShortcut.ofPath
  split
  · rw [alike.lookup]
  · rfl

theorem ofExpression (alike : Alike tolerance near a b) (value : Option Value) :
    Agree tolerance Eq (ClassShortcut.ofExpression a value)
      (ClassShortcut.ofExpression b value) := by
  unfold ClassShortcut.ofExpression
  split
  · exact (alike.evaluateSoft _).andThen fun _ => .ok _
  · exact .ok _

theorem ofList (alike : Alike tolerance near a b) (value : Option Value) :
    Agree tolerance Eq (ClassShortcut.ofList a value) (ClassShortcut.ofList b value) := by
  unfold ClassShortcut.ofList
  split
  · exact alike.conditional _
  · exact .ok _

theorem expand (alike : Alike tolerance near a b) (transform : Option String) (joined : String) :
    Agree tolerance Eq (ClassShortcut.expand a transform joined)
      (ClassShortcut.expand b transform joined) := by
  cases transform with
  | none => exact .ok _
  | some name =>
      simp only [ClassShortcut.expand, ← alike.utilities, ← alike.receiver]
      cases known : Fields.find? a.utilities name with
      | none => exact .error (alike.missing name known)
      | some utility =>
          dsimp only
          cases utility a.receiver [.string joined] with
          | ok value => exact .ok _
          | error message => exact .ok _

theorem classes (alike : Alike tolerance near a b) (nodes : Node.Alike near node other) :
    Agree tolerance Eq (ClassShortcut.classes a node) (ClassShortcut.classes b other) := by
  obtain ⟨node, children, declared⟩ := nodes
  have found (name : String) (own : name ≠ Foreach.field) := declared.find? own
  simp only [ClassShortcut.classes, Node.field?, ← alike.ofPath]
  rw [found "class" (by decide), found "__class" (by decide), found "==class" (by decide),
    found "classList" (by decide)]
  exact (alike.ofPlain _).andThen fun plain => (alike.ofExpression _).andThen fun expression =>
    (alike.ofList _).andThen fun list => .ok _

theorem classShortcut (alike : Alike tolerance near a b) (transform : Option String)
    (nodes : Node.Alike near node other) :
    Agree tolerance (Verdict.Alike near) (ClassShortcut.apply transform a node)
      (ClassShortcut.apply transform b other) := by
  refine (alike.classes nodes).andThen ?_
  intro found
  obtain ⟨node, children, declared⟩ := nodes
  have kept := (((declared.erase "class").erase "__class").erase "==class").erase "classList"
  split
  · exact .values (.proceed (.of node children kept))
  · refine (alike.expand transform _).andThen ?_
    intro expanded
    split
    · exact .values (.proceed (.of node children kept))
    · exact .values (.proceed (.of (node.setAttribute "class" (.string expanded)) children kept))

theorem foreach (alike : Alike tolerance near a b)
    (source : ∀ text found, found ≠ .array → found ≠ .null →
      tolerance.Covers (.iterationSource text found))
    (tree : ∀ cause, tolerance.Covers (.invalidTree cause)) (nodes : Node.Alike near node other) :
    Agree tolerance (Verdict.Alike near) (Foreach.apply a node) (Foreach.apply b other) := by
  obtain @⟨node, own, other, fields, others, children, declared⟩ := nodes
  have repeated {fragment changed : Fragment} (related : near fragment.nodes changed.nodes)
      (found : List Value) :
      Agree tolerance Eq
        (found.mapM fun item => a.renderWithProps fragment (Foreach.itemProps item))
        (found.mapM fun item => b.renderWithProps changed (Foreach.itemProps item)) :=
    .mapM (List.forall₂_same.mpr fun item _ => alike.deeper related _)
  have done (contents : List String) : Node.Alike near
      (({ node with children := own, fields := fields }.withoutField Foreach.field).withText
        (String.join contents))
      (({ node with children := other, fields := others }.withoutField Foreach.field).withText
        (String.join contents)) := .of node (.same _) (declared.erase _)
  simp only [Foreach.apply, Node.field?]
  rcases declared.declaration with same |
    ⟨origin, body, changedBody, fragment, changed, first, second, read, reread, related⟩
  · rw [← same]
    cases Fields.find? fields Foreach.field with
    | none => exact .values (.proceed (.of node children declared))
    | some declaration =>
        exact (Foreach.parts_agree tree declaration).andThen fun pair =>
          (alike.valueOf pair.1).andThen fun value =>
          (Foreach.items_agree source pair.1 value).andThen fun found =>
          (Foreach.template_agree tree pair.2).andThen fun fragment =>
          (repeated (alike.itself fragment.nodes) found).andThen fun contents =>
          .values (.proceed (done contents))
  · rw [first, second]
    have loaded : Foreach.template body = .ok fragment := by rw [Foreach.template, read]
    have reloaded : Foreach.template changedBody = .ok changed := by rw [Foreach.template, reread]
    refine (alike.valueOf origin).andThen fun value =>
      (Foreach.items_agree source origin value).andThen ?_
    intro found
    rw [loaded, reloaded]
    exact (repeated related found).andThen fun contents => .values (.proceed (done contents))

theorem extension (alike : Alike tolerance near a b) {renderer : Renderer}
    (covers : ∀ fault, renderer.Raises fault → tolerance.Covers fault) {extension : Extension}
    (present : extension ∈ renderer.extensions) (canonical : extension.IsCanonical)
    (nodes : Node.Alike near node other) :
    Agree tolerance (Verdict.Alike near) (extension.apply a node) (extension.apply b other) := by
  cases extension with
  | visibleIf => exact alike.visibleIf nodes
  | classShortcut transform => exact alike.classShortcut transform nodes
  | foreach =>
      exact alike.foreach (fun _ _ noArray notNull => covers _ (.source present noArray notNull))
        (fun _ => covers _ (.tree present)) nodes
  | custom name change => exact False.elim canonical

theorem applyAll (alike : Alike tolerance near a b) {renderer : Renderer}
    (covers : ∀ fault, renderer.Raises fault → tolerance.Covers fault)
    (canonical : renderer.Canonical) {extensions : List Extension}
    (included : extensions ⊆ renderer.extensions) (nodes : Node.Alike near node other) :
    Agree tolerance (Verdict.Alike near) (Extension.applyAll a extensions node)
      (Extension.applyAll b extensions other) := by
  induction extensions generalizing node other with
  | nil => exact .values (.proceed nodes)
  | cons first rest ih =>
      obtain ⟨present, others⟩ := List.cons_subset.mp included
      refine (alike.extension covers present (canonical first present) nodes).bind ?_
      intro verdict otherVerdict pair
      cases pair with
      | proceed changed => exact ih others changed
      | stop => exact .values .stop

theorem boundContent (alike : Alike tolerance near a b) (nodes : Node.Alike near node other) :
    Agree tolerance Eq (MarkupTree.boundContent a node) (MarkupTree.boundContent b other) := by
  obtain ⟨node, children, declared⟩ := nodes
  unfold MarkupTree.boundContent
  dsimp only
  split
  · rw [alike.lookup]
    exact .ok _
  · exact (alike.evaluateSoft _).map _
  · exact .ok _

theorem renderChildren (alike : Alike tolerance near a b) (nodes : Node.Alike near node other) :
    Agree tolerance Eq (MarkupTree.renderChildren a node) (MarkupTree.renderChildren b other) := by
  have bound := alike.boundContent nodes
  obtain @⟨node, own, other, _, _, children, declared⟩ := nodes
  unfold MarkupTree.renderChildren
  cases children with
  | nodes related => rw [alike.props]; exact alike.deeper related _
  | same =>
      cases own with
      | none => exact bound
      | some own =>
          cases own with
          | text content =>
              dsimp only
              split
              · exact bound
              · exact .ok _
          | nodes items => rw [alike.props]; exact alike.deeper (alike.itself items) _
          | call call => exact (alike.applyCall call).map _

theorem resolveElement (alike : Alike tolerance near a b) {changed otherChanged : Node}
    (written : Node.Alike near node other) (nodes : Node.Alike near changed otherChanged) :
    MarkupTree.resolveElement a node changed = MarkupTree.resolveElement b other otherChanged := by
  obtain ⟨node, _, _⟩ := written
  obtain ⟨changed, _, _⟩ := nodes
  have same : a.lookup = b.lookup := funext alike.lookup
  simp only [MarkupTree.resolveElement, same]

theorem renderElement (alike : Alike tolerance near a b) {renderer : Renderer}
    (covers : ∀ fault, renderer.Raises fault → tolerance.Covers fault)
    (canonical : renderer.Canonical) (nodes : Node.Alike near node other) :
    Agree tolerance Eq (Renderer.renderElement renderer.extensions a node)
      (Renderer.renderElement renderer.extensions b other) := by
  refine (alike.applyAll covers canonical (List.Subset.refl _) nodes).bind ?_
  intro verdict otherVerdict pair
  cases pair with
  | stop => exact .ok ""
  | proceed changed =>
      have element := alike.resolveElement nodes changed
      have content := alike.renderChildren changed
      obtain ⟨changed, children, declared⟩ := changed
      dsimp only
      refine (alike.resolveOptional changed.attributes).andThen fun attributes =>
        content.andThen ?_
      intro content
      rw [element]
      exact .ok _

theorem nodeProps (alike : Alike tolerance near a b) (nodes : Node.Alike near node other) :
    Agree tolerance Eq (Renderer.nodeProps a node) (Renderer.nodeProps b other) := by
  obtain ⟨node, children, declared⟩ := nodes
  unfold Renderer.nodeProps
  cases node.props with
  | none => rw [alike.props]; exact .ok _
  | some bindings => exact (alike.resolve bindings).map Value.object

theorem renderNode_of_components (alike : Alike tolerance near a b) {renderer changed : Renderer}
    (covers : ∀ fault, renderer.Raises fault → tolerance.Covers fault)
    (canonical : renderer.Canonical) (extensions : renderer.extensions = changed.extensions)
    (components : ∀ name, Option.Rel (fun own other => near own.nodes other.nodes)
      (Fields.find? renderer.components name) (Fields.find? changed.components name))
    (nodes : Node.Alike near node other) :
    Agree tolerance Eq (renderer.renderNode a node) (changed.renderNode b other) := by
  have written : node.element = other.element := by
    obtain ⟨node, _, _⟩ := nodes
    rfl
  have asked : Option.Rel (fun own other => near own.nodes other.nodes)
      (renderer.component? node) (changed.component? other) := by
    rw [Renderer.component?, Renderer.component?, ← written]
    cases node.element with
    | none => exact .none
    | some name => exact components name
  unfold Renderer.renderNode
  refine (alike.nodeProps nodes).andThen ?_
  intro props
  generalize found : renderer.component? node = component at asked ⊢
  generalize changed.component? other = otherComponent at asked ⊢
  cases asked with
  | some related => exact alike.deeper related props
  | none =>
      dsimp only
      rw [← written]
      split
      · rename_i name named
        obtain ⟨asks, capital⟩ := Option.filter_eq_some_iff.mp named
        rw [Renderer.component?, asks] at found
        exact .error (covers _ (.component capital found))
      · rw [← extensions]
        exact (alike.withProps props).renderElement covers canonical nodes

theorem renderNode (alike : Alike tolerance near a b) {renderer : Renderer}
    (covers : ∀ fault, renderer.Raises fault → tolerance.Covers fault)
    (canonical : renderer.Canonical) (nodes : Node.Alike near node other) :
    Agree tolerance Eq (renderer.renderNode a node) (renderer.renderNode b other) := by
  refine alike.renderNode_of_components covers canonical rfl ?_ nodes
  intro name
  cases Fields.find? renderer.components name with
  | none => exact .none
  | some fragment => exact .some (alike.itself fragment.nodes)

end Scope.Alike

end MarkupTree
