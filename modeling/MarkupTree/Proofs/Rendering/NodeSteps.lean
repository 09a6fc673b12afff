import MarkupTree.Proofs.Rendering.Nodes
import MarkupTree.Proofs.Rendering.Steps

/-!
What a node asks of the world: the steps of its props, of each extension, of its attributes and of
its content, and a nested render wherever it goes one level down.
-/

namespace MarkupTree

def VisibleIf.steps (scope : Scope) (node : Node) : List Step :=
  match node.field? field with
  | none => []
  | some condition => scope.valueSteps condition

namespace ClassShortcut

def conditionalSteps (scope : Scope) : List (String × Value) → List Step
  | [] => []
  | (_, condition) :: rest => scope.valueSteps condition ++
      after (scope.valueOf condition) fun _ => conditionalSteps scope rest

def conditionsSteps (scope : Scope) : Option Value → List Step
  | some (.object conditions) => conditionalSteps scope conditions
  | _ => []

def sourceSteps (scope : Scope) : Option Value → List Step
  | some (.string source) => scope.expressionSteps source
  | _ => []

def classesSteps (scope : Scope) (node : Node) : List Step :=
  conditionsSteps scope (node.field? "class") ++
    after (ofPlain scope (node.field? "class")) fun _ =>
      sourceSteps scope (node.field? "==class") ++
        after (ofExpression scope (node.field? "==class")) fun _ =>
          conditionsSteps scope (node.field? "classList")

def expandSteps (scope : Scope) (transform : Option String) (joined : String) : List Step :=
  match transform with
  | none => []
  | some name =>
      match Fields.find? scope.utilities name with
      | none => []
      | some _ => [.utility name scope.receiver [.string joined]]

def steps (transform : Option String) (scope : Scope) (node : Node) : List Step :=
  classesSteps scope node ++ after (classes scope node) fun found =>
    if found.isEmpty then [] else expandSteps scope transform (String.intercalate " " found)

end ClassShortcut

def Foreach.steps (scope : Scope) (node : Node) : List Step :=
  match node.field? field with
  | none => []
  | some declaration => after (parts declaration) fun found => scope.valueSteps found.1 ++
      after (scope.valueOf found.1) fun value => after (items found.1 value) fun items =>
        after (template found.2) fun fragment =>
          items.flatMap fun item => [.nested fragment.nodes (itemProps item)]

namespace Extension

def steps (scope : Scope) (node : Node) (extension : Extension) : List Step :=
  .extension extension ::
    match extension with
    | .visibleIf => VisibleIf.steps scope node
    | .classShortcut transform => ClassShortcut.steps transform scope node
    | .foreach => Foreach.steps scope node
    | .custom _ _ => []

def chainSteps (scope : Scope) : List Extension → Node → List Step
  | [], _ => []
  | extension :: rest, node => extension.steps scope node ++
      after (extension.apply scope node) fun verdict =>
        match verdict with
        | .proceed next => chainSteps scope rest next
        | .stop => []

end Extension

def boundSteps (scope : Scope) (node : Node) : List Step :=
  match node.childrenPath, node.childrenExpression with
  | some path, _ => (Binding.path path).steps scope
  | none, some source => (Binding.expression source).steps scope
  | none, none => []

def childrenSteps (scope : Scope) (node : Node) : List Step :=
  match node.children with
  | some (.text content) => if content = "" then boundSteps scope node else []
  | some (.nodes items) => [.nested items scope.props]
  | some (.call call) => (Binding.call call).steps scope
  | none => boundSteps scope node

namespace Renderer

def elementSteps (extensions : List Extension) (scope : Scope) (node : Node) : List Step :=
  Extension.chainSteps scope extensions node ++
    after (Extension.applyAll scope extensions node) fun verdict =>
      match verdict with
      | .stop => []
      | .proceed changed => Bindings.steps scope (changed.attributes.getD []) ++
          after (Bindings.resolveOptional scope changed.attributes) fun _ =>
            childrenSteps scope changed

def steps (renderer : Renderer) (outer : Scope) (node : Node) : List Step :=
  Bindings.steps outer (node.props.getD []) ++ after (nodeProps outer node) fun props =>
    match renderer.component? node with
    | some fragment => [.nested fragment.nodes props]
    | none =>
        match node.element.filter isComponentName with
        | some _ => []
        | none => elementSteps renderer.extensions (outer.withProps props) node

end Renderer

namespace Scope.Resembles

variable {a b : Scope}

theorem visibleIf (alike : Resembles a b) (node : Node) :
    Settled a b (VisibleIf.steps a node) (VisibleIf.apply a node) (VisibleIf.apply b node) := by
  unfold VisibleIf.steps VisibleIf.apply
  cases node.field? VisibleIf.field with
  | none => exact .rfl
  | some condition => exact (alike.valueOf condition).andThen _

theorem conditional (alike : Resembles a b) (conditions : List (String × Value)) :
    Settled a b (ClassShortcut.conditionalSteps a conditions)
      (ClassShortcut.conditional a conditions) (ClassShortcut.conditional b conditions) := by
  induction conditions with
  | nil => exact .rfl
  | cons entry rest ih => exact (alike.valueOf entry.2).bind fun _ => ih.andThen _

theorem ofPlain (alike : Resembles a b) (value : Option Value) :
    Settled a b (ClassShortcut.conditionsSteps a value) (ClassShortcut.ofPlain a value)
      (ClassShortcut.ofPlain b value) := by
  unfold ClassShortcut.ofPlain
  split
  · exact alike.conditional _
  · exact .rfl
  · exact .rfl

theorem ofPath (alike : Resembles a b) (value : Option Value) :
    ClassShortcut.ofPath a value = ClassShortcut.ofPath b value := by
  unfold ClassShortcut.ofPath
  split
  · rw [alike.lookup]
  · rfl

theorem ofExpression (alike : Resembles a b) (value : Option Value) :
    Settled a b (ClassShortcut.sourceSteps a value) (ClassShortcut.ofExpression a value)
      (ClassShortcut.ofExpression b value) := by
  unfold ClassShortcut.ofExpression
  split
  · exact (alike.evaluateSoft _).andThen _
  · exact .rfl

theorem ofList (alike : Resembles a b) (value : Option Value) :
    Settled a b (ClassShortcut.conditionsSteps a value) (ClassShortcut.ofList a value)
      (ClassShortcut.ofList b value) := by
  unfold ClassShortcut.ofList
  split
  · exact alike.conditional _
  · exact .rfl

theorem classes (alike : Resembles a b) (node : Node) :
    Settled a b (ClassShortcut.classesSteps a node) (ClassShortcut.classes a node)
      (ClassShortcut.classes b node) := by
  simp only [ClassShortcut.classes, ← alike.ofPath]
  exact (alike.ofPlain _).bind fun _ => (alike.ofExpression _).bind fun _ =>
    (alike.ofList _).andThen _

theorem expand (alike : Resembles a b) (transform : Option String) (joined : String) :
    Settled a b (ClassShortcut.expandSteps a transform joined)
      (ClassShortcut.expand a transform joined) (ClassShortcut.expand b transform joined) := by
  cases transform with
  | none => exact .rfl
  | some name =>
      simp only [ClassShortcut.expandSteps, ClassShortcut.expand]
      cases found : Fields.find? a.utilities name with
      | none =>
          rw [alike.unknown found]
          exact .rfl
      | some utility =>
          obtain ⟨other, known, asked⟩ := alike.known found
          rw [known, ← alike.receiver]
          intro answers
          simp only [asked _ _ answers]

theorem classShortcut (alike : Resembles a b) (transform : Option String) (node : Node) :
    Settled a b (ClassShortcut.steps transform a node) (ClassShortcut.apply transform a node)
      (ClassShortcut.apply transform b node) := by
  refine (alike.classes node).bind ?_
  intro found
  split
  · exact .rfl
  · exact (alike.expand transform _).andThen _

theorem foreach (alike : Resembles a b) (node : Node) :
    Settled a b (Foreach.steps a node) (Foreach.apply a node) (Foreach.apply b node) := by
  unfold Foreach.steps Foreach.apply
  cases node.field? Foreach.field with
  | none => exact .rfl
  | some declaration =>
      refine .sure fun parts => (alike.valueOf parts.1).bind fun value => .sure fun items =>
        .sure fun fragment => .andThen (.mapM items fun item => ?_) _
      exact fun answers => answers (.nested fragment.nodes (Foreach.itemProps item)) (by simp)

theorem extension (alike : Resembles a b) {extension : Extension}
    (canonical : extension.IsCanonical) (node : Node) :
    Settled a b (extension.steps a node) (extension.apply a node) (extension.apply b node) := by
  cases extension with
  | visibleIf => exact (alike.visibleIf node).mono (List.subset_cons_self _ _)
  | classShortcut transform =>
      exact (alike.classShortcut transform node).mono (List.subset_cons_self _ _)
  | foreach => exact (alike.foreach node).mono (List.subset_cons_self _ _)
  | custom name change => exact False.elim canonical

theorem applyAll (alike : Resembles a b) {extensions : List Extension}
    (canonical : ∀ extension ∈ extensions, extension.IsCanonical) (node : Node) :
    Settled a b (Extension.chainSteps a extensions node) (Extension.applyAll a extensions node)
      (Extension.applyAll b extensions node) := by
  induction extensions generalizing node with
  | nil => exact .rfl
  | cons first rest ih =>
      obtain ⟨own, others⟩ := List.forall_mem_cons.mp canonical
      refine (alike.extension own node).bind ?_
      intro verdict
      cases verdict with
      | proceed next => exact ih others next
      | stop => exact .rfl

theorem boundContent (alike : Resembles a b) (node : Node) :
    Settled a b (boundSteps a node) (MarkupTree.boundContent a node)
      (MarkupTree.boundContent b node) := by
  unfold boundSteps MarkupTree.boundContent
  cases node.childrenPath with
  | some path =>
      dsimp only
      rw [alike.lookup]
      exact .rfl
  | none =>
      cases node.childrenExpression with
      | some source =>
          exact ((alike.evaluateSoft source).mono (List.subset_cons_self _ _)).map contentText
      | none => exact .rfl

theorem renderChildren (alike : Resembles a b) (node : Node) :
    Settled a b (childrenSteps a node) (MarkupTree.renderChildren a node)
      (MarkupTree.renderChildren b node) := by
  have bound := alike.boundContent node
  unfold childrenSteps MarkupTree.renderChildren
  cases node.children with
  | none => exact bound
  | some children =>
      cases children with
      | text content =>
          dsimp only
          split
          · exact bound
          · exact .rfl
      | nodes items =>
          rw [← alike.props]
          exact fun answers => answers (.nested items a.props) (List.mem_singleton_self _)
      | call found => exact ((alike.calls.1 found).mono (List.subset_cons_self _ _)).map contentText

theorem resolveElement (alike : Resembles a b) (written changed : Node) :
    MarkupTree.resolveElement a written changed = MarkupTree.resolveElement b written changed := by
  have same : a.lookup = b.lookup := funext alike.lookup
  simp only [MarkupTree.resolveElement, same]

theorem renderElement (alike : Resembles a b) {extensions : List Extension}
    (canonical : ∀ extension ∈ extensions, extension.IsCanonical) (node : Node) :
    Settled a b (Renderer.elementSteps extensions a node) (Renderer.renderElement extensions a node)
      (Renderer.renderElement extensions b node) := by
  refine (alike.applyAll canonical node).bind ?_
  intro verdict
  cases verdict with
  | stop => exact .rfl
  | proceed changed =>
      dsimp only
      rw [alike.resolveElement]
      exact (alike.resolveOptional _).bind fun attributes =>
        (alike.renderChildren changed).andThen _

theorem nodeProps (alike : Resembles a b) (node : Node) :
    Settled a b (Bindings.steps a (node.props.getD [])) (Renderer.nodeProps a node)
      (Renderer.nodeProps b node) := by
  unfold Renderer.nodeProps
  cases node.props with
  | none =>
      rw [alike.props]
      exact .rfl
  | some bindings => exact (alike.resolve bindings).map Value.object

theorem renderNode (alike : Resembles a b) {renderer : Renderer} (canonical : renderer.Canonical)
    (node : Node) :
    Settled a b (renderer.steps a node) (renderer.renderNode a node)
      (renderer.renderNode b node) := by
  refine (alike.nodeProps node).bind ?_
  intro props
  cases renderer.component? node with
  | some fragment =>
      exact fun answers => answers (.nested fragment.nodes props) (List.mem_singleton_self _)
  | none =>
      cases node.element.filter isComponentName with
      | some name => exact .rfl
      | none => exact (alike.withProps props).renderElement canonical node

end Scope.Resembles

end MarkupTree
