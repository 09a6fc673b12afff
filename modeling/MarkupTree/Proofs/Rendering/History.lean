import Mathlib
import MarkupTree.Proofs.Rendering.NodeSteps

/-!
The history of a render: which nodes are entered at which depth, and what they do there. Trees are
built at run time and components may ask for themselves, so only the depth bounds a render. It
follows a recursion that checks the depth of each node first, and has no other solution.
-/

namespace MarkupTree

inductive Event where
  | enter (cause : Option Nat) (depth : Nat) (node : Node)
  | step (depth : Nat) (step : Step)

def Step.below (deeper : List Node → Value → List Event) : Step → List Event
  | .nested nodes props => deeper nodes props
  | _ => []

theorem Step.mem_below {deeper : List Node → Value → List Event} {step : Step} {event : Event} :
    event ∈ step.below deeper ↔
      ∃ nodes props, step = .nested nodes props ∧ event ∈ deeper nodes props := by
  cases step <;> simp [below]

def Event.Within (limit : Nat) : Event → Prop
  | .enter none depth _ => depth = 0
  | .enter (some above) depth _ => above ≤ limit ∧ depth = above + 1
  | .step depth _ => depth ≤ limit

def Event.arguments? : Event → Option (List Value)
  | .step _ (.utility _ _ arguments) => some arguments
  | _ => none

/-- What is true of the events of a render that starts with some nodes: each node that is entered
was asked for by a step one level above, and exactly those within the limit resolve their props. -/
structure Account (limit : Nat) (first : List Node) (events : List Event) : Prop where
  within : ∀ event ∈ events, event.Within limit
  started : ∀ node ∈ first, .enter none 0 node ∈ events
  caused : ∀ cause depth node, .enter cause depth node ∈ events →
    (cause = none ∧ node ∈ first) ∨ ∃ above nodes props, cause = some above ∧
      .step above (.nested nodes props) ∈ events ∧ node ∈ nodes
  followed : ∀ depth nodes props, .step depth (.nested nodes props) ∈ events →
    ∀ node ∈ nodes, .enter (some depth) (depth + 1) node ∈ events
  resolved : ∀ cause depth node, .enter cause depth node ∈ events → depth ≤ limit →
    ∀ entry ∈ node.props.getD [], .step depth (.binding entry.2) ∈ events

namespace Renderer

variable (renderer : Renderer)

def levelsHistory : Nat → Option Nat → List Node → Value → List Event
  | 0, cause, nodes, _ => nodes.map (.enter cause (renderer.options.maxDepth + 1))
  | levels + 1, cause, nodes, props =>
      let depth := renderer.options.maxDepth - levels
      let scope := renderer.scope (renderer.renderLevels levels) depth props
      nodes.flatMap fun node => .enter cause depth node ::
        (renderer.steps scope node).flatMap fun step =>
          .step depth step :: step.below (levelsHistory levels (some depth))

/-- All that happens while a fragment is rendered. -/
def history (fragment : Fragment) (props : Value) : List Event :=
  renderer.levelsHistory (renderer.options.maxDepth + 1) none fragment.nodes props

/-- The recursion that a render follows: each node checks its depth before all else, and what it
renders runs one level deeper. -/
def Solves (run : Nat → List Node → Value → Except Fault String) : Prop :=
  ∀ depth nodes props, run depth nodes props = String.join <$> nodes.mapM fun node =>
    if renderer.options.maxDepth < depth then
      .error (.recursionLimit renderer.options.maxDepth node.element)
    else renderer.renderNode (renderer.scope (run (depth + 1)) depth props) node

variable {renderer}

theorem solves_renderNodes : renderer.Solves renderer.renderNodes := by
  intro depth nodes props
  by_cases below : renderer.options.maxDepth < depth
  · have none : renderer.options.maxDepth + 1 - depth = 0 := by omega
    simp only [renderNodes, none, below, if_true]
    cases nodes with
    | nil => rfl
    | cons node rest => rfl
  · obtain ⟨levels, rest⟩ : ∃ levels, renderer.options.maxDepth = depth + levels :=
      Nat.exists_eq_add_of_le (by omega)
    have here : renderer.options.maxDepth + 1 - depth = levels + 1 := by omega
    have next : renderer.options.maxDepth + 1 - (depth + 1) = levels := by omega
    have same : renderer.options.maxDepth - levels = depth := by omega
    have deeper : renderer.renderNodes (depth + 1) = renderer.renderLevels levels := by
      funext items inner
      rw [renderNodes, next]
    rw [renderNodes, here, renderLevels, same, deeper]
    simp only [below, if_false]
    rfl

/-- Only the depth makes the recursion end, and that is enough. -/
theorem Solves.unique {run : Nat → List Node → Value → Except Fault String}
    (solves : renderer.Solves run) : run = renderer.renderNodes := by
  have same (levels depth : Nat) (left : renderer.options.maxDepth + 1 - depth = levels) :
      run depth = renderer.renderNodes depth := by
    -- Nodes that a node renders need not be parts of it; what gets smaller is the room below it.
    induction levels generalizing depth with
    | zero =>
        have below : renderer.options.maxDepth < depth := by omega
        funext nodes props
        rw [solves, solves_renderNodes]
        simp only [below, if_true]
    | succ levels ih =>
        funext nodes props
        rw [solves, solves_renderNodes, ih (depth + 1) (by omega)]
  funext depth
  exact same _ depth rfl

theorem mem_levelsHistory_succ {levels : Nat} {cause : Option Nat} {nodes : List Node}
    {props : Value} {event : Event} :
    event ∈ renderer.levelsHistory (levels + 1) cause nodes props ↔
      ∃ node ∈ nodes, event = .enter cause (renderer.options.maxDepth - levels) node ∨
        ∃ step ∈ renderer.steps (renderer.scope (renderer.renderLevels levels)
            (renderer.options.maxDepth - levels) props) node,
          event = .step (renderer.options.maxDepth - levels) step ∨
            ∃ items inner, step = .nested items inner ∧ event ∈ renderer.levelsHistory levels
              (some (renderer.options.maxDepth - levels)) items inner := by
  simp only [levelsHistory, List.mem_flatMap, List.mem_cons, Step.mem_below]

section Events

variable {levels depth : Nat} {cause : Option Nat} {nodes items : List Node} {node : Node}
  {props inner : Value}

theorem step_mem_levelsHistory (present : node ∈ nodes) {step : Step}
    (taken : step ∈ renderer.steps (renderer.scope (renderer.renderLevels levels)
      (renderer.options.maxDepth - levels) props) node) :
    .step (renderer.options.maxDepth - levels) step ∈
      renderer.levelsHistory (levels + 1) cause nodes props :=
  mem_levelsHistory_succ.mpr ⟨node, present, .inr ⟨step, taken, .inl rfl⟩⟩

theorem below_mem_levelsHistory (present : node ∈ nodes)
    (taken : .nested items inner ∈ renderer.steps (renderer.scope (renderer.renderLevels levels)
      (renderer.options.maxDepth - levels) props) node) {event : Event}
    (member : event ∈ renderer.levelsHistory levels (some (renderer.options.maxDepth - levels))
      items inner) :
    event ∈ renderer.levelsHistory (levels + 1) cause nodes props :=
  mem_levelsHistory_succ.mpr
    ⟨node, present, .inr ⟨_, taken, .inr ⟨items, inner, rfl, member⟩⟩⟩

theorem entered_levelsHistory (cause : Option Nat) (present : node ∈ nodes) (props : Value)
    (room : levels ≤ renderer.options.maxDepth + 1) :
    .enter cause (renderer.options.maxDepth + 1 - levels) node ∈
      renderer.levelsHistory levels cause nodes props := by
  cases levels with
  | zero => exact List.mem_map.mpr ⟨node, present, rfl⟩
  | succ levels =>
      have here : renderer.options.maxDepth + 1 - (levels + 1) =
          renderer.options.maxDepth - levels := by omega
      rw [here]
      exact mem_levelsHistory_succ.mpr ⟨node, present, .inl rfl⟩

theorem within_levelsHistory (room : levels ≤ renderer.options.maxDepth + 1)
    (placed : ∀ node, (Event.enter cause (renderer.options.maxDepth + 1 - levels) node).Within
      renderer.options.maxDepth) :
    ∀ event ∈ renderer.levelsHistory levels cause nodes props,
      event.Within renderer.options.maxDepth := by
  induction levels generalizing cause nodes props with
  | zero =>
      intro event member
      obtain ⟨node, _, rfl⟩ := List.mem_map.mp member
      exact placed node
  | succ levels ih =>
      intro event member
      have here : renderer.options.maxDepth + 1 - (levels + 1) =
          renderer.options.maxDepth - levels := by omega
      rw [here] at placed
      obtain ⟨node, _, rfl | ⟨step, _, rfl | ⟨items, inner, _, deeper⟩⟩⟩ :=
        mem_levelsHistory_succ.mp member
      · exact placed node
      · exact Nat.sub_le _ _
      · refine ih (by omega) ?_ event deeper
        intro node
        constructor <;> omega

theorem caused_levelsHistory {origin : Option Nat}
    (entered : .enter origin depth node ∈ renderer.levelsHistory levels cause nodes props) :
    (origin = cause ∧ node ∈ nodes) ∨ ∃ above items inner, origin = some above ∧
      .step above (.nested items inner) ∈ renderer.levelsHistory levels cause nodes props ∧
        node ∈ items := by
  induction levels generalizing cause nodes props with
  | zero =>
      obtain ⟨first, present, same⟩ := List.mem_map.mp entered
      cases same
      exact .inl ⟨rfl, present⟩
  | succ levels ih =>
      obtain ⟨first, present, same | ⟨step, taken, same | ⟨items, inner, rfl, deeper⟩⟩⟩ :=
        mem_levelsHistory_succ.mp entered
      · cases same
        exact .inl ⟨rfl, present⟩
      · cases same
      · rcases ih deeper with ⟨same, among⟩ | ⟨above, others, props, same, asked, among⟩
        · exact .inr ⟨_, items, inner, same, step_mem_levelsHistory present taken, among⟩
        · exact .inr ⟨above, others, props, same,
            below_mem_levelsHistory present taken asked, among⟩

theorem followed_levelsHistory (room : levels ≤ renderer.options.maxDepth + 1)
    (asked : .step depth (.nested items inner) ∈ renderer.levelsHistory levels cause nodes props)
    (present : node ∈ items) :
    .enter (some depth) (depth + 1) node ∈ renderer.levelsHistory levels cause nodes props := by
  induction levels generalizing cause nodes props with
  | zero =>
      obtain ⟨_, _, same⟩ := List.mem_map.mp asked
      cases same
  | succ levels ih =>
      obtain ⟨first, among, same | ⟨step, taken, same | ⟨others, props, rfl, deeper⟩⟩⟩ :=
        mem_levelsHistory_succ.mp asked
      · cases same
      · cases same
        have next : renderer.options.maxDepth + 1 - levels =
            renderer.options.maxDepth - levels + 1 := by omega
        have left : levels ≤ renderer.options.maxDepth + 1 := by omega
        have entered := entered_levelsHistory (some (renderer.options.maxDepth - levels)) present
          inner left
        rw [next] at entered
        exact below_mem_levelsHistory among taken entered
      · exact below_mem_levelsHistory among taken (ih (by omega) deeper)

theorem resolved_levelsHistory {origin : Option Nat}
    (entered : .enter origin depth node ∈ renderer.levelsHistory levels cause nodes props)
    (shallow : depth ≤ renderer.options.maxDepth) {entry : String × Binding}
    (own : entry ∈ node.props.getD []) :
    .step depth (.binding entry.2) ∈ renderer.levelsHistory levels cause nodes props := by
  induction levels generalizing cause nodes props with
  | zero =>
      obtain ⟨_, _, same⟩ := List.mem_map.mp entered
      cases same
      omega
  | succ levels ih =>
      obtain ⟨first, among, same | ⟨step, taken, same | ⟨others, props, rfl, deeper⟩⟩⟩ :=
        mem_levelsHistory_succ.mp entered
      · cases same
        have listed (scope : Scope) :
            .binding entry.2 ∈ Bindings.steps scope (node.props.getD []) :=
          List.mem_flatMap.mpr ⟨entry, own, List.mem_cons_self⟩
        exact step_mem_levelsHistory among (List.mem_append_left _ (listed _))
      · cases same
      · exact below_mem_levelsHistory among taken (ih deeper)

end Events

theorem account_history (tree : Fragment) (props : Value) :
    Account renderer.options.maxDepth tree.nodes (renderer.history tree props) := by
  have top : renderer.options.maxDepth + 1 - (renderer.options.maxDepth + 1) = 0 := Nat.sub_self _
  refine
    { within := within_levelsHistory (Nat.le_refl _) fun node => top
      started := ?_
      caused := fun cause depth node => caused_levelsHistory
      followed := fun depth nodes inner asked node => followed_levelsHistory (Nat.le_refl _) asked
      resolved := fun cause depth node entered shallow entry =>
        resolved_levelsHistory entered shallow }
  intro node present
  have entered := entered_levelsHistory none present props
    (Nat.le_refl (renderer.options.maxDepth + 1))
  rwa [top] at entered

/-- A render asks no utility for more than its history tells. -/
theorem renderLevels_settled (canonical : renderer.Canonical) {utilities : Utilities}
    (names : ∀ name, Fields.has renderer.utilities name = Fields.has utilities name)
    {levels : Nat} {cause : Option Nat} {nodes : List Node} {props : Value}
    (answers : ∀ depth name receiver arguments,
      .step depth (.utility name receiver arguments) ∈
        renderer.levelsHistory levels cause nodes props →
      renderer.utilities.answer name receiver arguments =
        utilities.answer name receiver arguments) :
    renderer.renderLevels levels nodes props =
      { renderer with utilities := utilities }.renderLevels levels nodes props := by
  induction levels generalizing cause nodes props with
  | zero => cases nodes <;> rfl
  | succ levels ih =>
      let changed := { renderer with utilities := utilities }
      have alike (depth : Nat) : Scope.Resembles
          (renderer.scope (renderer.renderLevels levels) depth props)
          (changed.scope (changed.renderLevels levels) depth props) :=
        { context := rfl, props := rfl, names := names }
      -- Each nested render is settled by its own history, which is a part of this one.
      have settled (depth : Nat) := Scope.Settled.mapM nodes fun node =>
        (alike depth).renderNode canonical node
      refine congrArg (String.join <$> ·) (settled (renderer.options.maxDepth - levels) ?_)
      intro step member
      obtain ⟨node, present, taken⟩ := List.mem_flatMap.mp member
      cases step with
      | utility name receiver arguments =>
          exact answers _ _ _ _ (step_mem_levelsHistory present taken)
      | nested items inner =>
          exact ih fun depth name receiver arguments asked =>
            answers _ _ _ _ (below_mem_levelsHistory present taken asked)
      | _ => trivial

/--
A render ends, with markup or a fault: the recursion it follows has one solution, though nothing but
the depth bounds it. Nodes that a step renders are entered one level below, and no node below the
limit resolves a binding, goes through an extension or asks a utility; all that utilities are asked
for is in the history, as others that answer the same give the same.
-/
theorem render_ends_within_limit (canonical : renderer.Canonical) :
    (∀ run, renderer.Solves run ↔ run = renderer.renderNodes) ∧
    ∀ tree props,
      ((∃ markup, renderer.render tree props = .ok markup) ∨
        ∃ fault, renderer.render tree props = .error fault) ∧
      Account renderer.options.maxDepth tree.nodes (renderer.history tree props) ∧
      ∀ utilities : Utilities,
        (∀ name, Fields.has renderer.utilities name = Fields.has utilities name) →
        (∀ depth name receiver arguments,
          .step depth (.utility name receiver arguments) ∈ renderer.history tree props →
          renderer.utilities.answer name receiver arguments =
            utilities.answer name receiver arguments) →
        { renderer with utilities := utilities }.render tree props =
          renderer.render tree props := by
  constructor
  · intro run
    constructor
    · exact Solves.unique
    · rintro rfl
      exact solves_renderNodes
  · intro tree props
    refine ⟨?_, account_history tree props, ?_⟩
    · cases renderer.render tree props with
      | ok markup => exact .inl ⟨markup, rfl⟩
      | error fault => exact .inr ⟨fault, rfl⟩
    · intro utilities names answers
      exact (renderLevels_settled canonical names answers).symm

def coop : Renderer where
  components := [("Hen", .one { attributes := some [("age", .call ⟨"grow", []⟩)]
                                children := some (.nodes [.ofElement "Egg"]) }),
    ("Egg", .one (.ofElement "Hen"))]
  extensions := Extension.canonical
  utilities := [("grow", fun _ _ => .ok .null)]
  options := { maxDepth := 3 }

def strictGrow : Utilities :=
  [("grow", fun _ arguments => if arguments.isEmpty then .ok .null else .error "forced")]

theorem coop_ends_within_limit :
    coop.Canonical ∧ (∀ name, Fields.has coop.utilities name = Fields.has strictGrow name) ∧
      Account 3 [.ofElement "Hen"] (coop.history (.one (.ofElement "Hen")) .null) ∧
      { coop with utilities := strictGrow }.render (.one (.ofElement "Hen")) .null =
        .error (.recursionLimit 3 none) := by
  have canonical : coop.Canonical := canonical_of_extensions rfl
  have names (name : String) : Fields.has coop.utilities name = Fields.has strictGrow name := by
    simp only [Fields.has, Fields.find?, coop, strictGrow, List.lookup_cons]
    split <;> rfl
  have bare : (coop.history (.one (.ofElement "Hen")) .null).filterMap Event.arguments? = [[]] := by
    cbv
  have answers (depth : Nat) (name : String) (receiver : Receiver) (arguments : List Value)
      (asked : .step depth (.utility name receiver arguments) ∈
        coop.history (.one (.ofElement "Hen")) .null) :
      coop.utilities.answer name receiver arguments =
        strictGrow.answer name receiver arguments := by
    have listed : arguments ∈ [[]] := bare ▸ List.mem_filterMap.mpr ⟨_, asked, rfl⟩
    obtain rfl := List.mem_singleton.mp listed
    simp only [Utilities.answer, Fields.find?, coop, strictGrow, List.lookup_cons]
    split <;> rfl
  have rendered : coop.render (.one (.ofElement "Hen")) .null =
      .error (.recursionLimit 3 none) := by cbv
  obtain ⟨_, account, settled⟩ :=
    (render_ends_within_limit canonical).2 (.one (.ofElement "Hen")) .null
  exact ⟨canonical, names, account, (settled strictGrow names answers).trans rendered⟩

end Renderer

end MarkupTree
