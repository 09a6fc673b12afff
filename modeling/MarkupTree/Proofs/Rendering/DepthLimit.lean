import Mathlib
import MarkupTree.Proofs.Rendering.Nodes

/-!
The depth limit is only a guard: a render that does not run into it gives the same with any higher
limit, and at any place further up.
-/

namespace MarkupTree

/-- The renderer with another depth limit. -/
def Renderer.withLimit (renderer : Renderer) (limit : Nat) : Renderer :=
  { renderer with options := { renderer.options with maxDepth := limit } }

/-- A run that hits its depth limit says nothing of another run; all else is the same. -/
def Tolerance.ofLimit : Tolerance Fault where
  frees fault := ∃ limit element, fault = .recursionLimit limit element
  pairs := Eq

namespace Renderer

variable (renderer : Renderer)

theorem renderLevels_agree (canonical : renderer.Canonical) (limit higher more : Nat)
    (levels : Nat) (nodes : List Node) (props : Value) :
    Agree .ofLimit Eq ((renderer.withLimit limit).renderLevels levels nodes props)
      ((renderer.withLimit higher).renderLevels (levels + more) nodes props) := by
  have covers (fault : Fault) : Tolerance.ofLimit.Covers fault := .inr rfl
  induction levels generalizing nodes props with
  | zero =>
      cases nodes with
      | nil => cases more <;> exact .ok ""
      | cons node rest => exact .freed (by exact ⟨limit, node.element, rfl⟩) _
  | succ levels ih =>
      rw [Nat.succ_add]
      refine Agree.andThen (.mapM ?_) fun parts => .ok _
      refine List.forall₂_same.mpr ?_
      intro node _
      have alike (depth other : Nat) : Scope.Alike .ofLimit Eq
          ((renderer.withLimit limit).scope
            ((renderer.withLimit limit).renderLevels levels) depth props)
          ((renderer.withLimit higher).scope
            ((renderer.withLimit higher).renderLevels (levels + more)) other props) :=
        { context := rfl, utilities := rfl, props := rfl
          missing := fun _ _ => covers _
          itself := fun _ => rfl
          deeper := fun same props => same ▸ ih _ props }
      exact (alike _ _).renderNode (fun fault _ => covers fault) canonical (.refl Eq node)

/-- A result other than the fault of the depth limit stays the same under a higher limit, and where
the nodes stand further up. -/
theorem renderNodes_of_lower_limit (canonical : renderer.Canonical)
    {limit higher depth shallower : Nat} (raised : limit ≤ higher) (lifted : shallower ≤ depth)
    (nodes : List Node) (props : Value) {result : Except Fault String}
    (rendered : (renderer.withLimit limit).renderNodes depth nodes props = result)
    (within : ∀ reached element, result ≠ .error (.recursionLimit reached element)) :
    (renderer.withLimit higher).renderNodes shallower nodes props = result := by
  obtain ⟨more, room⟩ : ∃ more, higher + 1 - shallower = (limit + 1 - depth) + more :=
    Nat.exists_eq_add_of_le (by omega)
  have agree := renderer.renderLevels_agree canonical limit higher more (limit + 1 - depth)
    nodes props
  have first : (renderer.withLimit limit).renderLevels (limit + 1 - depth) nodes props = result :=
    rendered
  change (renderer.withLimit higher).renderLevels (higher + 1 - shallower) nodes props = result
  rw [room]
  rw [first] at agree
  generalize (renderer.withLimit higher).renderLevels _ nodes props = second at agree ⊢
  cases agree with
  | values same => rw [same]
  | freed frees second =>
      obtain ⟨reached, element, fault⟩ := frees
      exact absurd (congrArg _ fault) (within reached element)
  | paired same => rw [same]

def listing : Renderer where
  components := [("Listing", .one
    { element := some "ul"
      fields := [("foreach", .array [.string "items",
        .object [("element", .string "li"), ("__children", .string "value")]])] })]
  extensions := Extension.canonical
  context := .object [("items", .array [.string "a", .string "b"])]

theorem listing_under_higher_limit :
    listing.Canonical ∧ 3 ≤ 5 ∧ 0 ≤ 1 ∧
      (listing.withLimit 3).renderNodes 1 [.ofElement "Listing"] .null =
        .ok "<ul><li>a</li><li>b</li></ul>" ∧
      (listing.withLimit 5).renderNodes 0 [.ofElement "Listing"] .null =
        .ok "<ul><li>a</li><li>b</li></ul>" := by
  have canonical : listing.Canonical := by
    simp [Canonical, listing, Extension.canonical, Extension.IsCanonical]
  have rendered : (listing.withLimit 3).renderNodes 1 [.ofElement "Listing"] .null =
      .ok "<ul><li>a</li><li>b</li></ul>" := by cbv
  refine ⟨canonical, by decide, by decide, rendered, ?_⟩
  exact listing.renderNodes_of_lower_limit canonical (by decide) (by decide) _ .null rendered
    (by simp)

end Renderer

end MarkupTree
