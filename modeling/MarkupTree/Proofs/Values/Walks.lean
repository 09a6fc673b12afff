import MarkupTree.Value.Path

/-!
Walking a dotted path is taking one property after the other. A walk looks for children first, and
asks for a length in its last step only; but a length holds nothing, so that no path goes on behind it.
-/

namespace MarkupTree

namespace Text

variable {separator : Char} {piece : List Char}

theorem pieces_eq_splitOn (cs : List Char) : pieces separator cs = cs.splitOn separator := by
  induction cs with
  | nil => rfl
  | cons c rest ih =>
      obtain ⟨first, others, split⟩ :=
        List.exists_cons_of_ne_nil (List.splitOn_ne_nil separator rest)
      rw [pieces, List.splitOn_cons_eq_if_modifyHead, ih, split]
      by_cases same : c = separator <;> simp [same]

theorem pieces_ne_nil (separator : Char) (cs : List Char) : pieces separator cs ≠ [] := by
  rw [pieces_eq_splitOn]
  exact List.splitOn_ne_nil separator cs

theorem pieces_append (before behind : List Char) :
    pieces separator (before ++ separator :: behind) =
      pieces separator before ++ pieces separator behind := by
  simp only [pieces_eq_splitOn, List.splitOn_append_cons_self]

theorem pieces_whole (whole : separator ∉ piece) : pieces separator piece = [piece] := by
  rw [pieces_eq_splitOn]
  exact List.splitOn_eq_singleton whole

theorem cut?_append_of_eq_some {cs before behind : List Char}
    (cut : cut? separator cs = some (before, behind)) (more : List Char) :
    cut? separator (cs ++ more) = some (before, behind ++ more) := by
  induction cs generalizing before with
  | nil => cases cut
  | cons c rest ih =>
      by_cases same : c = separator
      · simp_all [cut?]
      · rw [cut?, if_neg same] at cut
        obtain ⟨⟨front, tail⟩, inner, split⟩ := Option.map_eq_some_iff.mp cut
        cases split
        simp [cut?, same, ih inner]

theorem cut?_append_of_eq_none {cs : List Char} (whole : cut? separator cs = none)
    (behind : List Char) : cut? separator (cs ++ separator :: behind) = some (cs, behind) := by
  induction cs with
  | nil => simp [cut?]
  | cons c rest ih =>
      by_cases same : c = separator
      · simp [cut?, same] at whole
      · rw [cut?, if_neg same, Option.map_eq_none_iff] at whole
        simp [cut?, same, ih whole]

theorem eq_of_cut? {cs before behind : List Char}
    (cut : cut? separator cs = some (before, behind)) : cs = before ++ separator :: behind := by
  induction cs generalizing before with
  | nil => cases cut
  | cons c rest ih =>
      rw [cut?] at cut
      split at cut
      · rename_i same
        cases cut
        rw [same]
        rfl
      · obtain ⟨⟨front, tail⟩, inner, split⟩ := Option.map_eq_some_iff.mp cut
        cases split
        rw [ih inner]
        rfl

theorem cut?_eq_none {cs : List Char} (whole : separator ∉ cs) :
    cut? separator cs = none := by
  induction cs with
  | nil => rfl
  | cons c rest ih =>
      obtain ⟨other, others⟩ : separator ≠ c ∧ separator ∉ rest := by simpa using whole
      rw [cut?, if_neg other.symm, ih others]
      rfl

theorem pieces_intercalate {parts : List (List Char)} (given : parts ≠ [])
    (whole : ∀ part ∈ parts, separator ∉ part) :
    pieces separator ([separator].intercalate parts) = parts := by
  rw [pieces_eq_splitOn]
  exact List.splitOn_intercalate separator whole given

end Text

namespace Value

variable {value : Value} {key : String}

theorem item?_length (items : List Value) : item? items "length" = none := by
  have letters : Decimal.index? "length".toList = none := by decide
  rw [item?, letters, Option.bind_none]

theorem get?_of_child? {child : Value} (found : value.child? key = some child) :
    value.get? key = some child := by
  cases value with
  | object fields => exact found
  | array items =>
      have other : key ≠ "length" := by
        rintro rfl
        simp [child?, item?_length] at found
      rw [get?, if_neg other]
      exact found
  | _ => cases found

theorem get?_of_child?_eq_none {property : Value} (missing : value.child? key = none)
    (found : value.get? key = some property) (next : String) : property.get? next = none := by
  cases value with
  | object fields =>
      rw [get?, ← child?, missing] at found
      cases found
  | array items =>
      rw [get?] at found
      split at found
      · cases found
        rfl
      · rw [← child?, missing] at found
        cases found
  | string text =>
      rw [get?] at found
      split at found
      · cases found
        rfl
      · cases found
  | _ => cases found

/-- A walk takes one property after the other. -/
theorem walk_eq_foldlM (value : Value) (keys : List String) :
    value.walk keys = keys.foldlM get? value := by
  induction keys generalizing value with
  | nil => rfl
  | cons key rest ih =>
      rw [walk, List.foldlM_cons]
      cases child : value.child? key with
      | some found =>
          rw [get?_of_child? child]
          exact ih found
      | none =>
          cases rest with
          | nil => simp
          | cons next rest =>
              cases property : value.get? key with
              | none => rfl
              | some length =>
                  have ends := get?_of_child?_eq_none child property next
                  simp [ends]

theorem segments_append_dot (before behind : String) :
    segments (before ++ "." ++ behind) = segments before ++ segments behind := by
  have letters : (before ++ "." ++ behind).toList = before.toList ++ '.' :: behind.toList := by
    simp [String.toList_append]
  simp only [segments, letters, Text.pieces_append, List.filter_append, List.map_append]

theorem segments_eq (path : String) :
    segments path = ((path.toList.splitOn '.').filter (· ≠ [])).map String.ofList := by
  rw [segments, Text.pieces_eq_splitOn]

structure IsLabel (name : String) : Prop where
  visible : name ≠ ""
  whole : '.' ∉ name.toList

theorem IsLabel.segments {name : String} (label : IsLabel name) : segments name = [name] := by
  have visible : name.toList ≠ [] := by simpa using label.visible
  rw [Value.segments, Text.pieces_whole label.whole]
  simp [visible]

theorem lookupPath_label (value : Value) {name : String} (label : IsLabel name) :
    value.lookupPath name = value.get? name := by
  simp [lookupPath, walk_eq_foldlM, label.segments]

theorem lookupPath_append_label (value : Value) (path : String) {name : String}
    (label : IsLabel name) :
    value.lookupPath (path ++ "." ++ name) = (value.lookupPath path).bind (·.get? name) := by
  simp only [lookupPath, walk_eq_foldlM, segments_append_dot, label.segments, List.foldlM_append,
    List.foldlM_cons, List.foldlM_nil, bind_pure]
  rfl

/--
Looking up a path is taking one property after the other, by the names between its dots, until there
is none. So what stands behind a dot is looked up where the path in front of it leads.
-/
theorem lookupPath_eq_properties (value : Value) :
    (∀ path : String, value.lookupPath path =
      (((path.toList.splitOn '.').filter (· ≠ [])).map String.ofList).foldlM get? value) ∧
    ∀ before behind : String, value.lookupPath (before ++ "." ++ behind) =
      (value.lookupPath before).bind (·.lookupPath behind) := by
  constructor
  · intro path
    rw [lookupPath, walk_eq_foldlM, segments_eq]
  · intro before behind
    calc
      value.lookupPath (before ++ "." ++ behind)
        = (segments before ++ segments behind).foldlM get? value := by
          rw [lookupPath, walk_eq_foldlM, segments_append_dot]
      _ = ((segments before).foldlM get? value).bind ((segments behind).foldlM get?) :=
          List.foldlM_append
      _ = (value.lookupPath before).bind (·.lookupPath behind) := by
          simp only [lookupPath, walk_eq_foldlM]

example : (object [("length", .array [.null, .bool true])]).lookupPath "length..1." =
    some (.bool true) := by cbv

end Value

end MarkupTree
