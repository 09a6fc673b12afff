import Mathlib
import MarkupTree.Expr.Operators
import MarkupTree.Proofs.Values.Fields

/-!
Equality of values. Arrays and objects are equal if strict equality holds at every index, or under
every name: from this view equality is symmetric and transitive, and it does not see the order of
fields.
-/

namespace MarkupTree

namespace Number

open Float.Model (UnpackedFloat)

theorem unpacked_beq_iff {x y : UnpackedFloat} : x.beq y = true ↔
    (∃ sign other, x = .zero sign ∧ y = .zero other) ∨ x = y ∧ x ≠ .notANumber := by
  unfold UnpackedFloat.beq UnpackedFloat.compare
  cases x with
  | notANumber => simp
  | infinity sign =>
      cases y with
      | infinity other => cases sign <;> cases other <;> simp [compare]
      | _ => cases sign <;> simp
  | zero sign =>
      cases y with
      | infinity other => cases other <;> simp
      | finite other mantissa exponent positive => cases other <;> simp
      | _ => simp
  | finite sign mantissa exponent positive =>
      cases y with
      | infinity other => cases other <;> cases sign <;> simp
      | finite other mantissa exponent positive =>
          cases sign <;> cases other <;> simp [Ordering.swap_eq_eq, and_comm]
      | _ => cases sign <;> simp

variable {x y z : Float}

theorem beq_iff : (x == y) = true ↔
    (∃ sign other, x.toModel.unpack = .zero sign ∧ y.toModel.unpack = .zero other) ∨
      x.toModel.unpack = y.toModel.unpack ∧ x.toModel.unpack ≠ .notANumber :=
  unpacked_beq_iff

theorem beq_symm (same : (x == y) = true) : (y == x) = true := by
  rcases beq_iff.mp same with ⟨sign, other, zero, null⟩ | ⟨same, given⟩
  · exact beq_iff.mpr (.inl ⟨other, sign, null, zero⟩)
  · exact beq_iff.mpr (.inr ⟨same.symm, same ▸ given⟩)

theorem beq_comm (x y : Float) : (x == y) = (y == x) :=
  Bool.eq_iff_iff.mpr ⟨beq_symm, beq_symm⟩

theorem beq_trans (first : (x == y) = true) (second : (y == z) = true) : (x == z) = true := by
  rw [beq_iff] at first second ⊢
  rcases first with ⟨sign, middle, zero, null⟩ | ⟨same, _⟩
  · rcases second with ⟨_, other, _, last⟩ | ⟨same, _⟩
    · exact .inl ⟨sign, other, zero, last⟩
    · exact .inl ⟨sign, middle, zero, same ▸ null⟩
  · rwa [same]

theorem beq_self (given : x.isNaN = false) : (x == x) = true := by
  refine beq_iff.mpr (.inr ⟨rfl, fun absent => ?_⟩)
  have found : x.isNaN = true := by
    change x.toModel.unpack.isNaN = true
    rw [absent]
    rfl
  rw [given] at found
  cases found

end Number

open Operand (strictEqual)

namespace Operand

variable {left middle right : Option Value}

/-! Strict equality of operands is equality of their values, where there are any. -/

theorem strictEqual_comm_of
    (comm : ∀ x ∈ left, ∀ y ∈ right, (x == y) = (y == x)) :
    strictEqual left right = strictEqual right left := by
  cases left with
  | none => cases right <;> rfl
  | some x =>
      cases right with
      | none => rfl
      | some y => exact comm x rfl y rfl

theorem strictEqual_trans_of
    (trans : ∀ x ∈ left, ∀ y ∈ middle, ∀ z ∈ right,
      (x == y) = true → (y == z) = true → (x == z) = true)
    (first : strictEqual left middle = true) (second : strictEqual middle right = true) :
    strictEqual left right = true := by
  cases left with
  | none =>
      cases middle with
      | none => exact second
      | some y => cases first
  | some x =>
      cases middle with
      | none => cases first
      | some y =>
          cases right with
          | none => cases second
          | some z => exact trans x rfl y rfl z rfl first second

theorem eq_none_iff_of_strictEqual (same : strictEqual left right = true) :
    left = none ↔ right = none := by
  cases left <;> cases right <;> simp_all [strictEqual]

theorem strictEqual_self_of (self : ∀ x ∈ left, (x == x) = true) :
    strictEqual left left = true := by
  cases left with
  | none => rfl
  | some x => exact self x rfl

end Operand

namespace Value

def parts : Value → List Value
  | .array items => items
  | .object fields => fields.map Prod.snd
  | _ => []

/-- A property of a value, and of its parts down to any depth. -/
inductive Throughout (holds : Value → Prop) : Value → Prop
  | of {value : Value} (own : holds value)
      (inner : ∀ part ∈ value.parts, Throughout holds part) : Throughout holds value

namespace Throughout

variable {holds : Value → Prop} {value : Value}

theorem own (all : Throughout holds value) : holds value := by
  cases all with
  | of own inner => exact own

theorem inner (all : Throughout holds value) : ∀ part ∈ value.parts, Throughout holds part := by
  cases all with
  | of own inner => exact inner

end Throughout

def NamesOnce : Value → Prop
  | .object fields => Fields.Distinct fields
  | _ => True

/-- Every object in a value names every field once. -/
def Settled (value : Value) : Prop := value.Throughout NamesOnce

/-- No number in a value is not-a-number. -/
def FreeOfNaN (value : Value) : Prop :=
  value.Throughout fun part => ∀ n, part = .number n → n.isNaN = false

theorem mem_parts_of_getElem? {items : List Value} {index : Nat} {item : Value}
    (found : items[index]? = some item) : item ∈ (Value.array items).parts :=
  List.mem_of_getElem? found

theorem mem_parts_of_find? {fields : Fields Value} {name : String} {value : Value}
    (found : Fields.find? fields name = some value) : value ∈ (Value.object fields).parts :=
  List.mem_map_of_mem (Fields.mem_of_find?_eq_some found)

/-! Equality index by index, and name by name. -/

theorem array_beq_iff {items others : List Value} : (Value.array items == .array others) = true ↔
    ∀ index : Nat, strictEqual items[index]? others[index]? = true := by
  change equalItems items others = true ↔ _
  induction items generalizing others with
  | nil =>
      cases others with
      | nil => simp [equalItems, strictEqual]
      | cons other rest =>
          refine iff_of_false (by simp [equalItems]) fun all => ?_
          cases all 0
  | cons item rest ih =>
      cases others with
      | nil =>
          refine iff_of_false (by simp [equalItems]) fun all => ?_
          cases all 0
      | cons other others =>
          rw [equalItems, Bool.and_eq_true, ih]
          constructor
          · rintro ⟨own, behind⟩ (_ | index)
            · exact own
            · exact behind index
          · intro all
            exact ⟨all 0, fun index => all (index + 1)⟩

theorem within_iff {fields others : Fields Value} : within fields others = true ↔
    ∀ entry ∈ fields, strictEqual (some entry.2) (Fields.find? others entry.1) = true := by
  induction fields with
  | nil => simp [within]
  | cons entry rest ih =>
      rw [within, Bool.and_eq_true, ih, List.forall_mem_cons, Fields.find?]
      cases others.lookup entry.1 <;> rfl

theorem object_beq_opened {fields others : Fields Value} :
    (Value.object fields == .object others) = true ↔
      fields.length = others.length ∧ within fields others = true := by
  change (fields.length == others.length && within fields others) = true ↔ _
  rw [Bool.and_eq_true, beq_iff_eq]

theorem object_beq_iff {fields others : Fields Value} (distinct : Fields.Distinct fields)
    (unique : Fields.Distinct others) : (Value.object fields == .object others) = true ↔
      ∀ name, strictEqual (Fields.find? fields name) (Fields.find? others name) = true := by
  rw [object_beq_opened, within_iff]
  constructor
  · rintro ⟨sizes, all⟩ name
    have listed : Fields.names fields ⊆ Fields.names others := by
      intro name member
      obtain ⟨entry, present, rfl⟩ := List.mem_map.mp member
      by_contra missing
      have same := all entry present
      rw [Fields.find?_eq_none_iff.mpr missing] at same
      cases same
    -- As many names as there are others leave none of the others out.
    have perm : (Fields.names fields).Perm (Fields.names others) := by
      refine (List.subperm_of_subset distinct listed).perm_of_length_le ?_
      rw [Fields.names, Fields.names, List.length_map, List.length_map]
      exact Nat.le_of_eq sizes.symm
    cases found : Fields.find? fields name with
    | some value => exact found ▸ all (name, value) (Fields.mem_of_find?_eq_some found)
    | none =>
        have absent := Fields.find?_eq_none_iff.mp found
        rw [perm.mem_iff] at absent
        rw [Fields.find?_eq_none_iff.mpr absent]
        rfl
  · intro all
    have listed (name : String) : name ∈ Fields.names fields ↔ name ∈ Fields.names others := by
      have alike := Operand.eq_none_iff_of_strictEqual (all name)
      rw [Fields.find?_eq_none_iff, Fields.find?_eq_none_iff] at alike
      exact not_iff_not.mp alike
    have perm : (Fields.names fields).Perm (Fields.names others) :=
      (List.perm_ext_iff_of_nodup distinct unique).mpr listed
    refine ⟨by simpa [Fields.names] using perm.length_eq, fun entry present => ?_⟩
    rw [← (Fields.find?_eq_some_iff distinct).mpr present]
    exact all entry.1

/-! The laws of equality, by induction on the first value. -/

theorem beq_comm {a b : Value} (first : a.Settled) (second : b.Settled) : (a == b) = (b == a) := by
  induction first generalizing b with
  | @of a own inner ih =>
      cases a with
      | number n =>
          cases b with
          | number m => exact Number.beq_comm n m
          | _ => rfl
      | array items =>
          cases b with
          | array others =>
              have comm (index : Nat) : strictEqual items[index]? others[index]? =
                  strictEqual others[index]? items[index]? :=
                Operand.strictEqual_comm_of fun x found y other =>
                  ih x (mem_parts_of_getElem? found) (second.inner y (mem_parts_of_getElem? other))
              rw [Bool.eq_iff_iff, array_beq_iff, array_beq_iff]
              simp only [comm]
          | _ => rfl
      | object fields =>
          cases b with
          | object others =>
              have comm (name : String) :
                  strictEqual (Fields.find? fields name) (Fields.find? others name) =
                    strictEqual (Fields.find? others name) (Fields.find? fields name) :=
                Operand.strictEqual_comm_of fun x found y other =>
                  ih x (mem_parts_of_find? found) (second.inner y (mem_parts_of_find? other))
              rw [Bool.eq_iff_iff, object_beq_iff own second.own, object_beq_iff second.own own]
              simp only [comm]
          | _ => rfl
      | bool flag =>
          cases b with
          | bool other => exact (BEq.comm : (flag == other) = (other == flag))
          | _ => rfl
      | string text =>
          cases b with
          | string other => exact (BEq.comm : (text == other) = (other == text))
          | _ => rfl
      | null => cases b <;> rfl

theorem beq_trans {a b c : Value} (first : a.Settled) (second : b.Settled) (third : c.Settled)
    (left : (a == b) = true) (right : (b == c) = true) : (a == c) = true := by
  induction first generalizing b c with
  | @of a own inner ih =>
      cases a with
      | number n =>
          cases b with
          | number m =>
              cases c with
              | number k => exact Number.beq_trans left right
              | _ => cases right
          | _ => cases left
      | array items =>
          cases b with
          | array middle =>
              cases c with
              | array others =>
                  rw [array_beq_iff] at left right ⊢
                  intro index
                  refine Operand.strictEqual_trans_of (fun x found y between z other => ?_)
                    (left index) (right index)
                  exact ih x (mem_parts_of_getElem? found)
                    (second.inner y (mem_parts_of_getElem? between))
                    (third.inner z (mem_parts_of_getElem? other))
              | _ => cases right
          | _ => cases left
      | object fields =>
          cases b with
          | object middle =>
              cases c with
              | object others =>
                  rw [object_beq_iff own second.own] at left
                  rw [object_beq_iff second.own third.own] at right
                  rw [object_beq_iff own third.own]
                  intro name
                  refine Operand.strictEqual_trans_of (fun x found y between z other => ?_)
                    (left name) (right name)
                  exact ih x (mem_parts_of_find? found)
                    (second.inner y (mem_parts_of_find? between))
                    (third.inner z (mem_parts_of_find? other))
              | _ => cases right
          | _ => cases left
      | bool flag =>
          cases b with
          | bool other =>
              obtain rfl : flag = other := eq_of_beq left
              exact right
          | _ => cases left
      | string text =>
          cases b with
          | string other =>
              obtain rfl : text = other := eq_of_beq left
              exact right
          | _ => cases left
      | null =>
          cases b with
          | null => exact right
          | _ => cases left

theorem beq_self {a : Value} (settled : a.Settled) (free : a.FreeOfNaN) : (a == a) = true := by
  induction settled with
  | @of a own inner ih =>
      cases a with
      | number n => exact Number.beq_self (free.own n rfl)
      | array items =>
          rw [array_beq_iff]
          intro index
          refine Operand.strictEqual_self_of fun x found => ?_
          exact ih x (mem_parts_of_getElem? found) (free.inner x (mem_parts_of_getElem? found))
      | object fields =>
          rw [object_beq_iff own own]
          intro name
          refine Operand.strictEqual_self_of fun x found => ?_
          exact ih x (mem_parts_of_find? found) (free.inner x (mem_parts_of_find? found))
      | bool flag => exact (BEq.rfl : (flag == flag) = true)
      | string text => exact (BEq.rfl : (text == text) = true)
      | null => rfl

/-! Values whose fields stand in another order. -/

inductive Reorders : Value → Value → Prop
  | here {fields others : Fields Value} (perm : fields.Perm others) :
      Reorders (.object fields) (.object others)
  | item (before behind : List Value) {item other : Value} (inside : Reorders item other) :
      Reorders (.array (before ++ item :: behind)) (.array (before ++ other :: behind))
  | field (before behind : Fields Value) (name : String) {value other : Value}
      (inside : Reorders value other) :
      Reorders (.object (before ++ (name, value) :: behind))
        (.object (before ++ (name, other) :: behind))

/-- The fields of any objects in a value are put into other orders. -/
def Reordered : Value → Value → Prop := Relation.ReflTransGen Reorders

theorem forall_mem_replaced {holds : Value → Prop} {before behind : List Value} {item other : Value}
    (all : ∀ part ∈ before ++ item :: behind, holds part) (own : holds other) :
    ∀ part ∈ before ++ other :: behind, holds part := by
  simp only [List.forall_mem_append, List.forall_mem_cons] at all ⊢
  exact ⟨all.1, own, all.2.2⟩

theorem equalItems_replaced {item other : Value} (before behind : List Value) {given : List Value}
    (same : ∀ x ∈ given, (other == x) = (item == x)) :
    equalItems (before ++ other :: behind) given = equalItems (before ++ item :: behind) given := by
  induction before generalizing given with
  | nil =>
      cases given with
      | nil => rfl
      | cons x rest =>
          have own : equal other x = equal item x := same x List.mem_cons_self
          simp only [List.nil_append, equalItems, own]
  | cons front before ih =>
      cases given with
      | nil => rfl
      | cons x rest =>
          have others := ih (List.forall_mem_cons.mp same).2
          simp only [List.cons_append, equalItems, others]

theorem parts_object_around (before behind : Fields Value) (name : String) (value : Value) :
    (Value.object (before ++ (name, value) :: behind)).parts =
      before.map Prod.snd ++ value :: behind.map Prod.snd := by
  rw [parts, List.map_append, List.map_cons]

namespace Reorders

variable {a b : Value}

theorem settled (reorders : Reorders a b) (settled : a.Settled) : b.Settled := by
  induction reorders with
  | @here fields others perm =>
      have distinct : Fields.Distinct others := (perm.map Prod.fst).nodup_iff.mp settled.own
      refine .of distinct fun part member => settled.inner part ?_
      exact (perm.map Prod.snd).mem_iff.mpr member
  | item before behind inside ih =>
      have own := ih (settled.inner _ (List.mem_append_right before List.mem_cons_self))
      exact .of trivial (forall_mem_replaced settled.inner own)
  | @field before behind name value other inside ih =>
      have inner := settled.inner
      rw [parts_object_around] at inner
      have own := ih (inner value (List.mem_append_right _ List.mem_cons_self))
      have distinct : Fields.Distinct (before ++ (name, other) :: behind) := by
        have once : Fields.Distinct (before ++ (name, value) :: behind) := settled.own
        simpa [Fields.Distinct, Fields.names] using once
      refine .of distinct ?_
      rw [parts_object_around]
      exact forall_mem_replaced inner own

theorem beq_eq (reorders : Reorders a b) {c : Value} (first : a.Settled) (second : c.Settled) :
    (b == c) = (a == c) := by
  have result := reorders.settled first
  induction reorders generalizing c with
  | @here fields others perm =>
      cases c with
      | object given =>
          rw [Bool.eq_iff_iff, object_beq_iff result.own second.own,
            object_beq_iff first.own second.own]
          simp only [Fields.find?_perm first.own perm]
      | _ => rfl
  | @item before behind item other inside ih =>
      cases c with
      | array given =>
          have own := first.inner item (List.mem_append_right before List.mem_cons_self)
          have same : ∀ x ∈ given, (other == x) = (item == x) := fun x member =>
            ih own (second.inner x member) (inside.settled own)
          exact equalItems_replaced before behind same
      | _ => rfl
  | @field before behind name value other inside ih =>
      cases c with
      | object given =>
          have inner := first.inner
          rw [parts_object_around] at inner
          have own := inner value (List.mem_append_right _ List.mem_cons_self)
          have same : strictEqual (some other) (Fields.find? given name) =
              strictEqual (some value) (Fields.find? given name) := by
            cases found : Fields.find? given name with
            | none => rfl
            | some x =>
                exact ih own (second.inner x (mem_parts_of_find? found)) (inside.settled own)
          rw [Bool.eq_iff_iff, object_beq_opened, object_beq_opened, within_iff, within_iff]
          simp only [List.forall_mem_append, List.forall_mem_cons, same, List.length_append,
            List.length_cons]
      | _ => rfl

end Reorders

theorem Reordered.settled {a b : Value} (reordered : Reordered a b) (settled : a.Settled) :
    b.Settled := by
  induction reordered with
  | refl => exact settled
  | tail _ step ih => exact step.settled ih

theorem Reordered.beq_eq {a b c : Value} (reordered : Reordered a b) (first : a.Settled)
    (second : c.Settled) : (b == c) = (a == c) := by
  induction reordered with
  | refl => rfl
  | tail earlier step ih => exact (step.beq_eq (Reordered.settled earlier first) second).trans ih

end Value

end MarkupTree
