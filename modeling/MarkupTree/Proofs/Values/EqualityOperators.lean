import MarkupTree.Proofs.Values.Equality
import MarkupTree.Utility.Builtin

/-!
The equality operators. They inherit their laws from equality of values: strict equality tells what
the utility `equals` tells, and loose equality also holds of values that have the same number.
-/

namespace MarkupTree

open Operand (strictEqual)

namespace Operand

variable {left right : Option Value}

theorem strictEqual_comm (first : ∀ value ∈ left, value.Settled)
    (second : ∀ value ∈ right, value.Settled) : strictEqual left right = strictEqual right left :=
  strictEqual_comm_of fun x given y other => Value.beq_comm (first x given) (second y other)

theorem looseEqual_comm (first : ∀ value ∈ left, value.Settled)
    (second : ∀ value ∈ right, value.Settled) : looseEqual left right = looseEqual right left := by
  have strict := strictEqual_comm first second
  cases left with
  | none =>
      cases right with
      | none => rfl
      | some y => cases y <;> rfl
  | some x =>
      cases right with
      | none => cases x <;> rfl
      | some y =>
          cases x with
          | null => cases y <;> rfl
          | bool flag =>
              cases y with
              | bool other => exact Number.beq_comm (numberOfFlag other) (numberOfFlag flag)
              | _ => rfl
          | number n =>
              cases y with
              | number m => exact strict
              | _ => rfl
          | string text =>
              cases y with
              | string other => exact strict
              | _ => rfl
          | array items =>
              cases y with
              | array others => exact strict
              | _ => rfl
          | object fields =>
              cases y with
              | object others => exact strict
              | _ => rfl

theorem looseEqual_of_strictEqual (same : strictEqual left right = true) :
    looseEqual left right = true := by
  cases left with
  | none =>
      cases right with
      | none => rfl
      | some y => cases same
  | some x =>
      cases right with
      | none => cases same
      | some y =>
          cases x <;> cases y
          case bool.bool flag other =>
            obtain rfl : flag = other := eq_of_beq same
            cases flag <;> decide
          case null.null => rfl
          case number.number | string.string | array.array | object.object => exact same
          all_goals cases same

end Operand

/--
Equality of values is symmetric and transitive; it is reflexive where there is no not-a-number, and
it does not see in which order fields stand. Both equality operators are symmetric, strict equality
implies loose equality, and on values it is what the utility `equals` tells.
-/
theorem equality_laws :
    (∀ a b : Value, a.Settled → b.Settled → (a == b) = (b == a)) ∧
    (∀ a b c : Value, a.Settled → b.Settled → c.Settled →
      (a == b) = true → (b == c) = true → (a == c) = true) ∧
    (∀ a : Value, a.Settled → a.FreeOfNaN → (a == a) = true) ∧
    (∀ a b c : Value, a.Settled → c.Settled → a.Reordered b →
      (b == c) = (a == c) ∧ (c == b) = (c == a)) ∧
    (∀ left right : Option Value, (∀ value ∈ left, value.Settled) →
      (∀ value ∈ right, value.Settled) →
        Operand.binary .strictEqual left right = Operand.binary .strictEqual right left ∧
        Operand.binary .equal left right = Operand.binary .equal right left) ∧
    (∀ left right : Option Value,
      Operand.binary .strictEqual left right = .ok (some (.bool true)) →
        Operand.binary .equal left right = .ok (some (.bool true))) ∧
    ∀ (receiver : Receiver) (a b : Value), ∃ flag,
      Builtin.equals receiver [a, b] = .ok (.bool flag) ∧
      Operand.binary .strictEqual (some a) (some b) = .ok (some (.bool flag)) := by
  refine ⟨fun a b => Value.beq_comm, fun a b c => Value.beq_trans, fun a => Value.beq_self,
    ?_, ?_, ?_, ?_⟩
  · intro a b c first second reordered
    have same := reordered.beq_eq first second
    refine ⟨same, ?_⟩
    calc (c == b)
      _ = (b == c) := Value.beq_comm second (reordered.settled first)
      _ = (a == c) := same
      _ = (c == a) := Value.beq_comm first second
  · intro left right first second
    simp only [Operand.binary, Operand.strictEqual_comm first second,
      Operand.looseEqual_comm first second, and_self]
  · intro left right strict
    have same : strictEqual left right = true := by simpa [Operand.binary] using strict
    rw [Operand.binary, Operand.looseEqual_of_strictEqual same]
  · intro receiver a b
    exact ⟨a == b, rfl, rfl⟩

def crew : Value :=
  .object [("name", .string "Ada"),
    ("tags", .array [.null, .object [("x", .bool true), ("y", .number 0)]])]

def shuffledCrew : Value :=
  .object [("tags", .array [.null, .object [("y", .number 0), ("x", .bool true)]]),
    ("name", .string "Ada")]

theorem crew_equality :
    crew.Settled ∧ crew.FreeOfNaN ∧ crew.Reordered shuffledCrew ∧
    (shuffledCrew == crew) = true ∧
    Operand.binary .equal (some crew) none = Operand.binary .equal none (some crew) := by
  have parted {holds : Value → Prop} {first second : Value} (head : holds first)
      (last : holds second) : ∀ part ∈ [first, second], holds part :=
    List.forall_mem_cons.mpr ⟨head, List.forall_mem_singleton.mpr last⟩
  have settled : crew.Settled := by
    have outer : ["name", "tags"].Nodup := by decide
    have inner : ["x", "y"].Nodup := by decide
    refine .of outer (parted (.of trivial nofun) (.of trivial (parted (.of trivial nofun) ?_)))
    exact .of inner (parted (.of trivial nofun) (.of trivial nofun))
  have free : crew.FreeOfNaN := by
    have zero : ∀ n, Value.number 0 = .number n → n.isNaN = false := by
      rintro _ ⟨⟩
      decide
    refine .of nofun (parted (.of nofun nofun) (.of nofun (parted (.of nofun nofun) ?_)))
    exact .of nofun (parted (.of nofun nofun) (.of zero nofun))
  have reordered : crew.Reordered shuffledCrew := by
    refine .tail (.single (.here (.swap _ _ _))) ?_
    exact .field [] _ "tags" (.item [.null] [] (.here (.swap _ _ _)))
  obtain ⟨_, _, self, order, operators, _⟩ := equality_laws
  have same := (order crew shuffledCrew crew settled settled reordered).1.trans
    (self crew settled free)
  have one : ∀ value ∈ some crew, value.Settled :=
    fun value given => Option.some.inj given ▸ settled
  exact ⟨settled, free, reordered, same, (operators (some crew) none one nofun).2⟩

end MarkupTree
