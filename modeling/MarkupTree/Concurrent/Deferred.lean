/-!
Answers that may be some rounds away. In every round all that is waited for is asked once more, from
left to right.
-/

namespace MarkupTree

/-- An answer that is there, or that is still one round further away than another. -/
inductive Deferred (ε α : Type) where
  | done (result : Except ε α)
  | later (rest : Deferred ε α)

namespace Deferred

variable {ε ε' α β ι : Type}

def outcome : Deferred ε α → Except ε α
  | .done result => result
  | .later rest => rest.outcome

/-- How far away the answer is. -/
def rounds : Deferred ε α → Nat
  | .done _ => 0
  | .later rest => rest.rounds + 1

def convert (reading : Except ε α → Except ε' β) : Deferred ε α → Deferred ε' β
  | .done result => .done (reading result)
  | .later rest => .later (rest.convert reading)

/-- The next step starts in the round in which the one before it answers. -/
def andThen : Deferred ε α → (α → Deferred ε β) → Deferred ε β
  | .done (.ok value), next => next value
  | .done (.error fault), _ => .done (.error fault)
  | .later rest, next => .later (rest.andThen next)

instance : Monad (Deferred ε) where
  pure value := .done (.ok value)
  bind := andThen

/--
Two answers that are waited for together. A fault of the first ends the wait, and so does one of the
second, unless it is held back until the first has answered.
-/
def pair (held : Bool) : Deferred ε α → Deferred ε β → Deferred ε (α × β)
  | .done (.error fault), _ => .done (.error fault)
  | .done (.ok value), other => (value, ·) <$> other
  | .later rest, .done (.error fault) =>
      if held then .later (pair held rest (.done (.error fault))) else .done (.error fault)
  | .later rest, .done (.ok value) => .later (pair held rest (.done (.ok value)))
  | .later rest, .later other => .later (pair held rest other)

/-- The second is not asked for at all where the first fails at once. -/
def both (held : Bool) (first : Deferred ε α) (second : Unit → Deferred ε β) :
    Deferred ε (α × β) :=
  match first with
  | .done (.error fault) => .done (.error fault)
  | first => pair held first (second ())

def all (held : Bool) (ask : ι → Deferred ε α) : List ι → Deferred ε (List α)
  | [] => pure []
  | item :: rest => do
      let (value, values) ← both held (ask item) fun _ => all held ask rest
      return value :: values

/-- Up to so many answers are asked for one by one; more of them are taken from a queue, which gives
them out in order. -/
def queueLimit : Nat := 30

/-- A queue holds a fault back until those before it have answered. -/
def isQueued (items : List ι) : Bool := queueLimit < items.length

def join (ask : ι → Deferred ε α) (items : List ι) : Deferred ε (List α) :=
  all (isQueued items) ask items

end Deferred

end MarkupTree
