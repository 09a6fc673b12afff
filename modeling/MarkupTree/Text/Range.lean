/-! Runs of code points at even distances. -/

namespace MarkupTree.Text

structure Run where
  first : Nat
  last : Nat
  step : Nat

structure Shift where
  run : Run
  distance : Int

def Run.has (run : Run) (code : Nat) : Bool :=
  run.first ≤ code && code ≤ run.last && (code - run.first) % run.step == 0

def memberOf (runs : List Run) (c : Char) : Bool := runs.any fun run => run.has c.toNat

end MarkupTree.Text
