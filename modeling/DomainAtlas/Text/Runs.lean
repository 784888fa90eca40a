/-! Sets of characters, given as evenly spaced runs of code points. -/

namespace DomainAtlas.Text

/-- The code points `first`, `first + step`, … that do not pass `last`. -/
structure Run where
  first : Nat
  last : Nat
  step : Nat
  deriving DecidableEq, Repr

namespace Run

def has (run : Run) (c : Char) : Bool :=
  run.first ≤ c.toNat && c.toNat ≤ run.last && (c.toNat - run.first) % run.step == 0

def between (bounds : Nat × Nat) : Run := ⟨bounds.1, bounds.2, 1⟩

end Run

def inRuns (runs : List Run) (c : Char) : Bool := runs.any (·.has c)

end DomainAtlas.Text
