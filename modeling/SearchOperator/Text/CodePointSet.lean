import SearchOperator.Text.Hex

/-!
# Sets of code points

A set of code points is kept as the lengths of its runs: how many code points from zero on lie
outside, how many after them inside, and so on in turn.
-/

namespace SearchOperator.Text

/-- A set of code points, as lengths of runs that lie outside and inside it in turn. -/
structure CodePointSet where
  runs : List Nat

namespace CodePointSet

/-- Read a table of hexadecimal run lengths. -/
def ofLines (lines : List String) : CodePointSet :=
  ⟨hexWords lines⟩

/-- Whether the `n`-th code point of the runs lies inside, the first run being `inside` or not. -/
def runsContain : Bool → List Nat → Nat → Bool
  | _, [], _ => false
  | inside, run :: runs, n => if n < run then inside else runsContain (!inside) runs (n - run)

def contains (s : CodePointSet) (c : Char) : Bool :=
  runsContain false s.runs c.toNat

end CodePointSet

end SearchOperator.Text
