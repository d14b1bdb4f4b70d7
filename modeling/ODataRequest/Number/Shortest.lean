import ODataRequest.Number.Binary64
namespace ODataRequest

/-!
The shortest decimal that reads back as a double. The reals that round to the double form an
interval; the coarsest decimal grid with a point in it gives the digits.
-/

inductive TieBreak
  | away
  | even

namespace Binary64

/-- A number and the ends of the interval that rounds to it, over one denominator. -/
structure Neighbourhood where
  low : Nat
  value : Nat
  high : Nat
  denominator : Nat
  closed : Bool

/-- The interval of reals that round to a finite non-zero magnitude. Below a power of two
the neighbouring double is half as far away. -/
def neighbourhood (x : Binary64) : Neighbourhood :=
  let m := x.significand
  let e := x.exponent - 2
  let lower := if x.fraction = 0 ∧ 1 < x.biasedExponent then 4 * m - 1 else 4 * m - 2
  let scale := if 0 ≤ e then Nat.pow 2 e.toNat else 1
  ⟨lower * scale, 4 * m * scale, (4 * m + 2) * scale,
    if 0 ≤ e then 1 else Nat.pow 2 (-e).toNat, m % 2 == 0⟩

def Neighbourhood.inUnits (n : Neighbourhood) (k : Int) : Neighbourhood :=
  if 0 ≤ k then { n with denominator := n.denominator * Nat.pow 10 k.toNat }
  else
    let scale := Nat.pow 10 (-k).toNat
    { n with low := n.low * scale, value := n.value * scale, high := n.high * scale }

def Neighbourhood.contains (n : Neighbourhood) (units : Nat) : Bool :=
  let point := units * n.denominator
  if n.closed then decide (n.low ≤ point ∧ point ≤ n.high)
  else decide (n.low < point ∧ point < n.high)

def Neighbourhood.nearest? (n : Neighbourhood) (tie : TieBreak) : Option Nat :=
  let below := n.value / n.denominator
  let above := below + 1
  match n.contains below, n.contains above with
  | false, false => none
  | true, false => some below
  | false, true => some above
  | true, true =>
    let twice := 2 * (n.value % n.denominator)
    if twice < n.denominator then some below
    else if n.denominator < twice then some above
    else match tie with
      | .away => some above
      | .even => some (below + below % 2)

def leadingExponent (x : Binary64) : Int :=
  ((floorLog2 x.ratio.1 x.ratio.2 + 1) * 30103).fdiv 100000 + 1

/-- Digits and exponent of ten of the shortest decimal that reads back as the magnitude:
the first grid, from coarse to fine, with a point in the interval. -/
def shortest (tie : TieBreak) (x : Binary64) : Nat × Int :=
  let start := x.leadingExponent
  let grids := (List.range 25).map fun (i : Nat) => start - i
  let hit := grids.findSome? fun k =>
    ((x.neighbourhood.inUnits k).nearest? tie).map fun digits => (digits, k)
  hit.getD (0, 0)

end Binary64
end ODataRequest
