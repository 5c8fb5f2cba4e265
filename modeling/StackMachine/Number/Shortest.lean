import StackMachine.Number.Binary64

/-! # Shortest decimal digits

The fewest decimal digits that read back as a given double. The reals that round
to it form an interval; on each decimal grid the two neighbours of the double are
tried, coarsest grid first, and of two that fit the nearer is taken, a tie going
to the even digit. -/

namespace StackMachine.Binary64

/-- The positive number `digits * 10 ^ exponent`. -/
structure Scientific where
  digits : Nat
  exponent : Int
  deriving DecidableEq, Repr

/-- The largest `e` with `10 ^ e ≤ num / den`, for positive arguments. -/
def floorLog10 (num den : Nat) : Int :=
  let guess : Int := digitCount num - digitCount den
  if den * tenPow guess.toNat ≤ num * tenPow (-guess).toNat then guess else guess - 1

/-- A positive double `value / unit` with the interval `low / unit` to `high / unit`
of the reals that round to it, whose ends belong to it when `closed`. -/
structure Interval where
  low : Nat
  value : Nat
  high : Nat
  unit : Nat
  closed : Bool

/-- The interval of the double `mantissa * 2 ^ exponent`. Below a power of two the
doubles lie twice as dense. -/
def Interval.of (mantissa : Nat) (exponent : Int) : Interval :=
  let up := exponent.toNat
  -- in quarters of the last place, so that half the way to either neighbour is a whole number
  let unit := 4 <<< (-exponent).toNat
  let dense := mantissa = hiddenBit ∧ leastExponent < exponent
  { low := (4 * mantissa - (if dense then 1 else 2)) <<< up
    value := (4 * mantissa) <<< up
    high := (4 * mantissa + 2) <<< up
    unit := unit
    closed := mantissa % 2 == 0 }

def Interval.holds (i : Interval) (num den : Nat) : Bool :=
  let n := num * i.unit
  if i.closed then i.low * den ≤ n && n ≤ i.high * den
  else i.low * den < n && n < i.high * den

/-- The grid point of spacing `10 ^ spacing` that stands for the double, if one of
its two neighbours on the grid lies in the interval. -/
def Interval.onGrid? (i : Interval) (spacing : Int) : Option Nat :=
  let up := tenPow spacing.toNat
  let down := tenPow (-spacing).toNat
  let below := i.value * down / (i.unit * up)
  let above := below + 1
  let nearest := roundQuotient (i.value * down) (i.unit * up)
  match i.holds (below * up) down, i.holds (above * up) down with
  | true, true => some nearest
  | true, false => some below
  | false, true => some above
  | false, false => none

/-- The first grid with a hit, starting from `digits` digits, of which at most
`tries` more are allowed. -/
def Interval.search (i : Interval) (top : Int) (digits : Nat) : Nat → Scientific
  | 0 => ⟨roundQuotient i.value i.unit, 0⟩
  | tries + 1 =>
    let spacing := top + 1 - digits
    match i.onGrid? spacing with
    | some n => ⟨n, spacing⟩
    | none => i.search top (digits + 1) tries

/-- The shortest decimal that reads back as `mantissa * 2 ^ exponent`; seventeen
digits always suffice. -/
def shortest (mantissa : Nat) (exponent : Int) : Scientific :=
  let i := Interval.of mantissa exponent
  i.search (floorLog10 i.value i.unit) 1 17

end StackMachine.Binary64
