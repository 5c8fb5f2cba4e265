import StackMachine.Number.Rounding

/-! # Double precision numbers and exact numbers

A finite double is `± mantissa * 2 ^ exponent`; a quotient of natural numbers has
a nearest double unless it is too large. Both directions work on the bits. -/

namespace StackMachine.Binary64

inductive Parts where
  | finite (negative : Bool) (mantissa : Nat) (exponent : Int)
  | infinite (negative : Bool)
  | nan
  deriving DecidableEq, Repr

/-- The implicit leading bit of a mantissa. -/
def hiddenBit : Nat := 0x10000000000000

/-- The exponent of the smallest positive double. -/
def leastExponent : Int := -1074

def parts (x : Float) : Parts :=
  let bits := x.toBits.toNat
  let negative := bits / 0x8000000000000000 == 1
  let biased := bits / hiddenBit % 2048
  let fraction := bits % hiddenBit
  if biased = 2047 then
    if fraction = 0 then .infinite negative else .nan
  else if biased = 0 then .finite negative fraction leastExponent
  else .finite negative (hiddenBit + fraction) (biased - 1 + leastExponent)

/-- The largest `e` with `2 ^ e ≤ num / den`, for positive arguments. -/
def floorLog2 (num den : Nat) : Int :=
  let guess : Int := num.log2 - den.log2
  if den <<< guess.toNat ≤ num <<< (-guess).toNat then guess else guess - 1

/-- The bits of the positive double nearest to `num / den`, a tie to the even
mantissa; none when that is not finite. -/
def nearestBits? (num den : Nat) : Option Nat :=
  let exponent := max (floorLog2 num den - 52) leastExponent
  let mantissa := roundQuotient (num <<< (-exponent).toNat) (den <<< exponent.toNat)
  let bits := (exponent - leastExponent).toNat * hiddenBit + mantissa
  if bits < 2047 * hiddenBit then some bits else none

/-- The double nearest to `± num / den`; none when it is too large. -/
def nearest? (negative : Bool) (num den : Nat) : Option Float :=
  let sign := if negative then 0x8000000000000000 else 0
  if num = 0 then some (Float.ofBits (UInt64.ofNat sign))
  else (nearestBits? num den).map fun bits => Float.ofBits (UInt64.ofNat (sign + bits))

def ofInt? (n : Int) : Option Float := nearest? (n < 0) n.natAbs 1

def ofRat? (q : Rat) : Option Float := nearest? (q.num < 0) q.num.natAbs q.den

def infinity (negative : Bool) : Float :=
  Float.ofBits (if negative then 0xfff0000000000000 else 0x7ff0000000000000)

def nan : Float := Float.ofBits 0x7ff8000000000000

end StackMachine.Binary64
