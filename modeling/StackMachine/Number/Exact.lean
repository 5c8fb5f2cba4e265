import StackMachine.Number

/-! # Equality of numbers

Numbers of whatever kind are equal when their exact values are; a NaN equals
nothing. Decimals may have exponents of any size, so they are brought to a normal
form and compared without forming a power of ten that is not needed. -/

namespace StackMachine

/-- An exact real number, or an infinity. A decimal stands for `± coefficient * 10 ^ exponent`. -/
inductive ExactReal where
  | ratio (q : Rat)
  | decimal (negative : Bool) (coefficient : Nat) (exponent : Int)
  | infinite (negative : Bool)
  deriving DecidableEq

/-- A number without the zeros at its end, and how many they were. Zero is left alone. -/
def withoutZeros (n : Nat) : Nat × Nat :=
  if h : n ≠ 0 ∧ n % 10 = 0 then
    have : n / 10 < n := Nat.div_lt_self (Nat.pos_of_ne_zero h.1) (by decide)
    let (rest, zeros) := withoutZeros (n / 10)
    (rest, zeros + 1)
  else (n, 0)
termination_by n

namespace ExactReal

/-- The rational `± n * 2 ^ exponent`. -/
def ofBinary (negative : Bool) (n : Nat) (exponent : Int) : Rat :=
  let num := n <<< exponent.toNat
  mkRat (if negative then -(num : Int) else num) (1 <<< (-exponent).toNat)

def ofFloat? (x : Float) : Option ExactReal :=
  match Binary64.parts x with
  | .finite negative mantissa exponent => some (.ratio (ofBinary negative mantissa exponent))
  | .infinite negative => some (.infinite negative)
  | .nan => none

/-- The value of a decimal in normal form, unless it is a NaN: the coefficient has no zeros at its
end, and there is one zero. -/
def ofDecimal? : Decimal → Option ExactReal
  | .finite negative coefficient exponent =>
    if coefficient = 0 then some (.decimal false 0 0)
    else
      let (digits, zeros) := withoutZeros coefficient
      some (.decimal negative digits (exponent + zeros))
  | .infinite negative => some (.infinite negative)
  | .nan _ _ _ => none

/-- Whether a decimal in normal form is a rational number. A whole number has to have the right
count of digits, and a fraction a denominator of enough bits, before a power is formed. -/
def decimalIsRatio (negative : Bool) (coefficient : Nat) (exponent : Int) (q : Rat) : Bool :=
  let size := q.num.natAbs
  negative == decide (q.num < 0) &&
    (if 0 ≤ exponent then
      q.den == 1 && digitCount size == digitCount coefficient + exponent.toNat &&
        size == coefficient * tenPow exponent.toNat
    else
      (-exponent).toNat ≤ q.den.log2 &&
        coefficient * q.den == size * tenPow (-exponent).toNat)

def same : ExactReal → ExactReal → Bool
  | .ratio p, .ratio q => p == q
  | .ratio q, .decimal negative coefficient exponent =>
    decimalIsRatio negative coefficient exponent q
  | .decimal negative coefficient exponent, .ratio q =>
    decimalIsRatio negative coefficient exponent q
  | .decimal s c e, .decimal t d f => s == t && c == d && e == f
  | .infinite s, .infinite t => s == t
  | _, _ => false

end ExactReal

namespace Number

/-- The real and the imaginary part of a number, unless one of them is a NaN. -/
def parts? : Number → Option (ExactReal × ExactReal)
  | .int n => some (.ratio (Rat.ofInt n), .ratio 0)
  | .rational q => some (.ratio q, .ratio 0)
  | .float x => (ExactReal.ofFloat? x).map fun re => (re, .ratio 0)
  | .decimal d => (ExactReal.ofDecimal? d).map fun re => (re, .ratio 0)
  | .complex z =>
    match ExactReal.ofFloat? z.re, ExactReal.ofFloat? z.im with
    | some re, some im => some (re, im)
    | _, _ => none

def isEqual (a b : Number) : Bool :=
  match a.parts?, b.parts? with
  | some (re, im), some (re', im') => re.same re' && im.same im'
  | _, _ => false

end Number

end StackMachine
