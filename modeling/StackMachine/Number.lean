import StackMachine.Number.Complex
import StackMachine.Number.DecimalProduct

/-! # Products of numbers of any kind

Integers and rationals multiply exactly; with a double or a complex number both
factors are rounded to doubles first; decimals multiply with integers and with
one another only. -/

namespace StackMachine

inductive Number where
  | int (n : Int)
  | rational (q : Rat)
  | float (x : Float)
  | complex (z : Complex)
  | decimal (d : Decimal)

namespace Number

inductive Failure where
  /-- A decimal does not multiply with a rational, double or complex number. -/
  | mismatch
  /-- An integer has no nearest double. -/
  | integerTooLarge
  /-- A rational has no nearest double. -/
  | quotientTooLarge
  /-- Decimal multiplication signals. -/
  | decimal (signal : Decimal.Signal)
  deriving DecidableEq, Repr

def roundInt (n : Int) : Except Failure Float :=
  (Binary64.ofInt? n).elim (.error .integerTooLarge) .ok

def roundRat (q : Rat) : Except Failure Float :=
  (Binary64.ofRat? q).elim (.error .quotientTooLarge) .ok

/-- The product of two decimals in the standard context. -/
def mulDecimal (d e : Decimal) : Except Failure Number :=
  match Decimal.Context.standard.mul d e with
  | .ok r => .ok (.decimal r)
  | .error signal => .error (.decimal signal)

/-- The product of two doubles, the first of which may be unavailable. -/
def mulFloat (x : Except Failure Float) (y : Float) : Except Failure Number :=
  x.map fun x => .float (x * y)

def mulComplex (x : Except Failure Float) (z : Complex) : Except Failure Number :=
  x.map fun x => .complex ((Complex.ofReal x).mul z)

def complexMul (z : Complex) (x : Except Failure Float) : Except Failure Number :=
  x.map fun x => .complex (z.mul (Complex.ofReal x))

def mul : Number → Number → Except Failure Number
  | .int a, .int b => .ok (.int (a * b))
  | .int a, .rational q => .ok (.rational (Rat.ofInt a * q))
  | .rational p, .int b => .ok (.rational (p * Rat.ofInt b))
  | .rational p, .rational q => .ok (.rational (p * q))
  | .int a, .float y => mulFloat (roundInt a) y
  | .float x, .int b => (roundInt b).map fun y => .float (x * y)
  | .rational p, .float y => mulFloat (roundRat p) y
  | .float x, .rational q => (roundRat q).map fun y => .float (x * y)
  | .float x, .float y => .ok (.float (x * y))
  | .int a, .complex w => mulComplex (roundInt a) w
  | .complex z, .int b => complexMul z (roundInt b)
  | .rational p, .complex w => mulComplex (roundRat p) w
  | .complex z, .rational q => complexMul z (roundRat q)
  | .float x, .complex w => mulComplex (.ok x) w
  | .complex z, .float y => complexMul z (.ok y)
  | .complex z, .complex w => .ok (.complex (z.mul w))
  | .int a, .decimal e => mulDecimal (.ofInt a) e
  | .decimal d, .int b => mulDecimal d (.ofInt b)
  | .decimal d, .decimal e => mulDecimal d e
  | .decimal _, _ => .error .mismatch
  | _, .decimal _ => .error .mismatch

/-- The product accumulated from one: first with `a`, then with `b`. The factor one
rounds a long decimal, and is a complex product for a complex number. -/
def product (a b : Number) : Except Failure Number :=
  match mul (.int 1) a with
  | .ok first => mul first b
  | .error failure => .error failure

end Number

end StackMachine
