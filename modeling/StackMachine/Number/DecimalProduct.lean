import StackMachine.Number.Decimal

/-! # Products of decimals

Decimal multiplication in a context of limited precision and exponent range. The
exact product is rounded once, a tie to the even digit; results below the normal
range lose digits, and those above it are refused. -/

namespace StackMachine.Decimal

/-- The precision and the exponents of the leading digit that results may have. -/
structure Context where
  precision : Nat
  leastPower : Int
  greatestPower : Int
  deriving DecidableEq, Repr

/-- Twenty-eight digits, and a million powers of ten either way. -/
def Context.standard : Context := ⟨28, -999999, 999999⟩

/-- The exponent of the smallest positive result. -/
def Context.leastExponent (ctx : Context) : Int := ctx.leastPower - ctx.precision + 1

inductive Signal where
  | overflow
  | invalid
  deriving DecidableEq, Repr

/-- A result that has to be dropped to a higher exponent: `coefficient` is rounded
there, and a carry to one digit too many moves the exponent once more. -/
def Context.roundTo (ctx : Context) (negative : Bool) (coefficient : Nat)
    (exponent target : Int) : Except Signal Decimal :=
  let rounded := dropDigits coefficient (target - exponent).toNat
  if digitCount rounded ≤ ctx.precision then .ok (.finite negative rounded target)
  -- a carry all the way makes a power of ten, so the digit that is dropped is a zero
  else if ctx.greatestPower < target + ctx.precision then .error .overflow
  else .ok (.finite negative (rounded / 10) (target + 1))

/-- The exact number `± coefficient * 10 ^ exponent` as a result of the context. -/
def Context.finish (ctx : Context) (negative : Bool) (coefficient : Nat) (exponent : Int) :
    Except Signal Decimal :=
  if coefficient = 0 then
    .ok (.finite negative 0 (min (max exponent ctx.leastExponent) ctx.greatestPower))
  else
    let size : Int := digitCount coefficient
    let target := max (exponent + size - ctx.precision) ctx.leastExponent
    if ctx.greatestPower < exponent + size - 1 then .error .overflow
    else if target ≤ exponent then .ok (.finite negative coefficient exponent)
    else ctx.roundTo negative coefficient exponent target

/-- A NaN as a result: only the lowest digits of its payload are kept. -/
def Context.quietNan (ctx : Context) (negative : Bool) (payload : Nat) : Decimal :=
  .nan negative false (payload % tenPow ctx.precision)

/-- The product of two decimals. A signaling NaN, and an infinity times zero, are
refused; of two quiet NaNs the first is the result. -/
def Context.mul (ctx : Context) : Decimal → Decimal → Except Signal Decimal
  -- a signaling NaN counts before a quiet one, on either side
  | .nan _ true _, _ => .error .invalid
  | _, .nan _ true _ => .error .invalid
  | .nan negative false payload, _ => .ok (ctx.quietNan negative payload)
  | _, .nan negative false payload => .ok (ctx.quietNan negative payload)
  | .infinite s, .infinite t => .ok (.infinite (s != t))
  | .infinite s, .finite t coefficient _ =>
    if coefficient = 0 then .error .invalid else .ok (.infinite (s != t))
  | .finite s coefficient _, .infinite t =>
    if coefficient = 0 then .error .invalid else .ok (.infinite (s != t))
  | .finite s a e, .finite t b f => ctx.finish (s != t) (a * b) (e + f)

end StackMachine.Decimal
