import StackMachine.Number.Shortest
import StackMachine.Text.Joined

/-! # Doubles as text

The shortest digits of a double laid out in decimal: positional while the leading
digit stands for a power of ten from `-4` to `15`, with an exponent otherwise. -/

namespace StackMachine.Binary64

/-- The choices left open by the digits. -/
structure Layout where
  /-- The least power of ten of a leading digit that is written positionally. -/
  leastPositional : Int
  /-- The least power of ten from which an exponent is written again. -/
  leastExponential : Int
  /-- Whether a whole number is marked by `.0`. -/
  markWhole : Bool
  deriving DecidableEq, Repr

/-- Real numbers: a whole number keeps its point. -/
def Layout.real : Layout := ⟨-4, 16, true⟩

/-- The parts of a complex number: a whole part has no point. -/
def Layout.part : Layout := ⟨-4, 16, false⟩

def withoutTrailingZeros (digits : List Char) : List Char :=
  (digits.reverse.dropWhile (· == '0')).reverse

/-- An exponent with its sign and at least two digits. -/
def exponentText (e : Int) : String :=
  let size := toString e.natAbs
  (if e < 0 then "-" else "+") ++ Text.repeated '0' (2 - size.length) ++ size

/-- The digits with the point after the first `point` of them, zeros filling the gaps. -/
def positional (layout : Layout) (digits : List Char) (point : Int) : String :=
  if point ≤ 0 then "0." ++ Text.repeated '0' (-point).toNat ++ String.ofList digits
  else if digits.length ≤ point.toNat then
    String.ofList digits ++ Text.repeated '0' (point.toNat - digits.length) ++
      (if layout.markWhole then ".0" else "")
  else String.ofList (digits.take point.toNat) ++ "." ++ String.ofList (digits.drop point.toNat)

/-- The digits with a point after the first, and the power of ten it stands for. -/
def exponential (digits : List Char) (power : Int) : String :=
  match digits with
  | [] => ""
  | first :: rest =>
    String.ofList (if rest.isEmpty then [first] else first :: '.' :: rest) ++ "e" ++
      exponentText power

def Layout.magnitude (layout : Layout) (s : Scientific) : String :=
  let all := (toString s.digits).toList
  let point := s.exponent + all.length
  let digits := withoutTrailingZeros all
  if layout.leastPositional ≤ point - 1 ∧ point - 1 < layout.leastExponential then
    positional layout digits point
  else exponential digits (point - 1)

def Layout.write (layout : Layout) (x : Float) : String :=
  match parts x with
  | .nan => "nan"
  | .infinite negative => if negative then "-inf" else "inf"
  | .finite negative mantissa exponent =>
    (if negative then "-" else "") ++
      (if mantissa = 0 then (if layout.markWhole then "0.0" else "0")
       else layout.magnitude (shortest mantissa exponent))

end StackMachine.Binary64
