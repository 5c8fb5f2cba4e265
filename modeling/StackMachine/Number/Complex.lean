import StackMachine.Number.FloatText

/-! # Complex numbers

Pairs of doubles with the product and the text of a complex number. -/

namespace StackMachine

structure Complex where
  re : Float
  im : Float

namespace Complex

def ofReal (x : Float) : Complex := ⟨x, 0.0⟩

/-- The product, each part from two rounded products. -/
def mul (z w : Complex) : Complex :=
  ⟨z.re * w.re - z.im * w.im, z.re * w.im + z.im * w.re⟩

/-- A part with its sign, which a NaN does not have. -/
def signed (x : Float) : String :=
  let s := Binary64.Layout.part.write x
  if s.toList.head? = some '-' then s else "+" ++ s

/-- The text of a complex number: the imaginary part alone when the real part is
positive zero, otherwise both parts in parentheses. -/
def text (z : Complex) : String :=
  if z.re.toBits = 0 then Binary64.Layout.part.write z.im ++ "j"
  else "(" ++ Binary64.Layout.part.write z.re ++ signed z.im ++ "j)"

end Complex

end StackMachine
