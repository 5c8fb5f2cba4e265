import StackMachine.Machine

/-! # Values that can be written

A value has a literal exactly when no integer inside it is too long. This is said of
the value alone, so it holds in every view of the machines. The numbers that machines
count with are all far below the limit. As in the texts themselves, the room for
nesting is assumed to suffice; how deep a value is makes no difference here. -/

namespace StackMachine

namespace Integer

theorem indexLimit_lt_unwritable : Machine.indexLimit < unwritable := by
  have small : Machine.indexLimit < tenPow 20 := by decide
  exact Nat.lt_of_lt_of_le small (tenPow_le_tenPow (by decide))

/-- What fits into an index can be written. -/
theorem isWritable_of_index {n : Int} (h : n.natAbs ≤ Machine.indexLimit) :
    isWritable n = true := by
  have := indexLimit_lt_unwritable
  simp only [isWritable, decide_eq_true_eq]
  omega

theorem text?_of_index {n : Nat} (h : n ≤ Machine.indexLimit) :
    text? (n : Int) = some (toString n) := by
  have fits : isWritable (n : Int) = true := isWritable_of_index (by omega)
  simp only [text?, fits, if_true]
  rfl

theorem isWritable_unwritable : isWritable unwritable = false := by
  rw [isWritable, Int.natAbs_natCast, decide_eq_false_iff_not]
  exact Nat.lt_irrefl _

theorem text?_isSome (n : Int) : (text? n).isSome = isWritable n := by
  cases h : isWritable n <;> simp [text?, h]

end Integer

theorem rationalLiteral?_isSome (q : Rat) :
    (rationalLiteral? q).isSome = (Integer.isWritable q.num && Integer.isWritable q.den) := by
  unfold rationalLiteral?
  rw [← Integer.text?_isSome q.num, ← Integer.text?_isSome q.den]
  generalize Integer.text? q.num = num
  generalize Integer.text? q.den = den
  cases num <;> cases den <;> rfl

namespace Value

mutual

/-- Whether every integer inside a value is short enough to be written. Depth is not counted. -/
def isWritable : Value → Bool
  | .int n => Integer.isWritable n
  | .rational q => Integer.isWritable q.num && Integer.isWritable q.den
  | .list items => areWritable items
  | .tuple items => areWritable items
  | .mapping entries => haveWritable entries
  | .instruction _ _ _ operands => areWritable operands
  | _ => true

/-- Whether all of some values can be written. -/
def areWritable : List Value → Bool
  | [] => true
  | v :: rest => isWritable v && areWritable rest

/-- Whether all keys and values of some entries can be written. -/
def haveWritable : List (Value × Value) → Bool
  | [] => true
  | (k, v) :: rest => isWritable k && isWritable v && haveWritable rest

end

theorem areWritable_iff (vs : List Value) : areWritable vs = true ↔ ∀ v ∈ vs, v.isWritable := by
  induction vs with
  | nil => simp [areWritable]
  | cons v rest ih => simp [areWritable, ih]

mutual

/-- A value has a literal exactly when it can be written, whatever the machines are doing. -/
theorem literal?_isSome (view : View) (v : Value) : (v.literal? view).isSome = v.isWritable := by
  cases v with
  | int n => exact Integer.text?_isSome n
  | rational q => exact rationalLiteral?_isSome q
  | list items =>
    rw [literal?, isWritable, Option.isSome_map, literals?_isSome view items]
  | tuple items =>
    rw [literal?, isWritable, Option.isSome_map, literals?_isSome view items]
  | mapping entries =>
    rw [literal?, isWritable, Option.isSome_map, entryLiterals?_isSome view entries]
  | instruction serial owner op operands =>
    rw [literal?, isWritable, Option.isSome_map, literals?_isSome view operands]
  | _ => rfl

theorem literals?_isSome (view : View) (vs : List Value) :
    (literals? view vs).isSome = areWritable vs := by
  cases vs with
  | nil => rfl
  | cons v rest =>
    rw [areWritable, ← literal?_isSome view v, ← literals?_isSome view rest, literals?]
    cases literal? view v <;> cases literals? view rest <;> rfl

theorem entryLiterals?_isSome (view : View) (entries : List (Value × Value)) :
    (entryLiterals? view entries).isSome = haveWritable entries := by
  match entries with
  | [] => rfl
  | (k, v) :: rest =>
    rw [haveWritable, ← literal?_isSome view k, ← literal?_isSome view v,
      ← entryLiterals?_isSome view rest, entryLiterals?]
    cases literal? view k <;> cases literal? view v <;> cases entryLiterals? view rest <;> rfl

end

end Value

/-- A fault that shows a value is of the intended kind exactly when the value can be written. -/
theorem Fault.showing_eq (view : View) (v : Value) (fault : String → Fault) :
    (v.isWritable = true ∧ ∃ shown, Fault.showing view v fault = fault shown) ∨
      (v.isWritable = false ∧ Fault.showing view v fault = .digitLimit) := by
  rw [← Value.literal?_isSome view v, Fault.showing]
  cases v.literal? view with
  | none => exact Or.inr ⟨rfl, rfl⟩
  | some shown => exact Or.inl ⟨rfl, shown, rfl⟩

/-- An instruction has a text exactly when its operands can be written. -/
theorem Instruction.text?_isSome (view : View) (i : Instruction) :
    (i.text? view).isSome = Value.areWritable i.operands := by
  rw [Instruction.text?, Option.isSome_map, Value.literals?_isSome]

end StackMachine
