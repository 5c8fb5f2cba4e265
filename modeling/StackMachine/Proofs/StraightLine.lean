import StackMachine.Proofs.Turn
import Mathlib.Algebra.BigOperators.Group.List.Basic
import Mathlib.Algebra.Field.Rat

/-!
# Straight-line programs

A program that only pushes exact numbers and multiplies them is evaluated on its own, from
left to right over the rationals, and running it comes to the same: the same numbers are
left, or the first multiplication that lacks a factor fails. Written out, a tree of products
is such a program. Doubles, complex numbers and decimals do not occur, nor do jumps.
-/

namespace StackMachine

namespace StraightLine

/-- An exact number, of which a ratio is in lowest terms with a positive denominator. -/
inductive Scalar where
  | whole (n : Int)
  | ratio (q : Rat)

namespace Scalar

def toRat : Scalar → Rat
  | .whole n => n
  | .ratio q => q

def isWhole : Scalar → Bool
  | .whole _ => true
  | .ratio _ => false

def mul : Scalar → Scalar → Scalar
  | .whole a, .whole b => .whole (a * b)
  | x, y => .ratio (x.toRat * y.toRat)

/-- The number as machines hold it. -/
def value : Scalar → Value
  | .whole n => .int n
  | .ratio q => .rational q

theorem toRat_mul (x y : Scalar) : (x.mul y).toRat = x.toRat * y.toRat := by
  cases x <;> cases y <;> simp [mul, toRat]

theorem isWhole_mul (x y : Scalar) : (x.mul y).isWhole = (x.isWhole && y.isWhole) := by
  cases x <;> cases y <;> rfl

/-- The factor one, from which machines accumulate a product, changes no exact number. -/
theorem multiply_value (view : View) (x y : Scalar) :
    Machine.multiply view x.value y.value = .ok (x.mul y).value := by
  cases x <;> cases y <;>
    simp [Machine.multiply, value, Value.number?, Number.product, Number.mul, Value.ofNumber, mul,
      toRat]

end Scalar

/-- A step of a straight-line program. -/
inductive Step where
  | push (x : Scalar)
  | mult

/-- What a step makes of a stack, unless it lacks a factor. -/
def Step.apply : Step → List Scalar → Option (List Scalar)
  | .push x, stack => some (x :: stack)
  | .mult, first :: second :: rest => some (first.mul second :: rest)
  | .mult, _ => none

/-- The instruction does what the step says. -/
def Step.Encodes : Step → Instruction → Prop
  | .push x, i => i.op = .push ∧ i.operands.head? = some x.value
  | .mult, i => i.op = .mult

/-- The stack after all the steps, from left to right. -/
def evaluate (program : List Step) (stack : List Scalar) : Option (List Scalar) :=
  program.foldlM (fun stack step => step.apply stack) stack

theorem evaluate_cons (step : Step) (rest : List Step) (stack : List Scalar) :
    evaluate (step :: rest) stack = (step.apply stack).bind (evaluate rest) :=
  List.foldlM_cons

theorem evaluate_append (first second : List Step) (stack : List Scalar) :
    evaluate (first ++ second) stack = (evaluate first stack).bind (evaluate second) :=
  List.foldlM_append

theorem Step.apply_eq_none {step : Step} {stack : List Scalar} (h : step.apply stack = none) :
    step = .mult ∧ stack.length < 2 := by
  match step, stack with
  | .push _, _ => cases h
  | .mult, [] => simp
  | .mult, [_] => simp
  | .mult, _ :: _ :: _ => cases h

/-- A program without a value has a first multiplication that lacks a factor. -/
theorem exists_of_evaluate_eq_none {program : List Step} {stack : List Scalar}
    (h : evaluate program stack = none) :
    ∃ before after left, program = before ++ .mult :: after ∧
      evaluate before stack = some left ∧ left.length < 2 := by
  induction program generalizing stack with
  | nil => cases h
  | cons step rest ih =>
    rw [evaluate_cons] at h
    cases done : step.apply stack with
    | none =>
      obtain ⟨rfl, short⟩ := Step.apply_eq_none done
      exact ⟨[], rest, stack, rfl, rfl, short⟩
    | some next =>
      rw [done] at h
      obtain ⟨before, after, left, rfl, reached, short⟩ := ih h
      refine ⟨step :: before, after, left, rfl, ?_, short⟩
      rw [evaluate_cons, done]
      exact reached

inductive Product where
  | leaf (x : Scalar)
  | times (left right : Product)

namespace Product

/-- The tree as a program, each product after its factors. -/
def steps : Product → List Step
  | .leaf x => [.push x]
  | .times left right => left.steps ++ right.steps ++ [.mult]

def leaves : Product → List Scalar
  | .leaf x => [x]
  | .times left right => left.leaves ++ right.leaves

/-- The product, where the right factor is the one on top of the stack. -/
def value : Product → Scalar
  | .leaf x => x
  | .times left right => right.value.mul left.value

theorem evaluate_steps (tree : Product) (stack : List Scalar) :
    evaluate tree.steps stack = some (tree.value :: stack) := by
  induction tree generalizing stack with
  | leaf x => rfl
  | times left right ihLeft ihRight =>
    rw [steps, evaluate_append, evaluate_append, ihLeft, Option.bind_some, ihRight,
      Option.bind_some]
    rfl

theorem toRat_value (tree : Product) :
    tree.value.toRat = (tree.leaves.map Scalar.toRat).prod := by
  induction tree with
  | leaf x => simp [value, leaves]
  | times left right ihLeft ihRight =>
    rw [value, leaves, Scalar.toRat_mul, ihLeft, ihRight, List.map_append, List.prod_append,
      mul_comm]

theorem isWhole_value (tree : Product) :
    tree.value.isWhole = tree.leaves.all Scalar.isWhole := by
  induction tree with
  | leaf x => simp [value, leaves]
  | times left right ihLeft ihRight =>
    rw [value, leaves, Scalar.isWhole_mul, ihLeft, ihRight, List.all_append, Bool.and_comm]

end Product

end StraightLine

open StraightLine

/-- The program stands in the slots from the pointer on, and the slots after it are empty. -/
structure Machine.Loaded (program : List Step) (m : Machine) : Prop where
  fits : m.pointer + program.length ≤ m.slots.size
  stored : ∀ k step, program[k]? = some step →
    ∃ i, m.slots[m.pointer + k]? = some (some i) ∧ step.Encodes i
  vacant : ∀ address, m.pointer + program.length ≤ address → address < m.slots.size →
    m.slots[address]? = some none

theorem Machine.Loaded.drop {m : Machine} (before : List Step) {rest : List Step}
    (loaded : m.Loaded (before ++ rest)) (stack : List Value) :
    { m with pointer := m.pointer + before.length, stack := stack : Machine }.Loaded rest := by
  have size : m.pointer + (before ++ rest).length = m.pointer + before.length + rest.length := by
    rw [List.length_append]
    omega
  have fits := loaded.fits
  have vacant := loaded.vacant
  rw [size] at fits vacant
  refine ⟨fits, ?_, vacant⟩
  intro k step there
  have shifted : (before ++ rest)[before.length + k]? = some step := by
    rw [List.getElem?_append_right (by omega), Nat.add_sub_cancel_left]
    exact there
  obtain ⟨i, held, encodes⟩ := loaded.stored _ _ shifted
  refine ⟨i, ?_, encodes⟩
  rw [← Nat.add_assoc] at held
  exact held

theorem Machine.Loaded.going {m : Machine} {step : Step} {rest : List Step}
    (loaded : m.Loaded (step :: rest)) (on : m.running = true) : m.Going := by
  have fits := loaded.fits
  rw [List.length_cons] at fits
  exact ⟨on, by omega⟩

theorem Machine.Loaded.started {m : Machine} {program : List Step} (loaded : m.Loaded program) :
    { m with running := true : Machine }.Loaded program :=
  ⟨loaded.fits, loaded.stored, loaded.vacant⟩

namespace Rack

variable {r : Rack} {id : MachineId} {m : Machine}

theorem run_of_vacant {fuel : Nat} (here : r.machines[id]? = some m) (own : m.Owned id)
    (on : m.running = true) (loaded : m.Loaded []) (enough : m.slots.size - m.pointer < fuel) :
    Loop.run (turn id) fuel r = ⟨r.put id { m with pointer := m.slots.size }, .returned⟩ := by
  induction fuel generalizing r m with
  | zero => omega
  | succ fuel ih =>
    by_cases inside : m.pointer < m.slots.size
    · have empty := loaded.vacant m.pointer (Nat.le_refl _) inside
      have skips : turn id r = .moved (r.put id m.advanced) :=
        (turn_eq_iff here own).mpr (.skipped ⟨on, inside⟩ empty)
      have later : m.advanced.Loaded [] := by
        refine ⟨inside, by simp, ?_⟩
        intro address low high
        exact loaded.vacant address (Nat.le_of_succ_le low) high
      have left : m.advanced.slots.size - m.advanced.pointer < fuel := by
        simp only [Machine.advanced]
        omega
      rw [Loop.run_of_moved _ skips, ih (machines_put_self here m.advanced) own on later left,
        put_put]
      rfl
    · have atEnd : m.pointer = m.slots.size := Nat.le_antisymm loaded.fits (Nat.le_of_not_lt inside)
      have still : turn id r = .idle := turn_of_resting here fun going => inside going.2
      rw [Loop.run_of_idle _ still, ← atEnd, put_of_here here]

section Steps

variable {step : Step} {rest : List Step} {stack next : List Scalar}

/-- A turn at a step of the program makes of the stack what the step makes of it. -/
theorem turn_of_step (here : r.machines[id]? = some m) (own : m.Owned id) (on : m.running = true)
    (loaded : m.Loaded (step :: rest)) (values : m.stack = stack.map Scalar.value)
    (done : step.apply stack = some next) :
    turn id r = .moved (r.put id
      { m with pointer := m.pointer + 1, stack := next.map Scalar.value }) := by
  obtain ⟨i, held, encodes⟩ := loaded.stored 0 step rfl
  have outcome : m.advanced.Application (r.put id m.advanced).view id i.operands i.op
      (m.advanced.withStack (next.map Scalar.value)) (.ok "") := by
    -- A multiplication with fewer than two values is ruled out by `done`.
    match step, stack with
    | .push x, stack =>
      obtain ⟨op, first⟩ := encodes
      obtain ⟨more, given⟩ := List.head?_eq_some_iff.mp first
      cases done
      rw [op, List.map_cons, ← values]
      exact .pushed given
    | .mult, first :: second :: others =>
      cases done
      rw [show i.op = .mult from encodes]
      exact .multiplied values (Scalar.multiply_value _ _ _)
  exact turn_of_applied here own (loaded.going on) held outcome

theorem turn_of_short (here : r.machines[id]? = some m) (own : m.Owned id) (on : m.running = true)
    (loaded : m.Loaded (.mult :: rest)) (short : m.stack.length < 2) :
    turn id r = .failed (r.put id m.advanced)
      ⟨m.pointer, .mult, .stackExceeded "2" m.stack.length⟩ := by
  obtain ⟨i, held, encodes⟩ := loaded.stored 0 .mult rfl
  have op : i.op = .mult := encodes
  have outcome : m.advanced.Application (r.put id m.advanced).view id i.operands i.op m.advanced
      (.error (.stackExceeded "2" m.stack.length)) := by
    rw [op]
    exact .exceeded short
  rw [turn_of_aborted here own (loaded.going on) held outcome, op]

/-- Running the first steps of a program takes a turn for each and comes to their value. -/
theorem run_of_evaluated {before : List Step} {left : List Scalar}
    (here : r.machines[id]? = some m) (own : m.Owned id) (on : m.running = true)
    (loaded : m.Loaded (before ++ rest)) (values : m.stack = stack.map Scalar.value)
    (evaluated : evaluate before stack = some left) (fuel : Nat) :
    Loop.run (turn id) (fuel + before.length) r = Loop.run (turn id) fuel (r.put id
      { m with pointer := m.pointer + before.length, stack := left.map Scalar.value }) := by
  induction before generalizing r m stack with
  | nil =>
    cases evaluated
    rw [← values]
    exact congrArg _ (put_of_here here).symm
  | cons step before ih =>
    rw [evaluate_cons] at evaluated
    obtain ⟨next, done, evaluated⟩ := Option.bind_eq_some_iff.mp evaluated
    have turned := turn_of_step here own on loaded values done
    have there := machines_put_self here
      { m with pointer := m.pointer + 1, stack := next.map Scalar.value }
    have later := Machine.Loaded.drop [step] loaded (next.map Scalar.value)
    rw [List.length_cons, ← Nat.add_assoc, Loop.run_of_moved _ turned,
      ih there own on later rfl evaluated, put_put]
    simp only [Nat.add_assoc, Nat.add_comm 1]

variable {program before after : List Step} {left : List Scalar} {fuel : Nat}

/-- A program that has a value is run to the end of the slots. -/
theorem execute_of_evaluated (here : r.machines[id]? = some m) (own : m.Owned id)
    (loaded : m.Loaded program) (values : m.stack = stack.map Scalar.value)
    (enough : m.slots.size - m.pointer < fuel) (evaluated : evaluate program stack = some left) :
    r.execute id fuel = ⟨r.put id { m with
      pointer := m.slots.size, running := true, stack := left.map Scalar.value }, .returned⟩ := by
  have fits := loaded.fits
  obtain ⟨spare, rfl⟩ : ∃ spare, fuel = spare + program.length := ⟨fuel - program.length, by omega⟩
  have started := machines_put_self here { m with running := true }
  have whole : m.Loaded (program ++ []) := by
    rw [List.append_nil]
    exact loaded
  have reached := machines_put_self started { m with
    pointer := m.pointer + program.length, running := true, stack := left.map Scalar.value }
  have vacant : m.slots.size - (m.pointer + program.length) < spare := by omega
  rw [execute, start_of here, run_of_evaluated started own rfl whole.started values evaluated,
    run_of_vacant reached own rfl (whole.started.drop _ _) vacant, put_put, put_put]

/-- A program whose value lacks a factor is run to the multiplication that lacks it. -/
theorem execute_of_short (here : r.machines[id]? = some m) (own : m.Owned id)
    (loaded : m.Loaded (before ++ .mult :: after)) (values : m.stack = stack.map Scalar.value)
    (enough : m.slots.size - m.pointer < fuel) (evaluated : evaluate before stack = some left)
    (short : left.length < 2) :
    r.execute id fuel =
      ⟨r.put id { m with
          pointer := m.pointer + before.length + 1, running := true,
          stack := left.map Scalar.value },
        .failed ⟨m.pointer + before.length, .mult, .stackExceeded "2" left.length⟩⟩ := by
  have fits := loaded.fits
  rw [List.length_append, List.length_cons] at fits
  obtain ⟨spare, rfl⟩ : ∃ spare, fuel = spare + 1 + before.length :=
    ⟨fuel - 1 - before.length, by omega⟩
  have started := machines_put_self here { m with running := true }
  have reached := machines_put_self started { m with
    pointer := m.pointer + before.length, running := true, stack := left.map Scalar.value }
  have lacking : (left.map Scalar.value).length < 2 := by
    rw [List.length_map]
    exact short
  have fails := turn_of_short reached own rfl (loaded.started.drop _ _) lacking
  rw [execute, start_of here, run_of_evaluated started own rfl loaded.started values evaluated,
    Loop.run_of_failed _ fails, put_put, put_put, List.length_map]
  rfl

end Steps

/-- Running a straight-line program is evaluating it. If every multiplication has its factors, the
machine returns past its last slot with the numbers that are left; otherwise the first one without
them fails there, and the numbers up to it are left. The program of a tree of products leaves the
product of its leaves on the stack, whole exactly when all of them are. -/
theorem execute_straight_line (here : r.machines[id]? = some m) (own : m.Owned id)
    {program : List Step} {stack : List Scalar} (loaded : m.Loaded program)
    (values : m.stack = stack.map Scalar.value) {fuel : Nat}
    (enough : m.slots.size - m.pointer < fuel) :
    (match evaluate program stack with
      | some final =>
        r.execute id fuel = ⟨r.put id { m with
          pointer := m.slots.size, running := true, stack := final.map Scalar.value }, .returned⟩
      | none =>
        ∃ before after left, program = before ++ .mult :: after ∧
          evaluate before stack = some left ∧ left.length < 2 ∧
          r.execute id fuel =
            ⟨r.put id { m with
                pointer := m.pointer + before.length + 1, running := true,
                stack := left.map Scalar.value },
              .failed ⟨m.pointer + before.length, .mult, .stackExceeded "2" left.length⟩⟩) ∧
      ∀ tree : Product, program = tree.steps →
        ∃ x : Scalar, x.toRat = (tree.leaves.map Scalar.toRat).prod ∧
          (x.isWhole = true ↔ ∀ leaf ∈ tree.leaves, leaf.isWhole = true) ∧
          r.execute id fuel = ⟨r.put id { m with
            pointer := m.slots.size, running := true, stack := x.value :: m.stack },
            .returned⟩ := by
  have completed : ∀ final, evaluate program stack = some final →
      r.execute id fuel = ⟨r.put id { m with
        pointer := m.slots.size, running := true, stack := final.map Scalar.value },
        .returned⟩ := by
    intro final evaluated
    exact execute_of_evaluated here own loaded values enough evaluated
  refine ⟨?_, ?_⟩
  · cases evaluated : evaluate program stack with
    | some final => exact completed final evaluated
    | none =>
      obtain ⟨before, after, left, rfl, reached, short⟩ := exists_of_evaluate_eq_none evaluated
      exact ⟨before, after, left, rfl, reached, short,
        execute_of_short here own loaded values enough reached short⟩
  · rintro tree rfl
    have evaluated := tree.evaluate_steps stack
    have whole : tree.value.isWhole = true ↔ ∀ leaf ∈ tree.leaves, leaf.isWhole = true := by
      rw [tree.isWhole_value, List.all_eq_true]
    refine ⟨tree.value, tree.toRat_value, whole, ?_⟩
    rw [completed _ evaluated, List.map_cons, values]

/-- Four times a half, above a seven: the product is two, and still a ratio. -/
theorem execute_straight_line_half :
    let half : Rat := mkRat 1 2
    let m : Machine :=
      { slots := #[some ⟨0, .stop, []⟩, some ⟨0, .push, [.int 4]⟩,
          some ⟨0, .push, [.rational half]⟩, some ⟨0, .mult, []⟩, none],
        pointer := 1, stack := [.int 7] }
    let r : Rack := { machines := #[m] }
    let tree : Product := .times (.leaf (.whole 4)) (.leaf (.ratio half))
    r.machines[0]? = some m ∧ m.Owned 0 ∧ m.Loaded tree.steps ∧
      r.execute 0 5 = ⟨{ machines := #[{ m with
        pointer := 5, running := true, stack := [.rational 2, .int 7] }] }, .returned⟩ := by
  intro half m r tree
  have own : m.Owned 0 := by
    intro address i held
    rcases address with _ | _ | _ | _ | _ | address <;> cases held <;> rfl
  have stored : ∀ k step, tree.steps[k]? = some step →
      ∃ i, m.slots[m.pointer + k]? = some (some i) ∧ step.Encodes i := by
    intro k step there
    rcases k with _ | _ | _ | k
    · cases there
      exact ⟨_, rfl, rfl, rfl⟩
    · cases there
      exact ⟨_, rfl, rfl, rfl⟩
    · cases there
      exact ⟨_, rfl, rfl⟩
    · simp [tree, Product.steps] at there
  have loaded : m.Loaded tree.steps := by
    refine ⟨by decide, stored, ?_⟩
    intro address low high
    have last : address = 4 := Nat.le_antisymm (Nat.lt_succ_iff.mp high) low
    rw [last]
    rfl
  have values : m.stack = [Scalar.whole 7].map Scalar.value := rfl
  have enough : m.slots.size - m.pointer < 5 := by decide
  have here : r.machines[0]? = some m := rfl
  obtain ⟨run, -⟩ := execute_straight_line here own loaded values enough
  have product : half * ((4 : Int) : Rat) = 2 := by decide +kernel
  have final : [tree.value, .whole 7].map Scalar.value = [.rational 2, .int 7] := by
    rw [← product]
    rfl
  rw [tree.evaluate_steps] at run
  dsimp only at run
  rw [final] at run
  exact ⟨here, own, loaded, run⟩

end Rack

end StackMachine
