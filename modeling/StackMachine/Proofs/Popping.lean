import StackMachine.Proofs.Loading

/-!
# Taking values from the stack

Values are taken from the top of the stack, all that are asked for or none. Integers and truth
values say how many; anything else is refused before a value is taken. To take twice is to take
once, and what was put on the stack is taken in the opposite order. Which fault a count is
refused with is said for integers only.
-/

namespace StackMachine

/-- How many values a value asks for, if it is an integer or a truth value. -/
def Value.count? : Value → Option Int
  | .int n => some n
  | .bool b => some (if b then 1 else 0)
  | _ => none

namespace Machine

variable {m next : Machine} {count : Value} {vs : List Value}

/-- The values that are taken are the first of the stack, as many as the number says. -/
theorem popCount_eq_ok_iff {wanted : Option String} {n : Int} :
    m.popCount wanted n = .ok (vs, next) ↔ (vs.length : Int) = max n 0 ∧
      ∃ rest, m.stack = vs ++ rest ∧ next = m.withStack rest := by
  constructor
  · intro taken
    unfold popCount at taken
    split at taken
    · cases taken
    · cases taken
      refine ⟨?_, _, (List.take_append_drop _ _).symm, rfl⟩
      rw [List.length_take]
      omega
  · rintro ⟨size, rest, top, rfl⟩
    have enough : ¬ (m.stack.length : Int) < n := by
      rw [top, List.length_append]
      omega
    have number : n.toNat = vs.length := by omega
    rw [popCount, if_neg enough, top, number, List.take_left, List.drop_left]
    rfl

/-- Values are taken exactly when the count is one and the stack has as many of them. -/
theorem pop_eq_ok_iff : m.pop count = .ok (vs, next) ↔
    ∃ n, count.count? = some n ∧ (vs.length : Int) = max n 0 ∧
      ∃ rest, m.stack = vs ++ rest ∧ next = m.withStack rest := by
  constructor
  · intro taken
    cases count with
    | int n => exact ⟨n, rfl, popCount_eq_ok_iff.mp taken⟩
    | bool b => exact ⟨_, rfl, popCount_eq_ok_iff.mp taken⟩
    | decimal d =>
      simp only [pop] at taken
      split at taken <;> cases taken
    | _ => cases taken
  · rintro ⟨n, counts, split⟩
    cases count with
    | int n' =>
      cases counts
      exact popCount_eq_ok_iff.mpr split
    | bool b =>
      cases counts
      exact popCount_eq_ok_iff.mpr split
    | _ => cases counts

theorem pop_exceeded_iff {n : Int} (written : Integer.isWritable n = true) :
    (∃ fault, m.pop (.int n) = .error fault ∧ fault.category? = some .stackExceeded) ↔
      (m.stack.length : Int) < n := by
  by_cases short : (m.stack.length : Int) < n
  · simp [pop, popCount, short, exceeded, Integer.text?, written, Fault.category?]
  · simp [pop, popCount, short]

end Machine

namespace Session

variable {s final : Session} {id : MachineId} {m : Machine} {count : Value} {reply : Reply}
  {vs : List Value}

theorem pop_of_error {fault : Fault} (here : s.machine? id = some m)
    (refused : m.pop count = .error fault) : s.pop id count = (s, .error fault) := by
  simp only [pop, onMachine, here, refused]

theorem pop_of_ok {next : Machine} (here : s.machine? id = some m)
    (taken : m.pop count = .ok (vs, next)) :
    s.pop id count = (s.put id next, .ok (.values vs)) := by
  simp only [pop, onMachine, here, taken]

theorem pop_eq_ok_iff (here : s.machine? id = some m) :
    s.pop id count = (final, .ok reply) ↔ ∃ n vs rest, count.count? = some n ∧
      (vs.length : Int) = max n 0 ∧ m.stack = vs ++ rest ∧ reply = .values vs ∧
      final = s.put id (m.withStack rest) := by
  constructor
  · intro taken
    cases outcome : m.pop count with
    | error fault =>
      rw [pop_of_error here outcome] at taken
      cases taken
    | ok result =>
      obtain ⟨n, counts, size, rest, top, left⟩ := Machine.pop_eq_ok_iff.mp outcome
      rw [pop_of_ok here outcome, left] at taken
      cases taken
      exact ⟨n, result.1, rest, counts, size, top, rfl, rfl⟩
  · rintro ⟨n, vs, rest, counts, size, top, rfl, rfl⟩
    exact pop_of_ok here (Machine.pop_eq_ok_iff.mpr ⟨n, counts, size, rest, top, rfl⟩)

theorem pop_nat_eq_ok_iff {k : Nat} (here : s.machine? id = some m) :
    s.pop id (.int k) = (final, .ok (.values vs)) ↔
      vs.length = k ∧ ∃ rest, m.stack = vs ++ rest ∧ final = s.put id (m.withStack rest) := by
  rw [pop_eq_ok_iff here]
  constructor
  · rintro ⟨n, _, rest, counts, size, top, reply, rfl⟩
    cases counts
    cases reply
    exact ⟨by omega, rest, top, rfl⟩
  · rintro ⟨size, rest, top, rfl⟩
    exact ⟨k, vs, rest, rfl, by omega, top, rfl, rfl⟩

/-- To take some values and then some more is to take them at once. -/
theorem pop_add_iff {a b : Nat} (here : s.machine? id = some m) :
    s.pop id (.int (a + b)) = (final, .ok (.values vs)) ↔
      ∃ middle first second, s.pop id (.int a) = (middle, .ok (.values first)) ∧
        middle.pop id (.int b) = (final, .ok (.values second)) ∧ vs = first ++ second := by
  have there : ∀ rest, (s.put id (m.withStack rest)).machine? id = some (m.withStack rest) :=
    fun rest => Rack.machines_put_self here _
  have again : ∀ rest last, (s.put id (m.withStack rest)).put id
      ((m.withStack rest).withStack last) = s.put id (m.withStack last) := by
    intro rest last
    simp only [put, Rack.put_put]
    rfl
  constructor
  · intro taken
    obtain ⟨size, rest, top, rfl⟩ := (pop_nat_eq_ok_iff (k := a + b) here).mp taken
    refine ⟨s.put id (m.withStack (vs.drop a ++ rest)), vs.take a, vs.drop a, ?_, ?_,
      (List.take_append_drop a vs).symm⟩
    · refine (pop_nat_eq_ok_iff here).mpr ⟨?_, _, ?_, rfl⟩
      · rw [List.length_take]
        omega
      · rw [top, ← List.append_assoc, List.take_append_drop]
    · refine (pop_nat_eq_ok_iff (there _)).mpr ⟨?_, rest, rfl, (again _ _).symm⟩
      rw [List.length_drop]
      omega
  · rintro ⟨middle, first, second, taken, more, rfl⟩
    obtain ⟨size, rest, top, rfl⟩ := (pop_nat_eq_ok_iff here).mp taken
    obtain ⟨size', last, top', rfl⟩ := (pop_nat_eq_ok_iff (there rest)).mp more
    have whole : rest = second ++ last := top'
    refine (pop_nat_eq_ok_iff (k := a + b) here).mpr ⟨?_, last, ?_, again rest last⟩
    · rw [List.length_append, size, size']
    · rw [top, whole, List.append_assoc]

/-- Values that are put on the stack one after another lie there with the last on top. -/
theorem performAll_push (fuel : Nat) (vs : List Value) (here : s.machine? id = some m) :
    s.performAll fuel (vs.map (.push id)) =
      (s.put id (m.withStack (vs.reverse ++ m.stack)), .ok .done) := by
  induction vs generalizing s m with
  | nil =>
    have same : s.put id (m.withStack m.stack) = s :=
      congrArg (fun rack => { s with rack }) (Rack.put_of_here here)
    exact Prod.ext same.symm rfl
  | cons v rest ih =>
    have pushed : s.perform fuel (.push id v) = (s.put id (m.push v), .ok .done) := by
      simp only [perform, push, onMachine, here]
    have there : (s.put id (m.push v)).machine? id = some (m.push v) :=
      Rack.machines_put_self here _
    rw [List.map_cons, performAll_of_ok pushed, ih there]
    simp [put, Rack.put_put, Machine.push, Machine.withStack]

/-- Taking values from the stack of a machine fails with nothing changed, or it gives the values
on top, as many as were asked for by an integer or a truth value, and leaves those below. An
integer is too large exactly when it exceeds the depth. Taking some values and then some more is
taking them at once, and values that were put on the stack are taken back, the last first. -/
theorem pop_whole_or_nothing (here : s.machine? id = some m) :
    (∀ count fault, (s.pop id count).2 = .error fault → (s.pop id count).1 = s) ∧
    (∀ count final reply, s.pop id count = (final, .ok reply) ↔
      ∃ n vs rest, count.count? = some n ∧ (vs.length : Int) = max n 0 ∧ m.stack = vs ++ rest ∧
        reply = .values vs ∧ final = s.put id { m with stack := rest }) ∧
    (∀ n : Int, Integer.isWritable n = true →
      ((∃ fault, (s.pop id (.int n)).2 = .error fault ∧
        fault.category? = some .stackExceeded) ↔ (m.stack.length : Int) < n)) ∧
    (∀ (a b : Nat) (final : Session) (vs : List Value),
      s.pop id (.int (a + b)) = (final, .ok (.values vs)) ↔
        ∃ middle first second, s.pop id (.int a) = (middle, .ok (.values first)) ∧
          middle.pop id (.int b) = (final, .ok (.values second)) ∧ vs = first ++ second) ∧
    (∀ (fuel : Nat) (vs : List Value), ∃ pushed,
      s.performAll fuel (vs.map (.push id)) = (pushed, .ok .done) ∧
        pushed.pop id (.int vs.length) = (s, .ok (.values vs.reverse))) := by
  refine ⟨?_, fun count final reply => pop_eq_ok_iff here, ?_,
    fun a b final vs => pop_add_iff here, ?_⟩
  · intro count fault failed
    cases outcome : m.pop count with
    | error fault => rw [pop_of_error here outcome]
    | ok result =>
      rw [pop_of_ok here outcome] at failed
      cases failed
  · intro n written
    rw [← Machine.pop_exceeded_iff written]
    cases outcome : m.pop (.int n) with
    | error fault =>
      rw [pop_of_error here outcome]
      simp
    | ok result =>
      rw [pop_of_ok here outcome]
      simp
  · intro fuel vs
    have there : (s.put id (m.withStack (vs.reverse ++ m.stack))).machine? id =
        some (m.withStack (vs.reverse ++ m.stack)) := Rack.machines_put_self here _
    refine ⟨_, performAll_push fuel vs here, (pop_nat_eq_ok_iff there).mpr ?_⟩
    refine ⟨List.length_reverse, m.stack, rfl, ?_⟩
    have back : (s.rack.put id (m.withStack (vs.reverse ++ m.stack))).put id m = s.rack := by
      rw [Rack.put_put, Rack.put_of_here here]
    exact (congrArg (fun rack => { s with rack }) back).symm

/-- Of three values two are taken, while four cannot be and leave the three where they are. -/
theorem pop_whole_or_nothing_two :
    let m : Machine := { slots := #[], stack := [.int 7, .text "a", .null] }
    (single m).machine? 0 = some m ∧
      (single m).pop 0 (.int 2) =
        (single { m with stack := [.null] }, .ok (.values [.int 7, .text "a"])) ∧
      (single m).pop 0 (.bool true) =
        (single { m with stack := [.text "a", .null] }, .ok (.values [.int 7])) ∧
      ∃ fault, (single m).pop 0 (.int 4) = (single m, .error fault) ∧
        fault.category? = some .stackExceeded := by
  intro m
  have here : (single m).machine? 0 = some m := rfl
  obtain ⟨unchanged, taken, exceeded, -, -⟩ := pop_whole_or_nothing here
  have four : Integer.isWritable 4 = true := Integer.isWritable_of_index (by decide)
  obtain ⟨fault, failed, category⟩ := (exceeded 4 four).mpr (by decide)
  refine ⟨here, ?_, ?_, fault, Prod.ext (unchanged _ _ failed) failed, category⟩
  · exact (taken _ _ _).mpr ⟨2, [.int 7, .text "a"], [.null], rfl, rfl, rfl, rfl, rfl⟩
  · exact (taken _ _ _).mpr ⟨1, [.int 7], [.text "a", .null], rfl, rfl, rfl, rfl, rfl⟩

end Session

end StackMachine
