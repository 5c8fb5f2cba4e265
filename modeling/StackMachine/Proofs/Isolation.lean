import StackMachine.Proofs.StackFrame
import StackMachine.Proofs.Transcript

/-!
# Machines are isolated

Two sequences of operations, each on a machine of its own, are carried out in turns, in
any order that keeps each sequence. Every operation is answered, and every machine ends
up, as if the other sequence did not exist. This holds for values without references and
for machines that print to different streams; machines are neither built nor given
another stream on the way.
-/

namespace StackMachine

namespace Operation

/-- Whether an operation acts on the machine `id`. The instructions that may be applied are those
given. -/
def isOn (instructions : Array Instruction) (id : MachineId) : Operation → Bool
  | .setAddress target _ => target == id
  | .insert target _ _ => target == id
  | .execute target => target == id
  | .setRunning target _ => target == id
  | .pop target _ => target == id
  | .push target _ => target == id
  | .apply serial => instructions[serial]?.any fun i => i.owner == id
  | _ => false

/-- Whether no value that an operation is given refers to a machine or an instruction. -/
def isSelfContained (instructions : Array Instruction) : Operation → Bool
  | .setAddress _ address => address.isSelfContained
  | .insert _ name operands => name.isSelfContained && Value.areSelfContained operands
  | .setRunning _ flag => flag.isSelfContained
  | .pop _ count => count.isSelfContained
  | .push _ v => v.isSelfContained
  | .apply serial => instructions[serial]?.all fun i => Value.areSelfContained i.operands
  | _ => true

/-- An operation on the machine `id` with values that refer to nothing. -/
def Private (instructions : Array Instruction) (id : MachineId) (operation : Operation) : Prop :=
  operation.isOn instructions id = true ∧ operation.isSelfContained instructions = true

variable {instructions : Array Instruction} {a b : MachineId} {operation : Operation}

/-- An operation acts on one machine only. -/
theorem isOn_unique (first : operation.isOn instructions a = true)
    (second : operation.isOn instructions b = true) : a = b := by
  cases operation with
  | apply serial =>
    simp only [isOn] at first second
    cases found : instructions[serial]? with
    | none => simp [found] at first
    | some i =>
      rw [found, Option.any_some, beq_iff_eq] at first second
      exact first.symm.trans second
  | setAddress | insert | execute | setRunning | pop | push =>
    rw [isOn, beq_iff_eq] at first second
    exact first.symm.trans second
  | _ => cases first

end Operation

theorem Value.areSelfContained_append {vs ws : List Value} :
    areSelfContained (vs ++ ws) = true ↔
      areSelfContained vs = true ∧ areSelfContained ws = true := by
  induction vs with
  | nil => simp [areSelfContained]
  | cons v rest ih =>
    rw [List.cons_append, areSelfContained_cons, areSelfContained_cons, ih, and_assoc]

namespace Machine

variable {m next : Machine} {id : MachineId} {i : Instruction}

theorem holding_cases {address : Nat} {j : Instruction}
    (held : (m.holding i).slots[address]? = some (some j)) :
    j = i ∨ m.slots[address]? = some (some j) := by
  simp only [holding, Array.getElem?_setIfInBounds] at held
  split at held
  · split at held
    · cases held
      exact Or.inl rfl
    · cases held
  · exact Or.inr held

theorem Owned.holding (own : m.Owned id) (owner : i.owner = id) : (m.holding i).Owned id := by
  intro address j held
  rcases holding_cases held with rfl | old
  · exact owner
  · exact own address j old

theorem SelfContained.holding (free : m.SelfContained)
    (given : Value.areSelfContained i.operands = true) : (m.holding i).SelfContained := by
  refine ⟨free.stack, ?_⟩
  intro address j held
  rcases holding_cases held with rfl | old
  · exact given
  · exact free.slots address j old

/-- What is private to a machine is the same in every view, and leaves the machine without
references and with its stream. -/
theorem Handling.private {view : View} {instructions : Array Instruction} {operation : Operation}
    {answer : Except Fault Reply} (outcome : m.Handling view id operation next answer)
    (mine : operation.Private instructions id) (own : m.Owned id) (free : m.SelfContained)
    (other : View) :
    m.Handling other id operation next answer ∧ next.Owned id ∧ next.SelfContained ∧
      next.output = m.output := by
  have ⟨on, given⟩ := mine
  cases outcome with
  | moved jump =>
    rw [m.setAddress_view view other given] at jump
    refine ⟨.moved jump, ?_⟩
    obtain ⟨a, -, -, -, rfl⟩ := setAddress_eq_ok_iff.mp jump
    exact ⟨own, free.of_slots rfl free.stack, rfl⟩
  | unmoved jump =>
    rw [m.setAddress_view view other given] at jump
    exact ⟨.unmoved jump, own, free, rfl⟩
  | switched b => exact ⟨.switched b, own, free.of_slots rfl free.stack, rfl⟩
  | unswitched switch =>
    rw [m.setRunning_view view other given] at switch
    exact ⟨.unswitched switch, own, free, rfl⟩
  | popped taken =>
    refine ⟨.popped taken, ?_⟩
    obtain ⟨stack, same⟩ := pop_eq_ok taken
    have below := free.stack
    rw [stack, Value.areSelfContained_append] at below
    rw [same]
    exact ⟨own, free.of_slots rfl below.2, rfl⟩
  | unpopped taken => exact ⟨.unpopped taken, own, free, rfl⟩
  | pushed v =>
    have stack := Value.areSelfContained_cons.mpr ⟨given, free.stack⟩
    exact ⟨.pushed v, own, free.of_slots rfl stack, rfl⟩
  | directed output => cases on

end Machine

namespace Rack

variable {r t : Rack} {id : MachineId} {m next : Machine} {stream : Stream}
  {P : Rack → Rack → Prop}

theorem apply_of_application {i : Instruction} {result : Except Fault String}
    (here : r.machines[i.owner]? = some m)
    (outcome : m.Application r.view i.owner i.operands i.op next result) :
    r.apply i = match result with
      | .ok text => ((r.put i.owner next).record next.stream text, .ok ())
      | .error fault => (r.put i.owner next, .error fault) := by
  have applied := Machine.apply_eq_iff.mpr outcome
  simp only [apply, here, applied]
  cases result <;> rfl

theorem Twins.second_eq (twins : Twins id [] stream P r t m) : t.machines[id]? = some m := by
  rw [twins.second, Machine.underlaid_nil]

theorem Twins.put (twins : Twins id [] stream P r t m) (kept : Kept id stream P)
    (own : next.Owned id) (free : next.SelfContained) (output : next.output = m.output) :
    Twins id [] stream P (r.put id next) (t.put id next) next := by
  have changed := twins.quiet kept own free output
  rwa [Machine.underlaid_nil] at changed

/-- An instruction of the machine `id` that refers to nothing does the same in both racks. -/
theorem Twins.apply {i : Instruction} (twins : Twins id [] stream P r t m)
    (kept : Kept id stream P) (owner : i.owner = id)
    (given : Value.areSelfContained i.operands = true) :
    (r.apply i).2 = (t.apply i).2 ∧ ∃ n, Twins id [] stream P (r.apply i).1 (t.apply i).1 n := by
  subst owner
  obtain ⟨here, own, free⟩ := twins.first
  have outcome := m.application_apply r.view i.owner i.op i.operands
  generalize (m.apply r.view i.owner i.op i.operands).1 = next at outcome
  generalize (m.apply r.view i.owner i.op i.operands).2 = result at outcome
  have outcome' := outcome.underlay free.stack given [] (Or.inl rfl) t.view
  rw [Machine.underlaid_nil, Machine.underlaid_nil] at outcome'
  have nextOwn := own.of_slots outcome.frame.1
  have nextFree := free.of_slots outcome.frame.1 (outcome.selfContained free.stack given)
  rw [apply_of_application here outcome, apply_of_application twins.second_eq outcome']
  cases result with
  | ok text =>
    have changed := twins.change kept nextOwn nextFree outcome.frame.2 text
    rw [Machine.underlaid_nil] at changed
    exact ⟨rfl, next, changed⟩
  | error fault => exact ⟨rfl, next, twins.put kept nextOwn nextFree outcome.frame.2⟩

end Rack

namespace Session

variable {s t : Session} {id : MachineId} {m next : Machine} {stream : Stream}
  {P : Rack → Rack → Prop}

/-- The machine `id` is a twin in two sessions, which have these instructions. -/
structure Alike (id : MachineId) (stream : Stream) (P : Rack → Rack → Prop)
    (instructions : Array Instruction) (s t : Session) : Prop where
  twins : ∃ m, Rack.Twins id [] stream P s.rack t.rack m
  first : s.instructions = instructions
  second : t.instructions = instructions

theorem execute_answer (fuel : Nat) (here : s.machine? id = some m)
    (there : (s.rack.execute id fuel).state.machines[id]? = some next) :
    (s.execute fuel id).2 = match (s.rack.execute id fuel).ending with
      | .unfinished => .ok .unfinished
      | .failed abort => .error abort.fault
      | .returned => .ok .done := by
  simp only [execute, onMachine, here, conclude]
  cases (s.rack.execute id fuel).ending with
  | returned =>
    simp only [machine?, there]
  | _ => rfl

theorem conclude_instructions (s : Session) (id : MachineId) (run : Loop.Run Rack Abort) :
    (s.conclude id run).1.instructions = s.instructions := by
  unfold conclude
  cases run.ending with
  | unfinished => rfl
  | failed abort =>
    dsimp only
    split <;> rfl
  | returned =>
    simp only [onMachine, machine?]
    split <;> rfl

section Alike

variable {instructions : Array Instruction} {operation : Operation}

theorem Alike.put (alike : Alike id stream P instructions s t)
    (twins : Rack.Twins id [] stream P s.rack t.rack m) (kept : Rack.Kept id stream P)
    (own : next.Owned id) (free : next.SelfContained) (output : next.output = m.output) :
    Alike id stream P instructions (s.put id next) (t.put id next) :=
  ⟨⟨next, twins.put kept own free output⟩, alike.first, alike.second⟩

/-- A private operation that handles the machine is answered alike, and leaves twins. -/
theorem Alike.handled (alike : Alike id stream P instructions s t) (kept : Rack.Kept id stream P)
    (fuel : Nat) (mine : operation.Private instructions id) (target : operation.target? = some id)
    (noInsert : ∀ id name operands, operation ≠ .insert id name operands)
    (noExecute : ∀ id, operation ≠ .execute id) :
    (s.perform fuel operation).2 = (t.perform fuel operation).2 ∧
      Alike id stream P instructions (s.perform fuel operation).1 (t.perform fuel operation).1 := by
  obtain ⟨m, twins⟩ := alike.twins
  obtain ⟨next, answer, handling, performed⟩ :=
    exists_handling fuel twins.first.here target noInsert noExecute
  obtain ⟨there, own, free, output⟩ :=
    handling.private mine twins.first.own twins.first.free t.view
  rw [performed, perform_of_handling twins.second_eq there]
  exact ⟨rfl, alike.put twins kept own free output⟩

theorem Alike.insert (alike : Alike id stream P instructions s t) (kept : Rack.Kept id stream P)
    {name : Value} {operands : List Value} (named : name.isSelfContained = true)
    (given : Value.areSelfContained operands = true) :
    (s.insert id name operands).2 = (t.insert id name operands).2 ∧
      Alike id stream P instructions (s.insert id name operands).1
        (t.insert id name operands).1 := by
  obtain ⟨m, twins⟩ := alike.twins
  have here : s.machine? id = some m := twins.first.here
  have there : t.machine? id = some m := twins.second_eq
  have outcome := Machine.inserting_insert s.view id name operands m
  simp only [Session.insert, onMachine, here, there, m.insert_view t.view s.view id named given]
  generalize m.insert s.view id name operands = insertion at outcome
  cases outcome with
  | full past => exact ⟨rfl, alike⟩
  | unbound room refusal => exact ⟨rfl, alike⟩
  | @unwritten op room known equipped long =>
    have own := twins.first.own.holding (i := ⟨id, op, operands⟩) rfl
    have free := twins.first.free.holding (i := ⟨id, op, operands⟩) given
    obtain ⟨stored, first, second⟩ := alike.put twins kept own free rfl
    exact ⟨rfl, stored, first, second⟩
  | @stored op text room known equipped short shown =>
    have own : (m.holding ⟨id, op, operands⟩).advanced.Owned id :=
      twins.first.own.holding (i := ⟨id, op, operands⟩) rfl
    have held := twins.first.free.holding (i := ⟨id, op, operands⟩) given
    have free : (m.holding ⟨id, op, operands⟩).advanced.SelfContained :=
      held.of_slots rfl held.stack
    obtain ⟨stored, first, second⟩ := alike.put twins kept own free rfl
    exact ⟨rfl, stored, first, second⟩

theorem Alike.execute (alike : Alike id stream P instructions s t) (kept : Rack.Kept id stream P)
    (fuel : Nat) :
    (s.execute fuel id).2 = (t.execute fuel id).2 ∧
      Alike id stream P instructions (s.execute fuel id).1 (t.execute fuel id).1 := by
  obtain ⟨m, twins⟩ := alike.twins
  have here : s.machine? id = some m := twins.first.here
  have there : t.machine? id = some m := twins.second_eq
  -- Nothing lies below the stack of either machine, so not even a want of values is excused.
  obtain ⟨⟨n, ended⟩, ending⟩ := twins.execute_matched kept fuel fun _ _ excuse => excuse.1 rfl
  refine ⟨?_, ⟨n, ?_⟩, ?_, ?_⟩
  · rw [execute_answer fuel here ended.first.here, execute_answer fuel there ended.second_eq,
      ending]
  · rw [execute_rack, execute_rack]
    exact ended
  · simp only [Session.execute, onMachine, here, conclude_instructions]
    exact alike.first
  · simp only [Session.execute, onMachine, there, conclude_instructions]
    exact alike.second

theorem Alike.apply (alike : Alike id stream P instructions s t) (kept : Rack.Kept id stream P)
    {serial : Nat} {i : Instruction} (found : instructions[serial]? = some i)
    (owner : i.owner = id) (given : Value.areSelfContained i.operands = true) :
    (s.apply serial).2 = (t.apply serial).2 ∧
      Alike id stream P instructions (s.apply serial).1 (t.apply serial).1 := by
  obtain ⟨m, twins⟩ := alike.twins
  obtain ⟨answered, n, next⟩ := twins.apply kept owner given
  simp only [Session.apply, alike.first, alike.second, found]
  generalize s.rack.apply i = first at answered next
  generalize t.rack.apply i = second at answered next
  obtain ⟨rack, result⟩ := first
  obtain ⟨rack', result'⟩ := second
  cases answered
  cases result with
  | ok done => exact ⟨rfl, ⟨n, next⟩, rfl, rfl⟩
  | error fault => exact ⟨rfl, ⟨n, next⟩, rfl, rfl⟩

/-- A private operation on the machine is answered alike, and leaves twins. -/
theorem Alike.perform (alike : Alike id stream P instructions s t) (kept : Rack.Kept id stream P)
    (fuel : Nat) {operation : Operation} (mine : operation.Private instructions id) :
    (s.perform fuel operation).2 = (t.perform fuel operation).2 ∧
      Alike id stream P instructions (s.perform fuel operation).1 (t.perform fuel operation).1 := by
  have ⟨on, given⟩ := mine
  cases operation with
  | insert target name operands =>
    cases beq_iff_eq.mp on
    rw [Operation.isSelfContained, Bool.and_eq_true] at given
    exact alike.insert kept given.1 given.2
  | execute target =>
    cases beq_iff_eq.mp on
    exact alike.execute kept fuel
  | apply serial =>
    obtain ⟨i, found, owner⟩ := (Option.any_eq_true _ _).mp on
    have operands : Value.areSelfContained i.operands = true := by
      rwa [Operation.isSelfContained, found, Option.all_some] at given
    exact alike.apply kept found (beq_iff_eq.mp owner) operands
  | setAddress | setRunning | pop | push =>
    cases beq_iff_eq.mp on
    exact alike.handled kept fuel mine rfl (by simp) (by simp)
  | _ => cases on

end Alike

/-- The third list consists of the elements of the first two, which keep their order. -/
inductive Interleaving {α : Type} : List α → List α → List α → Prop
  | nil : Interleaving [] [] []
  | left {x : α} {xs ys zs : List α} (rest : Interleaving xs ys zs) :
      Interleaving (x :: xs) ys (x :: zs)
  | right {y : α} {xs ys zs : List α} (rest : Interleaving xs ys zs) :
      Interleaving xs (y :: ys) (y :: zs)

section Interleaving

variable {α : Type} {xs ys zs : List α}

theorem Interleaving.symm (mix : Interleaving xs ys zs) : Interleaving ys xs zs := by
  induction mix with
  | nil => exact .nil
  | left _ ih => exact .right ih
  | right _ ih => exact .left ih

theorem Interleaving.mem (mix : Interleaving xs ys zs) {z : α} (inside : z ∈ zs) :
    z ∈ xs ∨ z ∈ ys := by
  induction mix with
  | nil => cases inside
  | left _ ih =>
    rcases List.mem_cons.mp inside with rfl | later
    · exact Or.inl List.mem_cons_self
    · exact (ih later).imp_left (List.mem_cons_of_mem _)
  | right _ ih =>
    rcases List.mem_cons.mp inside with rfl | later
    · exact Or.inr List.mem_cons_self
    · exact (ih later).imp_right (List.mem_cons_of_mem _)

theorem Interleaving.filter_left {p : α → Bool} (mix : Interleaving xs ys zs)
    (all : ∀ x ∈ xs, p x = true) (none : ∀ y ∈ ys, p y = false) : zs.filter p = xs := by
  induction mix with
  | nil => rfl
  | @left x xs ys zs _ ih =>
    rw [List.filter_cons_of_pos (all x List.mem_cons_self)]
    rw [ih (fun x inside => all x (List.mem_cons_of_mem _ inside)) none]
  | @right y xs ys zs _ ih =>
    rw [List.filter_cons_of_neg (by simp [none y List.mem_cons_self])]
    exact ih all fun y inside => none y (List.mem_cons_of_mem _ inside)

end Interleaving

/-- The same text stands on all streams but one. -/
def SameTexts (away : Stream) (r t : Rack) : Prop :=
  ∀ stream, stream ≠ away → r.textOn stream = t.textOn stream

/-- The first rack also has the machine `other`, which prints to a stream of its own; on all other
streams the same text stands in both. -/
def Beside (other : MachineId) (away : Stream) (r t : Rack) : Prop :=
  SameTexts away r t ∧ ∃ n, r.Enclosed other n ∧ n.stream = away

/-- The machine `other` is in the state `n`, and all streams but one hold what they held. -/
def Undisturbed (other : MachineId) (n : Machine) (away : Stream) (start r _ : Rack) : Prop :=
  r.Enclosed other n ∧ SameTexts away r start

section Pair

variable {a b : MachineId} {n : Machine} {away : Stream} {instructions : Array Instruction}

theorem enclosed_elsewhere {r : Rack} (apart : a ≠ b) (enclosed : r.Enclosed b n) (m : Machine)
    (stream : Stream) (text : String) : ((r.put a m).record stream text).Enclosed b n := by
  refine ⟨?_, enclosed.own, enclosed.free⟩
  rw [Rack.machines_record, Rack.machines_put_of_ne apart]
  exact enclosed.here

theorem beside_kept (apart : a ≠ b) (stream : Stream) :
    Rack.Kept a stream (Beside b away) := by
  rintro r t m m' text ⟨texts, n, enclosed, printing⟩
  refine ⟨?_, n, enclosed_elsewhere apart enclosed m stream text, printing⟩
  intro other elsewhere
  have same : (r.put a m).textOn other = (t.put a m').textOn other := texts other elsewhere
  rw [Rack.textOn_record, Rack.textOn_record, same]

theorem undisturbed_kept (apart : a ≠ b) (m : Machine) (start : Rack) :
    Rack.Kept b away (Undisturbed a m away start) := by
  rintro r t n n' text ⟨enclosed, texts⟩
  refine ⟨enclosed_elsewhere apart.symm enclosed n away text, ?_⟩
  intro other elsewhere
  rw [Rack.textOn_record, if_neg (Ne.symm elsewhere)]
  exact texts other elsewhere

/-- What is private to one machine is not affected by what is private to another. -/
theorem unaffected_by_other (apart : a ≠ b) :
    Unaffected (fun act => act.2.isOn instructions a)
      (fun act => act.2.Private instructions a ∨ act.2.Private instructions b)
      (Alike a stream (Beside b away) instructions) := by
  constructor
  · intro s t act either on alike
    have mine : act.2.Private instructions a := by
      rcases either with mine | theirs
      · exact mine
      · exact absurd (Operation.isOn_unique on theirs.1) apart
    exact alike.perform (beside_kept apart stream) act.1 mine
  · intro s t act either off alike
    have theirs : act.2.Private instructions b := by
      rcases either with mine | theirs
      · rw [mine.1] at off
        cases off
      · exact theirs
    obtain ⟨m, twins⟩ := alike.twins
    obtain ⟨texts, n, enclosed, printing⟩ := twins.others
    -- Beside itself the session shows all that the operation leaves alone.
    have itself : Alike b away (Undisturbed a m away s.rack) instructions s s := by
      refine ⟨⟨n, enclosed, ?_, printing, twins.first, fun _ _ => rfl⟩, alike.first, alike.first⟩
      rw [Machine.underlaid_nil]
      exact enclosed.here
    obtain ⟨-, ⟨n', next⟩, known, -⟩ :=
      itself.perform (undisturbed_kept apart m s.rack) act.1 theirs
    obtain ⟨still, quiet⟩ := next.others
    refine ⟨⟨m, still, twins.second, twins.printing, ?_, n', next.first, next.printing⟩, known,
      alike.second⟩
    intro other elsewhere
    exact (quiet other elsewhere).trans (texts other elsewhere)

/-- One of two machines, seen through an interleaving and alone. -/
theorem alone_of_interleaving {xs ys zs : History} (apart : a ≠ b) (first : s.rack.Enclosed a m)
    (second : s.rack.Enclosed b n) (mine : ∀ act ∈ xs, act.2.Private s.instructions a)
    (theirs : ∀ act ∈ ys, act.2.Private s.instructions b) (mix : Interleaving xs ys zs) :
    (s.transcript (fun s => s.machine? a) zs).filter
        (fun exchange => exchange.act.2.isOn s.instructions a) =
      s.transcript (fun s => s.machine? a) xs ∧
    (s.after zs).machine? a = (s.after xs).machine? a ∧
    SameTexts n.stream (s.after zs).rack (s.after xs).rack := by
  have start : Alike a m.stream (Beside b n.stream) s.instructions s s := by
    refine ⟨⟨m, first, ?_, rfl, fun _ _ => rfl, n, second, rfl⟩, rfl, rfl⟩
    rw [Machine.underlaid_nil]
    exact first.here
  have blind : ∀ s' t', Alike a m.stream (Beside b n.stream) s.instructions s' t' →
      s'.machine? a = t'.machine? a := by
    intro s' t' alike
    obtain ⟨m, twins⟩ := alike.twins
    exact twins.first.here.trans twins.second_eq.symm
  have all : ∀ act ∈ zs, act.2.Private s.instructions a ∨ act.2.Private s.instructions b :=
    fun act inside => (mix.mem inside).imp (mine act) (theirs act)
  have split : zs.filter (fun act => act.2.isOn s.instructions a) = xs := by
    refine mix.filter_left (fun act inside => (mine act inside).1) ?_
    intro act inside
    rw [← Bool.not_eq_true]
    intro on
    exact apart (Operation.isOn_unique on (theirs act inside).1)
  obtain ⟨answers, final⟩ := (unaffected_by_other apart).alone blind start zs all
  rw [split] at answers final
  obtain ⟨m', twins⟩ := final.twins
  exact ⟨answers, blind _ _ final, twins.others.1⟩

/-- Two sequences of operations, each private to one of two machines that print to different
streams, may be interleaved in any way: every operation is answered, and leaves its machine, as
when its sequence is carried out alone, and so do the sequences in the end. Every stream has the
text it then has. -/
theorem machines_isolated {xs ys zs : History} (first : s.rack.Enclosed a m)
    (second : s.rack.Enclosed b n) (streams : m.stream ≠ n.stream)
    (mine : ∀ act ∈ xs, act.2.Private s.instructions a)
    (theirs : ∀ act ∈ ys, act.2.Private s.instructions b) (mix : Interleaving xs ys zs) :
    ((s.transcript (fun s => s.machine? a) zs).filter
          (fun exchange => exchange.act.2.isOn s.instructions a) =
        s.transcript (fun s => s.machine? a) xs ∧
      (s.transcript (fun s => s.machine? b) zs).filter
          (fun exchange => exchange.act.2.isOn s.instructions b) =
        s.transcript (fun s => s.machine? b) ys) ∧
    ((s.after zs).machine? a = (s.after xs).machine? a ∧
      (s.after zs).machine? b = (s.after ys).machine? b) ∧
    ∀ stream, (s.after zs).rack.textOn stream =
      if stream = n.stream then (s.after ys).rack.textOn stream
      else (s.after xs).rack.textOn stream := by
  have apart : a ≠ b := by
    rintro rfl
    have same : m = n := Option.some.inj (first.here.symm.trans second.here)
    exact streams (congrArg Machine.stream same)
  obtain ⟨answers, final, texts⟩ := alone_of_interleaving apart first second mine theirs mix
  obtain ⟨answers', final', texts'⟩ :=
    alone_of_interleaving apart.symm second first theirs mine mix.symm
  refine ⟨⟨answers, answers'⟩, ⟨final, final'⟩, ?_⟩
  intro stream
  by_cases away : stream = n.stream
  · rw [if_pos away]
    exact texts' stream (by rw [away]; exact streams.symm)
  · rw [if_neg away]
    exact texts stream away

/-- One machine is given a program that prints a text, while an instruction in no slot is applied
to another and the value it leaves is taken away. -/
theorem machines_isolated_print :
    let m : Machine := { slots := #[none] }
    let n : Machine := { slots := #[none], output := some (.named "b") }
    let s : Session := { rack := { machines := #[m, n] },
                         instructions := #[⟨1, .push, [.int 7]⟩] }
    let store : Act := (0, .insert 0 (.text "PRINT") [])
    let home : Act := (0, .setAddress 0 (.int 0))
    let fill : Act := (0, .push 0 (.text "left"))
    let run : Act := (3, .execute 0)
    let apply : Act := (0, .apply 0)
    let take : Act := (0, .pop 1 (.int 1))
    let zs : History := [store, apply, home, fill, take, run]
    s.rack.Enclosed 0 m ∧ s.rack.Enclosed 1 n ∧ m.stream ≠ n.stream ∧
      Interleaving [store, home, fill, run] [apply, take] zs ∧
      (s.after zs).machine? 0 = (s.after [store, home, fill, run]).machine? 0 ∧
      (s.after zs).machine? 1 = (s.after [apply, take]).machine? 1 ∧
      (s.after zs).rack.textOn .standard =
        (s.after [store, home, fill, run]).rack.textOn .standard := by
  intro m n s store home fill run apply take zs
  have vacant : ∀ (address : Nat) (i : Instruction),
      (#[none] : Array (Option Instruction))[address]? ≠ some (some i) := by
    intro address i held
    cases address with
    | zero => cases held
    | succ address => cases held
  have first : s.rack.Enclosed 0 m :=
    ⟨rfl, fun address i held => absurd held (vacant address i), rfl,
      fun address i held => absurd held (vacant address i)⟩
  have second : s.rack.Enclosed 1 n :=
    ⟨rfl, fun address i held => absurd held (vacant address i), rfl,
      fun address i held => absurd held (vacant address i)⟩
  have mine : ∀ act ∈ [store, home, fill, run], act.2.Private s.instructions 0 := by
    intro act inside
    simp only [List.mem_cons, List.not_mem_nil, or_false] at inside
    rcases inside with rfl | rfl | rfl | rfl <;> exact ⟨rfl, rfl⟩
  have theirs : ∀ act ∈ [apply, take], act.2.Private s.instructions 1 := by
    intro act inside
    simp only [List.mem_cons, List.not_mem_nil, or_false] at inside
    rcases inside with rfl | rfl <;> exact ⟨rfl, rfl⟩
  have mix : Interleaving [store, home, fill, run] [apply, take] zs :=
    .left (.right (.left (.left (.right (.left .nil)))))
  have streams : m.stream ≠ n.stream := by decide
  obtain ⟨-, ⟨left, right⟩, texts⟩ :=
    machines_isolated first second streams mine theirs mix
  have text := texts .standard
  rw [if_neg (show Stream.standard ≠ n.stream by decide)] at text
  exact ⟨first, second, streams, mix, left, right, text⟩

end Pair

end Session

end StackMachine
