import StackMachine.Proofs.History

/-!
# Transcripts of histories

A transcript lists the answer to each operation of a history, with what is seen of the
session right after it. If some operations are never affected by the others, leaving the
others out of a history leaves their part of the transcript as it is. Which operations
those are is not decided here.
-/

namespace StackMachine.Session

/-- An operation with the most turns of a run it starts. -/
abbrev Act := Nat × Operation

/-- An operation, the answer to it, and what is seen of the session then. -/
structure Exchange (α : Type) where
  act : Act
  answer : Except Fault Reply
  seen : α

def transcript {α : Type} (look : Session → α) (s : Session) : History → List (Exchange α)
  | [] => []
  | act :: rest =>
    let next := s.perform act.1 act.2
    ⟨act, next.2, look next.1⟩ :: next.1.transcript look rest

/-- The operations that are `own` are answered alike in sessions that are the `Same`, and all
operations keep these the same: the others even if they are carried out on one side only. Nothing
is said of operations that are not `allowed`. -/
structure Unaffected (own : Act → Bool) (allowed : Act → Prop)
    (Same : Session → Session → Prop) : Prop where
  respected : ∀ s t act, allowed act → own act = true → Same s t →
    (s.perform act.1 act.2).2 = (t.perform act.1 act.2).2 ∧
      Same (s.perform act.1 act.2).1 (t.perform act.1 act.2).1
  ignored : ∀ s t act, allowed act → own act = false → Same s t →
    Same (s.perform act.1 act.2).1 t

variable {own : Act → Bool} {allowed : Act → Prop} {Same : Session → Session → Prop}
  {s t : Session}

/-- The part of a transcript that belongs to unaffected operations is the transcript of these
operations alone, for whoever cannot tell sessions apart that are the same; and the sessions are
the same in the end. -/
theorem Unaffected.alone {α : Type} {look : Session → α}
    (unaffected : Unaffected own allowed Same) (blind : ∀ s t, Same s t → look s = look t)
    (same : Same s t) (history : History) (all : ∀ act ∈ history, allowed act) :
    (s.transcript look history).filter (fun exchange => own exchange.act) =
        t.transcript look (history.filter own) ∧
      Same (s.after history) (t.after (history.filter own)) := by
  induction history generalizing s t with
  | nil => exact ⟨rfl, same⟩
  | cons act rest ih =>
    have first : allowed act := all act List.mem_cons_self
    have later : ∀ other ∈ rest, allowed other :=
      fun other inside => all other (List.mem_cons_of_mem _ inside)
    cases mine : own act with
    | true =>
      obtain ⟨answered, next⟩ := unaffected.respected s t act first mine same
      obtain ⟨others, final⟩ := ih next later
      rw [List.filter_cons_of_pos mine]
      refine ⟨?_, final⟩
      simp only [transcript, List.filter_cons, mine, if_true, others, answered, blind _ _ next]
    | false =>
      obtain ⟨others, final⟩ := ih (unaffected.ignored s t act first mine same) later
      rw [List.filter_cons_of_neg (by simp [mine])]
      refine ⟨?_, final⟩
      simp only [transcript, List.filter_cons, mine, Bool.false_eq_true, if_false, others]

end StackMachine.Session
