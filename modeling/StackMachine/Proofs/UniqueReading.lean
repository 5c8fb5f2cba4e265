import StackMachine.Proofs.DelimitedTexts
import StackMachine.Proofs.Loading
import StackMachine.Proofs.LogInertness
import StackMachine.Proofs.Output
import StackMachine.Proofs.SelfContained

/-!
# Texts of instructions are read in one way

Nothing, truth values, integers and texts, and the lists and tuples of these at any depth, can be
told apart by their literals, even where more is written after them. So the text of an instruction
shows its operation and its operands, and the event of an insertion shows what was stored. There
is assumed to be room for a text of any depth. Values of other kinds are left out: some of them
share their literals.
-/

namespace StackMachine

open Text

theorem toList_tupleText (items : List String) :
    (tupleText items).toList = '(' :: (commaSeparated items).toList ++ closing items.length := by
  unfold tupleText
  split
  · rw [String.toList_append, String.toList_append]
    rfl
  · have several : items.length ≠ 1 := by
      intro one
      obtain ⟨item, rfl⟩ := List.length_eq_one_iff.mp one
      simp_all
    rw [String.toList_append, String.toList_append, closing, if_neg several]
    rfl

theorem Opcode.isWord_mnemonic (op : Opcode) : IsWord op.mnemonic := by
  cases op <;> decide

theorem Opcode.mnemonic_inj {op op' : Opcode} (same : op.mnemonic = op'.mnemonic) : op = op' := by
  have named : ofMnemonic? op'.mnemonic = some op := ofMnemonic?_eq_some_iff.mpr same.symm
  exact Option.some.inj (named.symm.trans (ofMnemonic?_eq_some_iff.mpr rfl))

namespace Value

/-- Nothing, truth values, integers short enough to be written, texts, and lists and tuples of
values of these kinds. -/
inductive IsReadable : Value → Prop
  | null : IsReadable .null
  | bool (b : Bool) : IsReadable (.bool b)
  | int {n : Int} (short : Integer.isWritable n = true) : IsReadable (.int n)
  | text (s : String) : IsReadable (.text s)
  | list {items : List Value} (each : ∀ v ∈ items, IsReadable v) : IsReadable (.list items)
  | tuple {items : List Value} (each : ∀ v ∈ items, IsReadable v) : IsReadable (.tuple items)

/-- What a literal looks like from its first character on. -/
inductive Shape where
  | word
  | quoted
  | listed
  | tupled

/-- The shape of the literal of a value that is considered. -/
def shape : Value → Shape
  | .text _ => .quoted
  | .list _ => .listed
  | .tuple _ => .tupled
  | _ => .word

/-- Whether a literal of some shape can begin with a character. -/
def Shape.leads : Shape → Char → Bool
  | .word, c => isWordChar c
  | .quoted, c => c == '\x27' || c == '\x22'
  | .listed, c => c == '['
  | .tupled, c => c == '('

variable {view view' : View} {v w : Value} {vs ws : List Value} {s t : String}
  {texts texts' : List String} {rest rest' : List Char}

theorem Shape.leads_unique {a b : Shape} {c : Char} (first : a.leads c = true)
    (second : b.leads c = true) : a = b := by
  have quotes : isWordChar '\x27' = false ∧ isWordChar '\x22' = false := ⟨rfl, rfl⟩
  have brackets : isWordChar '[' = false ∧ isWordChar '(' = false := ⟨rfl, rfl⟩
  cases a <;> cases b <;> simp only [leads, Bool.or_eq_true, beq_iff_eq] at first second
  all_goals first | rfl | grind

/-- An item does not begin like what is written after one. -/
theorem Shape.not_leads_afterItem {a : Shape} {c : Char} (first : a.leads c = true) :
    ¬ (c = ',' ∨ c = ')' ∨ c = ']') := by
  rintro (rfl | rfl | rfl) <;> cases a <;> cases first

theorem isWord_boolText (b : Bool) : IsWord (boolText b) := by
  cases b <;> decide

theorem boolText_inj : ∀ {b b' : Bool}, boolText b = boolText b' → b = b' := by decide

/-- The literals of some values are words. -/
theorem IsReadable.isWord (readable : IsReadable v) (word : v.shape = .word)
    (shown : v.literal? view = some s) : IsWord s := by
  cases readable with
  | null =>
    cases shown
    decide
  | bool b =>
    cases shown
    exact isWord_boolText b
  | @int n short =>
    rw [literal?, Integer.text?, if_pos short] at shown
    cases shown
    exact isWord_int n
  | text | list | tuple => cases word

/-- A text with a character that is neither a digit nor a sign is no integer. -/
theorem ne_int_of_mem {n : Int} {c : Char} (inside : c ∈ s.toList)
    (other : c.isDigit = false ∧ c ≠ '-') : Integer.text? n ≠ some s := by
  intro written
  unfold Integer.text? at written
  split at written
  · cases written
    rcases isDigit_or_sign_of_mem_int inside with digit | sign
    · exact absurd digit (by simp [other.1])
    · exact other.2 sign
  · cases written

/-- Values whose literals are words are equal if these are. -/
theorem IsReadable.eq_of_word (first : IsReadable v) (second : IsReadable w)
    (word : v.shape = .word) (word' : w.shape = .word) (shown : v.literal? view = some s)
    (shown' : w.literal? view' = some s) : v = w := by
  have null : ∀ n, Integer.text? n ≠ some "None" := fun n =>
    ne_int_of_mem (by decide : 'e' ∈ "None".toList) (by decide)
  have named : ∀ b, boolText b ≠ "None" := by decide
  have truth : ∀ n b, Integer.text? n ≠ some (boolText b) := by
    intro n b
    refine ne_int_of_mem (c := 'e') ?_ (by decide)
    cases b <;> decide
  cases first with
  | null =>
    cases shown
    cases second with
    | null => rfl
    | bool b => exact absurd (Option.some.inj shown') (named b)
    | @int n => exact absurd shown' (null n)
    | text | list | tuple => cases word'
  | bool b =>
    cases shown
    cases second with
    | null => exact absurd (Option.some.inj shown').symm (named b)
    | bool b' => rw [boolText_inj (Option.some.inj shown')]
    | @int n => exact absurd shown' (truth n b)
    | text | list | tuple => cases word'
  | @int n =>
    cases second with
    | null =>
      cases shown'
      exact absurd shown (null n)
    | bool b =>
      cases shown'
      exact absurd shown (truth n b)
    | @int n' =>
      have same := (Integer.toInt?_of_text? shown).symm.trans (Integer.toInt?_of_text? shown')
      rw [Option.some.inj same]
    | text | list | tuple => cases word'
  | text | list | tuple => cases word

theorem literal?_list : literal? view (.list vs) = some s ↔
    ∃ texts, literals? view vs = some texts ∧
      s.toList = '[' :: (commaSeparated texts).toList ++ [']'] := by
  rw [literal?, Option.map_eq_some_iff]
  refine exists_congr fun texts => and_congr_right fun _ => ?_
  rw [← String.toList_inj, String.toList_append, String.toList_append, eq_comm]
  rfl

theorem literal?_tuple : literal? view (.tuple vs) = some s ↔
    ∃ texts, literals? view vs = some texts ∧
      s.toList = '(' :: (commaSeparated texts).toList ++ closing texts.length := by
  rw [literal?, Option.map_eq_some_iff]
  refine exists_congr fun texts => and_congr_right fun _ => ?_
  rw [← String.toList_inj, toList_tupleText, eq_comm]

theorem literals?_cons : literals? view (v :: vs) = some texts ↔
    ∃ first others, v.literal? view = some first ∧ literals? view vs = some others ∧
      texts = first :: others := by
  rw [literals?]
  cases v.literal? view with
  | none => simp
  | some first => cases literals? view vs <;> simp [eq_comm]

theorem length_literals? (shown : literals? view vs = some texts) :
    texts.length = vs.length := by
  induction vs generalizing texts with
  | nil =>
    cases shown
    rfl
  | cons v vs ih =>
    obtain ⟨first, others, -, rest, rfl⟩ := literals?_cons.mp shown
    rw [List.length_cons, List.length_cons, ih rest]

/-- A literal shows its shape by its first character. -/
theorem IsReadable.literal?_head (readable : IsReadable v) (shown : v.literal? view = some s) :
    ∃ c cs, s.toList = c :: cs ∧ v.shape.leads c = true := by
  have word : v.shape = .word → ∃ c cs, s.toList = c :: cs ∧ v.shape.leads c = true := by
    intro word
    obtain ⟨some, all⟩ := readable.isWord word shown
    obtain ⟨c, cs, letters⟩ := List.exists_cons_of_ne_nil some
    rw [letters, List.all_cons, Bool.and_eq_true] at all
    exact ⟨c, cs, letters, word ▸ all.1⟩
  cases readable with
  | null | bool | int => exact word rfl
  | text content =>
    cases shown
    refine ⟨_, _, String.toList_ofList, ?_⟩
    rcases delimiter_cases content.toList with apostrophe | double
    · rw [apostrophe]
      rfl
    · rw [double]
      rfl
  | list each =>
    obtain ⟨texts, -, letters⟩ := literal?_list.mp shown
    exact ⟨_, _, letters, rfl⟩
  | tuple each =>
    obtain ⟨texts, -, letters⟩ := literal?_tuple.mp shown
    exact ⟨_, _, letters, rfl⟩

theorem IsReadable.shape_eq (first : IsReadable v) (second : IsReadable w)
    (shown : v.literal? view = some s) (shown' : w.literal? view' = some t)
    (same : s.toList ++ rest = t.toList ++ rest') : v.shape = w.shape := by
  obtain ⟨c, cs, letters, leads⟩ := first.literal?_head shown
  obtain ⟨d, ds, letters', leads'⟩ := second.literal?_head shown'
  rw [letters, letters'] at same
  rw [← (List.cons.inj same).1] at leads'
  exact Shape.leads_unique leads leads'

/-- Where items begin, nothing is written that comes after an item. -/
theorem IsReadable.not_afterItem (readable : IsReadable v)
    (shown : literals? view (v :: vs) = some texts) (rest : List Char) :
    ¬ AfterItem ((commaSeparated texts).toList ++ rest) := by
  obtain ⟨first, others, head, -, rfl⟩ := literals?_cons.mp shown
  obtain ⟨c, cs, letters, leads⟩ := readable.literal?_head head
  rw [toList_commaSeparated_cons, letters]
  exact fun ends => Shape.not_leads_afterItem leads (ends c rfl)

/-- The literal of a value is that of no other value, and shows where it ends. -/
def ReadsOneWay (v : Value) : Prop :=
  ∀ ⦃view view' : View⦄ ⦃w : Value⦄ ⦃s t : String⦄ ⦃rest rest' : List Char⦄, w.IsReadable →
    v.literal? view = some s → w.literal? view' = some t → AfterItem rest → AfterItem rest' →
    s.toList ++ rest = t.toList ++ rest' → v = w ∧ rest = rest'

/-- Items that follow an item are found again one after another. -/
theorem following_append_inj (each : ∀ v ∈ vs, v.ReadsOneWay) (readable : ∀ w ∈ ws, w.IsReadable)
    (shown : literals? view vs = some texts) (shown' : literals? view' ws = some texts')
    (ends : AfterItems rest) (ends' : AfterItems rest')
    (same : following texts ++ rest = following texts' ++ rest') : vs = ws ∧ rest = rest' := by
  induction vs generalizing ws texts texts' with
  | nil =>
    cases shown
    cases ws with
    | nil =>
      cases shown'
      exact ⟨rfl, same⟩
    | cons w ws =>
      obtain ⟨second, others', -, -, rfl⟩ := literals?_cons.mp shown'
      exact absurd same (ends.2 _)
  | cons v vs ih =>
    obtain ⟨first, others, head, tail, rfl⟩ := literals?_cons.mp shown
    cases ws with
    | nil =>
      cases shown'
      exact absurd same.symm (ends'.2 _)
    | cons w ws =>
      obtain ⟨second, others', head', tail', rfl⟩ := literals?_cons.mp shown'
      obtain ⟨one, remaining⟩ := List.forall_mem_cons.mp each
      obtain ⟨one', remaining'⟩ := List.forall_mem_cons.mp readable
      simp only [following, List.flatMap_cons, List.cons_append, List.append_assoc,
        List.cons.injEq, true_and] at same
      obtain ⟨rfl, same⟩ := one one' head head' (ends.1.following others)
        (ends'.1.following others') same
      obtain ⟨rfl, same⟩ := ih remaining remaining' tail tail' same
      exact ⟨rfl, same⟩

/-- Items are found again up to the closing bracket. -/
theorem commaSeparated_append_inj (oneWay : ∀ v ∈ vs, v.ReadsOneWay)
    (each : ∀ v ∈ vs, v.IsReadable) (each' : ∀ w ∈ ws, w.IsReadable)
    (shown : literals? view vs = some texts) (shown' : literals? view' ws = some texts')
    (ends : AfterItems rest) (ends' : AfterItems rest')
    (same : (commaSeparated texts).toList ++ rest = (commaSeparated texts').toList ++ rest') :
    vs = ws ∧ rest = rest' := by
  cases vs with
  | nil =>
    cases shown
    cases ws with
    | nil =>
      cases shown'
      exact ⟨rfl, same⟩
    | cons w ws =>
      have begins := (each' w List.mem_cons_self).not_afterItem shown' rest'
      rw [← same] at begins
      exact absurd ends.1 begins
  | cons v vs =>
    cases ws with
    | nil =>
      cases shown'
      have begins := (each v List.mem_cons_self).not_afterItem shown rest
      rw [same] at begins
      exact absurd ends'.1 begins
    | cons w ws =>
      obtain ⟨first, others, -, -, rfl⟩ := literals?_cons.mp shown
      obtain ⟨second, others', -, -, rfl⟩ := literals?_cons.mp shown'
      rw [toList_commaSeparated_cons, toList_commaSeparated_cons] at same
      exact following_append_inj oneWay each' shown shown' ends ends'
        (congrArg (',' :: ' ' :: ·) same)

theorem IsReadable.readsOneWay_of_word (readable : IsReadable v) (word : v.shape = .word) :
    v.ReadsOneWay := by
  intro view view' w s t rest rest' second shown shown' ends ends' same
  have word' : w.shape = .word := (readable.shape_eq second shown shown' same).symm.trans word
  obtain ⟨rfl, after⟩ :=
    (readable.isWord word shown).append_inj (second.isWord word' shown') ends ends' same
  exact ⟨readable.eq_of_word second word word' shown shown', after⟩

/-- The literals of the values that are considered are read in one way. -/
theorem IsReadable.readsOneWay (readable : IsReadable v) : v.ReadsOneWay := by
  induction readable with
  | null => exact IsReadable.null.readsOneWay_of_word rfl
  | bool b => exact (IsReadable.bool b).readsOneWay_of_word rfl
  | int short => exact (IsReadable.int short).readsOneWay_of_word rfl
  | text content =>
    intro view view' w s t rest rest' second shown shown' ends ends' same
    have shapes := (IsReadable.text content).shape_eq second shown shown' same
    cases second with
    | text content' =>
      cases shown
      cases shown'
      obtain ⟨rfl, after⟩ := quoted_append_inj same
      exact ⟨rfl, after⟩
    | null | bool | int | list | tuple => cases shapes
  | list each ih =>
    intro view view' w s t rest rest' second shown shown' ends ends' same
    have shapes := (IsReadable.list each).shape_eq second shown shown' same
    cases second with
    | list each' =>
      obtain ⟨texts, items, letters⟩ := literal?_list.mp shown
      obtain ⟨texts', items', letters'⟩ := literal?_list.mp shown'
      rw [letters, letters', List.cons_append, List.cons_append, List.append_assoc,
        List.append_assoc, List.cons_append, List.cons_append] at same
      obtain ⟨rfl, closed⟩ := commaSeparated_append_inj ih each each' items items'
        (afterItems_bracket (Or.inr rfl) _) (afterItems_bracket (Or.inr rfl) _)
        (List.cons.inj same).2
      exact ⟨rfl, (List.cons.inj closed).2⟩
    | null | bool | int | text | tuple => cases shapes
  | tuple each ih =>
    intro view view' w s t rest rest' second shown shown' ends ends' same
    have shapes := (IsReadable.tuple each).shape_eq second shown shown' same
    cases second with
    | tuple each' =>
      obtain ⟨texts, items, letters⟩ := literal?_tuple.mp shown
      obtain ⟨texts', items', letters'⟩ := literal?_tuple.mp shown'
      rw [letters, letters', List.cons_append, List.cons_append, List.append_assoc,
        List.append_assoc] at same
      obtain ⟨rfl, closed⟩ := commaSeparated_append_inj ih each each' items items'
        (afterItems_closing _ _) (afterItems_closing _ _) (List.cons.inj same).2
      -- As many items are closed in the same way.
      rw [length_literals? items, length_literals? items'] at closed
      exact ⟨rfl, List.append_cancel_left closed⟩
    | null | bool | int | text | list => cases shapes

theorem IsReadable.isWritable (readable : IsReadable v) : v.isWritable = true := by
  induction readable with
  | null | bool | text => rfl
  | int short => exact short
  | list each ih | tuple each ih => exact (areWritable_iff _).mpr ih

theorem areSelfContained_iff : areSelfContained vs = true ↔ ∀ v ∈ vs, v.isSelfContained = true := by
  induction vs with
  | nil => simp [areSelfContained]
  | cons v vs ih => rw [areSelfContained_cons, ih, List.forall_mem_cons]

theorem IsReadable.isSelfContained (readable : IsReadable v) : v.isSelfContained = true := by
  induction readable with
  | null | bool | text | int => rfl
  | list each ih | tuple each ih => exact areSelfContained_iff.mpr ih

end Value

/-- The event of an insertion gives the slot and the text of the instruction that is stored. -/
theorem Session.slot?_of_issued_insert {s : Session} {fuel : Nat} {id : MachineId} {name : Value}
    {operands : List Value} {e : Event} (told : e ∈ s.issued fuel (.insert id name operands)) :
    ∃ address op text, e = .inserted address text ∧
      (⟨id, op, operands⟩ : Instruction).text? s.view = some text ∧
      (s.perform fuel (.insert id name operands)).1.slot? id address =
        some ⟨id, op, operands⟩ := by
  cases mem_issued_iff.mp told with
  | @stored _ _ _ m _ _ text here insertion =>
    cases Machine.inserting_of_eq insertion with
    | @stored op _ room known equipped short shown =>
      refine ⟨m.pointer, op, text, rfl, shown, ?_⟩
      rw [perform_slot?, written?_insert here, if_pos ⟨rfl, room⟩,
        Instruction.bind_of_equipped s.view id known equipped]
      rfl

theorem Event.inserted_inj {a b : Nat} {text text' : String}
    (same : inserted a text = inserted b text') : a = b ∧ text = text' := by
  simpa [inserted, ofMachine] using same

namespace Instruction

variable {view view' : View} {i j : Instruction}

/-- The operands are of the kinds that are considered. -/
def IsReadable (i : Instruction) : Prop := ∀ v ∈ i.operands, v.IsReadable

theorem IsReadable.exists_text (readable : i.IsReadable) (view : View) :
    ∃ text, i.text? view = some text := by
  have short : Value.areWritable i.operands = true :=
    (Value.areWritable_iff _).mpr fun v inside => (readable v inside).isWritable
  exact Option.isSome_iff_exists.mp ((text?_isSome view i).trans short)

theorem toList_instructionText (op : Opcode) (items : List String) :
    (instructionText op items).toList =
      "Instruction(".toList ++ (op.mnemonic.toList ++ (following items ++ [')'])) := by
  rw [instructionText, String.toList_append, String.toList_append, toList_commaSeparated_cons,
    List.append_assoc, List.append_assoc]
  rfl

theorem IsReadable.eq_of_text? {text : String} (readable : i.IsReadable)
    (readable' : j.IsReadable) (shown : i.text? view = some text)
    (shown' : j.text? view' = some text) : i.op = j.op ∧ i.operands = j.operands := by
  obtain ⟨texts, items, rfl⟩ := Option.map_eq_some_iff.mp shown
  obtain ⟨texts', items', same⟩ := Option.map_eq_some_iff.mp shown'
  have ends : AfterItems [')'] := afterItems_bracket (Or.inl rfl) []
  have letters := congrArg String.toList same.symm
  rw [toList_instructionText, toList_instructionText] at letters
  obtain ⟨names, letters⟩ := i.op.isWord_mnemonic.append_inj j.op.isWord_mnemonic
    (ends.1.following texts) (ends.1.following texts') (List.append_cancel_left letters)
  have oneWay : ∀ v ∈ i.operands, v.ReadsOneWay := fun v inside => (readable v inside).readsOneWay
  obtain ⟨operands, -⟩ :=
    Value.following_append_inj oneWay readable' items items' ends ends letters
  exact ⟨Opcode.mnemonic_inj names, operands⟩

theorem IsReadable.text?_eq_iff (readable : i.IsReadable) (readable' : j.IsReadable) :
    i.text? view = j.text? view' ↔ i.op = j.op ∧ i.operands = j.operands := by
  constructor
  · intro same
    obtain ⟨text, shown⟩ := readable.exists_text view
    exact readable.eq_of_text? readable' shown (same ▸ shown)
  · rintro ⟨op, operands⟩
    have free : Value.areSelfContained i.operands = true :=
      Value.areSelfContained_iff.mpr fun v inside => (readable v inside).isSelfContained
    rw [text?_view view view' free, text?, text?, op, operands]

/-- Instructions whose operands are made of nothing, truth values, integers that can be written,
texts, and lists and tuples of these have a text, and have the same one exactly if they have the
same operation and the same operands. So two insertions of such operands that issue the same event
have stored the same operation with the same operands at the same address. -/
theorem text_identifies :
    (∀ (i j : Instruction) (view view' : View), i.IsReadable → j.IsReadable →
      (∃ text, i.text? view = some text) ∧
        (i.text? view = j.text? view' ↔ i.op = j.op ∧ i.operands = j.operands)) ∧
    ∀ (s t : Session) (fuel fuel' : Nat) (id id' : MachineId) (name name' : Value)
      (operands operands' : List Value) (e : Event),
      (∀ v ∈ operands, v.IsReadable) → (∀ v ∈ operands', v.IsReadable) →
      e ∈ s.issued fuel (.insert id name operands) →
      e ∈ t.issued fuel' (.insert id' name' operands') →
      ∃ address op text, e = .inserted address text ∧
        (s.perform fuel (.insert id name operands)).1.slot? id address =
          some ⟨id, op, operands⟩ ∧
        (t.perform fuel' (.insert id' name' operands')).1.slot? id' address =
          some ⟨id', op, operands⟩ := by
  constructor
  · intro i j view view' readable readable'
    exact ⟨readable.exists_text view, readable.text?_eq_iff readable'⟩
  · intro s t fuel fuel' id id' name name' operands operands' e readable readable' told told'
    obtain ⟨address, op, text, rfl, shown, held⟩ := Session.slot?_of_issued_insert told
    obtain ⟨address', op', text', same, shown', held'⟩ := Session.slot?_of_issued_insert told'
    obtain ⟨rfl, rfl⟩ := Event.inserted_inj same
    have stored : (⟨id, op, operands⟩ : Instruction).IsReadable := readable
    have stored' : (⟨id', op', operands'⟩ : Instruction).IsReadable := readable'
    obtain ⟨rfl, rfl⟩ := stored.eq_of_text? stored' shown shown'
    exact ⟨address, op, text, rfl, held, held'⟩

/-- One text that looks like two, in a tuple, and the two texts in a tuple: the quotes and the
comma after a single item tell them apart. The event of the former, issued for different machines
of different sessions, stands for the same instruction. -/
theorem text_identifies_nested :
    let view : View := fun _ => default
    let i : Instruction := ⟨0, .push, [.tuple [.text "a', 'b"]]⟩
    let j : Instruction := ⟨0, .push, [.tuple [.text "a", .text "b"]]⟩
    let m : Machine := { slots := #[none] }
    let s : Session := { rack := { machines := #[m] } }
    let t : Session := { rack := { machines := #[m.push .null, m.push (.int 1)] } }
    let insertion (id : MachineId) : Operation := .insert id (.text "PUSH") i.operands
    let e : Event := .inserted 0 "Instruction(PUSH, (\"a', 'b\",))"
    i.text? view = some "Instruction(PUSH, (\"a', 'b\",))" ∧
      j.text? view = some "Instruction(PUSH, ('a', 'b'))" ∧ i.text? view ≠ j.text? view ∧
      e ∈ s.issued 0 (insertion 0) ∧ e ∈ t.issued 0 (insertion 1) ∧
      ∃ op, (s.perform 0 (insertion 0)).1.slot? 0 0 = some ⟨0, op, i.operands⟩ ∧
        (t.perform 0 (insertion 1)).1.slot? 1 0 = some ⟨1, op, i.operands⟩ := by
  intro view i j m s t insertion e
  have first : i.text? view = some "Instruction(PUSH, (\"a', 'b\",))" := by decide +kernel
  have second : j.text? view = some "Instruction(PUSH, ('a', 'b'))" := by decide +kernel
  have readable : i.IsReadable := List.forall_mem_singleton.mpr
    (.tuple (List.forall_mem_singleton.mpr (.text _)))
  have readable' : j.IsReadable := List.forall_mem_singleton.mpr
    (.tuple (List.forall_mem_cons.mpr ⟨.text _, List.forall_mem_singleton.mpr (.text _)⟩))
  have told : ∀ {u : Session} {id : MachineId} {n : Machine}, u.machine? id = some n →
      n.slots = #[none] → n.pointer = 0 → e ∈ u.issued 0 (insertion id) := by
    intro u id n here slots pointer
    have bound : Instruction.bind u.view id (.text "PUSH") i.operands =
        .ok ⟨id, .push, i.operands⟩ := rfl
    have shown : (⟨id, .push, i.operands⟩ : Instruction).text? u.view =
        some "Instruction(PUSH, (\"a', 'b\",))" := (text?_view u.view view rfl).trans first
    simp [insertion, Session.issued, here, Machine.insert, slots, pointer, bound, shown, e]
  obtain ⟨same, stored⟩ := text_identifies
  obtain ⟨-, differ⟩ := same i j view view readable readable'
  have one : e ∈ s.issued 0 (insertion 0) := told rfl rfl rfl
  have other : e ∈ t.issued 0 (insertion 1) := told rfl rfl rfl
  obtain ⟨address, op, text, same, held, held'⟩ :=
    stored s t 0 0 0 1 _ _ i.operands i.operands e readable readable one other
  obtain ⟨rfl, -⟩ := Event.inserted_inj same
  refine ⟨first, second, ?_, one, other, op, held, held'⟩
  intro alike
  have operands := (differ.mp alike).2
  simp [i, j] at operands

end Instruction

end StackMachine
