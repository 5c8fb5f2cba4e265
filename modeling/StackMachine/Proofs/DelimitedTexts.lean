import StackMachine.Text.Joined
import StackMachine.Text.Quoted
import Mathlib.Algebra.Group.Nat.Defs

/-!
# Texts that show where they end

A text between quotes can be told from whatever is written after it, and a word from a comma or a
bracket. Between quotes each character is written in one of three ways, and the way shows in what
is written: as itself, by a mark, or by a mark and as many digits as the mark asks for. How a
reader would go about it is not described.
-/

namespace StackMachine.Text

variable {quote c d : Char} {cs ds rest rest' : List Char}

theorem length_hexDigits (width n : Nat) : (hexDigits width n).length = width := by
  induction width generalizing n with
  | zero => rfl
  | succ width ih => rw [hexDigits, List.length_append, ih, List.length_singleton]

/-- Numbers for which there are digits enough are equal if their digits are. -/
theorem eq_of_hexDigits {width m n : Nat} (room : m < 16 ^ width) (room' : n < 16 ^ width)
    (same : hexDigits width m = hexDigits width n) : m = n := by
  have digit : ∀ a b : Fin 16, Nat.digitChar a = Nat.digitChar b → a = b := by decide
  induction width generalizing m n with
  | zero => omega
  | succ width ih =>
    have lengths : (hexDigits width (m / 16)).length = (hexDigits width (n / 16)).length := by
      rw [length_hexDigits, length_hexDigits]
    obtain ⟨upper, last⟩ := List.append_inj same lengths
    have high : m / 16 = n / 16 :=
      ih (Nat.div_lt_of_lt_mul (by omega)) (Nat.div_lt_of_lt_mul (by omega)) upper
    have low : m % 16 = n % 16 := congrArg Fin.val
      (digit ⟨m % 16, Nat.mod_lt m (by decide)⟩ ⟨n % 16, Nat.mod_lt n (by decide)⟩
        (List.head_eq_of_cons_eq last))
    omega

/-- How many digits follow a mark. -/
def markWidth (mark : Char) : Nat :=
  if mark = 'x' then 2 else if mark = 'u' then 4 else if mark = 'U' then 8 else 0

/-- What a mark means that no digits follow. -/
def meaning (mark : Char) : Char :=
  if mark = 'n' then '\n' else if mark = 'r' then '\r' else if mark = 't' then '\t' else mark

/-- The ways in which a character can stand between two quotes. -/
inductive Written (quote c : Char) : List Char → Prop
  | itself (unmarked : c ≠ '\\') (inside : c ≠ quote) : Written quote c [c]
  | marked (mark : Char) (alone : markWidth mark = 0) (meant : c = meaning mark) :
      Written quote c ['\\', mark]
  | numbered (mark : Char) (digits : markWidth mark ≠ 0) (room : c.toNat < 16 ^ markWidth mark) :
      Written quote c ('\\' :: mark :: hexDigits (markWidth mark) c.toNat)

theorem written_byNumber (quote c : Char) : Written quote c (byNumber c) := by
  have bound : c.toNat < 16 ^ 8 := Nat.lt_of_lt_of_le c.val.toNat_lt (by decide)
  unfold byNumber
  split
  · exact .numbered 'x' (by decide) ‹_›
  split
  · exact .numbered 'u' (by decide) ‹_›
  · exact .numbered 'U' (by decide) bound

/-- Whatever characters are kept, each is written in one of the three ways. -/
theorem written_escaped (keep : Char → Bool) (isQuote : quote = '\x27' ∨ quote = '\x22')
    (c : Char) : Written quote c (escaped keep quote c) := by
  unfold escaped
  by_cases special : c = quote ∨ c = '\\'
  · rw [if_pos special]
    refine .marked c ?_ ?_
    · rcases isQuote with rfl | rfl <;> rcases special with rfl | rfl <;> decide
    · rcases isQuote with rfl | rfl <;> rcases special with rfl | rfl <;> decide
  rw [if_neg special]
  obtain ⟨inside, unmarked⟩ := not_or.mp special
  split
  · exact .marked 'n' (by decide) ‹c = '\n'›
  split
  · exact .marked 'r' (by decide) ‹c = '\r'›
  split
  · exact .marked 't' (by decide) ‹c = '\t'›
  split
  · exact .itself unmarked inside
  · exact written_byNumber quote c

/-- What is written for a character shows which character it is, whatever follows. -/
theorem Written.append_inj (first : Written quote c cs) (second : Written quote d ds)
    (same : cs ++ rest = ds ++ rest') : c = d ∧ rest = rest' := by
  cases first with
  | itself unmarked inside =>
    cases second with
    | itself => exact List.cons.inj same
    | marked | numbered => exact absurd (List.cons.inj same).1 unmarked
  | marked mark alone meant =>
    cases second with
    | itself unmarked => exact absurd (List.cons.inj same).1.symm unmarked
    | marked mark' alone' meant' =>
      obtain ⟨marks, after⟩ := List.cons.inj (List.cons.inj same).2
      exact ⟨by rw [meant, meant', marks], after⟩
    | numbered mark' digits =>
      obtain ⟨rfl, -⟩ := List.cons.inj (List.cons.inj same).2
      exact absurd alone digits
  | numbered mark digits room =>
    cases second with
    | itself unmarked => exact absurd (List.cons.inj same).1.symm unmarked
    | marked mark' alone =>
      obtain ⟨rfl, -⟩ := List.cons.inj (List.cons.inj same).2
      exact absurd alone digits
    | numbered mark' digits' room' =>
      obtain ⟨rfl, after⟩ := List.cons.inj (List.cons.inj same).2
      have lengths : (hexDigits (markWidth mark) c.toNat).length =
          (hexDigits (markWidth mark) d.toNat).length := by
        rw [length_hexDigits, length_hexDigits]
      obtain ⟨numbers, after⟩ := List.append_inj after lengths
      exact ⟨Char.toNat_inj.mp (eq_of_hexDigits room room' numbers), after⟩

/-- Nothing that is written between the quotes begins with one. -/
theorem Written.ne_quote (isQuote : quote = '\x27' ∨ quote = '\x22')
    (written : Written quote c cs) : cs ++ rest ≠ quote :: rest' := by
  have other : '\\' ≠ quote := by rcases isQuote with rfl | rfl <;> decide
  intro same
  cases written with
  | itself unmarked inside => exact inside (List.cons.inj same).1
  | marked | numbered => exact other (List.cons.inj same).1

theorem delimiter_cases (content : List Char) :
    delimiter content = '\x27' ∨ delimiter content = '\x22' := by
  unfold delimiter
  split
  · exact Or.inr rfl
  · exact Or.inl rfl

/-- Up to the closing quote, the characters are found again one after another. -/
theorem content_append_inj (keep : Char → Bool) (isQuote : quote = '\x27' ∨ quote = '\x22')
    (same : cs.flatMap (escaped keep quote) ++ quote :: rest =
      ds.flatMap (escaped keep quote) ++ quote :: rest') : cs = ds ∧ rest = rest' := by
  have written := written_escaped keep isQuote
  induction cs generalizing ds with
  | nil =>
    cases ds with
    | nil => exact ⟨rfl, (List.cons.inj same).2⟩
    | cons d ds =>
      rw [List.flatMap_cons, List.append_assoc] at same
      exact absurd same.symm ((written d).ne_quote isQuote)
  | cons c cs ih =>
    rw [List.flatMap_cons, List.append_assoc] at same
    cases ds with
    | nil => exact absurd same ((written c).ne_quote isQuote)
    | cons d ds =>
      rw [List.flatMap_cons, List.append_assoc] at same
      obtain ⟨rfl, others⟩ := (written c).append_inj (written d) same
      obtain ⟨rfl, after⟩ := ih others
      exact ⟨rfl, after⟩

/-- A text in quotes can be told from what is written after it. -/
theorem quoted_append_inj {s t : String}
    (same : (quoted s).toList ++ rest = (quoted t).toList ++ rest') : s = t ∧ rest = rest' := by
  simp only [quoted, enclosed, String.toList_ofList, List.cons_append, List.append_assoc,
    List.nil_append] at same
  obtain ⟨quotes, same⟩ := List.cons.inj same
  rw [quotes] at same
  obtain ⟨content, after⟩ := content_append_inj isPrintable (delimiter_cases t.toList) same
  exact ⟨String.toList_inj.mp content, after⟩

/-- Characters of one class end where a character of another class, or nothing, follows. -/
theorem append_inj_of_class {p : Char → Bool} (all : ∀ c ∈ cs, p c = true)
    (all' : ∀ c ∈ ds, p c = true) (ends : ∀ c ∈ rest.head?, p c = false)
    (ends' : ∀ c ∈ rest'.head?, p c = false) (same : cs ++ rest = ds ++ rest') :
    cs = ds ∧ rest = rest' := by
  have stops : ∀ {after : List Char}, (∀ c ∈ after.head?, p c = false) →
      after.takeWhile p = [] := by
    intro after ends
    cases after with
    | nil => rfl
    | cons c after => rw [List.takeWhile_cons_of_neg (by simp [ends c rfl])]
  have taken := congrArg (List.takeWhile p) same
  rw [List.takeWhile_append_of_pos all, List.takeWhile_append_of_pos all', stops ends,
    stops ends', List.append_nil, List.append_nil] at taken
  subst taken
  exact ⟨rfl, List.append_cancel_left same⟩

def following (items : List String) : List Char :=
  items.flatMap fun item => ',' :: ' ' :: item.toList

theorem toList_commaSeparated_cons (first : String) (items : List String) :
    (commaSeparated (first :: items)).toList = first.toList ++ following items := by
  induction items generalizing first with
  | nil => exact (List.append_nil _).symm
  | cons second rest ih =>
    have step : commaSeparated (first :: second :: rest) =
        first ++ ", " ++ commaSeparated (second :: rest) := rfl
    rw [step, String.toList_append, String.toList_append, ih, List.append_assoc]
    rfl

/-- The characters of words, which are mnemonics, names of values and integers. -/
def isWordChar (c : Char) : Bool := c.isAlphanum || c == '-'

def IsWord (s : String) : Prop := s.toList ≠ [] ∧ s.toList.all isWordChar = true

instance (s : String) : Decidable (IsWord s) := inferInstanceAs (Decidable (_ ∧ _))

theorem isDigit_of_mem_nat {n : Nat} (inside : c ∈ (toString n).toList) :
    c.isDigit = true := by
  rw [show (toString n).toList = Nat.toDigits 10 n from String.toList_ofList] at inside
  exact Nat.isDigit_of_mem_toDigits (by decide) (by decide) inside

/-- An integer is written with digits and a sign. -/
theorem isDigit_or_sign_of_mem_int {n : Int} (inside : c ∈ (toString n).toList) :
    c.isDigit = true ∨ c = '-' := by
  cases n with
  | ofNat n => exact Or.inl (isDigit_of_mem_nat inside)
  | negSucc n =>
    have shape : (toString (Int.negSucc n)).toList = '-' :: (toString (n + 1)).toList :=
      String.toList_append
    rw [shape] at inside
    rcases List.mem_cons.mp inside with sign | later
    · exact Or.inr sign
    · exact Or.inl (isDigit_of_mem_nat later)

theorem isWord_int (n : Int) : IsWord (toString n) := by
  constructor
  · intro empty
    cases n with
    | ofNat n =>
      have none : Nat.toDigits 10 n = [] := String.toList_ofList.symm.trans empty
      exact Nat.toDigits_ne_nil none
    | negSucc n => exact List.cons_ne_nil _ _ (String.toList_append.symm.trans empty)
  · refine List.all_eq_true.mpr fun c inside => ?_
    rcases isDigit_or_sign_of_mem_int inside with digit | rfl
    · simp [isWordChar, Char.isAlphanum, digit]
    · rfl

/-- What may be written after an item: nothing, a comma or a closing bracket. -/
def AfterItem (rest : List Char) : Prop := ∀ c ∈ rest.head?, c = ',' ∨ c = ')' ∨ c = ']'

/-- What may be written after the last of some items, and is not the beginning of one more. -/
def AfterItems (rest : List Char) : Prop := AfterItem rest ∧ ∀ more, rest ≠ ',' :: ' ' :: more

theorem AfterItem.not_word (ends : AfterItem rest) :
    ∀ c ∈ rest.head?, isWordChar c = false := by
  intro c first
  rcases ends c first with rfl | rfl | rfl <;> rfl

theorem AfterItem.following (ends : AfterItem rest) (items : List String) :
    AfterItem (following items ++ rest) := by
  cases items with
  | nil => exact ends
  | cons item items =>
    intro c first
    cases first
    exact Or.inl rfl

theorem afterItems_bracket (bracket : c = ')' ∨ c = ']') (rest : List Char) :
    AfterItems (c :: rest) := by
  constructor
  · intro d first
    cases first
    exact Or.inr bracket
  · intro more same
    rcases bracket with rfl | rfl <;> cases same

/-- A word can be told from what may be written after an item. -/
theorem IsWord.append_inj {s t : String} (first : IsWord s) (second : IsWord t)
    (ends : AfterItem rest) (ends' : AfterItem rest')
    (same : s.toList ++ rest = t.toList ++ rest') : s = t ∧ rest = rest' := by
  obtain ⟨letters, after⟩ := append_inj_of_class (List.all_eq_true.mp first.2)
    (List.all_eq_true.mp second.2) ends.not_word ends'.not_word same
  exact ⟨String.toList_inj.mp letters, after⟩

/-- How a tuple of some number of items is closed. -/
def closing (count : Nat) : List Char := if count = 1 then [',', ')'] else [')']

theorem afterItems_closing (count : Nat) (rest : List Char) :
    AfterItems (closing count ++ rest) := by
  unfold closing
  split
  · constructor
    · intro c first
      cases first
      exact Or.inl rfl
    · intro more same
      cases same
  · exact afterItems_bracket (Or.inl rfl) rest

end StackMachine.Text
