import StackMachine.Proofs.Insertion

/-!
# Texts on one line

A text is on one line if it has no line feed and no carriage return. The literal of every
value is, whatever the texts and bytes inside it hold, and so is every message that shows
one. Other characters at which some readers break lines are not considered.
-/

namespace StackMachine

namespace Text

/-- Whether a character ends a line. -/
def isBreak (c : Char) : Bool := c == '\n' || c == '\r'

/-- Characters none of which ends a line. -/
def Unbroken (cs : List Char) : Prop := ∀ c ∈ cs, isBreak c = false

/-- A text that stays on its line. -/
def OneLine (s : String) : Prop := Unbroken s.toList

instance (cs : List Char) : Decidable (Unbroken cs) :=
  decidable_of_iff (cs.any isBreak = false) (by simp [Unbroken])

instance (s : String) : Decidable (OneLine s) := inferInstanceAs (Decidable (Unbroken s.toList))

variable {s t : String} {cs ds : List Char}

theorem unbroken_nil : Unbroken [] := fun _ inside => absurd inside List.not_mem_nil

theorem Unbroken.append (first : Unbroken cs) (second : Unbroken ds) : Unbroken (cs ++ ds) := by
  intro c inside
  rcases List.mem_append.mp inside with early | late
  · exact first c early
  · exact second c late

theorem Unbroken.cons {c : Char} (first : isBreak c = false) (rest : Unbroken cs) :
    Unbroken (c :: cs) :=
  List.forall_mem_cons.mpr ⟨first, rest⟩

theorem unbroken_single {c : Char} (plain : isBreak c = false) : Unbroken [c] :=
  .cons plain unbroken_nil

theorem Unbroken.subset (whole : Unbroken cs) (part : ds ⊆ cs) : Unbroken ds :=
  fun c inside => whole c (part inside)

theorem Unbroken.trimRight (whole : Unbroken cs) (drop : Char → Bool) :
    Unbroken (cs.reverse.dropWhile drop).reverse := by
  refine whole.subset fun c inside => ?_
  exact List.mem_reverse.mp (List.dropWhile_subset _ (List.mem_reverse.mp inside))

theorem unbroken_replicate {c : Char} (plain : isBreak c = false) (n : Nat) :
    Unbroken (List.replicate n c) := by
  intro d inside
  rw [List.eq_of_mem_replicate inside]
  exact plain

theorem unbroken_digits (n : Nat) : Unbroken (Nat.toDigits 10 n) := by
  intro c inside
  have digit : c.isDigit = true := Nat.isDigit_of_mem_toDigits (by decide) (by decide) inside
  simp only [isBreak, Bool.or_eq_false_iff, beq_eq_false_iff_ne]
  constructor
  · rintro rfl
    exact absurd digit (by decide)
  · rintro rfl
    exact absurd digit (by decide)

/-- Lines that are each ended by a line feed are found again by splitting at it, if none of them
holds a character that splits; nothing is left after the last. -/
theorem splitOnP_lines {p : Char → Bool} (feed : p '\n' = true) {lines : List (List Char)}
    (each : ∀ line ∈ lines, ∀ c ∈ line, p c = false) :
    (lines.flatMap fun line => line ++ ['\n']).splitOnP p = lines ++ [[]] := by
  induction lines with
  | nil => rfl
  | cons line rest ih =>
    obtain ⟨head, tail⟩ := List.forall_mem_cons.mp each
    rw [List.flatMap_cons, List.append_assoc, List.singleton_append,
      List.splitOnP_append_cons_of_forall_mem head '\n' feed, ih tail]
    rfl

@[simp]
theorem oneLine_append : OneLine (s ++ t) ↔ OneLine s ∧ OneLine t := by
  rw [OneLine, String.toList_append]
  exact List.forall_mem_append

theorem oneLine_ofList (h : Unbroken cs) : OneLine (String.ofList cs) := by
  rwa [OneLine, String.toList_ofList]

@[simp]
theorem oneLine_nat (n : Nat) : OneLine (toString n) := oneLine_ofList (unbroken_digits n)

@[simp]
theorem oneLine_int (n : Int) : OneLine (toString n) := by
  cases n with
  | ofNat n => exact oneLine_nat n
  | negSucc n => exact oneLine_append.mpr ⟨(by decide : OneLine "-"), oneLine_nat (n + 1)⟩

theorem oneLine_repeated {c : Char} (plain : isBreak c = false) (n : Nat) :
    OneLine (repeated c n) :=
  oneLine_ofList (unbroken_replicate plain n)

theorem oneLine_trimSpacesRight (plain : OneLine s) : OneLine (trimSpacesRight s) :=
  oneLine_ofList (plain.trimRight _)

theorem oneLine_joinWith {separator : String} (between : OneLine separator) {items : List String}
    (each : ∀ s ∈ items, OneLine s) : OneLine (joinWith separator items) := by
  induction items with
  | nil => exact (by decide : OneLine "")
  | cons first rest ih =>
    have head := each first List.mem_cons_self
    have tail := ih fun s inside => each s (List.mem_cons_of_mem _ inside)
    cases rest with
    | nil => exact head
    | cons second rest =>
      simp only [joinWith, oneLine_append]
      exact ⟨⟨head, between⟩, tail⟩

theorem oneLine_commaSeparated {items : List String} (each : ∀ s ∈ items, OneLine s) :
    OneLine (commaSeparated items) :=
  oneLine_joinWith (by decide) each

theorem unbroken_hexDigits (width n : Nat) : Unbroken (hexDigits width n) := by
  have digit : ∀ k : Fin 16, isBreak (Nat.digitChar k) = false := by decide
  induction width generalizing n with
  | zero => exact unbroken_nil
  | succ width ih =>
    exact (ih (n / 16)).append (unbroken_single (digit ⟨n % 16, Nat.mod_lt n (by decide)⟩))

theorem unbroken_byNumber (c : Char) : Unbroken (byNumber c) := by
  unfold byNumber
  split
  · exact .cons rfl (.cons rfl (unbroken_hexDigits _ _))
  · split
    · exact .cons rfl (.cons rfl (unbroken_hexDigits _ _))
    · exact .cons rfl (.cons rfl (unbroken_hexDigits _ _))

theorem isBreak_delimiter (content : List Char) : isBreak (delimiter content) = false := by
  unfold delimiter
  split <;> rfl

/-- An escaped character is on one line: the breaks are escaped by name, before it is asked which
characters are kept. -/
theorem unbroken_escaped (keep : Char → Bool) {quote : Char} (plain : isBreak quote = false)
    (c : Char) : Unbroken (escaped keep quote c) := by
  unfold escaped
  by_cases special : c = quote ∨ c = '\\'
  · rw [if_pos special]
    refine .cons rfl (unbroken_single ?_)
    rcases special with rfl | rfl
    · exact plain
    · rfl
  rw [if_neg special]
  by_cases feed : c = '\n'
  · rw [if_pos feed]
    exact .cons rfl (unbroken_single rfl)
  by_cases back : c = '\r'
  · rw [if_neg feed, if_pos back]
    exact .cons rfl (unbroken_single rfl)
  rw [if_neg feed, if_neg back]
  split
  · exact .cons rfl (unbroken_single rfl)
  · split
    · exact unbroken_single (by simp [isBreak, feed, back])
    · exact unbroken_byNumber c

theorem unbroken_enclosed (keep : Char → Bool) (content : List Char) :
    Unbroken (enclosed keep content) := by
  have quote := isBreak_delimiter content
  refine .cons quote (.append ?_ (unbroken_single quote))
  intro d inside
  obtain ⟨c, -, written⟩ := List.mem_flatMap.mp inside
  exact unbroken_escaped keep quote c d written

@[simp]
theorem oneLine_quoted (s : String) : OneLine (quoted s) := oneLine_ofList (unbroken_enclosed _ _)

@[simp]
theorem oneLine_quotedBytes (bytes : List UInt8) : OneLine (quotedBytes bytes) :=
  oneLine_ofList (.cons rfl (unbroken_enclosed _ _))

end Text

open Text

@[simp]
theorem Decimal.oneLine_text (d : Decimal) : OneLine d.text := by
  have sign : ∀ negative : Bool, OneLine (if negative then "-" else "") := by decide
  cases d with
  | infinite negative => cases negative <;> decide
  | nan negative signaling payload =>
    have name : OneLine (if signaling then "sNaN" else "NaN") := by cases signaling <;> decide
    simp only [text, oneLine_append, sign, name, true_and]
    split
    · decide
    · exact oneLine_nat payload
  | finite negative coefficient exponent =>
    have digits := oneLine_nat coefficient
    simp only [text, oneLine_append, sign, true_and]
    split
    · unfold fixed
      split
      · exact digits
      · have zeros := oneLine_repeated (by decide : isBreak '0' = false)
          ((-exponent).toNat + 1 - (toString coefficient).length)
        have all := oneLine_append.mpr ⟨zeros, digits⟩
        simp only [oneLine_append]
        exact ⟨⟨oneLine_ofList (all.subset (List.take_subset _ _)), by decide⟩,
          oneLine_ofList (all.subset (List.drop_subset _ _))⟩
    · simp only [scientific, oneLine_append, oneLine_int, and_true]
      refine ⟨⟨?_, by decide⟩, by split <;> decide⟩
      split
      · rename_i first second rest shape
        rw [OneLine, shape] at digits
        exact oneLine_ofList (.cons (digits first List.mem_cons_self)
          (.cons rfl (digits.subset (List.subset_cons_self _ _))))
      · exact digits

namespace Binary64

theorem oneLine_exponentText (e : Int) : OneLine (exponentText e) := by
  simp only [exponentText, oneLine_append, oneLine_nat, and_true]
  exact ⟨by split <;> decide, oneLine_repeated rfl _⟩

theorem oneLine_positional (layout : Layout) {digits : List Char} (plain : Unbroken digits)
    (point : Int) : OneLine (positional layout digits point) := by
  unfold positional
  split
  · simp only [oneLine_append]
    exact ⟨⟨by decide, oneLine_repeated rfl _⟩, oneLine_ofList plain⟩
  split
  · simp only [oneLine_append]
    exact ⟨⟨oneLine_ofList plain, oneLine_repeated rfl _⟩, by split <;> decide⟩
  · simp only [oneLine_append]
    exact ⟨⟨oneLine_ofList (plain.subset (List.take_subset _ _)), by decide⟩,
      oneLine_ofList (plain.subset (List.drop_subset _ _))⟩

theorem oneLine_exponential {digits : List Char} (plain : Unbroken digits) (power : Int) :
    OneLine (exponential digits power) := by
  cases digits with
  | nil => exact (by decide : OneLine "")
  | cons first rest =>
    have head := plain first List.mem_cons_self
    simp only [exponential, oneLine_append, oneLine_exponentText, and_true]
    refine ⟨oneLine_ofList ?_, by decide⟩
    split
    · exact unbroken_single head
    · exact .cons head (.cons rfl (plain.subset (List.subset_cons_self _ _)))

theorem oneLine_magnitude (layout : Layout) (s : Scientific) : OneLine (layout.magnitude s) := by
  have plain : Unbroken (withoutTrailingZeros (toString s.digits).toList) :=
    (oneLine_nat s.digits).trimRight _
  simp only [Layout.magnitude]
  split
  · exact oneLine_positional layout plain _
  · exact oneLine_exponential plain _

@[simp]
theorem oneLine_write (layout : Layout) (x : Float) : OneLine (layout.write x) := by
  unfold Layout.write
  split
  · decide
  · split <;> decide
  · rw [oneLine_append]
    constructor
    · split <;> decide
    · split
      · split <;> decide
      · exact oneLine_magnitude layout _

end Binary64

@[simp]
theorem Complex.oneLine_text (z : Complex) : OneLine z.text := by
  have signed : OneLine (signed z.im) := by
    simp only [Complex.signed]
    split
    · exact Binary64.oneLine_write _ _
    · simp +decide
  unfold text
  split
  · simp +decide
  · simp +decide [signed]

theorem Integer.oneLine_text? {n : Int} {text : String} (h : text? n = some text) :
    OneLine text := by
  unfold text? at h
  split at h
  · cases h
    exact oneLine_int n
  · cases h

theorem oneLine_rationalLiteral? {q : Rat} {text : String} (h : rationalLiteral? q = some text) :
    OneLine text := by
  unfold rationalLiteral? at h
  split at h
  · rename_i n d num den
    cases h
    simp +decide [Integer.oneLine_text? num, Integer.oneLine_text? den]
  · cases h

theorem oneLine_rationalDisplay? {q : Rat} {text : String} (h : rationalDisplay? q = some text) :
    OneLine text := by
  unfold rationalDisplay? at h
  split at h
  · exact Integer.oneLine_text? h
  · split at h
    · rename_i n d num den
      cases h
      simp +decide [Integer.oneLine_text? num, Integer.oneLine_text? den]
    · cases h

@[simp]
theorem oneLine_boolText (b : Bool) : OneLine (boolText b) := by
  cases b <;> decide

@[simp]
theorem Opcode.oneLine_mnemonic (op : Opcode) : OneLine op.mnemonic := by
  cases op <;> decide

@[simp]
theorem Summary.oneLine_text (s : Summary) : OneLine s.text := by
  unfold text
  simp only [oneLine_append, oneLine_nat, oneLine_boolText, and_true]
  decide

theorem oneLine_instructionText (op : Opcode) {operands : List String}
    (each : ∀ s ∈ operands, OneLine s) : OneLine (instructionText op operands) := by
  have all : ∀ s ∈ op.mnemonic :: operands, OneLine s :=
    List.forall_mem_cons.mpr ⟨op.oneLine_mnemonic, each⟩
  simp only [instructionText, oneLine_append, oneLine_commaSeparated all, and_true]
  decide

theorem oneLine_tupleText {items : List String} (each : ∀ s ∈ items, OneLine s) :
    OneLine (tupleText items) := by
  unfold tupleText
  split
  · simp only [oneLine_append, each _ List.mem_cons_self, and_true]
    decide
  · simp only [oneLine_append, oneLine_commaSeparated each, and_true]
    decide

namespace Value

mutual

/-- The literal of a value is on one line. -/
theorem oneLine_literal? (view : View) (v : Value) {text : String}
    (h : v.literal? view = some text) : OneLine text := by
  cases v <;> rw [literal?] at h
  case int n => exact Integer.oneLine_text? h
  case rational q => exact oneLine_rationalLiteral? h
  case list items =>
    obtain ⟨texts, found, rfl⟩ := Option.map_eq_some_iff.mp h
    simp +decide [oneLine_commaSeparated (oneLine_literals? view items found)]
  case tuple items =>
    obtain ⟨texts, found, rfl⟩ := Option.map_eq_some_iff.mp h
    exact oneLine_tupleText (oneLine_literals? view items found)
  case mapping entries =>
    obtain ⟨texts, found, rfl⟩ := Option.map_eq_some_iff.mp h
    simp +decide [oneLine_commaSeparated (oneLine_entryLiterals? view entries found)]
  case instruction serial owner op operands =>
    obtain ⟨texts, found, rfl⟩ := Option.map_eq_some_iff.mp h
    exact oneLine_instructionText op (oneLine_literals? view operands found)
  case opcode op =>
    cases h
    simp +decide [Opcode.literal]
  all_goals
    cases h
    simp +decide

theorem oneLine_literals? (view : View) (vs : List Value) {texts : List String}
    (h : literals? view vs = some texts) : ∀ s ∈ texts, OneLine s := by
  cases vs with
  | nil =>
    cases h
    exact fun s inside => absurd inside List.not_mem_nil
  | cons v rest =>
    rw [literals?] at h
    split at h
    · rename_i shown others first later
      cases h
      exact List.forall_mem_cons.mpr
        ⟨oneLine_literal? view v first, oneLine_literals? view rest later⟩
    · cases h

theorem oneLine_entryLiterals? (view : View) (entries : List (Value × Value))
    {texts : List String} (h : entryLiterals? view entries = some texts) :
    ∀ s ∈ texts, OneLine s := by
  match entries with
  | [] =>
    cases h
    exact fun s inside => absurd inside List.not_mem_nil
  | (k, v) :: rest =>
    rw [entryLiterals?] at h
    split at h
    · rename_i key shown others first second later
      cases h
      refine List.forall_mem_cons.mpr ⟨?_, oneLine_entryLiterals? view rest later⟩
      simp +decide [oneLine_literal? view k first, oneLine_literal? view v second]
    · cases h

end

@[simp]
theorem oneLine_kind (v : Value) : OneLine v.kind := by
  cases v <;> simp +decide [kind]

@[simp]
theorem oneLine_qualifiedKind (v : Value) : OneLine v.qualifiedKind := by
  cases v <;> simp +decide [qualifiedKind, kind]

end Value

/-- The text of an instruction is on one line. -/
theorem Instruction.oneLine_text? {view : View} {i : Instruction} {text : String}
    (h : i.text? view = some text) : OneLine text := by
  obtain ⟨texts, found, rfl⟩ := Option.map_eq_some_iff.mp h
  exact oneLine_instructionText i.op (Value.oneLine_literals? view i.operands found)

theorem oneLine_toString (s : String) : OneLine (toString s) ↔ OneLine s := Iff.rfl

namespace Fault

/-- The texts that the message of a fault is made from. -/
def texts : Fault → List String
  | .invalidAddressCount shown | .invalidAddress shown | .invalidRunningState shown
  | .invalidComputer shown | .invalidInstruction shown | .frozenField shown
  | .missingKey shown => [shown]
  | .stackExceeded wanted _ => [wanted]
  | .notComparable kind | .notCountable kind | .unhashable kind | .unnamableKey kind
  | .noLength kind | .noItems kind | .notText kind => [kind]
  | .notNumeric kind shown => [kind, shown]
  | .notMultipliable first second => [first, second]
  | .noAttribute kind name => [kind, name]
  | .unknownLevel shown expected | .unknownRenderer shown expected => [shown, expected]
  | .repeatedArgument callee argument => [callee, argument]
  | .template problem => [problem.message]
  | .addressOutOfBounds _ _ | .noSlotLeft _ _ | .insufficientArguments _ _ | .digitLimit
  | .closedStream | .missingOperand | .integerTooLarge | .quotientTooLarge | .decimalOverflow
  | .decimalInvalid | .outOfMemory | .countTooLarge | .signalingKey => []

/-- All texts in the message of the fault are on one line. -/
def Tidy (f : Fault) : Prop := ∀ s ∈ f.texts, OneLine s

/-- No message breaks the line unless a text in it does. -/
theorem Tidy.oneLine_message {f : Fault} (tidy : f.Tidy) : OneLine f.message := by
  have each : ∀ s ∈ f.texts, OneLine s := tidy
  cases f
  all_goals
    unfold message
    unfold texts at each
    simp only [List.forall_mem_cons] at each
    simp only [oneLine_append, oneLine_toString, oneLine_nat, oneLine_int,
      Opcode.oneLine_mnemonic, each, and_true, true_and]
  all_goals decide +kernel

theorem tidy_of_nil {f : Fault} (empty : f.texts = []) : f.Tidy := by
  rw [Tidy, empty]
  exact fun s inside => absurd inside List.not_mem_nil

theorem tidy_of_cons {f : Fault} {first : String} {rest : List String}
    (all : f.texts = first :: rest) (head : OneLine first) (tail : ∀ s ∈ rest, OneLine s) :
    f.Tidy := by
  rw [Tidy, all]
  exact List.forall_mem_cons.mpr ⟨head, tail⟩

theorem tidy_of_single {f : Fault} {s : String} (only : f.texts = [s]) (plain : OneLine s) :
    f.Tidy :=
  tidy_of_cons only plain fun _ inside => absurd inside List.not_mem_nil

/-- A fault that shows a value is tidy if nothing else in its message breaks the line. -/
theorem tidy_showing (view : View) (v : Value) {fault : String → Fault}
    (only : ∀ shown, OneLine shown → (fault shown).Tidy) : (showing view v fault).Tidy := by
  unfold showing
  split
  · rename_i shown found
    exact only shown (v.oneLine_literal? view found)
  · exact tidy_of_nil rfl

end Fault

end StackMachine
