import StackMachine.Number.Decimal

/-! # Templates taken apart

A template is a text in which a percent sign begins a directive: an optional key
in parentheses, flags, a width, a precision, a size letter that has no meaning,
and the letter of the conversion. Two percent signs stand for one. Reading never
fails: what is wrong with a directive is found when it is used, since the order in
which arguments are taken decides which of two problems is met first. -/

namespace StackMachine.Template

/-- The key of a directive. -/
inductive Key where
  | absent
  | named (name : String)
  /-- The parenthesis is not closed before the template ends. -/
  | unclosed
  deriving DecidableEq, Repr

structure Flags where
  /-- The filling goes to the right. -/
  left : Bool
  /-- A number that is not negative has a plus sign. -/
  plus : Bool
  /-- A number that is not negative has a space for its sign. -/
  blank : Bool
  /-- The mark of the base, or the point and all places, are written. -/
  full : Bool
  /-- A number is filled up with zeros. -/
  zero : Bool
  deriving DecidableEq, Repr

inductive Size where
  | absent
  | given (n : Nat)
  /-- The size is the next argument. -/
  | argument
  deriving DecidableEq, Repr

structure Letter where
  char : Char
  index : Nat
  deriving DecidableEq, Repr

/-- A directive; without a letter when the template ends within it. -/
structure Directive where
  key : Key
  flags : Flags
  width : Size
  precision : Size
  letter : Option Letter
  deriving DecidableEq, Repr

inductive Piece where
  | plain (c : Char)
  | directive (d : Directive)
  deriving DecidableEq, Repr

/-- The characters up to the parenthesis that closes `depth` further ones, and those after it. -/
def splitClosed? : Nat → List Char → Option (List Char × List Char)
  | _, [] => none
  | depth, c :: rest =>
    if c = ')' then
      if depth = 0 then some ([], rest)
      else (splitClosed? (depth - 1) rest).map fun (name, after) => (c :: name, after)
    else
      let inner := if c = '(' then depth + 1 else depth
      (splitClosed? inner rest).map fun (name, after) => (c :: name, after)

def readKey (cs : List Char) : Key × List Char :=
  match cs with
  | '(' :: rest =>
    match splitClosed? 0 rest with
    | some (name, after) => (.named (String.ofList name), after)
    | none => (.unclosed, [])
  | _ => (.absent, cs)

def isFlag (c : Char) : Bool := c == '-' || c == '+' || c == ' ' || c == '#' || c == '0'

def flagsOf (cs : List Char) : Flags :=
  { left := cs.contains '-', plus := cs.contains '+', blank := cs.contains ' '
    full := cs.contains '#', zero := cs.contains '0' }

def readSize (cs : List Char) : Size × List Char :=
  match cs with
  | '*' :: rest => (.argument, rest)
  | _ =>
    match Decimal.digits? (cs.takeWhile Char.isDigit) with
    | some n => (.given n, cs.dropWhile Char.isDigit)
    | none => (.absent, cs)

/-- Reads a precision, which is zero after a point without a number. -/
def readPrecision (cs : List Char) : Size × List Char :=
  match cs with
  | '.' :: rest =>
    match readSize rest with
    | (.absent, after) => (.given 0, after)
    | found => found
  | _ => (.absent, cs)

def skipSizeLetter (cs : List Char) : List Char :=
  match cs with
  | c :: rest => if c = 'h' ∨ c = 'l' ∨ c = 'L' then rest else cs
  | [] => []

def readLetter (total : Nat) (cs : List Char) : Option Letter × List Char :=
  match cs with
  | c :: rest => (some ⟨c, total - cs.length⟩, rest)
  | [] => (none, [])

/-- Reads what follows a percent sign. -/
def readDirective (total : Nat) (cs : List Char) : Directive × List Char :=
  let key := readKey cs
  let flags := key.2.takeWhile isFlag
  let width := readSize (key.2.dropWhile isFlag)
  let precision := readPrecision width.2
  let letter := readLetter total (skipSizeLetter precision.2)
  (⟨key.1, flagsOf flags, width.1, precision.1, letter.1⟩, letter.2)

theorem splitClosed?_suffix {depth : Nat} {cs name after : List Char}
    (h : splitClosed? depth cs = some (name, after)) : after <:+ cs := by
  induction cs generalizing depth name after with
  | nil => simp [splitClosed?] at h
  | cons c rest ih =>
    have step {d : Nat} (hd : (splitClosed? d rest).map (fun p => (c :: p.1, p.2)) =
        some (name, after)) : after <:+ c :: rest := by
      obtain ⟨⟨inner, tail⟩, found, heq⟩ := Option.map_eq_some_iff.mp hd
      cases heq
      exact (ih found).trans (List.suffix_cons c rest)
    rw [splitClosed?] at h
    split at h
    · split at h
      · cases h
        exact List.suffix_cons c _
      · exact step h
    · exact step h

theorem readKey_suffix (cs : List Char) : (readKey cs).2 <:+ cs := by
  unfold readKey
  split
  · split
    · exact (splitClosed?_suffix (by assumption)).trans (List.suffix_cons _ _)
    · exact List.nil_suffix
  · exact List.suffix_refl cs

theorem readSize_suffix (cs : List Char) : (readSize cs).2 <:+ cs := by
  unfold readSize
  split
  · exact List.suffix_cons _ _
  · split
    · exact List.dropWhile_suffix _
    · exact List.suffix_refl cs

theorem readPrecision_suffix (cs : List Char) : (readPrecision cs).2 <:+ cs := by
  unfold readPrecision
  split
  · rename_i rest
    have found := (readSize_suffix rest).trans (List.suffix_cons '.' rest)
    split
    · rename_i h
      rwa [h] at found
    · exact found
  · exact List.suffix_refl cs

theorem skipSizeLetter_suffix (cs : List Char) : skipSizeLetter cs <:+ cs := by
  unfold skipSizeLetter
  split
  · split
    · exact List.suffix_cons _ _
    · exact List.suffix_refl _
  · exact List.suffix_refl _

theorem readLetter_suffix (total : Nat) (cs : List Char) : (readLetter total cs).2 <:+ cs := by
  unfold readLetter
  split
  · exact List.suffix_cons _ _
  · exact List.suffix_refl _

theorem readDirective_suffix (total : Nat) (cs : List Char) :
    (readDirective total cs).2 <:+ cs :=
  (readLetter_suffix _ _).trans <| (skipSizeLetter_suffix _).trans <|
    (readPrecision_suffix _).trans <| (readSize_suffix _).trans <|
      (List.dropWhile_suffix _).trans (readKey_suffix cs)

/-- The pieces of the rest of a template of the given length. -/
def piecesFrom (total : Nat) (cs : List Char) : List Piece :=
  match cs with
  | [] => []
  | '%' :: '%' :: rest => .plain '%' :: piecesFrom total rest
  | '%' :: rest =>
    have : (readDirective total rest).2.length < rest.length + 1 :=
      Nat.lt_succ_of_le (readDirective_suffix total rest).length_le
    .directive (readDirective total rest).1 :: piecesFrom total (readDirective total rest).2
  | c :: rest => .plain c :: piecesFrom total rest
termination_by cs.length

def pieces (template : String) : List Piece :=
  piecesFrom template.toList.length template.toList

end StackMachine.Template
