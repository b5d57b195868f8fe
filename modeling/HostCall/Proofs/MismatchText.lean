import HostCall.Fault
import Mathlib.Data.List.Infix
import Mathlib.Data.Option.NAry
import Mathlib.Tactic.ByContra

/-!
# What the words of a mismatch tell

When no candidate of a router takes the arguments, the failure says in words how many
arguments there were, which range every candidate declares and, if there are any, which
candidates took the count but not the types.  All of this can be read back from the words
(`Mismatch.message_identifies`), whatever the numbers are, however long the two lists are, and
also where a list is empty.

A range is written in one of three forms that begin alike, such as `2`, `2..` and `2..=3`; what
follows its first number tells which one it is.  Numbers and ranges are made of digits, dots and
equals signs alone (`isMark`).  So a list of them falls into its elements at its commas, and it
ends where its bracket closes.
-/

set_option autoImplicit false

namespace HostCall

/-! ## Numbers and ranges -/

/-- The number that is written in these characters, if they are digits. -/
def number? (text : List Char) : Option Nat :=
  if text ≠ [] ∧ text.all Char.isDigit then some (Nat.ofDigitChars 10 text 0) else none

/-- The range that is written in these characters.  What follows the number in front tells the
form: nothing, an open end, or a second bound. -/
def Arity.read? (text : List Char) : Option Arity :=
  let least := text.takeWhile Char.isDigit
  match text.dropWhile Char.isDigit with
  | [] => (number? least).map Arity.exact
  | ['.', '.'] => (number? least).map Arity.atLeast
  | '.' :: '.' :: '=' :: greatest => Option.map₂ Arity.range (number? least) (number? greatest)
  | _ => none

/-- The characters of which numbers and ranges are made. -/
def isMark (character : Char) : Bool :=
  character.isDigit || character == '.' || character == '='

/-- Values written so that a reader gets them back: in the characters of numbers and ranges, and
never in none of them. -/
structure Legible {α : Type} (write : α → String) (read? : List Char → Option α) : Prop where
  read?_write : ∀ value, read? (write value).toList = some value
  read?_nil : read? [] = none
  isMark_of_mem : ∀ value, ∀ character ∈ (write value).toList, isMark character = true

theorem isDigit_of_mem_number {number : Nat} {character : Char}
    (member : character ∈ (toString number).toList) : character.isDigit = true := by
  rw [Nat.toString_eq_ofList_toDigits, String.toList_ofList] at member
  exact Nat.isDigit_of_mem_toDigits (by decide) (by decide) member

theorem number?_number (number : Nat) : number? (toString number).toList = some number := by
  have digits : (toString number).toList.all Char.isDigit = true :=
    List.all_eq_true.mpr fun _ => isDigit_of_mem_number
  rw [number?, digits, Nat.toString_eq_ofList_toDigits, String.toList_ofList,
    if_pos ⟨Nat.toDigits_ne_nil, rfl⟩, Nat.ofDigitChars_ten_toDigits]

/-- Numbers can be read back. -/
theorem legible_number : Legible (toString : Nat → String) number? where
  read?_write := number?_number
  read?_nil := by decide
  isMark_of_mem _ _ member := by rw [isMark, isDigit_of_mem_number member]; rfl

/-- Behind a number the digits end where another character comes. -/
theorem takeWhile_number_append (number : Nat) (rest : List Char)
    (ends : rest.takeWhile Char.isDigit = []) :
    ((toString number).toList ++ rest).takeWhile Char.isDigit = (toString number).toList := by
  rw [List.takeWhile_append_of_pos fun _ => isDigit_of_mem_number, ends, List.append_nil]

theorem dropWhile_number_append (number : Nat) (rest : List Char)
    (ends : rest.dropWhile Char.isDigit = rest) :
    ((toString number).toList ++ rest).dropWhile Char.isDigit = rest := by
  rw [List.dropWhile_append_of_pos fun _ => isDigit_of_mem_number, ends]

namespace Arity

/-- What a range writes behind its lower bound. -/
def upperText (arity : Arity) : List Char :=
  match arity.greatest with
  | some greatest =>
      if greatest = arity.least then [] else ['.', '.', '='] ++ (toString greatest).toList
  | none => ['.', '.']

theorem toList_text (arity : Arity) :
    arity.text.toList = (toString arity.least).toList ++ arity.upperText := by
  rw [text, upperText]
  cases arity.greatest with
  | none => rw [String.toList_append]; rfl
  | some greatest =>
      dsimp only
      split
      · rw [List.append_nil]
      · rw [String.toList_append, String.toList_append, List.append_assoc]; rfl

theorem read?_text (arity : Arity) : read? arity.text.toList = some arity := by
  obtain ⟨least, greatest⟩ := arity
  rw [toList_text]
  cases greatest with
  | none =>
      rw [read?, upperText, takeWhile_number_append least _ rfl,
        dropWhile_number_append least _ rfl]
      simp only [number?_number]
      rfl
  | some greatest =>
      by_cases same : greatest = least
      · subst same
        rw [read?, upperText]
        simp only [if_pos, takeWhile_number_append greatest [] rfl,
          dropWhile_number_append greatest [] rfl, number?_number]
        rfl
      · rw [read?, upperText]
        simp only [if_neg same]
        rw [takeWhile_number_append least _ rfl,
          dropWhile_number_append least _ rfl]
        simp only [List.cons_append, List.nil_append, number?_number]
        rfl

example : [Arity.exact 2, .atLeast 2, .range 2 3, .range 3 2].map text =
    ["2", "2..", "2..=3", "3..=2"] := by decide

theorem isMark_of_mem_dots : ∀ character ∈ ['.', '.', '='], isMark character = true :=
  List.all_eq_true.mp rfl

/-- Ranges can be read back, also those with their bounds crossed. -/
theorem legible_text : Legible text read? where
  read?_write := read?_text
  read?_nil := by decide
  isMark_of_mem arity character member := by
    rw [toList_text, List.mem_append] at member
    rcases member with member | member
    · exact legible_number.isMark_of_mem arity.least character member
    · rw [upperText] at member
      split at member
      · split at member
        · cases member
        · rename_i greatest _ _
          rw [List.mem_append] at member
          rcases member with member | member
          · exact isMark_of_mem_dots character member
          · exact legible_number.isMark_of_mem greatest character member
      · exact isMark_of_mem_dots character (List.mem_of_mem_dropLast member)

end Arity

/-! ## Lists with commas -/

/-- The elements that are written with commas between them. -/
def separated? {α : Type} (read? : List Char → Option α) (text : List Char) : Option (List α) :=
  if text = [] then some []
  else ((text.filter (· != ' ')).splitOn ',').mapM read?

theorem ne_of_isMark {character other : Char} (mark : isMark character = true)
    (noMark : isMark other = false) : character ≠ other := by
  rintro rfl
  rw [mark] at noMark
  cases noMark

/-- Without the blanks, texts that have none of their own are joined by commas alone. -/
theorem filter_intercalate {texts : List (List Char)} (noBlank : ∀ text ∈ texts, ' ' ∉ text) :
    ([',', ' '].intercalate texts).filter (· != ' ') = [','].intercalate texts := by
  have whole : ∀ text ∈ texts, text.filter (· != ' ') = text := by
    intro text member
    rw [List.filter_eq_self]
    intro character inside
    exact bne_iff_ne.mpr (ne_of_mem_of_not_mem inside (noBlank text member))
  induction texts with
  | nil => rfl
  | cons first rest ih =>
      have first_whole := whole first List.mem_cons_self
      have rest_whole := ih (fun text member => noBlank text (List.mem_cons_of_mem _ member))
        (fun text member => whole text (List.mem_cons_of_mem _ member))
      cases rest with
      | nil => rw [List.intercalate_singleton, List.intercalate_singleton, first_whole]
      | cons second rest =>
          rw [List.intercalate_cons_cons, List.intercalate_cons_cons, List.filter_append,
            List.filter_append, first_whole, rest_whole]
          rfl

theorem toList_commaSeparated (texts : List String) :
    (commaSeparated texts).toList = [',', ' '].intercalate (texts.map String.toList) := by
  rw [commaSeparated, String.toList_intercalate]
  rfl

namespace Legible

variable {α : Type} {write : α → String} {read? : List Char → Option α}

theorem ne_nil (legible : Legible write read?) (value : α) : (write value).toList ≠ [] := by
  intro empty
  have back := legible.read?_write value
  rw [empty, legible.read?_nil] at back
  cases back

/-- A character that is no mark stands in none of the values. -/
theorem not_mem (legible : Legible write read?) {character : Char}
    (noMark : isMark character = false) {values : List α} {text : List Char}
    (member : text ∈ values.map (String.toList ∘ write)) : character ∉ text := by
  obtain ⟨value, _, rfl⟩ := List.mem_map.mp member
  exact fun inside => ne_of_isMark (legible.isMark_of_mem value character inside) noMark rfl

theorem mapM_read? (legible : Legible write read?) (values : List α) :
    (values.map (String.toList ∘ write)).mapM read? = some values := by
  induction values with
  | nil => rfl
  | cons value values ih =>
      rw [List.map_cons, List.mapM_cons, ih]
      simp only [Function.comp_apply, legible.read?_write]
      rfl

/-- A list with commas between its elements can be read back. -/
theorem separated?_commaSeparated (legible : Legible write read?) (values : List α) :
    separated? read? (commaSeparated (values.map write)).toList = some values := by
  rw [toList_commaSeparated, List.map_map, separated?]
  cases values with
  | nil => rfl
  | cons value values =>
      rw [if_neg, filter_intercalate fun _ => legible.not_mem rfl, List.splitOn_intercalate]
      · exact legible.mapM_read? _
      · exact fun _ => legible.not_mem rfl
      · exact List.cons_ne_nil _ _
      · intro empty
        have nonempty := legible.ne_nil value
        cases values <;> simp_all [List.intercalate_cons_cons]

/-- No bracket closes inside such a list. -/
theorem bracket_not_mem (legible : Legible write read?) (values : List α) :
    ']' ∉ (commaSeparated (values.map write)).toList := by
  rw [toList_commaSeparated, List.map_map]
  induction values with
  | nil => exact List.not_mem_nil
  | cons value values ih =>
      have inFirst : ']' ∉ (write value).toList :=
        legible.not_mem rfl (List.mem_map_of_mem (List.mem_singleton_self value))
      cases values with
      | nil => rwa [List.map_singleton, List.intercalate_singleton]
      | cons second values =>
          rw [List.map_cons, List.map_cons, List.intercalate_cons_cons, ← List.map_cons]
          simp only [List.mem_append, not_or]
          exact ⟨⟨inFirst, by decide⟩, ih⟩

end Legible

/-! ## The message -/

/-- The text before the first such character, and the text behind it. -/
def cutAt (mark : Char) (text : List Char) : List Char × List Char :=
  (text.takeWhile (· != mark), (text.dropWhile (· != mark)).tail)

/-- What stands between the first brackets, and the text behind them. -/
def bracketed (text : List Char) : List Char × List Char := cutAt ']' (cutAt '[' text).2

theorem cutAt_append {mark : Char} {before : List Char} (absent : mark ∉ before)
    (behind : List Char) : cutAt mark (before ++ mark :: behind) = (before, behind) := by
  have passed : ∀ character ∈ before, (character != mark) = true := by
    intro character member
    exact bne_iff_ne.mpr (ne_of_mem_of_not_mem member absent)
  rw [cutAt, List.takeWhile_append_of_pos passed, List.dropWhile_append_of_pos passed]
  simp

/-- Brackets with nothing open before and nothing closed inside hold what stands between them. -/
theorem bracketed_append {before inside : List Char} (notOpen : '[' ∉ before)
    (notClosed : ']' ∉ inside) (behind : List Char) :
    bracketed (before ++ '[' :: (inside ++ ']' :: behind)) = (inside, behind) := by
  rw [bracketed, cutAt_append notOpen, cutAt_append notClosed]

/-- The digits that come first in a text. -/
def firstDigits (text : List Char) : List Char :=
  (text.dropWhile (!·.isDigit)).takeWhile Char.isDigit

namespace Mismatch

/-- What a message says: the first number is how many arguments there were, the first brackets
hold the ranges, and the next ones, if there are any, the candidates rejected by type. -/
def read? (message : String) : Option Mismatch := do
  let attempted ← number? (firstDigits message.toList)
  let candidates ← separated? Arity.read? (bracketed message.toList).1
  let rejected ← separated? number? (bracketed (bracketed message.toList).2).1
  return ⟨attempted, candidates, rejected⟩

/-- What a message says of the candidates rejected by type, if there are any. -/
def rejectedText (rejected : List Nat) : List Char :=
  if rejected = [] then []
  else "; candidates ".toList ++
    '[' :: ((commaSeparated (rejected.map toString)).toList ++
      ']' :: " matched the count but rejected the argument types".toList)

/-- The message is the words around its number, its ranges and its rejected candidates. -/
theorem toList_message (mismatch : Mismatch) :
    mismatch.message.toList =
      ("no matching overload for ".toList ++ ((toString mismatch.attempted).toList ++
        " argument(s); candidate arities: ".toList)) ++
        '[' :: ((commaSeparated (mismatch.candidates.map Arity.text)).toList ++
          ']' :: rejectedText mismatch.rejected) := by
  have opening : " argument(s); candidate arities: [".toList =
      " argument(s); candidate arities: ".toList ++ ['['] := rfl
  have again : "; candidates [".toList = "; candidates ".toList ++ ['['] := rfl
  have closing : "]".toList = [']'] := rfl
  have reason : "] matched the count but rejected the argument types".toList =
      ']' :: " matched the count but rejected the argument types".toList := rfl
  unfold message rejectedText
  cases mismatch.rejected with
  | nil =>
      dsimp only
      rw [if_pos rfl]
      simp only [String.toList_append, opening, closing, List.append_assoc, List.cons_append,
        List.nil_append, String.append_empty]
  | cons first rest =>
      dsimp only
      rw [if_neg (List.cons_ne_nil _ _)]
      simp only [String.toList_append, opening, again, closing, reason, List.append_assoc,
        List.cons_append, List.nil_append]

theorem firstDigits_message (mismatch : Mismatch) :
    firstDigits mismatch.message.toList = (toString mismatch.attempted).toList := by
  have words : ∀ character ∈ "no matching overload for ".toList, (!character.isDigit) = true :=
    List.all_eq_true.mp rfl
  rw [toList_message, firstDigits, List.append_assoc, List.append_assoc,
    List.dropWhile_append_of_pos words]
  -- a number begins with a digit, so nothing more is passed over
  have begins : ∀ rest : List Char, ((toString mismatch.attempted).toList ++ rest).dropWhile
      (!·.isDigit) = (toString mismatch.attempted).toList ++ rest := by
    intro rest
    cases written : (toString mismatch.attempted).toList with
    | nil => exact absurd written (legible_number.ne_nil mismatch.attempted)
    | cons first others =>
        have digit : first.isDigit = true :=
          isDigit_of_mem_number (written ▸ List.mem_cons_self)
        rw [List.cons_append, List.dropWhile_cons_of_neg]
        rw [digit]
        decide
  rw [begins, takeWhile_number_append]
  rfl

theorem bracketed_message (mismatch : Mismatch) :
    bracketed mismatch.message.toList =
      ((commaSeparated (mismatch.candidates.map Arity.text)).toList,
        rejectedText mismatch.rejected) := by
  rw [toList_message]
  refine bracketed_append ?_ (Arity.legible_text.bracket_not_mem _) _
  simp only [List.mem_append, not_or]
  refine ⟨by decide, ?_, by decide⟩
  intro member
  exact absurd (isDigit_of_mem_number member) (by decide)

theorem bracketed_rejectedText (rejected : List Nat) :
    (bracketed (rejectedText rejected)).1 = (commaSeparated (rejected.map toString)).toList := by
  rw [rejectedText]
  split
  · rename_i none
    rw [none]
    rfl
  · rw [bracketed_append (by decide) (legible_number.bracket_not_mem rejected)]

theorem rejectedText_eq_nil (rejected : List Nat) : rejectedText rejected = [] ↔ rejected = [] := by
  rw [rejectedText]
  constructor
  · intro nothing
    by_contra some
    rw [if_neg some] at nothing
    exact List.append_ne_nil_of_right_ne_nil _ (List.cons_ne_nil _ _) nothing
  · exact fun none => if_pos none

/-- Every message can be read back. -/
theorem read?_message (mismatch : Mismatch) : read? mismatch.message = some mismatch := by
  rw [read?, firstDigits_message, number?_number, bracketed_message, bracketed_rejectedText,
    Arity.legible_text.separated?_commaSeparated, legible_number.separated?_commaSeparated]
  rfl

/-- **The words of a mismatch identify it.**  A reader of the text gets the number of arguments,
the range of every candidate and the rejected candidates back, for any number, any ranges, crossed
and open-ended ones among them, and lists of any length; so no two mismatches have the same
message.  Likewise no two ranges have the same text, a list of ranges or of numbers can be read
back from its elements with commas between them, and behind the ranges the message goes on exactly
when there are rejected candidates. -/
theorem message_identifies :
    (∀ arity : Arity, Arity.read? arity.text.toList = some arity) ∧
    Function.Injective Arity.text ∧
    (∀ arities : List Arity,
      separated? Arity.read? (commaSeparated (arities.map Arity.text)).toList = some arities) ∧
    (∀ places : List Nat,
      separated? number? (commaSeparated (places.map toString)).toList = some places) ∧
    (∀ mismatch : Mismatch,
      (bracketed mismatch.message.toList).2 = [] ↔ mismatch.rejected = []) ∧
    (∀ mismatch : Mismatch, read? mismatch.message = some mismatch) ∧
    Function.Injective message := by
  refine ⟨Arity.read?_text, ?_, Arity.legible_text.separated?_commaSeparated,
    legible_number.separated?_commaSeparated, ?_, read?_message, ?_⟩
  · intro arity other same
    have back := Arity.read?_text arity
    rw [same, Arity.read?_text other] at back
    exact (Option.some.inj back).symm
  · intro mismatch
    rw [bracketed_message, rejectedText_eq_nil]
  · intro mismatch other same
    have back := read?_message mismatch
    rw [same, read?_message other] at back
    exact (Option.some.inj back).symm

end Mismatch

end HostCall
