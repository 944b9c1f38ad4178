import LoopLang.Token.Scan
import Mathlib.Data.List.TakeWhile

/-! Spellings: what a token is written as, as the longest piece of the text that its rule admits. -/

namespace LoopLang

/-- The rules that tokens are made by; a reserved word is made by the rule of words. -/
inductive TokenRule
  | word
  | number
  | mark (sign : Mark)

/-- A numeral has digits, and more of them behind a point if there is one. -/
inductive IsNumeral : (integer fraction slice : List Char) → Prop
  | whole {integer} (some : integer ≠ []) (digits : ∀ char ∈ integer, isDigit char) :
      IsNumeral integer [] integer
  | broken {integer fraction} (some : integer ≠ []) (digits : ∀ char ∈ integer, isDigit char)
      (further : fraction ≠ []) (decimals : ∀ char ∈ fraction, isDigit char) :
      IsNumeral integer fraction (integer ++ '.' :: fraction)

/-- The pieces of text that a rule admits. -/
inductive TokenRule.Admits : TokenRule → List Char → Prop
  | word {first rest} (starts : isIdentifierStart first)
      (parts : ∀ char ∈ rest, isIdentifierPart char) :
      Admits .word (first :: rest)
  | number {integer fraction slice} (numeral : IsNumeral integer fraction slice) :
      Admits .number slice
  | mark (sign : Mark) : Admits (.mark sign) sign.text.toList

namespace Lexeme

/-- The rule that a lexeme is made by. -/
def rule : Lexeme → TokenRule
  | .identifier _ => .word
  | .keyword _ => .word
  | .number _ => .number
  | .mark sign => .mark sign

/-- What a lexeme is written as; an identifier is never written as a reserved word. -/
inductive IsWritten : Lexeme → List Char → Prop
  | identifier {name} (free : name ∉ Keyword.words) : IsWritten (.identifier name) name.toList
  | keyword (word : Keyword) : IsWritten (.keyword word) word.word.toList
  | number {integer fraction slice} (numeral : IsNumeral integer fraction slice) :
      IsWritten (.ofDigits integer fraction) slice
  | mark (sign : Mark) : IsWritten (.mark sign) sign.text.toList

/-- What may not stand right behind a lexeme, as it would have made another one. -/
def Stops (after : List Char) : Lexeme → Prop
  | .identifier _ | .keyword _ => ∀ char ∈ after.head?, ¬ isIdentifierPart char
  | .number _ => ∀ char ∈ after.head?, ¬ isDigit char
  | .mark .minus => after.head? ≠ some '>'
  | .mark .slash => after.head? ≠ some '/'
  | .mark _ => True

/-- A lexeme is written as a slice of a text, the longest one that its rule admits in front of what
comes after. -/
structure Matches (lexeme : Lexeme) (slice after : List Char) : Prop where
  written : lexeme.IsWritten slice
  admitted : lexeme.rule.Admits slice
  longest : ∀ longer, longer <+: slice ++ after → lexeme.rule.Admits longer →
    longer.length ≤ slice.length
  stops : lexeme.Stops after

end Lexeme

/-- The characters that are skipped one by one. -/
def gapChars : List Char := [' ', '\t', '\r', '\n']

/-- What is skipped at once in front of what comes after: a blank, or a comment up to the end of its
line. -/
inductive Skipped (after : List Char) : List Char → Prop
  | blank {char} (member : char ∈ gapChars) : Skipped after [char]
  | comment {body} (plain : '\n' ∉ body) (ends : ∀ char ∈ after.head?, char = '\n') :
      Skipped after ('/' :: '/' :: body)

/-- A text starts with a character that is not skipped, and no rule admits anything that the text
starts with. -/
structure StartsNothing (first : Char) (rest : List Char) : Prop where
  solid : first ∉ gapChars
  refused : ∀ rule slice, slice <+: first :: rest → ¬ TokenRule.Admits rule slice

/-- A row of characters of a class is cut out of a text where the next character is not of the
class. -/
theorem takeWhile_row {belongs : Char → Bool} {row after : List Char}
    (inside : ∀ char ∈ row, belongs char) (ends : ∀ char ∈ after.head?, ¬ belongs char) :
    (row ++ after).takeWhile belongs = row := by
  rw [List.takeWhile_append_of_pos inside]
  cases after with
  | nil => simp
  | cons char rest => rw [List.takeWhile_cons_of_neg (ends char rfl), List.append_nil]

/-- What is left behind a row of characters of a class. -/
theorem dropWhile_row {belongs : Char → Bool} {row after : List Char}
    (inside : ∀ char ∈ row, belongs char) (ends : ∀ char ∈ after.head?, ¬ belongs char) :
    (row ++ after).dropWhile belongs = after := by
  rw [List.dropWhile_append_of_pos inside]
  cases after with
  | nil => rfl
  | cons char rest => rw [List.dropWhile_cons_of_neg (ends char rfl)]

/-- Every text starts with the longest row of characters of a class. -/
theorem exists_row (belongs : Char → Bool) (text : List Char) :
    ∃ row after, text = row ++ after ∧ (∀ char ∈ row, belongs char) ∧ ∀ char ∈ after.head?,
      ¬ belongs char := by
  refine ⟨text.takeWhile belongs, text.dropWhile belongs, List.takeWhile_append_dropWhile.symm,
    fun _ => List.mem_takeWhile_imp, ?_⟩
  intro char first
  -- The first character that is left does not belong to the row.
  have ends := List.head?_dropWhile_not belongs text
  rw [first] at ends
  simpa using ends

/-- No row of characters of a class that a text starts with is longer than the longest. -/
theorem row_length_le {belongs : Char → Bool} {row after shorter : List Char}
    (ends : ∀ char ∈ after.head?, ¬ belongs char)
    (starts : shorter <+: row ++ after) (inside : ∀ char ∈ shorter, belongs char) :
    shorter.length ≤ row.length := by
  obtain ⟨rest, same⟩ := starts
  rcases List.append_eq_append_iff.mp same with ⟨more, split, -⟩ | ⟨more, split, left⟩
  · simp [split]
  -- What goes beyond the row starts with the character that ends it.
  · cases more with
    | nil => simp [split]
    | cons char more => exact absurd (inside char (by simp [split])) (ends char (by simp [left]))

section Digits

variable {char : Char}

/-- A digit is one of the ten that follow the zero of a script. -/
theorem isDigit_iff :
    isDigit char ↔ ∃ first ∈ digitZeros, first ≤ char.toNat ∧ char.toNat < first + 10 := by
  simp [isDigit, digitValue?]

/-- The digits before those of other scripts are the usual ten. -/
theorem isDigit_low (low : char.toNat < 0x660) (digit : isDigit char) :
    0x30 ≤ char.toNat ∧ char.toNat < 0x3A := by
  obtain ⟨first, member, least, most⟩ := isDigit_iff.mp digit
  simp only [digitZeros, List.mem_cons, List.not_mem_nil, or_false] at member
  omega

/-- A point is no digit. -/
theorem isDigit_point : ¬ isDigit '.' := by decide

/-- A character that may start an identifier is a letter or a low line. -/
theorem isIdentifierStart_low (starts : isIdentifierStart char) :
    0x41 ≤ char.toNat ∧ char.toNat ≤ 0x5A ∨ 0x61 ≤ char.toNat ∧ char.toNat ≤ 0x7A ∨
    char.toNat = 0x5F := by
  unfold isIdentifierStart Char.isAlpha Char.isUpper Char.isLower at starts
  simp only [Bool.or_eq_true, Bool.and_eq_true, decide_eq_true_eq, UInt32.le_iff_toNat_le,
    ge_iff_le] at starts
  -- A capital, a small letter, or the underscore.
  rcases starts with (⟨first, last⟩ | ⟨first, last⟩) | rfl
  · exact .inl ⟨first, last⟩
  · exact .inr (.inl ⟨first, last⟩)
  · exact .inr (.inr rfl)

/-- No identifier starts with a digit. -/
theorem isDigit_of_isIdentifierStart (starts : isIdentifierStart char) : ¬ isDigit char := by
  intro digit
  have letter := isIdentifierStart_low starts
  have figure := isDigit_low (by omega) digit
  omega

/-- No character of a class is skipped if those that are skipped do not belong to it. -/
theorem not_gap {belongs : Char → Bool} (outside : gapChars.all fun blank => !belongs blank)
    (member : belongs char) :
    char ∉ gapChars := by
  intro skipped
  have other := List.all_eq_true.mp outside char skipped
  simp [member] at other

/-- A digit is not skipped. -/
theorem not_gap_of_isDigit (digit : isDigit char) : char ∉ gapChars := not_gap (by decide) digit

/-- Nor is a character that may start an identifier. -/
theorem not_gap_of_isIdentifierStart (starts : isIdentifierStart char) : char ∉ gapChars :=
  not_gap (by decide) starts

/-- Nor is one that may continue an identifier. -/
theorem not_gap_of_isIdentifierPart (part : isIdentifierPart char) : char ∉ gapChars :=
  not_gap (by decide) part

end Digits

section Moving

/-- Whatever another text starts with, up to the first character that is skipped there, a text
starts with, too. -/
def StartsLike (text other : List Char) : Prop :=
  ∀ start, start <+: other → (∀ char ∈ start, char ∉ gapChars) → start <+: text

variable {char : Char} {lexeme : Lexeme} {slice after other : List Char}

/-- The start of a text starts like it. -/
theorem StartsLike.start (text rest : List Char) : StartsLike (text ++ rest) text :=
  fun _ begins _ => begins.trans (List.prefix_append text rest)

/-- No rule admits a piece with a character in it that is skipped. -/
theorem TokenRule.Admits.free_of_gaps {rule : TokenRule} (admitted : rule.Admits slice) :
    ∀ char ∈ slice, char ∉ gapChars := by
  intro char member
  cases admitted with
  | word starts parts =>
    rcases List.mem_cons.mp member with rfl | inside
    · exact not_gap_of_isIdentifierStart starts
    · exact not_gap_of_isIdentifierPart (parts char inside)
  | number numeral =>
    cases numeral with
    | whole _ digits => exact not_gap_of_isDigit (digits char member)
    | broken _ digits _ decimals =>
      rcases List.mem_append.mp member with before | behind
      · exact not_gap_of_isDigit (digits char before)
      · rcases List.mem_cons.mp behind with rfl | decimal
        · decide
        · exact not_gap_of_isDigit (decimals char decimal)
  | mark sign =>
    -- There are few marks, of one or two characters each.
    have plain : sign.text.toList.all fun char => !gapChars.contains char := by
      cases sign <;> decide
    simpa using List.all_eq_true.mp plain char member

/-- What may stand right behind a lexeme is a matter of the first character there, if that one is
not skipped. -/
theorem Lexeme.Stops.carry (stops : lexeme.Stops after) (alike : StartsLike after other) :
    lexeme.Stops other := by
  -- The first character is skipped, or it is the first one of the other text, too.
  have first (char : Char) (found : other.head? = some char) : char ∈ gapChars ∨
      after.head? = some char := by
    by_cases skipped : char ∈ gapChars
    · exact .inl skipped
    · obtain ⟨rest, rfl⟩ := List.head?_eq_some_iff.mp found
      obtain ⟨behind, rfl⟩ := alike [char] ⟨rest, rfl⟩ (by simpa using skipped)
      exact .inr rfl
  match lexeme with
  | .identifier _ | .keyword _ =>
    intro char found part
    exact (first char found).elim (not_gap_of_isIdentifierPart part) fun same =>
      stops char same part
  | .number _ =>
    intro char found digit
    exact (first char found).elim (not_gap_of_isDigit digit) fun same => stops char same digit
  | .mark sign =>
    cases sign
    case minus => exact fun found => (first _ found).elim (by decide) stops
    case slash => exact fun found => (first _ found).elim (by decide) stops
    all_goals trivial

/-- A lexeme in front of a text stays the same in front of another one that starts like it. -/
theorem Lexeme.Matches.carry (fits : lexeme.Matches slice after) (alike : StartsLike after other) :
    lexeme.Matches slice other where
  written := fits.written
  admitted := fits.admitted
  longest := by
    intro longer prefixed admitted
    rcases List.prefix_or_prefix_of_prefix prefixed
      (List.prefix_append slice other) with within | ⟨start, rfl⟩
    · exact within.length_le
    -- A longer piece would have to go on with what both texts start with.
    · have solid : ∀ char ∈ start, char ∉ gapChars := fun char member =>
        admitted.free_of_gaps char (List.mem_append_right _ member)
      have begins := alike start ((List.prefix_append_right_inj slice).mp prefixed) solid
      exact fits.longest _ ((List.prefix_append_right_inj slice).mpr begins) admitted
  stops := fits.stops.carry alike

end Moving

end LoopLang
