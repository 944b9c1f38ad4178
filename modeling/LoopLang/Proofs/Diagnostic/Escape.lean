import LoopLang.Diagnostic.Excerpt
import LoopLang.Document.Basic
import LoopLang.Proofs.Source.Lines
import Mathlib.Data.List.Forall2

/-! Control sequences in texts, and renderings that are the same with and without colours once the
sequences are dropped. -/

namespace LoopLang

/-- The character that control sequences start with. -/
def escape : Char := '\x1b'

/-- A text without any control sequence, not even the beginning of one. -/
def EscapeFree (text : String) : Prop := escape ∉ text.toList
  deriving Decidable

/-- Whether what has been read of a control sequence goes on with a character: a bracket, and then
parameters. -/
def continuesSequence : (begun : List Char) → Char → Bool
  | [], char => char = escape
  | [_], char => char = '['
  | _, char => ' ' ≤ char && char ≤ '?'

/-- Whether a character completes what has been read of a control sequence. -/
def completesSequence : (begun : List Char) → Char → Bool
  | [], _ | [_], _ => false
  | _, char => '@' ≤ char && char ≤ '~'

/-- The characters of a text without its control sequences; what only looks like the beginning of
one stays. -/
def withoutSequences : (begun : List Char) → List Char → List Char
  | begun, [] => begun
  | begun, char :: rest =>
    if continuesSequence begun char then withoutSequences (begun ++ [char]) rest
    else if completesSequence begun char then withoutSequences [] rest
    else if char = escape then begun ++ withoutSequences [char] rest
    else begun ++ char :: withoutSequences [] rest

/-- A text without its control sequences. -/
def uncoloured (text : String) : String := String.ofList (withoutSequences [] text.toList)

example : uncoloured "a\x1b[38;5;196mb\x1b[0m\x1b[" = "ab\x1b[" := by decide

/-! Texts without escapes. -/

section Free

variable {text more : String}

/-- Two texts in a row are free of escapes if both are. -/
@[simp] theorem escapeFree_append :
    EscapeFree (text ++ more) ↔ EscapeFree text ∧ EscapeFree more := by
  simp [EscapeFree, not_or]

/-- The empty text is. -/
@[simp] theorem escapeFree_empty : EscapeFree "" := nofun

/-- A text of characters of which none is the escape. -/
theorem EscapeFree.ofList {chars : List Char} (free : escape ∉ chars) :
    EscapeFree (String.ofList chars) := by
  rwa [EscapeFree, String.toList_ofList]

/-- The digits of a number are no escapes. -/
theorem escape_not_mem_toDigits (value : Nat) : escape ∉ Nat.toDigits 10 value := fun member =>
  absurd (Nat.isDigit_of_mem_toDigits (by decide) (by decide) member) (by decide)

/-- Digits are. -/
theorem escapeFree_nat (value : Nat) : EscapeFree (toString value) := by
  rw [Nat.toString_eq_ofList_toDigits]
  exact .ofList (escape_not_mem_toDigits value)

/-- So is a minus sign in front of them. -/
theorem escapeFree_int (value : Int) : EscapeFree (toString value) := by
  cases value with
  | ofNat value => exact escapeFree_nat value
  | negSucc value => exact escapeFree_append.mpr ⟨by decide, escapeFree_nat (value + 1)⟩

/-- Zeros in front of a number are digits, too. -/
theorem escapeFree_padNumber (width value : Nat) : EscapeFree (padNumber width value) :=
  escapeFree_append.mpr ⟨.ofList fun member => absurd (List.eq_of_mem_replicate member) (by decide),
    escapeFree_nat value⟩

/-- A moment shows digits and signs of punctuation only. -/
theorem escapeFree_moment (value : Moment) : EscapeFree value.display := by
  -- Numbers with leading zeros, and signs between them.
  have day (day : Day) : EscapeFree day.display := by
    simp only [Day.display, escapeFree_append]
    exact ⟨⟨⟨⟨escapeFree_padNumber _ _, by decide⟩, escapeFree_padNumber _ _⟩, by decide⟩,
      escapeFree_padNumber _ _⟩
  have clock (clock : Clock) : EscapeFree clock.display := by
    simp only [Clock.display, escapeFree_append]
    exact ⟨⟨⟨⟨escapeFree_padNumber _ _, by decide⟩, escapeFree_padNumber _ _⟩, by decide⟩,
      escapeFree_padNumber _ _⟩
  cases value with
  | date value => exact day value
  | time value => exact clock value
  | dateTime first second =>
    exact escapeFree_append.mpr ⟨escapeFree_append.mpr ⟨day first, by decide⟩, clock second⟩

/-- So are blanks. -/
theorem escapeFree_blanks (count : Nat) : EscapeFree (blanks count) :=
  .ofList fun member => absurd (List.eq_of_mem_replicate member) (by decide)

/-- Zeros at the end of digits are stripped, and nothing is added. -/
theorem stripZeros_subset (digits : List Char) : stripZeros digits ⊆ digits := by
  cases digits with
  | nil => exact List.Subset.refl _
  | cons first rest =>
    refine List.cons_subset_cons first fun char member => ?_
    have inside := (List.dropWhile_suffix _).subset (List.mem_reverse.mp member)
    exact List.mem_reverse.mp inside

/-- However a decimal is written, it is written with digits and marks. -/
theorem NumberFormat.renderDecimal_free (format : NumberFormat) (decimal : Decimal) :
    EscapeFree (format.renderDecimal decimal) := by
  -- The text is made of digits, zeros, signs and a point.
  have digits : escape ∉ stripZeros (Nat.toDigits 10 decimal.significand) := fun member =>
    escape_not_mem_toDigits _ (stripZeros_subset _ member)
  have zeros (count : Nat) : escape ∉ List.replicate count '0' := fun member =>
    absurd (List.eq_of_mem_replicate member) (by decide)
  have exponent (leading : Int) : EscapeFree (format.renderExponent leading) := by
    unfold renderExponent
    refine escapeFree_append.mpr ⟨?_, escapeFree_padNumber _ _⟩
    split <;> decide
  have taken (count : Nat) : escape ∉
      (stripZeros (Nat.toDigits 10 decimal.significand)).take count :=
    fun member => digits (List.mem_of_mem_take member)
  have dropped (count : Nat) : escape ∉
      (stripZeros (Nat.toDigits 10 decimal.significand)).drop count :=
    fun member => digits (List.mem_of_mem_drop member)
  unfold renderDecimal
  dsimp only
  -- With an exponent, below one, or positionally.
  split
  · refine escapeFree_append.mpr ⟨.ofList ?_, exponent _⟩
    rw [List.mem_append, not_or]
    refine ⟨taken 1, ?_⟩
    split
    · exact List.not_mem_nil
    · exact List.not_mem_cons_of_ne_of_not_mem (by decide) (dropped 1)
  · split
    · refine escapeFree_append.mpr ⟨by decide, .ofList ?_⟩
      rw [List.mem_append, not_or]
      exact ⟨zeros _, digits⟩
    · refine .ofList ?_
      rw [List.mem_append, List.mem_append, not_or, not_or]
      refine ⟨⟨taken _, zeros _⟩, List.not_mem_cons_of_ne_of_not_mem (by decide) ?_⟩
      split
      · decide
      · exact dropped _

/-- So is every number in a message. -/
theorem escapeFree_displayNumber (value : Float) : EscapeFree (displayNumber value) := by
  unfold displayNumber NumberFormat.render
  -- A sign in front does no harm.
  have signed (negative : Bool) {digits : String} (free : EscapeFree digits) :
      EscapeFree ((if negative then "-" else "") ++ digits) := by
    refine escapeFree_append.mpr ⟨?_, free⟩
    cases negative <;> decide
  dsimp only
  split
  · decide
  · exact signed _ (by decide)
  · exact signed _ (by decide)
  · exact signed _ (NumberFormat.renderDecimal_free _ _)

/-- Lines have only characters of the text that is split into them. -/
theorem mem_of_mem_splitLinesFrom {current rest line : List Char} {char : Char}
    (member : line ∈ splitLinesFrom current rest) (inside : char ∈ line) :
    char ∈ current ++ rest := by
  -- Every line is a part of the text, and line ends are left out.
  fun_induction splitLinesFrom current rest with
  | case1 current finished => cases member
  | case2 current unfinished =>
    rw [List.mem_singleton.mp member] at inside
    simpa using inside
  | case3 current more ih =>
    rcases List.mem_cons.mp member with rfl | later
    · exact List.mem_append_left _ inside
    · simp_all
  | case4 current first more lone ends ih =>
    rcases List.mem_cons.mp member with rfl | later
    · exact List.mem_append_left _ inside
    · simp_all
  | case5 current first more lone other ih => simpa using ih member

/-- So a line of a text is without escapes if the text is. -/
theorem lineOf_free (free : EscapeFree text) (line : Int) : EscapeFree (lineOf text line) := by
  unfold lineOf
  split
  · exact escapeFree_empty
  · rw [splitLines, List.getD_eq_getElem?_getD, List.getElem?_map]
    cases found : (splitLinesFrom [] text.toList)[(line - 1).toNat]? with
    | none => exact escapeFree_empty
    | some chars =>
      -- A line of the text consists of characters of the text.
      exact .ofList fun inside =>
        free (mem_of_mem_splitLinesFrom (List.mem_of_getElem? found) inside)

end Free

/-! Renderings with and without colours. -/

/-- A text without escapes, and one that is the same once its control sequences are dropped,
whatever stands behind it. -/
structure Colours (coloured plain : String) : Prop where
  free : EscapeFree plain
  drops : ∀ rest, withoutSequences [] (coloured.toList ++ rest) = plain.toList ++
    withoutSequences [] rest

namespace Colours

variable {coloured plain more other separator : String}

/-- Without control sequences nothing is dropped. -/
theorem of_free (free : EscapeFree plain) : Colours plain plain where
  free := free
  drops rest := by
    unfold EscapeFree at free
    generalize plain.toList = chars at free ⊢
    -- No letter can begin a sequence, so all of them stay.
    induction chars with
    | nil => rfl
    | cons first chars ih =>
      rw [List.mem_cons, not_or] at free
      have stays : ¬ continuesSequence [] first := by simpa [continuesSequence] using Ne.symm free.1
      rw [List.cons_append, withoutSequences, if_neg stays, if_neg (by simp [completesSequence]),
        if_neg (Ne.symm free.1), ih free.2]
      rfl

/-- What is left of the whole text. -/
theorem uncoloured_eq (colours : Colours coloured plain) : uncoloured coloured = plain := by
  have drops := colours.drops []
  rw [List.append_nil] at drops
  rw [uncoloured, drops, withoutSequences, List.append_nil, String.ofList_toList]

/-- Texts are coloured one behind the other. -/
theorem append (first : Colours coloured plain) (second : Colours more other) :
    Colours (coloured ++ more) (plain ++ other) where
  free := escapeFree_append.mpr ⟨first.free, second.free⟩
  drops rest := by
    rw [String.toList_append, String.toList_append, List.append_assoc, first.drops, second.drops,
      List.append_assoc]

/-- A text between a control sequence and the end. -/
theorem before (colours : Colours coloured plain) (free : EscapeFree more) :
    Colours (coloured ++ more) (plain ++ more) :=
  colours.append (.of_free free)

/-- Lines are joined with and without colours alike. -/
theorem intercalate (free : EscapeFree separator) {lines others : List String}
    (alike : List.Forall₂ Colours lines others) :
    Colours (separator.intercalate lines) (separator.intercalate others) := by
  induction alike with
  | nil => exact .of_free escapeFree_empty
  | @cons line plain lines others colours alike ih =>
    -- The separator stands only between two lines.
    cases alike with
    | nil => simpa using colours
    | cons next alike => simpa using (colours.append (.of_free free)).append ih

/-- Each of the colours is a control sequence. -/
theorem reset : Colours Palette.terminal.reset Palette.plain.reset :=
  ⟨escapeFree_empty, fun _ => rfl⟩

/-- Bold is a control sequence, or nothing at all. -/
theorem bold : Colours Palette.terminal.bold Palette.plain.bold := ⟨escapeFree_empty, fun _ => rfl⟩

/-- So is red. -/
theorem red : Colours Palette.terminal.red Palette.plain.red := ⟨escapeFree_empty, fun _ => rfl⟩

/-- So is blue. -/
theorem blue : Colours Palette.terminal.blue Palette.plain.blue := ⟨escapeFree_empty, fun _ => rfl⟩

/-- So is cyan. -/
theorem cyan : Colours Palette.terminal.cyan Palette.plain.cyan := ⟨escapeFree_empty, fun _ => rfl⟩

end Colours

namespace Diagnostic

variable {diagnostic : Diagnostic} {source fileName : String}

/-- An excerpt of a text without escapes has the same lines with and without colours. -/
theorem excerptLines_colours (source_free : EscapeFree source) (name_free : EscapeFree fileName) :
    List.Forall₂ Colours (diagnostic.excerptLines source fileName .terminal)
      (diagnostic.excerptLines source fileName .plain) := by
  -- Row by row, the coloured text without its sequences is the plain one.
  have arrow : Colours
      (Palette.terminal.blue ++ "   -->" ++ Palette.terminal.reset ++ " " ++ fileName)
      (Palette.plain.blue ++ "   -->" ++ Palette.plain.reset ++ " " ++ fileName) :=
    (((Colours.blue.before (by decide)).append .reset).before (by decide)).before name_free
  have margin (count : Nat) : Colours
      (Palette.terminal.blue ++ " " ++ blanks count ++ " |" ++ Palette.terminal.reset)
      (Palette.plain.blue ++ " " ++ blanks count ++ " |" ++ Palette.plain.reset) :=
    (((Colours.blue.before (by decide)).before (escapeFree_blanks _)).before (by decide)).append
      .reset
  have number (line : Int) : Colours
      (Palette.terminal.blue ++ " " ++ toString line ++ " |" ++ Palette.terminal.reset)
      (Palette.plain.blue ++ " " ++ toString line ++ " |" ++ Palette.plain.reset) :=
    (((Colours.blue.before (by decide)).before (escapeFree_int _)).before (by decide)).append .reset
  -- The line shown comes from the source, and tabs have become blanks.
  have content : EscapeFree
      ((lineOf source diagnostic.place.line).map fun char => if char = '\t' then ' '
        else char) := by
    have shown := lineOf_free source_free diagnostic.place.line
    unfold EscapeFree at shown ⊢
    rw [String.toList_map, List.mem_map]
    rintro ⟨char, member, same⟩
    -- Without a known place only the name of the file is shown.
    split at same
    · cases same
    · exact shown (same ▸ member)
  unfold excerptLines
  dsimp only
  split
  · refine .cons ?_ (.cons (margin _) (.cons ?_ (.cons ?_ .nil)))
    · exact (((arrow.before (by decide)).before (escapeFree_int _)).before (by decide)).before
        (escapeFree_int _)
    · exact ((number _).before (by decide)).before content
    · exact (((((((margin _).before (by decide)).before (escapeFree_blanks _)).append .red).append
        .bold).before (by decide)).append .reset)
  · exact .cons arrow .nil

/-- So do the lines that propose help, if the hint does. -/
theorem helpLines_colours {hint other : String} (colours : Colours hint other)
    (some_hint : hint ≠ "") (some_other : other ≠ "") :
    List.Forall₂ Colours ({ diagnostic with hint := some hint }.helpLines .terminal)
      ({ diagnostic with hint := some other }.helpLines .plain) := by
  simp only [helpLines]
  exact .cons ((((Colours.cyan.before (by decide)).append .reset).before (by decide)).append
    colours) .nil

end Diagnostic

end LoopLang
