import LoopLang.Diagnostic.Excerpt
import LoopLang.Proofs.Source.Lines
import LoopLang.Proofs.Source.Location
import LoopLang.Proofs.Token.Spelling
import Mathlib.Data.List.GetD

/-! Excerpts: which line of a text is shown for a place in it, and what the caret stands under. -/

namespace LoopLang

/-- A place in a line of a text, from one line feed to the next, at a character that is not
skipped. -/
structure Location.IsIn (place : Location) (text earlier line : List Char) (char : Char) :
    Prop where
  splits : ∃ later, text = earlier ++ (line ++ later) ∧ ∀ next ∈ later.head?, next = '\n'
  whole : WholeLines earlier
  inside : '\n' ∉ line
  number : place.line = 1 + earlier.count '\n'
  column : ∃ start rest, line = start ++ char :: rest ∧ place.column = start.length + 1
  solid : char ∉ gapChars

/-- A line with blanks for tabs. -/
def blankTabs (line : List Char) : List Char :=
  line.map fun char => if char = '\t' then ' ' else char

/-- A line as it should be shown: with blanks for tabs, and without a carriage return at its end. -/
def shownLine (line : List Char) : List Char := blankTabs (withoutReturn line)

/-- The row of an excerpt that shows a line behind its number. -/
def lineRow (number : Int) (content : List Char) : String :=
  " " ++ toString number ++ " | " ++ String.ofList content

/-- The row of an excerpt with a caret in a column of the line above. -/
def caretRow (number column : Int) : String :=
  " " ++ blanks (toString number).length ++ " | " ++ blanks (column - 1).toNat ++ "^ here"

/-- A caret stands right under a character in a column of what a row shows behind its margin. -/
def CaretUnder (row below : String) (content : List Char) (column : Int) (char : Char) : Prop :=
  ∃ margin : Nat, row.toList.drop margin = content ∧ content[(column - 1).toNat]? = some char ∧
    below.toList[margin + (column - 1).toNat]? = some '^' ∧ '^' ∉ below.toList.take
    (margin + (column - 1).toNat)

/-- A rendering without colours shows a place: in a row its line, and in the next row a caret under
its character. -/
def Diagnostic.ShowsPlace (diagnostic : Diagnostic) (source fileName : String) (line : List Char)
    (char : Char) : Prop :=
  ∃ title arrow above row below help,
    diagnostic.render source fileName .plain = "\n".intercalate
    (title :: arrow :: above :: row :: below :: help) ∧
    diagnostic.excerptLines source fileName .plain = [arrow, above, row, below] ∧
    row = lineRow diagnostic.place.line (shownLine line) ∧
    CaretUnder row below (shownLine line) diagnostic.place.column char

namespace Location

/-- A place behind a text, at a character that is not skipped, is in the line that this character
belongs to. -/
theorem IsBehind.exists_isIn {place : Location} {before rest : List Char} {char : Char}
    (behind : place.IsBehind before) (solid : char ∉ gapChars) :
    ∃ earlier line, place.IsIn (before ++ char :: rest) earlier line char := by
  -- The line starts behind the last line feed before the character, and ends in front of the next
  -- one.
  obtain ⟨number, start, ⟨earlier, rfl, whole, plain⟩, column⟩ := behind
  have first : char ≠ '\n' := by rintro rfl; exact solid (by decide)
  refine ⟨earlier, start ++ char :: rest.takeWhile (· ≠ '\n'),
    ⟨rest.dropWhile (· ≠ '\n'), ?_, fun next found => ?_⟩,
    whole, ?_, ?_, ⟨start, _, rfl, column⟩, solid⟩
  · simp
  · have ends := List.head?_dropWhile_not (· ≠ '\n') rest
    rw [found] at ends
    simpa using ends
  · have inside : '\n' ∉ rest.takeWhile (· ≠ '\n') :=
      fun member => by simpa using List.mem_takeWhile_imp member
    simp only [List.mem_append, List.mem_cons, not_or]
    exact ⟨plain, first.symm, inside⟩
  · rw [number, List.count_append, List.count_eq_zero_of_not_mem plain, Nat.add_zero]

variable {place : Location} {text : String} {earlier line : List Char} {char : Char}

/-- Lines are shown as they are counted by all kinds of line ends: first those of the text before,
and then this one. -/
theorem IsIn.lineOf_eq (here : place.IsIn text.toList earlier line char) :
    ∃ more, (lineOf text place.line).toList =
      (splitLinesFrom [] earlier ++ line.takeWhile (!isLineEnd ·) :: more).getD
        (earlier.count '\n') [] := by
  obtain ⟨later, split, ends⟩ := here.splits
  -- The character at the place is in the line, which ends at the next line feed at the latest.
  have filled : line ++ later ≠ [] := by
    obtain ⟨start, rest, rfl, -⟩ := here.column
    simp
  have stops : (line ++ later).takeWhile (!isLineEnd ·) = line.takeWhile (!isLineEnd ·) := by
    cases later with
    | nil => rw [List.append_nil]
    | cons next later =>
      cases ends next rfl
      rw [List.takeWhile_append]
      split
      · rename_i same
        rw [List.takeWhile_cons_of_neg (by decide), List.append_nil]
        exact ((List.takeWhile_prefix _).eq_of_length same).symm
      · rfl
  obtain ⟨more, first⟩ := splitLinesFrom_eq_cons (line ++ later) (.inr filled)
  -- The number of the line is looked up among all lines, those of the text before it first.
  refine ⟨more, ?_⟩
  have known : ¬ place.line < 1 := by have := here.number; omega
  have position : (place.line - 1).toNat = earlier.count '\n' := by have := here.number; omega
  rw [lineOf, if_neg known, position, splitLines, split,
    splitLinesFrom_append here.whole (fun _ => rfl), first, stops,
    List.nil_append, show "" = String.ofList [] from rfl, List.getD_map, String.toList_ofList]

/-- Where only line feeds end lines, the line of the place is shown, up to the next line end of any
kind. -/
theorem IsIn.lineOf_own (here : place.IsIn text.toList earlier line char)
    (only : OnlyLineFeeds earlier) :
    (lineOf text place.line).toList = line.takeWhile (!isLineEnd ·) := by
  -- There are as many lines before this one as line feeds.
  obtain ⟨more, shown⟩ := here.lineOf_eq
  have counted := (splitLinesFrom_length here.whole fun _ => rfl).2.mpr only
  rw [shown, ← counted, List.getD_append_right _ _ _ _ (Nat.le_refl _), Nat.sub_self]
  rfl

/-- Where something else ends a line, one of the lines before is shown. -/
theorem IsIn.lineOf_other (here : place.IsIn text.toList earlier line char)
    (other : ¬ OnlyLineFeeds earlier) :
    (splitLinesFrom [] earlier)[earlier.count '\n']? = some (lineOf text place.line).toList := by
  -- There are more lines before this one than line feeds, so that its number is that of one of
  -- them.
  obtain ⟨more, shown⟩ := here.lineOf_eq
  obtain ⟨least, counted⟩ := @splitLinesFrom_length [] _ here.whole fun _ => rfl
  have before : earlier.count '\n' < (splitLinesFrom [] earlier).length :=
    Nat.lt_of_le_of_ne least fun same => other (counted.mp same.symm)
  rw [shown, List.getD_append _ _ _ _ before, List.getD_eq_getElem _ _ before,
    List.getElem?_eq_getElem before]

end Location

/-- Only a carriage return is dropped at the end of a line. -/
theorem withoutReturn_append {start rest : List Char} {char : Char} (solid : char ≠ '\r') :
    withoutReturn (start ++ char :: rest) = start ++ char :: withoutReturn rest := by
  induction start with
  | nil => rw [List.nil_append, withoutReturn]; exacts [rfl, fun same => absurd same solid]
  | cons first start ih => rw [List.cons_append, withoutReturn, ih]; exacts [rfl, by simp]

/-- Where a character that is not skipped stands, it is shown. -/
theorem Location.IsIn.shown {place : Location} {text earlier line : List Char} {char : Char}
    (here : place.IsIn text earlier line char) :
    (shownLine line)[(place.column - 1).toNat]? = some char := by
  obtain ⟨start, rest, rfl, column⟩ := here.column
  have solid := here.solid
  simp only [gapChars, List.mem_cons, List.not_mem_nil, or_false, not_or] at solid
  -- Columns are counted from one, and the character is no gap that the excerpt would change.
  have position : (place.column - 1).toNat = start.length := by omega
  rw [position, shownLine, blankTabs, withoutReturn_append solid.2.2.1]
  simp [solid.2.1]

/-- What is left of a line without its carriage return is the start of it. -/
theorem withoutReturn_isPrefix (line : List Char) : withoutReturn line <+: line := by
  fun_induction withoutReturn line with
  | case1 => exact List.prefix_refl _
  | case2 => exact List.nil_prefix
  | case3 first rest lone ih => exact List.prefix_cons_inj first |>.mpr ih

namespace Diagnostic

variable {diagnostic : Diagnostic} {text : String} {earlier line : List Char} {char : Char}

/-- The excerpt of a known place has a row with a line and a row with a caret. -/
theorem excerptLines_plain (here : diagnostic.place.IsIn text.toList earlier line char)
    (fileName : String) :
    ∃ arrow above, diagnostic.excerptLines text fileName .plain =
      [arrow, above, lineRow diagnostic.place.line
        (blankTabs (lineOf text diagnostic.place.line).toList),
        caretRow diagnostic.place.line diagnostic.place.column] := by
  -- The place is counted from one, so that it is known, and its column is drawn as it is.
  obtain ⟨start, -, -, column⟩ := here.column
  have known : diagnostic.place.isKnown := by
    have := here.number
    simp only [Location.isKnown, bne_iff_ne]
    omega
  have first : max 1 diagnostic.place.column = diagnostic.place.column := by omega
  have shown : (lineOf text diagnostic.place.line).map
      (fun char => if char = '\t' then ' ' else char) =
      String.ofList (blankTabs (lineOf text diagnostic.place.line).toList) := by
    rw [← String.toList_inj, String.toList_map, String.toList_ofList, blankTabs]
  -- Without colours nothing stands between the parts of a row.
  have row : Palette.plain.blue ++ " " ++ toString diagnostic.place.line ++ " |" ++
      Palette.plain.reset ++ " " ++
      String.ofList (blankTabs (lineOf text diagnostic.place.line).toList) =
      lineRow diagnostic.place.line (blankTabs (lineOf text diagnostic.place.line).toList) := by
    simp [← String.toList_inj, lineRow, Palette.plain]
  have caret : Palette.plain.blue ++ " " ++ blanks
      (toString diagnostic.place.line).length ++ " |" ++
      Palette.plain.reset ++ " " ++ blanks (diagnostic.place.column - 1).toNat ++
      Palette.plain.red ++ Palette.plain.bold ++ "^ here" ++ Palette.plain.reset =
      caretRow diagnostic.place.line diagnostic.place.column := by
    simp [← String.toList_inj, caretRow, Palette.plain]
  simp only [excerptLines, known, if_true, first, shown, row, caret]
  exact ⟨_, _, rfl⟩

/-- A row shows one line. -/
theorem lineRow_inj {number : Int} {content other : List Char}
    (same : lineRow number content = lineRow number other) :
    content = other := by
  simpa [← String.toList_inj, lineRow] using same

/-- The caret is in the column of the line above that it is for. -/
theorem caretUnder_rows {number column : Int} {content : List Char}
    (found : content[(column - 1).toNat]? = some char) :
    CaretUnder (lineRow number content) (caretRow number column) content column char := by
  have row : (lineRow number content).toList = (" " ++ toString number ++ " | ").toList ++
      content := by simp [lineRow]
  have below : (caretRow number column).toList =
      (" " ++ blanks (toString number).length ++ " | " ++ blanks (column - 1).toNat).toList ++
      "^ here".toList := by
    simp [caretRow]
  -- Both rows have margins of the same width.
  have width : (" " ++ toString number ++ " | ").toList.length + (column - 1).toNat =
      (" " ++ blanks (toString number).length ++ " | " ++ blanks
        (column - 1).toNat).toList.length := by
    simp only [String.toList_append, List.length_append, String.length_toList, blanks,
      String.length_ofList, List.length_replicate]
  refine ⟨(" " ++ toString number ++ " | ").toList.length, by rw [row,
    List.drop_left], found, ?_, ?_⟩
  · rw [below, width, List.getElem?_append_right (Nat.le_refl _), Nat.sub_self]
    rfl
  · rw [below, width, List.take_left]
    simp [blanks]

/-- A place is shown exactly if the line that is shown is the right one. -/
theorem showsPlace_iff_shown (here : diagnostic.place.IsIn text.toList earlier line char)
    (fileName : String) :
    diagnostic.ShowsPlace text fileName line char ↔
      blankTabs (lineOf text diagnostic.place.line).toList = shownLine line := by
  obtain ⟨arrow, above, rows⟩ := excerptLines_plain here fileName
  unfold ShowsPlace
  rw [rows]
  constructor
  -- The row under the margin shows the line, whatever else the text has.
  · rintro ⟨_, _, _, row, _, _, -, same, rfl, -⟩
    exact lineRow_inj (List.cons.inj (List.cons.inj (List.cons.inj same).2).2).1
  -- The three rows stand behind the title, and the caret under the letter.
  · intro same
    obtain ⟨title, rendered⟩ : ∃ title, diagnostic.render text fileName .plain = "\n".intercalate
        (title :: diagnostic.excerptLines text fileName .plain ++ diagnostic.helpLines .plain) :=
          ⟨_, rfl⟩
    rw [rows] at rendered
    exact ⟨title, arrow, above, _, _, _, rendered,
      rfl, by rw [same], same ▸ caretUnder_rows (same ▸ here.shown)⟩

/--
A place is shown exactly if only line feeds end lines up to the end of its line, or else if the line
that is shown instead, which is one of those before, happens to look the same.
-/
theorem showsPlace_iff (here : diagnostic.place.IsIn text.toList earlier line char)
    (fileName : String) :
    diagnostic.ShowsPlace text fileName line char ↔
      OnlyLineFeeds (earlier ++ line) ∨
        ¬ OnlyLineFeeds earlier ∧ ∃ other ∈ (splitLinesFrom [] earlier)[earlier.count '\n']?,
          blankTabs other = shownLine line := by
  rw [showsPlace_iff_shown here, onlyLineFeeds_append here.whole]
  by_cases only : OnlyLineFeeds earlier
  -- The line itself is shown, up to its first line end.
  · rw [here.lineOf_own only]
    simp only [only, true_and, not_true, false_and, or_false]
    rw [← takeWhile_eq_withoutReturn here.inside]
    -- Blanks for tabs change no length, and both are starts of the line.
    refine ⟨fun same => ?_, fun same => by rw [same, shownLine]⟩
    have lengths : (line.takeWhile (!isLineEnd ·)).length = (withoutReturn line).length := by
      simpa [shownLine, blankTabs] using congrArg List.length same
    exact (List.prefix_of_prefix_length_le (List.takeWhile_prefix _) (withoutReturn_isPrefix line)
      (Nat.le_of_eq lengths)).eq_of_length lengths
  -- Another line is shown, which must look like this one.
  · simp [only, here.lineOf_other only]

end Diagnostic

end LoopLang
