import LoopLang.Source.Location
import Mathlib.Data.List.Induction

/-! Places are counted: a line is one more than the line feeds before it, a column the distance from
the last of them. -/

namespace LoopLang

/-- The last line of a text, which starts behind the last line feed, or where the text starts. -/
def LastLine (text line : List Char) : Prop :=
  ∃ earlier, text = earlier ++ line ∧ (∀ char ∈ earlier.getLast?, char = '\n') ∧ '\n' ∉ line

/-- The place of what comes behind a text. -/
structure Location.IsBehind (place : Location) (text : List Char) : Prop where
  line : place.line = 1 + text.count '\n'
  column : ∃ line, LastLine text line ∧ place.column = line.length + 1

namespace LastLine

variable {text line : List Char} {char : Char}

/-- A line feed ends the last line, and an empty one follows. -/
theorem lineFeed (text : List Char) : LastLine (text ++ ['\n']) [] :=
  ⟨text ++ ['\n'], by simp, by simp, by simp⟩

/-- Every other character goes on with the last line. -/
theorem push (last : LastLine text line) (inside : char ≠ '\n') :
    LastLine (text ++ [char]) (line ++ [char]) := by
  obtain ⟨earlier, rfl, ends, plain⟩ := last
  exact ⟨earlier, by simp, ends, by simp [plain, inside.symm]⟩

/-- The last line of a text is found from its end. -/
theorem reverse_takeWhile (last : LastLine text line) :
    (text.reverse.takeWhile (· ≠ '\n')) = line.reverse := by
  obtain ⟨earlier, rfl, ends, plain⟩ := last
  have inside : ∀ char ∈ line.reverse, decide (char ≠ '\n') = true := by
    rintro char member
    simpa using fun same : char = '\n' => plain (same ▸ List.mem_reverse.mp member)
  rw [List.reverse_append, List.takeWhile_append_of_pos inside]
  -- In front of the line there is nothing, or a line feed at once.
  cases before : earlier.reverse with
  | nil => simp
  | cons char rest =>
    have feed : char = '\n' := ends char (by rw [← List.head?_reverse, before]; rfl)
    simp [feed]

/-- A text has one last line. -/
theorem unique {other : List Char} (last : LastLine text line) (another : LastLine text other) :
    line = other :=
  List.reverse_inj.mp (last.reverse_takeWhile.symm.trans another.reverse_takeWhile)

/-- A column is looked up as the distance from the last line feed. -/
theorem columnAt_eq {position : Nat} (inside : position ≤ text.length)
    (last : LastLine (text.take position) line) :
    columnAt text position = line.length + 1 := by
  obtain ⟨earlier, split, -⟩ := id last
  -- The position lies as far behind the last line feed as the line is long.
  have length : position = earlier.length + line.length := by
    rw [← List.length_append, ← split, List.length_take, Nat.min_eq_left inside]
  have found : lastLineStart (text.take position) = earlier.length := by
    simp only [lastLineStart, last.reverse_takeWhile, List.length_reverse, List.length_take,
      Nat.min_eq_left inside]
    omega
  have known : ¬ (position : Int) < 0 := by omega
  simp only [columnAt, if_neg known, Int.toNat_natCast, found]
  omega

end LastLine

namespace Location

/-- The place behind a text is counted from its characters one by one. -/
theorem start_after (text : List Char) : (start.after text).IsBehind text := by
  -- A line feed begins a new line, any other letter is one column more.
  induction text using List.reverseRecOn with
  | nil => exact ⟨rfl, [], ⟨[], rfl, nofun, by simp⟩, rfl⟩
  | append_singleton text char ih =>
    obtain ⟨line, column, last, same⟩ := ih
    have moved : start.after (text ++ [char]) = (start.after text).next char := by simp [after]
    rw [moved]
    by_cases feed : char = '\n'
    · subst feed
      refine ⟨?_, [], .lineFeed text, by simp [next]⟩
      simp [next, line]
      omega
    · refine ⟨by simp [next, feed, line], column ++ [char], last.push feed, ?_⟩
      simp [next, feed, same]

/-- There is one place behind a text. -/
theorem IsBehind.unique {place other : Location} {text : List Char} (behind : place.IsBehind text)
    (another : other.IsBehind text) : place = other := by
  obtain ⟨line, first, last, column⟩ := behind
  obtain ⟨line_too, second, last_too, column_too⟩ := another
  -- The last line is the same, and the place tells how far it goes.
  cases last.unique last_too
  cases place
  cases other
  simp_all

end Location

end LoopLang
