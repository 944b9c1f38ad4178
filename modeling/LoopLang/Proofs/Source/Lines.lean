import LoopLang.Source.Lines

/-! Lines are counted in two ways, by line feeds and by every kind of line end, which agree where
only line feeds end a line. -/

namespace LoopLang

/-- Only line feeds end a line: a carriage return stands in front of one, or at the end of the
text. -/
def OnlyLineFeeds : List Char → Prop
  | [] => True
  | char :: rest =>
    (isLineEnd char → char = '\n' ∨ char = '\r' ∧ rest.head? ∈ [none, some '\n']) ∧
      OnlyLineFeeds rest

/-- It can be decided whether only line feeds end lines. -/
instance OnlyLineFeeds.decidable : (text : List Char) → Decidable (OnlyLineFeeds text)
  | [] => .isTrue trivial
  | char :: rest =>
    have := OnlyLineFeeds.decidable rest
    inferInstanceAs (Decidable
      ((isLineEnd char → char = '\n' ∨ char = '\r' ∧ rest.head? ∈ [none, some '\n']) ∧
      OnlyLineFeeds rest))

/-- A text of whole lines, which is empty or ends with a line feed. -/
def WholeLines (text : List Char) : Prop := ∀ last ∈ text.getLast?, last = '\n'

/-- A line without a carriage return at its end. -/
def withoutReturn : List Char → List Char
  | [] => []
  | ['\r'] => []
  | char :: rest => char :: withoutReturn rest

variable {current earlier line rest : List Char} {char : Char}

/-- Whole lines are still whole without their first character. -/
theorem WholeLines.tail (whole : WholeLines (char :: rest)) : WholeLines rest := by
  cases rest with
  | nil => nofun
  | cons next rest => simpa [WholeLines] using whole

/-- What ends whole lines is a line feed. -/
theorem WholeLines.last (whole : WholeLines [char]) : char = '\n' := whole char rfl

/-- Behind whole lines it does not matter what stands in front. -/
theorem onlyLineFeeds_append (whole : WholeLines earlier) :
    OnlyLineFeeds (earlier ++ line) ↔ OnlyLineFeeds earlier ∧ OnlyLineFeeds line := by
  induction earlier with
  | nil => simp [OnlyLineFeeds]
  | cons char rest ih =>
    -- Only the last character is followed by something else, and that one is a line feed.
    simp only [List.cons_append, OnlyLineFeeds, ih whole.tail, and_assoc]
    cases rest with
    | nil => simp [whole.last]
    | cons => rfl

/-- A line end that is no line feed, and that no line feed or end of the text follows, ends a line
by itself. -/
theorem not_onlyLineFeeds (ends : isLineEnd char) (other : char ≠ '\n')
    (stray : char = '\r' → rest.head? ∉ [none, some '\n']) : ¬ OnlyLineFeeds (char :: rest) := by
  rintro ⟨stands, -⟩
  rcases stands ends with feed | ⟨same, follows⟩
  · exact other feed
  · exact stray same follows

/-- A character that ends no line goes on with the current one. -/
theorem splitLinesFrom_inside (inside : ¬ isLineEnd char) :
    splitLinesFrom current (char :: rest) = splitLinesFrom (current ++ [char]) rest := by
  rw [splitLinesFrom, if_neg inside]
  rintro _ rfl
  exact absurd rfl inside

/-- A line end ends the current line, unless the next character belongs to it. -/
theorem splitLinesFrom_end (ends : isLineEnd char)
    (lone : ∀ more, char = '\r' → rest = '\n' :: more → False) :
    splitLinesFrom current (char :: rest) = current :: splitLinesFrom [] rest := by
  rw [splitLinesFrom, if_pos ends]
  exact lone

/-- Whole lines are split apart from what stands behind them. -/
theorem splitLinesFrom_append (whole : WholeLines earlier) (begun : earlier = [] → current = [])
    (rest : List Char) :
    splitLinesFrom current (earlier ++ rest) = splitLinesFrom current earlier ++ splitLinesFrom
      [] rest := by
  fun_induction splitLinesFrom current earlier with
  | case1 => simp [begun rfl]
  | case2 current unfinished => simp [begun rfl] at unfinished
  | case3 current more ih => simpa [splitLinesFrom] using ih whole.tail.tail fun _ => rfl
  | case4 current char more lone ends ih =>
    rw [List.cons_append, splitLinesFrom_end ends, ih whole.tail fun _ => rfl, List.cons_append]
    rintro behind rfl same
    -- A carriage return is not the last character, so that the next one stands in the same lines.
    cases more with
    | nil => cases whole.last
    | cons next more => exact lone more rfl (by rw [(List.cons.inj same).1])
  | case5 current char more lone inside ih =>
    rw [List.cons_append, splitLinesFrom_inside inside, ih whole.tail]
    -- Such a character is not the last one.
    rintro rfl
    exact absurd (whole.last ▸ rfl) inside

/-- There are at least as many lines as line feeds, and more of them if anything else ends a
line. -/
theorem splitLinesFrom_length (whole : WholeLines earlier) (begun : earlier = [] → current = []) :
    earlier.count '\n' ≤ (splitLinesFrom current earlier).length ∧
      ((splitLinesFrom current earlier).length = earlier.count '\n' ↔ OnlyLineFeeds earlier) := by
  fun_induction splitLinesFrom current earlier with
  | case1 => simp [OnlyLineFeeds]
  | case2 current unfinished => simp [begun rfl] at unfinished
  -- A carriage return and its line feed end one line, and so count once on both sides.
  | case3 current more ih =>
    have counted := ih whole.tail.tail fun _ => rfl
    simpa [OnlyLineFeeds] using counted
  | case4 current char more lone ends ih =>
    obtain ⟨least, same⟩ := ih whole.tail fun _ => rfl
    by_cases feed : char = '\n'
    · simp [feed, OnlyLineFeeds, same, least]
    -- Any other line end is a line more than there are line feeds.
    · have more_ends : ¬ OnlyLineFeeds (char :: more) := by
        refine not_onlyLineFeeds ends feed ?_
        rintro rfl
        -- A carriage return with its line feed would end one line together with it.
        cases more with
        | nil => cases whole.last
        | cons next more => simpa using fun same : next = '\n' => lone more rfl (by rw [same])
      simp only [List.count_cons_of_ne feed, List.length_cons, more_ends, iff_false]
      omega
  -- Within a line nothing is counted.
  | case5 current char more lone inside ih =>
    obtain ⟨least, same⟩ := ih whole.tail (by rintro rfl; exact absurd (whole.last ▸ rfl) inside)
    have other : char ≠ '\n' := by rintro rfl; exact absurd rfl inside
    simp [OnlyLineFeeds, same, inside, other, least]

/-- The first line goes up to the first line end. -/
theorem splitLinesFrom_eq_cons (text : List Char) (started : current ≠ [] ∨ text ≠ []) :
    ∃ more, splitLinesFrom current text = (current ++ text.takeWhile (!isLineEnd ·)) :: more := by
  -- The current line grows until a line end or the end of the text is found.
  fun_induction splitLinesFrom current text with
  | case1 current empty => simp_all
  | case2 current unfinished => exact ⟨[], by simp⟩
  | case3 current more ih =>
    exact ⟨_, by rw [List.takeWhile_cons_of_neg (by decide), List.append_nil]⟩
  | case4 current char more lone ends ih =>
    exact ⟨_, by rw [List.takeWhile_cons_of_neg (by simp [ends]), List.append_nil]⟩
  | case5 current char more lone inside ih =>
    obtain ⟨rest, same⟩ := ih (.inl (by simp))
    exact ⟨rest, by rw [same, List.takeWhile_cons_of_pos (by simp [inside])]; simp⟩

/-- A line is split nowhere exactly if nothing ends it but a carriage return at its end. -/
theorem takeWhile_eq_withoutReturn (inside : '\n' ∉ line) :
    line.takeWhile (!isLineEnd ·) = withoutReturn line ↔ OnlyLineFeeds line := by
  -- A carriage return at the end is left out by both; inside the line it ends the one and not the
  -- other.
  fun_induction withoutReturn line with
  | case1 => simp [OnlyLineFeeds]
  | case2 => simp [OnlyLineFeeds, isLineEnd]
  | case3 char rest lone ih =>
    obtain ⟨first, others⟩ : '\n' ≠ char ∧ '\n' ∉ rest := by simpa using inside
    by_cases ends : isLineEnd char
    -- Where another character ends the line, more of it is left.
    · have more_ends : ¬ OnlyLineFeeds (char :: rest) := by
        refine not_onlyLineFeeds ends first.symm ?_
        rintro rfl
        cases rest with
        | nil => exact (lone rfl rfl).elim
        | cons next rest =>
          obtain ⟨different, -⟩ : '\n' ≠ next ∧ '\n' ∉ rest := by simpa using others
          simpa using different.symm
      simp [ends, more_ends]
    · simp [OnlyLineFeeds, ends, ih others]

end LoopLang
