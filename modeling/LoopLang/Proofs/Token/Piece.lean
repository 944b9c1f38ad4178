import LoopLang.Proofs.Token.Spelling

/-! Pieces: what a text starts with is found, and is told apart from everything that it could be
instead. -/

namespace LoopLang

variable {first : Char} {more after integer fraction slice : List Char}

section Numbers

/-- A point counts only with a digit behind it. -/
theorem fractionDigits_point (further : fraction ≠ [])
    (decimals : ∀ char ∈ fraction, isDigit char) (rest : List Char) :
    fractionDigits ('.' :: (fraction ++ rest)) ≠ [] := by
  rw [fractionDigits, List.takeWhile_append_of_pos decimals]
  simp [further]

/-- The digits in front of a point are those that the text starts with. -/
theorem integer_unique {other left right : List Char} (digits : ∀ char ∈ integer, isDigit char)
    (figures : ∀ char ∈ other, isDigit char) (ends : ∀ char ∈ left.head?, ¬ isDigit char)
    (stops : ∀ char ∈ right.head?, ¬ isDigit char) (same : integer ++ left = other ++ right) :
    integer = other := by
  have cut := congrArg (List.takeWhile isDigit) same
  rwa [takeWhile_row digits ends, takeWhile_row figures stops] at cut

/-- A numeral is the longest one where no digit follows, and no point with a digit if it has
none. -/
theorem IsNumeral.length_le {left right longer : List Char}
    (numeral : IsNumeral integer fraction slice) (ends : ∀ char ∈ after.head?, ¬ isDigit char)
    (whole : fraction = [] → fractionDigits after = []) (starts : longer <+: slice ++ after)
    (other : IsNumeral left right longer) : longer.length ≤ slice.length := by
  have point (rest : List Char) : ∀ char ∈ ('.' :: rest).head?, ¬ isDigit char := by
    rintro _ ⟨⟩
    exact isDigit_point
  -- A numeral has a point or not, and so has the longer one.
  cases numeral with
  | whole _ digits =>
    cases other with
    | whole _ figures => exact row_length_le ends starts figures
    | broken _ figures further decimals =>
      obtain ⟨rest, same⟩ := starts
      rw [List.append_assoc, List.cons_append] at same
      cases integer_unique figures digits (point _) ends same
      cases List.append_cancel_left same
      exact absurd (whole rfl) (fractionDigits_point further decimals rest)
  | broken _ digits _ decimals =>
    rw [List.append_assoc, List.cons_append] at starts
    cases other with
    | whole _ figures =>
      have shorter := row_length_le (point _) starts figures
      simp only [List.length_append]
      omega
    | broken _ figures _ others =>
      obtain ⟨rest, same⟩ := starts
      rw [List.append_assoc, List.cons_append] at same
      cases integer_unique figures digits (point _) (point _) same
      have fractions := List.cons.inj (List.append_cancel_left same)
      have shorter := row_length_le ends ⟨rest, fractions.2⟩ others
      simp only [List.length_append, List.length_cons]
      omega

/-- A numeral is read as the number that its digits write. -/
theorem numberPiece_numeral (numeral : IsNumeral integer fraction (first :: more))
    (ends : ∀ char ∈ after.head?, ¬ isDigit char)
    (whole : fraction = [] → fractionDigits after = []) :
    numberPiece first (more ++ after) = .lexeme (.ofDigits integer fraction) more.length := by
  generalize same : first :: more = slice at numeral
  -- Digits are taken as far as they go, then a point if digits follow it.
  cases numeral with
  | whole _ digits =>
    subst same
    have figures : ∀ char ∈ more, isDigit char := fun char member => digits char (.tail _ member)
    simp [numberPiece, takeWhile_row figures ends, dropWhile_row figures ends, whole rfl]
  | @broken integer some digits further decimals =>
    obtain _ | ⟨digit, tail⟩ := integer
    · exact absurd rfl some
    · obtain ⟨rfl, rfl⟩ : first = digit ∧ more = tail ++ '.' :: fraction := List.cons.inj same
      have figures : ∀ char ∈ tail, isDigit char := fun char member => digits char (.tail _ member)
      have point : ∀ char ∈ ('.' :: (fraction ++ after)).head?, ¬ isDigit char := by
        rintro _ ⟨⟩
        exact isDigit_point
      -- Digits, point and further digits are taken one after another.
      rw [List.append_assoc, List.cons_append]
      simp only [numberPiece, takeWhile_row figures point, dropWhile_row figures point,
        fractionDigits, takeWhile_row decimals ends]
      simp [further]
      omega

/-- A numeral starts with a digit. -/
theorem IsNumeral.exists_first (numeral : IsNumeral integer fraction slice) :
    ∃ digit more, slice = digit :: more ∧ isDigit digit := by
  -- With a fraction or without, there is a digit in front.
  cases numeral with
  | whole some digits =>
    obtain ⟨digit, more, rfl⟩ := List.exists_cons_of_ne_nil some
    exact ⟨digit, more, rfl, digits digit List.mem_cons_self⟩
  | @broken integer some digits _ _ =>
    obtain ⟨digit, more, rfl⟩ := List.exists_cons_of_ne_nil some
    exact ⟨digit, _, rfl, digits digit List.mem_cons_self⟩

/-- A point that counts has a row of digits behind it. -/
theorem exists_fraction (point : fractionDigits after ≠ []) :
    ∃ fraction rest, after = '.' :: (fraction ++ rest) ∧ fraction ≠ [] ∧
    (∀ char ∈ fraction, isDigit char) ∧
      ∀ char ∈ rest.head?, ¬ isDigit char := by
  unfold fractionDigits at point
  split at point
  next behind =>
    obtain ⟨fraction, rest, rfl, decimals, ends⟩ := exists_row isDigit behind
    exact ⟨fraction, rest, rfl, takeWhile_row decimals ends ▸ point, decimals, ends⟩
  next => exact absurd rfl point

/-- A numeral without a point could go on with a point that has digits behind it. -/
theorem IsNumeral.exists_longer (numeral : IsNumeral integer [] slice)
    (point : fractionDigits after ≠ []) :
    ∃ fraction longer, longer <+: slice ++ after ∧ IsNumeral integer fraction longer ∧
      slice.length < longer.length := by
  obtain ⟨fraction, rest, rfl, further, decimals, -⟩ := exists_fraction point
  -- Digits behind a point make a longer numeral of it.
  cases numeral with
  | whole some digits =>
    exact ⟨fraction, integer ++ '.' :: fraction, ⟨rest, by simp⟩,
      .broken some digits further decimals, by simp⟩
  | broken _ _ none _ => exact absurd rfl none

/-- Every row of digits starts with the numeral that is read there. -/
theorem exists_numeral (digit : isDigit first) (rest : List Char) :
    ∃ integer fraction more after,
      rest = more ++ after ∧ IsNumeral integer fraction (first :: more) ∧
      (∀ char ∈ after.head?, ¬ isDigit char) ∧ (fraction = [] → fractionDigits after = []) := by
  obtain ⟨digits, after, rfl, figures, ends⟩ := exists_row isDigit rest
  have all : ∀ char ∈ first :: digits, isDigit char := by simpa [digit] using figures
  -- A point counts only with a digit behind it.
  by_cases whole : fractionDigits after = []
  · exact ⟨first :: digits, [], digits, after, rfl, .whole (by simp) all, ends, fun _ => whole⟩
  · obtain ⟨decimals, after, rfl, further, places, stops⟩ := exists_fraction whole
    exact ⟨first :: digits, decimals, digits ++ '.' :: decimals, after, by simp,
      .broken (by simp) all further places, stops, fun none => absurd none further⟩

/-- A number is the longest one where no digit follows, and no point with a digit if it has none. -/
theorem Lexeme.matches_ofDigits (numeral : IsNumeral integer fraction slice)
    (ends : ∀ char ∈ after.head?, ¬ isDigit char)
    (whole : fraction = [] → fractionDigits after = []) :
    (Lexeme.ofDigits integer fraction).Matches slice after where
  written := .number numeral
  admitted := .number numeral
  longest := by
    intro longer prefixed admitted
    -- Only the rule for numbers admits a slice that begins with a digit.
    cases admitted with
    | number other => exact numeral.length_le ends whole prefixed other
  stops := ends

end Numbers

section Words

/-- A reserved word is found by its spelling. -/
theorem Keyword.ofWord?_word (keyword : Keyword) : Keyword.ofWord? keyword.word = some keyword := by
  cases keyword <;> decide

/-- Every other word is no reserved word. -/
theorem Keyword.ofWord?_eq_none {name : String} (free : name ∉ Keyword.words) :
    Keyword.ofWord? name = none := by
  simpa [ofWord?, words] using free

/-- What the rule of words admits. -/
theorem TokenRule.Admits.of_word (admitted : TokenRule.Admits .word (first :: more)) :
    isIdentifierStart first ∧ ∀ char ∈ more, isIdentifierPart char := by
  cases admitted with
  | word starts parts => exact ⟨starts, parts⟩

/-- What starts an identifier may also go on with one. -/
theorem isIdentifierPart_of_start (starts : isIdentifierStart first) : isIdentifierPart first := by
  simp only [isIdentifierStart, isIdentifierPart, Char.isAlphanum, Bool.or_eq_true] at starts ⊢
  rcases starts with letter | line
  · exact .inl (.inl letter)
  · exact .inr line

/-- A row of characters that an identifier is made of is read to its end. -/
theorem wordPiece_row (parts : ∀ char ∈ more, isIdentifierPart char)
    (ends : ∀ char ∈ after.head?, ¬ isIdentifierPart char) :
    wordPiece first (more ++ after) = .lexeme
      (.ofWord (String.ofList (first :: more))) more.length := by
  simp only [wordPiece, takeWhile_row parts ends]

/-- A word is the longest one where no character follows that would go on with it. -/
theorem Lexeme.matches_ofWord (starts : isIdentifierStart first)
    (parts : ∀ char ∈ more, isIdentifierPart char)
    (ends : ∀ char ∈ after.head?, ¬ isIdentifierPart char) :
    (Lexeme.ofWord (String.ofList (first :: more))).Matches (first :: more) after := by
  have admitted : TokenRule.Admits .word (first :: more) := .word starts parts
  -- The word goes on as far as letters do.
  have longest : ∀ longer, longer <+: (first :: more) ++ after → TokenRule.Admits .word longer →
      longer.length ≤ (first :: more).length := by
    rintro _ prefixed ⟨begins, members⟩
    exact row_length_le ends prefixed (by simpa [isIdentifierPart_of_start begins] using members)
  have spelled := String.toList_ofList (l := first :: more)
  rw [ofWord]
  generalize String.ofList (first :: more) = name at spelled
  rw [← spelled] at admitted longest ⊢
  -- A reserved word is no identifier, although it is spelled like one.
  cases found : Keyword.ofWord? name with
  | some reserved =>
    have word : reserved.word = name := by simpa using List.find?_some found
    exact ⟨word ▸ .keyword reserved, admitted, longest, ends⟩
  | none =>
    have free : name ∉ Keyword.words := by simpa [Keyword.ofWord?, Keyword.words] using found
    exact ⟨.identifier free, admitted, longest, ends⟩

end Words

section Marks

/-- A mark of one character is found by its spelling. -/
theorem Mark.ofChar?_eq_some {sign : Mark} (found : Mark.ofChar? first = some sign) :
    sign.text.toList = [first] := by
  unfold ofChar? at found
  split at found <;> cases found <;> rfl

/-- A mark ends where the rule of marks ends it. -/
theorem Lexeme.matches_mark {sign : Mark} (stops : (Lexeme.mark sign).Stops after) :
    (Lexeme.mark sign).Matches sign.text.toList after where
  written := .mark sign
  admitted := .mark sign
  longest := by rintro _ _ ⟨⟩; exact Nat.le_refl _
  stops := stops

end Marks

section First

variable {rest : List Char}

/-- A text that starts with a digit starts with a number. -/
theorem firstPiece_digit (digit : isDigit first) :
    firstPiece first rest = numberPiece first rest := by
  have solid : first ∉ gapChars ∧ first ≠ '/' ∧ first ≠ '-' := by
    refine ⟨not_gap_of_isDigit digit, ?_, ?_⟩ <;> rintro rfl <;> revert digit <;> decide
  simp [firstPiece, gapChars] at solid ⊢
  simp [solid, digit]

/-- A text that starts as identifiers do starts with a word. -/
theorem firstPiece_identifierStart (starts : isIdentifierStart first) :
    firstPiece first rest = wordPiece first rest := by
  have solid : first ∉ gapChars ∧ first ≠ '/' ∧ first ≠ '-' := by
    refine ⟨not_gap_of_isIdentifierStart starts, ?_, ?_⟩ <;> rintro rfl <;> revert starts <;> decide
  have letter := isDigit_of_isIdentifierStart starts
  simp [firstPiece, gapChars] at solid ⊢
  simp [solid, starts, letter]

/-- A minus sign in front of a greater-than sign would be an arrow. -/
theorem firstPiece_minus (stops : rest.head? ≠ some '>') :
    firstPiece '-' rest = .lexeme (.mark .minus) 0 := by
  simp only [firstPiece]
  simp [stops]
  rfl

/-- A slash in front of another one would start a comment. -/
theorem firstPiece_slash (stops : rest.head? ≠ some '/') :
    firstPiece '/' rest = .lexeme (.mark .slash) 0 := by
  simp only [firstPiece]
  simp [stops]
  rfl

/-- What is skipped is found as such. -/
theorem Skipped.firstPiece_eq (skipped : Skipped after (first :: more)) :
    firstPiece first (more ++ after) = .skipped more.length := by
  cases skipped with
  | blank member =>
    simp only [gapChars, List.mem_cons, List.not_mem_nil, or_false] at member
    rcases member with rfl | rfl | rfl | rfl <;> rfl
  -- A comment reaches to the end of its line.
  | @comment body plain ends =>
    have inside : ∀ char ∈ '/' :: body, decide (char ≠ '\n') = true := by
      rintro char member
      rcases List.mem_cons.mp member with rfl | further
      · decide
      · simpa using fun same : char = '\n' => plain (same ▸ further)
    have stops : ∀ char ∈ after.head?, ¬ decide (char ≠ '\n') = true := by
      intro char found
      simpa using ends char found
    have comment : firstPiece '/' ('/' :: body ++ after) = commentPiece ('/' :: body ++ after) := by
      simp [firstPiece]
    rw [comment, commentPiece, takeWhile_row inside stops]

/-- A lexeme that a text starts with is found as such. -/
theorem Lexeme.Matches.firstPiece_eq {lexeme : Lexeme}
    (fits : lexeme.Matches (first :: more) after) :
    firstPiece first (more ++ after) = .lexeme lexeme more.length := by
  obtain ⟨written, admitted, longest, stops⟩ := fits
  generalize same : first :: more = slice at written admitted longest
  cases written with
  | @identifier name free =>
    obtain ⟨starts, parts⟩ := TokenRule.Admits.of_word (same ▸ admitted)
    rw [firstPiece_identifierStart starts, wordPiece_row parts stops, same,
      String.ofList_toList, ofWord, Keyword.ofWord?_eq_none free]
  -- A word that is reserved is read as its keyword.
  | keyword word =>
    obtain ⟨starts, parts⟩ := TokenRule.Admits.of_word (same ▸ admitted)
    rw [firstPiece_identifierStart starts, wordPiece_row parts stops, same,
      String.ofList_toList, ofWord, Keyword.ofWord?_word]
  | @number integer fraction _ numeral =>
    subst same
    obtain ⟨_, _, ⟨⟩, digit⟩ := numeral.exists_first
    rw [firstPiece_digit digit, numberPiece_numeral numeral stops]
    -- A point with a digit behind it would have made a longer numeral.
    rintro rfl
    by_contra point
    obtain ⟨fraction, longer, prefixed, other, more⟩ := numeral.exists_longer point
    exact absurd (longest longer prefixed (.number other)) (by omega)
  -- Two signs may begin something longer, an arrow or a comment.
  | mark sign =>
    cases sign <;> cases same
    case mark.minus => exact firstPiece_minus stops
    case mark.slash => exact firstPiece_slash stops
    all_goals rfl

/-- What a piece says of the text that starts with it. -/
def Piece.Describes (first : Char) (rest : List Char) : Piece → Prop
  | .skipped further =>
    ∃ more after, rest = more ++ after ∧ more.length = further ∧ Skipped after (first :: more)
  | .lexeme found further =>
    ∃ more after, rest = more ++ after ∧ more.length = further ∧ found.Matches (first :: more) after
  | .illegal => StartsNothing first rest

/-- A comment goes on up to the end of its line. -/
theorem commentPiece_describes (second : rest.head? = some '/') :
    (commentPiece rest).Describes '/' rest := by
  obtain ⟨body, rfl⟩ : ∃ body, rest = '/' :: body := List.head?_eq_some_iff.mp second
  obtain ⟨line, after, rfl, plain, ends⟩ := exists_row (· ≠ '\n') body
  have inside : ∀ char ∈ '/' :: line, decide (char ≠ '\n') = true := by simpa using plain
  -- The comment goes on until the line ends, and the line feed is not a part of it.
  rw [← List.cons_append, commentPiece, takeWhile_row inside ends]
  exact ⟨'/' :: line, after, rfl, rfl,
    .comment (fun member => by simpa using plain _ member) fun char found => by
      simpa using ends char found⟩

/-- What is found at the start of a text is there. -/
theorem firstPiece_describes (first : Char) (rest : List Char) :
    (firstPiece first rest).Describes first rest := by
  unfold firstPiece
  -- Tried in this order: blanks, comments, the arrow, numbers, words, other signs.
  split
  next member => exact ⟨[], rest, rfl, rfl, .blank (List.contains_iff_mem.mp member)⟩
  next solid =>
  split
  next slashes =>
    simp only [Bool.and_eq_true, decide_eq_true_eq] at slashes
    obtain ⟨rfl, second⟩ := slashes
    exact commentPiece_describes second
  next comment =>
  split
  next arrow =>
    simp only [Bool.and_eq_true, decide_eq_true_eq] at arrow
    obtain ⟨rfl, second⟩ := arrow
    obtain ⟨more, rfl⟩ : ∃ more, rest = '>' :: more := List.head?_eq_some_iff.mp second
    exact ⟨['>'], more, rfl, rfl, @Lexeme.matches_mark more .arrow trivial⟩
  next minus =>
  split
  next digit =>
    -- A number takes all digits that there are.
    obtain ⟨integer, fraction, more, after, rfl, numeral, ends, whole⟩ := exists_numeral digit rest
    rw [numberPiece_numeral numeral ends whole]
    exact ⟨more, after, rfl, rfl, Lexeme.matches_ofDigits numeral ends whole⟩
  next other =>
  split
  next starts =>
    obtain ⟨more, after, rfl, parts, ends⟩ := exists_row isIdentifierPart rest
    rw [wordPiece_row parts ends]
    exact ⟨more, after, rfl, rfl, Lexeme.matches_ofWord starts parts ends⟩
  next foreign =>
  split
  next sign found =>
    have spelled := Mark.ofChar?_eq_some found
    -- Such a sign is no beginning of an arrow or a comment, for those have been tried before.
    have stops : (Lexeme.mark sign).Stops rest := by
      cases sign
      case minus =>
        exact fun second => minus (by simp [← (List.cons.inj spelled).1, second]; decide)
      case slash =>
        exact fun second => comment (by simp [← (List.cons.inj spelled).1, second]; decide)
      all_goals trivial
    exact ⟨[], rest, rfl, rfl, spelled ▸ Lexeme.matches_mark stops⟩
  -- No rule admits anything that begins like this.
  next unknown =>
    refine StartsNothing.mk (by simpa [gapChars] using solid) ?_
    rintro _ slice ⟨behind, same⟩ admitted
    cases admitted with
    | word starts _ => exact foreign ((List.cons.inj same).1 ▸ starts)
    | number numeral =>
      obtain ⟨_, _, rfl, digit⟩ := numeral.exists_first
      exact other ((List.cons.inj same).1 ▸ digit)
    | mark sign =>
      cases sign <;> cases same
      all_goals cases unknown

end First

end LoopLang
