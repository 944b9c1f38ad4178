import LoopLang.Proofs.Source.Location
import LoopLang.Proofs.Token.Piece

/-! Scanning cuts a text into its tokens and the gaps between them, up to the end or the first
illegal character. -/

namespace LoopLang

/-- What may stand between tokens, in front of what comes after. -/
inductive Gap (after : List Char) : List Char → Prop
  | none : Gap after []
  | skip {front rest} (skipped : Skipped (rest ++ after) front) (further : Gap after rest) :
      Gap after (front ++ rest)

/-- What comes behind a text, cut into tokens with a gap in front of each, and a gap in front of
what is left. -/
inductive Partition (final : List Char) : (before text : List Char) → List Token → Prop
  | last {before gap} (between : Gap final gap) : Partition final before (gap ++ final) []
  | token {before gap slice after token tokens} (between : Gap (slice ++ after) gap)
      (fits : token.lexeme.Matches slice after) (position : token.position = (before ++ gap).length)
      (place : token.place.IsBehind (before ++ gap))
      (rest : Partition final (before ++ gap ++ slice) after tokens) :
      Partition final before (gap ++ slice ++ after) (token :: tokens)

/-- A token stands in a text as a slice of it, at its position and at its place. -/
structure Token.StandsAs (token : Token) (slice text : List Char) : Prop where
  fits : ∃ after, text.drop token.position = slice ++ after ∧ token.lexeme.Matches slice after
  place : token.place.IsBehind (text.take token.position)

variable {final before text front slice gap after : List Char} {tokens : List Token}

/-- No rule admits nothing. -/
theorem TokenRule.Admits.exists_cons {rule : TokenRule} (admitted : rule.Admits slice) :
    ∃ first more, slice = first :: more := by
  -- No rule admits the empty slice.
  cases admitted with
  | word => exact ⟨_, _, rfl⟩
  | number numeral =>
    obtain ⟨digit, more, same, -⟩ := numeral.exists_first
    exact ⟨digit, more, same⟩
  | mark sign => cases sign <;> exact ⟨_, _, rfl⟩

/-- No rule admits anything that starts with what is skipped. -/
theorem TokenRule.Admits.solid {rule : TokenRule} {first : Char} {more : List Char}
    (admitted : rule.Admits (first :: more)) : first ∉ gapChars :=
  admitted.free_of_gaps first List.mem_cons_self

section Scanning

/-- What is skipped belongs to the gap behind it. -/
theorem Partition.skip (skipped : Skipped text front)
    (partition : Partition final (before ++ front) text tokens) :
    Partition final before (front ++ text) tokens := by
  -- What is skipped belongs to the first gap.
  cases partition with
  | last between =>
    rw [← List.append_assoc]
    exact .last (.skip skipped between)
  | token between fits position place rest =>
    rw [List.append_assoc before] at position place rest
    rw [← List.append_assoc, ← List.append_assoc]
    exact .token (.skip (by simpa using skipped) between) fits position place rest

/-- How scanning ended says what is left of the text behind what was scanned. -/
def ScanEnd.Leaves (final scanned : List Char) : ScanEnd → Prop
  | .complete => final = []
  | .illegal char place =>
    (∃ rest, final = char :: rest ∧ StartsNothing char rest) ∧ place = .after .start scanned

/-- A place moves over one text and then over another. -/
theorem Location.after_append (place : Location) (text more : List Char) :
    place.after (text ++ more) = (place.after text).after more := List.foldl_append

/-- The rest of a text is partitioned by its scan. -/
theorem scanFrom_partition (position : Nat) (place : Location) (text before : List Char)
    (counted : position = before.length) (located : place = .after .start before) :
    ∃ cut final, text = cut ++ final ∧ Partition final before text
      (scanFrom position place text).tokens ∧
      (scanFrom position place text).ending.Leaves final (before ++ cut) := by
  -- Piece by piece: the end, an illegal letter, something skipped, or a token.
  fun_induction scanFrom position place text generalizing before with
  | case1 => exact ⟨[], [], rfl, .last .none, rfl⟩
  | case2 position place first rest found =>
    have describes := firstPiece_describes first rest
    rw [found] at describes
    exact ⟨[], first :: rest, rfl, .last .none, ⟨rest, rfl, describes⟩, by simpa using located⟩
  -- What is skipped belongs to the gap in front of the next token.
  | case3 position place first rest further found ih =>
    have describes := firstPiece_describes first rest
    rw [found] at describes
    obtain ⟨more, after, rfl, rfl, skipped⟩ := describes
    simp only [List.take_left, List.drop_left] at ih ⊢
    obtain ⟨cut, final, rfl, partition, leaves⟩ :=
      ih (before ++ first :: more) (by simp [counted]; omega)
        (by rw [Location.after_append, located])
    exact ⟨first :: more ++ cut, final, by simp, partition.skip skipped, by simpa using leaves⟩
  | case4 position place first rest lexeme further found scan ih =>
    have describes := firstPiece_describes first rest
    rw [found] at describes
    obtain ⟨more, after, rfl, rfl, fits⟩ := describes
    -- The scan goes on behind the token, from the place that is counted over it.
    have scanned : scan = scanFrom (position + more.length + 1)
        (place.after (first :: more)) after := by
      simp only [scan, List.take_left, List.drop_left]
    rw [scanned]
    simp only [List.take_left, List.drop_left] at ih
    obtain ⟨cut, final, rfl, partition, leaves⟩ :=
      ih (before ++ first :: more) (by simp [counted]; omega)
        (by rw [Location.after_append, located])
    refine ⟨first :: more ++ cut, final, by simp, ?_, by simpa using leaves⟩
    have filled : Partition final before ([] ++ (first :: more) ++ (cut ++ final))
        (⟨lexeme, position, place⟩ ::
          (scanFrom (position + more.length + 1) (place.after (first :: more)) _).tokens) :=
      .token .none fits (by simpa using counted)
        (by simpa [located] using Location.start_after before) (by simpa using partition)
    exact filled

end Scanning

section Cutting

/-- What is skipped in front of a text is skipped in front of the start of it. -/
theorem Skipped.cut {left : List Char} (skipped : Skipped (after ++ left) front) :
    Skipped after front := by
  cases skipped with
  | blank member => exact .blank member
  | comment plain ends =>
    exact .comment plain fun char found => ends char (by simp [Option.mem_def.mp found])

/-- A gap in front of a text is a gap in front of the start of it. -/
theorem Gap.cut {left : List Char} (between : Gap (after ++ left) gap) : Gap after gap := by
  induction between with
  | none => exact .none
  | skip skipped _ ih => exact .skip (Skipped.cut (by simpa using skipped)) ih

/-- Where the text is cut in front of what is left of it, the same tokens fill it. -/
theorem Partition.cut (partition : Partition final before text tokens) :
    ∃ cut, text = cut ++ final ∧ Partition [] before cut tokens := by
  induction partition with
  | @last _ gap between =>
    have alone : Gap [] gap := @Gap.cut gap [] final between
    exact ⟨gap, rfl, by simpa using Partition.last alone⟩
  | @token _ gap slice _ _ _ between fits position place _ ih =>
    obtain ⟨cut, rfl, partition⟩ := ih
    -- What follows a token matters by its beginning only, and this is not cut off.
    have alike : StartsLike (cut ++ final) cut := .start cut final
    refine ⟨gap ++ slice ++ cut, by simp, .token ?_ (fits.carry alike) position place partition⟩
    exact @Gap.cut gap (slice ++ cut) final (by simpa using between)

end Cutting

section Uniqueness

/-- Scanning goes over a gap. -/
theorem scanFrom_gap (between : Gap after gap) (position : Nat) (place : Location) :
    scanFrom position place (gap ++ after) = scanFrom (position + gap.length)
      (place.after gap) after := by
  -- A gap is skipped piece by piece.
  induction between generalizing position place with
  | none => simp [Location.after]
  | @skip front rest skipped further ih =>
    obtain ⟨first, more, rfl⟩ : ∃ first more, front = first :: more := by
      cases skipped <;> exact ⟨_, _, rfl⟩
    rw [List.append_assoc, List.cons_append, scanFrom, skipped.firstPiece_eq]
    simp only [List.take_left, List.drop_left, ih]
    rw [← Location.after_append]
    congr 1
    simp
    omega

/-- Where a text starts nothing, what is found is illegal. -/
theorem StartsNothing.firstPiece_eq {char : Char} {rest : List Char}
    (nothing : StartsNothing char rest) :
    firstPiece char rest = .illegal := by
  have describes := firstPiece_describes char rest
  cases found : firstPiece char rest with
  | illegal => rfl
  | skipped further =>
    rw [found] at describes
    obtain ⟨more, after, rfl, -, skipped⟩ := describes
    cases skipped with
    | blank member => exact absurd member nothing.solid
    | comment =>
      -- A comment would start with a division.
      exact absurd (.mark .slash) (nothing.refused _ ['/'] ⟨_, rfl⟩)
  | lexeme lexeme further =>
    rw [found] at describes
    obtain ⟨more, after, rfl, -, fits⟩ := describes
    exact absurd fits.admitted (nothing.refused _ _ ⟨after, rfl⟩)

/-- A text that is filled by tokens, up to what is left of it, is scanned as these and ends
there. -/
theorem Partition.scanFrom_leaves (partition : Partition final before text tokens)
    {cut : List Char} {ending : ScanEnd} (split : text = cut ++ final)
    (leaves : ending.Leaves final (before ++ cut)) :
    scanFrom before.length (.after .start before) text = ⟨tokens, ending⟩ := by
  -- A partition tells what the scan has to find next.
  induction partition generalizing cut with
  | @last before gap between =>
    cases List.append_cancel_right split
    rw [scanFrom_gap between, ← Location.after_append]
    cases ending with
    | complete =>
      cases leaves
      rw [scanFrom]
    | illegal char place =>
      obtain ⟨⟨rest, rfl, nothing⟩, rfl⟩ := leaves
      rw [scanFrom, nothing.firstPiece_eq]
  | @token before gap slice after token tokens between fits position place rest ih =>
    obtain ⟨behind, rfl, -⟩ := rest.cut
    cases List.append_cancel_right (split.symm.trans (List.append_assoc ..).symm)
    obtain ⟨first, more, rfl⟩ := fits.admitted.exists_cons
    rw [List.append_assoc, scanFrom_gap between, List.cons_append, scanFrom, fits.firstPiece_eq]
    simp only [List.take_left, List.drop_left]
    rw [← Location.after_append, ← Location.after_append]
    -- The place counted so far is the place of the token.
    have scanned := ih rfl (by simpa using leaves)
    simp only [List.length_append, List.length_cons, ← Nat.add_assoc] at scanned position ⊢
    rw [scanned, ← position, (Location.start_after (before ++ gap)).unique place]

/-- A text that is filled by tokens is scanned as these. -/
theorem Partition.scanFrom_eq (partition : Partition [] before text tokens) :
    scanFrom before.length (.after .start before) text = ⟨tokens, .complete⟩ :=
  have nothing_left : ScanEnd.complete.Leaves [] (before ++ text) := rfl
  partition.scanFrom_leaves (List.append_nil text).symm nothing_left

end Uniqueness

section Standing

/-- A lexeme that a text starts with is written as one slice of it. -/
theorem Lexeme.Matches.unique {lexeme : Lexeme} {other behind : List Char}
    (fits : lexeme.Matches slice after) (same : slice ++ after = other ++ behind)
    (too : lexeme.Matches other behind) : slice = other := by
  have starts : slice <+: other ++ behind := ⟨after, same⟩
  have ends : other <+: slice ++ after := ⟨behind, same.symm⟩
  -- Each of the two is the longest slice, and both begin at the same place.
  have lengths : slice.length = other.length :=
    Nat.le_antisymm (too.longest _ starts fits.admitted) (fits.longest _ ends too.admitted)
  exact (List.append_inj same lengths).1

/-- A token stands inside the text. -/
theorem Token.StandsAs.inside {token : Token} (stands : token.StandsAs slice text) :
    token.position < text.length := by
  obtain ⟨after, left, fits⟩ := stands.fits
  obtain ⟨first, more, rfl⟩ := fits.admitted.exists_cons
  have length := congrArg List.length left
  simp only [List.length_drop, List.length_append, List.length_cons] at length
  omega

/-- The column of a token is the one that is looked up for its position, the distance from the last
line feed. -/
theorem Token.StandsAs.column {token : Token} (stands : token.StandsAs slice text) :
    ∃ line, LastLine (text.take token.position) line ∧
    token.place.column = columnAt text token.position ∧
      columnAt text token.position = line.length + 1 := by
  obtain ⟨line, last, column⟩ := stands.place.column
  have looked := last.columnAt_eq (Nat.le_of_lt stands.inside)
  exact ⟨line, last, column.trans looked.symm, looked⟩

/-- Each token of a partition stands in the whole text, behind what comes before. -/
theorem Partition.stands (partition : Partition final before text tokens) :
    ∀ token ∈ tokens, before.length ≤ token.position ∧ ∃ slice,
      token.StandsAs slice (before ++ text) := by
  induction partition with
  | last => simp
  | @token before gap slice after token tokens between fits position place _ ih =>
    have whole : before ++ (gap ++ slice ++ after) = before ++ gap ++ slice ++ after := by simp
    rw [whole]
    intro other member
    -- The token at hand, or one of those behind it.
    rcases List.mem_cons.mp member with rfl | later
    · refine ⟨by simp [position], slice, ⟨after, ?_, fits⟩, ?_⟩
      · rw [position, List.append_assoc, List.drop_left]
      · rwa [position, List.append_assoc, List.take_left]
    · obtain ⟨behind, stands⟩ := ih other later
      exact ⟨by simp only [List.length_append] at behind; omega, stands⟩

/-- The tokens of a partition stand one behind the other. -/
theorem Partition.ordered (partition : Partition final before text tokens) :
    tokens.Pairwise fun earlier later => earlier.position < later.position ∧
      ∀ slice, earlier.StandsAs slice (before ++ text) →
      earlier.position + slice.length ≤ later.position := by
  induction partition with
  | last => exact .nil
  | @token before gap slice after token tokens between fits position place rest ih =>
    have whole : before ++ (gap ++ slice ++ after) = before ++ gap ++ slice ++ after := by simp
    rw [whole]
    refine .cons (fun later member => ?_) ih
    -- Later tokens begin behind the end of this one.
    have behind := (rest.stands later member).1
    simp only [List.length_append] at behind position
    obtain ⟨first, more, same⟩ := fits.admitted.exists_cons
    refine ⟨?_, fun other stands => ?_⟩
    · simp only [same, List.length_cons] at behind
      omega
    · obtain ⟨left, split, too⟩ := stands.fits
      rw [position, ← List.length_append, List.append_assoc, List.drop_left] at split
      -- At one position there is one token only, so the slice is the one at hand.
      rw [← fits.unique split too]
      omega

/-- Every token of a text stands in it. -/
theorem scan_stands (text : String) :
    ∀ token ∈ (scan text).tokens, ∃ slice, token.StandsAs slice text.toList := by
  obtain ⟨_, _, _, partition, _⟩ := scanFrom_partition 0 .start text.toList [] rfl rfl
  exact fun token member => (partition.stands token member).2

/-- Where scanning stops, a character stands that starts nothing. -/
theorem scan_stops {text : String} {char : Char} {place : Location}
    (stopped : (scan text).ending = .illegal char place) :
    ∃ before rest, text.toList = before ++ char :: rest ∧ StartsNothing char rest ∧
    place.IsBehind before := by
  obtain ⟨cut, final, split, -, leaves⟩ := scanFrom_partition 0 .start text.toList [] rfl rfl
  rw [scan] at stopped
  rw [stopped] at leaves
  -- The scan has come to a character that starts nothing.
  obtain ⟨⟨rest, rfl, nothing⟩, rfl⟩ := leaves
  exact ⟨cut, rest, split, nothing, Location.start_after cut⟩

end Standing

/--
A text is partitioned by its scan: tokens with nothing but blanks and whole comments between them,
each the longest piece that its rule admits, one behind the other, and each at the line and column
that are counted up to it. An illegal character starts nothing, and the text cut there is scanned to
its end as the same tokens.
-/
theorem scan_partitions (text : String) :
    ∃ cut final, text.toList = cut ++ final ∧ Partition final [] text.toList (scan text).tokens ∧
      ((scan text).tokens.Pairwise fun earlier later => earlier.position < later.position ∧
        ∀ slice, earlier.StandsAs slice text.toList →
        earlier.position + slice.length ≤ later.position) ∧
      (∀ token ∈ (scan text).tokens, (∃ slice, token.StandsAs slice text.toList) ∧
        token.place.line = 1 + (text.toList.take token.position).count '\n' ∧
        token.place.column = columnAt text.toList token.position ∧
        ∃ line, LastLine (text.toList.take token.position) line ∧
          columnAt text.toList token.position = line.length + 1) ∧
      match (scan text).ending with
      | .complete => final = []
      | .illegal char place =>
        (∃ rest, final = char :: rest ∧ StartsNothing char rest) ∧ place.IsBehind cut ∧
          scan (String.ofList cut) = ⟨(scan text).tokens, .complete⟩ := by
  obtain ⟨cut, final, split, partition, leaves⟩ :=
    scanFrom_partition 0 .start text.toList [] rfl rfl
  refine ⟨cut, final, split,
    partition, by rw [scan]; simpa using partition.ordered, fun token member => ?_, ?_⟩
  -- Each token stands where its slice begins, at the column that the text gives it.
  · obtain ⟨-, slice, stands⟩ := partition.stands token member
    obtain ⟨line, last, column, looked⟩ := stands.column
    exact ⟨⟨slice, stands⟩, stands.place.line, column, line, last, looked⟩
  · cases ending : (scan text).ending with
    | complete =>
      rw [scan] at ending
      rwa [ending] at leaves
    | illegal char place =>
      -- The text that is cut off leaves the same tokens.
      obtain ⟨start, same, filled⟩ := partition.cut
      cases List.append_cancel_right (split.symm.trans same)
      have again : scan (String.ofList cut) = ⟨(scan text).tokens, .complete⟩ := by
        rw [scan, String.toList_ofList]
        exact filled.scanFrom_eq
      rw [scan] at ending
      rw [ending] at leaves
      obtain ⟨nothing, rfl⟩ := leaves
      exact ⟨nothing, Location.start_after cut, again⟩

end LoopLang
