import LoopLang.Proofs.Token.Partition
import LoopLang.Source.Lines

/-! Line ends: a text is scanned alike where its line feeds have carriage returns in front of
them. -/

namespace LoopLang

/-- A text without carriage returns, and the same text with a carriage return in front of some of
its line feeds. -/
inductive AddsReturns : (text raw : List Char) → Prop
  | none : AddsReturns [] []
  | same {char text raw} (plain : char ≠ '\r') (rest : AddsReturns text raw) :
      AddsReturns (char :: text) (char :: raw)
  | added {text raw} (rest : AddsReturns text raw) :
      AddsReturns ('\n' :: text) ('\r' :: '\n' :: raw)

/-- A token without its position, which counts carriage returns; its place does not. -/
def Token.unpositioned (token : Token) : Token := { token with position := 0 }

variable {text raw first second front behind gap after final : List Char}

namespace AddsReturns

/-- Carriage returns are added to the parts of a text. -/
theorem split (returns : AddsReturns (first ++ second) raw) :
    ∃ front behind, raw = front ++ behind ∧ AddsReturns first front ∧
    AddsReturns second behind := by
  -- A return is added in front of a line feed, so it goes with the part of the line feed.
  induction first generalizing raw with
  | nil => exact ⟨[], raw, rfl, .none, returns⟩
  | cons char more ih =>
    cases returns with
    | same plain rest =>
      obtain ⟨front, behind, rfl, begins, ends⟩ := ih rest
      exact ⟨char :: front, behind, rfl, .same plain begins, ends⟩
    | added rest =>
      obtain ⟨front, behind, rfl, begins, ends⟩ := ih rest
      exact ⟨'\r' :: '\n' :: front, behind, rfl, .added begins, ends⟩

/-- What they are added to part by part is the whole. -/
theorem append (begins : AddsReturns first front) (ends : AddsReturns second behind) :
    AddsReturns (first ++ second) (front ++ behind) := by
  induction begins with
  | none => exact ends
  | same plain _ ih => exact .same plain ih
  | added _ ih => exact .added ih

/-- Within a line nothing is added. -/
theorem eq_of_plain (returns : AddsReturns text raw) (plain : '\n' ∉ text) : raw = text := by
  induction returns with
  | none => rfl
  | same _ _ ih => rw [ih fun member => plain (List.mem_cons_of_mem _ member)]
  | added => exact absurd List.mem_cons_self plain

/-- What is added is read as nothing where line ends are unified. -/
theorem unifyLineEnds_eq (returns : AddsReturns text raw) : unifyLineEnds raw = text := by
  induction returns with
  | none => rfl
  | same plain _ ih => simp [unifyLineEnds, plain, ih]
  | added _ ih => simp [unifyLineEnds, ih]

/-- The place behind a text is the same: the line feed behind a carriage return starts the next
line's columns. -/
theorem after_eq (returns : AddsReturns text raw) (place : Location) :
    place.after raw = place.after text := by
  induction returns generalizing place with
  | none => rfl
  | same _ _ ih => exact ih _
  | added _ ih =>
    -- The line feed begins a new line, whatever column the return has led to.
    have moved : (place.next '\r').next '\n' = place.next '\n' := by simp [Location.next]
    simp only [Location.after, List.foldl_cons, moved]
    exact ih _

/-- A text starts like the one with carriage returns, for these are skipped. -/
theorem startsLike (returns : AddsReturns text raw) : StartsLike text raw := by
  intro start
  -- Tokens are made of nothing that is skipped, so that the two texts agree as far as a token can
  -- reach.
  induction returns generalizing start with
  | none => exact fun begins _ => begins
  | same _ _ ih =>
    intro begins solid
    cases start with
    | nil => exact List.nil_prefix
    | cons other more =>
      obtain ⟨rfl, others⟩ := List.cons_prefix_cons.mp begins
      have rest := ih more others fun char member => solid char (List.mem_cons_of_mem _ member)
      exact List.cons_prefix_cons.mpr ⟨rfl, rest⟩
  | added =>
    intro begins solid
    cases start with
    | nil => exact List.nil_prefix
    | cons other more =>
      obtain ⟨rfl, -⟩ := List.cons_prefix_cons.mp begins
      exact absurd (by decide) (solid '\r' List.mem_cons_self)

end AddsReturns

section Gaps

/-- What starts with a blank is still a gap without it. -/
theorem Gap.tail {char : Char} (between : Gap after (char :: gap)) (skipped : char ∈ gapChars) :
    Gap after gap := by
  generalize whole : char :: gap = text at between
  cases between with
  | none => cases whole
  | skip front further =>
    cases front with
    | blank =>
      cases whole
      exact further
    | comment =>
      -- A comment starts with a slash, which is not skipped by itself.
      cases whole
      exact absurd skipped (by decide)

/-- A comment in front of a gap goes on with a carriage return that stands there. -/
theorem Gap.comment {body : List Char} (between : Gap after gap) (plain : '\n' ∉ body)
    (ends : gap ++ after = [] ∨ (∃ rest, gap = '\n' :: rest) ∨ ∃ rest, gap = '\r' :: '\n' :: rest) :
    Gap after ('/' :: '/' :: body ++ gap) := by
  -- The comment ends with the text, with its line, or with a return in front of the line end.
  rcases ends with last | ⟨rest, rfl⟩ | ⟨rest, rfl⟩
  · exact .skip (.comment plain (by simp [last])) between
  · exact .skip (.comment plain (by simp)) between
  · have line_end : Gap after ('\n' :: rest) := between.tail (by decide)
    have longer : Gap after ('/' :: '/' :: (body ++ ['\r']) ++ '\n' :: rest) :=
      .skip (.comment (by simp [plain]) (by simp)) line_end
    simpa using longer

/-- A gap is one with carriage returns, too. -/
theorem Gap.addReturns (between : Gap after gap) (inside : AddsReturns gap raw)
    (returns : AddsReturns after behind) (solid : ∀ char ∈ after.head?, char ∉ gapChars) :
    Gap behind raw := by
  induction between generalizing raw with
  | none =>
    cases inside
    exact .none
  -- What is skipped first is followed by a gap that has got its returns by induction.
  | @skip front rest skipped _ ih =>
    obtain ⟨added, more, rfl, begins, others⟩ := inside.split
    have further := ih others
    cases skipped with
    | @blank char member =>
      -- A line feed and the carriage return in front of it are skipped one by one.
      cases begins with
      | same _ nothing =>
        cases nothing
        exact .skip (.blank member) further
      | added nothing =>
        cases nothing
        exact @Gap.skip behind ['\r'] ('\n' :: more) (.blank (by decide))
          (@Gap.skip behind ['\n'] more (.blank (by decide)) further)
    | @comment body plain ends =>
      rw [begins.eq_of_plain (by simpa using plain)]
      refine further.comment plain ?_
      -- Behind a comment its line ends, or else the text.
      cases others with
      | none =>
        cases returns with
        | none => exact .inl rfl
        | @same char => exact absurd (ends char rfl ▸ by decide) (solid char rfl)
        | added => exact absurd (by decide) (solid '\n' rfl)
      | @same char text raw =>
        cases ends char rfl
        exact .inr (.inl ⟨raw, rfl⟩)
      | @added text raw => exact .inr (.inr ⟨raw, rfl⟩)

end Gaps

section Scanning

/-- A text starts nothing either where it goes on otherwise, but like before. -/
theorem StartsNothing.carry {char : Char} (nothing : StartsNothing char after)
    (alike : StartsLike after behind) :
    StartsNothing char behind where
  solid := nothing.solid
  refused := by
    intro rule slice prefixed admitted
    obtain ⟨other, start, rfl⟩ := admitted.exists_cons
    obtain ⟨rfl, begins⟩ := List.cons_prefix_cons.mp prefixed
    -- Inside a token there are no blanks, so it would begin in the other text too.
    have solid : ∀ char ∈ start, char ∉ gapChars := fun char member =>
      admitted.free_of_gaps char (List.mem_cons_of_mem _ member)
    exact nothing.refused rule _
      (List.cons_prefix_cons.mpr ⟨rfl, alike start begins solid⟩) admitted

/-- The tokens that fill a text fill it with carriage returns, too, at the same places. -/
theorem Partition.addReturns {before moved cut scanned left : List Char} {tokens : List Token}
    (partition : Partition final before text tokens) (earlier : AddsReturns before moved)
    (split : text = cut ++ final) (inside : AddsReturns cut scanned)
    (returns : AddsReturns final left) (solid : ∀ char ∈ final.head?, char ∉ gapChars) :
    ∃ others, Partition left moved (scanned ++ left) others ∧
      others.map Token.unpositioned = tokens.map Token.unpositioned := by
  induction partition generalizing moved cut scanned with
  -- Behind the last token there is a gap and no more.
  | last between =>
    cases List.append_cancel_right split
    exact ⟨[], .last (between.addReturns inside returns solid), rfl⟩
  | @token before gap slice after token tokens between fits position place rest ih =>
    obtain ⟨behind, rfl, -⟩ := rest.cut
    cases List.append_cancel_right (split.symm.trans (List.append_assoc ..).symm)
    obtain ⟨begun, more, rfl, begins, further⟩ := inside.split
    obtain ⟨gap, piece, rfl, around, written⟩ := begins.split
    -- A piece holds no line feed, so that it is the same.
    cases written.eq_of_plain fun member => fits.admitted.free_of_gaps _ member (by decide)
    have passed := earlier.append around
    have ends := further.append returns
    obtain ⟨others, filled, same⟩ := ih (passed.append written) rfl further
    let here : Token := ⟨token.lexeme, (moved ++ gap).length, token.place⟩
    have front : ∀ char ∈ (slice ++ (behind ++ final)).head?, char ∉ gapChars := by
      obtain ⟨first, tail, rfl⟩ := fits.admitted.exists_cons
      rintro _ ⟨⟩
      exact fits.admitted.solid
    -- Carriage returns have no part in the place of a token.
    have placed : token.place.IsBehind (moved ++ gap) := by
      rw [place.unique (Location.start_after _), ← passed.after_eq]
      exact Location.start_after _
    have whole : Partition left moved (gap ++ slice ++ (more ++ left)) (here :: others) :=
      .token (between.addReturns around (written.append ends) front)
        (fits.carry ends.startsLike) rfl placed filled
    exact ⟨here :: others, by simpa using whole, by simp [here, Token.unpositioned, same]⟩

/-- With carriage returns a text is scanned as the same tokens, at the same places, and ends
alike. -/
theorem scan_addReturns {text raw : String} (returns : AddsReturns text.toList raw.toList) :
    (scan raw).tokens.map Token.unpositioned = (scan text).tokens.map Token.unpositioned ∧
      (scan raw).ending = (scan text).ending := by
  obtain ⟨cut, final, split, partition, leaves⟩ :=
    scanFrom_partition 0 .start text.toList [] rfl rfl
  rw [split] at returns
  obtain ⟨scanned, left, divided, inside, ends⟩ := returns.split
  -- The scan ends in the same way, at the end of the text or at the same illegal character.
  have others_leave : (scan text).ending.Leaves left scanned ∧ ∀ char ∈ final.head?,
      char ∉ gapChars := by
    rw [scan]
    cases ending : (scanFrom 0 .start text.toList).ending with
    | complete =>
      rw [ending] at leaves
      cases leaves
      cases ends
      exact ⟨rfl, by simp⟩
    | illegal char place =>
      rw [ending] at leaves
      obtain ⟨⟨rest, rfl, nothing⟩, rfl⟩ := leaves
      cases ends with
      | same _ others =>
        -- The illegal character is the same one, and the places up to it are, too.
        refine ⟨⟨⟨_, rfl, nothing.carry others.startsLike⟩, (inside.after_eq .start).symm⟩, ?_⟩
        rintro _ ⟨⟩
        exact nothing.solid
      | added => exact absurd (by decide) nothing.solid
  obtain ⟨others, filled, same⟩ := partition.addReturns .none split inside ends others_leave.2
  have whole : scan raw = ⟨others, (scan text).ending⟩ := by
    rw [scan, divided]
    exact filled.scanFrom_leaves rfl others_leave.1
  rw [whole]
  exact ⟨same, rfl⟩

end Scanning

end LoopLang
