import LoopLang.Proofs.Token.Partition
import Mathlib.Data.List.Forall2

/-! Respacing: the tokens of a text stay what they are wherever they are moved, as long as they are
kept apart. -/

namespace LoopLang

/-- Blanks, line ends, and comments that are closed by a line feed. -/
inductive Spacing : List Char → Prop
  | none : Spacing []
  | blank {char rest} (member : char ∈ gapChars) (further : Spacing rest) : Spacing (char :: rest)
  | comment {body rest} (plain : '\n' ∉ body) (further : Spacing rest) :
      Spacing ('/' :: '/' :: body ++ '\n' :: rest)

/-- What keeps two tokens apart: spacing that does not start with a comment. -/
structure Separates (separator : List Char) : Prop where
  spacing : Spacing separator
  starts : ∃ first ∈ separator.head?, first ∈ gapChars

/-- Slices behind each other, with a separator behind each of them; behind the last one there may be
nothing. -/
inductive Respaced : (slices : List (List Char)) → List Char → Prop
  | none : Respaced [] []
  | slice {slice behind text slices} (apart : Separates behind ∨ behind = [] ∧ slices = [])
      (rest : Respaced slices text) : Respaced (slice :: slices) (slice ++ (behind ++ text))

variable {text other spaced front gap after : List Char}

section Spacing

/-- Spacing is skipped in front of anything. -/
theorem Spacing.isGap (spacing : Spacing front) : Gap after front := by
  induction spacing with
  | none => exact .none
  | @blank char rest member _ ih => exact @Gap.skip after [char] rest (.blank member) ih
  | @comment body rest plain _ ih =>
    -- The comment goes up to its line feed, which is skipped by itself.
    have line_end : Gap after ('\n' :: rest) := @Gap.skip after ['\n'] rest (.blank (by decide)) ih
    exact .skip (.comment plain (by simp)) line_end

/-- A separator starts like any other text, for it starts with nothing that tokens are made of. -/
theorem Separates.startsLike (apart : Separates spaced) : StartsLike after (spaced ++ other) := by
  rintro start ⟨behind, same⟩ solid
  obtain ⟨first, found, skipped⟩ := apart.starts
  obtain ⟨rest, rfl⟩ := List.head?_eq_some_iff.mp found
  -- A separator begins with a character that is skipped, so nothing solid begins with it.
  cases start with
  | nil => exact List.nil_prefix
  | cons char start =>
    exact absurd ((List.cons.inj same).1 ▸ skipped) (solid char List.mem_cons_self)

/-- Slices of tokens are filled by the same tokens again where they are kept apart. -/
theorem Respaced.partition {slices : List (List Char)} (respaced : Respaced slices spaced)
    {tokens : List Token}
    (written : List.Forall₂ (fun token slice => ∃ after, token.lexeme.Matches slice after)
      tokens slices)
    (spacing : Spacing gap) (before : List Char) :
    ∃ moved, Partition [] before (gap ++ spaced) moved ∧
    moved.map Token.lexeme = tokens.map Token.lexeme := by
  -- Slice by slice, each with the separator behind it.
  induction written generalizing gap before spaced with
  | nil =>
    cases respaced
    exact ⟨[], .last spacing.isGap, rfl⟩
  | @cons token slice tokens slices fits _ ih =>
    obtain ⟨after, fits⟩ := fits
    cases respaced with
    | @slice _ behind text _ apart rest =>
      -- What follows the slice starts like what followed it in the first text, or with a separator.
      have alike : StartsLike after (behind ++ text) := by
        rcases apart with apart | ⟨rfl, rfl⟩
        · exact apart.startsLike
        · cases rest
          rintro start none -
          exact List.prefix_nil.mp none ▸ List.nil_prefix
      have spacing_behind : Spacing behind :=
        apart.elim Separates.spacing fun last => last.1 ▸ .none
      -- The other slices are scanned from behind this one.
      obtain ⟨moved, partition, same⟩ := ih rest spacing_behind (before ++ gap ++ slice)
      let here : Token := ⟨token.lexeme, (before ++ gap).length, .after .start (before ++ gap)⟩
      refine ⟨here :: moved, ?_, by simp [here, same]⟩
      have filled : Partition [] before (gap ++ slice ++ (behind ++ text)) (here :: moved) :=
        .token spacing.isGap (fits.carry alike) rfl (Location.start_after _) partition
      rwa [List.append_assoc] at filled

end Spacing

/-- Each token of a text has a slice of it. -/
theorem scan_slices (text : String) : ∃ slices : List (List Char),
    List.Forall₂ (fun token slice => token.StandsAs slice text.toList)
      (scan text).tokens slices := by
  have stands := scan_stands text
  generalize (scan text).tokens = tokens at stands
  -- Token by token; each of them stands in the text as its slice.
  induction tokens with
  | nil => exact ⟨[], .nil⟩
  | cons token rest ih =>
    obtain ⟨slice, here⟩ := stands token List.mem_cons_self
    obtain ⟨slices, others⟩ := ih fun other member => stands other (List.mem_cons_of_mem _ member)
    exact ⟨slice :: slices, .cons here others⟩

/--
The slices of a text's tokens say the same wherever they are kept apart, by whatever spacing and
with whatever spacing around them: what is scanned there is the same tokens, by kind, name and
number.
-/
theorem scan_respaced (text : String) :
    (∃ slices, List.Forall₂ (fun token slice => token.StandsAs slice text.toList)
      (scan text).tokens slices) ∧
    ∀ slices, List.Forall₂ (fun token slice => token.StandsAs slice text.toList)
      (scan text).tokens slices → ∀ front spaced, Spacing front → Respaced slices spaced →
        (scan (String.ofList (front ++ spaced))).ending = .complete ∧
        (scan (String.ofList (front ++ spaced))).tokens.map Token.lexeme =
          (scan text).tokens.map Token.lexeme := by
  refine ⟨scan_slices text, fun slices stand front spaced spacing respaced => ?_⟩
  -- All that is kept of a slice is that its token can be written so.
  have written : List.Forall₂ (fun token slice => ∃ after, token.lexeme.Matches slice after)
      (scan text).tokens slices :=
    stand.imp fun token slice stands => stands.fits.imp fun after fits => fits.2
  obtain ⟨moved, partition, same⟩ := respaced.partition written spacing []
  have scanned : scan (String.ofList (front ++ spaced)) = ⟨moved, .complete⟩ := by
    rw [scan, String.toList_ofList]
    exact partition.scanFrom_eq
  rw [scanned]
  exact ⟨rfl, same⟩

/-- A token stands where it is found. -/
theorem Token.StandsAs.of_found {token : Token} {first : Char} {more : List Char}
    (after : List Char) (left : text.drop token.position = first :: (more ++ after))
    (found : firstPiece first (more ++ after) = .lexeme token.lexeme more.length)
    (place : token.place = .after .start (text.take token.position)) :
    token.StandsAs (first :: more) text := by
  have describes := firstPiece_describes first (more ++ after)
  rw [found] at describes
  obtain ⟨slice, behind, same, length, fits⟩ := describes
  -- The slice that was found has the length that is known.
  obtain ⟨rfl, rfl⟩ := List.append_inj same length.symm
  exact ⟨⟨after, left, fits⟩, place ▸ Location.start_after _⟩

/-- Tokens that touch each other, moved apart: a division stays no comment, and an arrow no sign. -/
theorem crowded_respaced :
    List.Forall₂ (fun token slice => token.StandsAs slice "a/->b".toList) (scan "a/->b").tokens
      [['a'], ['/'], ['-', '>'], ['b']] ∧
    Spacing "//\n".toList ∧ Respaced [['a'], ['/'], ['-', '>'], ['b']] "a\t/ //\n-> b".toList ∧
    (scan (String.ofList ("//\n".toList ++ "a\t/ //\n-> b".toList))).tokens.map Token.lexeme =
      (scan "a/->b").tokens.map Token.lexeme := by
  have tokens : (scan "a/->b").tokens = [⟨.identifier "a", 0, ⟨1, 1⟩⟩, ⟨.mark .slash, 1, ⟨1, 2⟩⟩,
      ⟨.mark .arrow, 2, ⟨1, 3⟩⟩, ⟨.identifier "b", 4, ⟨1, 5⟩⟩] := by decide +kernel
  have stand : List.Forall₂ (fun token slice => token.StandsAs slice "a/->b".toList)
      (scan "a/->b").tokens [['a'], ['/'], ['-', '>'], ['b']] := by
    rw [tokens]
    exact .cons (.of_found "/->b".toList rfl rfl rfl) (.cons (.of_found "->b".toList rfl rfl rfl)
      (.cons (.of_found "b".toList rfl rfl rfl) (.cons (.of_found [] rfl rfl rfl) .nil)))
  have spacing : Spacing "//\n".toList := @Spacing.comment [] [] (by decide) .none
  have apart (char : Char) (member : char ∈ gapChars) : Separates [char] :=
    ⟨.blank member .none, char, rfl, member⟩
  -- Between the slices stand a tab, a comment with its line feed, and a blank.
  have respaced : Respaced [['a'], ['/'], ['-', '>'], ['b']] "a\t/ //\n-> b".toList :=
    .slice (.inl (apart '\t' (by decide))) <|
    .slice (.inl (⟨.blank (by decide) spacing, ' ', rfl, by decide⟩ : Separates " //\n".toList)) <|
    .slice (.inl (apart ' ' (by decide))) <| .slice (.inr ⟨rfl, rfl⟩) .none
  exact ⟨stand, spacing, respaced, ((scan_respaced "a/->b").2 _ stand _ _ spacing respaced).2⟩

end LoopLang
