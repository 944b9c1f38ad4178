import LoopLang.Proofs.Blame.Session
import LoopLang.Proofs.Diagnostic.Excerpt

/-! Excerpts of errors: a rendering shows the place of an error where nothing but line feeds ends
lines. -/

namespace LoopLang

/-- A diagnostic that a text gives: for its parse error, or for what its program is refused for in
some session. -/
inductive Diagnostic.RaisedBy (text : String) : Diagnostic → Prop
  | parsing {error : ParseError} (failed : Program.parse text = .error error) :
      RaisedBy text error.diagnostic
  | compiling {program : Program} {overrides : Document} {debug : Bool} {session : Session}
      {history : List Tree} {cause : Cause} {place : Location}
      (parsed : Program.parse text = .ok program)
      (started : Session.start overrides debug = .ok session)
      (failed : ((session.compileAll history).2.compile program.toTree).1 = .error
        (.refused cause place)) :
      RaisedBy text (cause.diagnostic place)

/-- The place of a token is in a line of the text. -/
theorem IsTokenPlace.exists_isIn {text : String} {place : Location}
    (here : IsTokenPlace text place) :
    ∃ earlier line char, place.IsIn text.toList earlier line char := by
  obtain ⟨token, -, rfl, slice, stands⟩ := here
  obtain ⟨after, left, fits⟩ := stands.fits
  -- A token has a first letter, and this one is no line end.
  obtain ⟨first, more, rfl⟩ := fits.admitted.exists_cons
  have split : text.toList = text.toList.take token.position ++ first :: (more ++ after) := by
    rw [← List.cons_append, ← left, List.take_append_drop]
  obtain ⟨earlier, line, inside⟩ :=
    @Location.IsBehind.exists_isIn _ _ (more ++ after) first stands.place
    fits.admitted.solid
  exact ⟨earlier, line, first, split ▸ inside⟩

/-- So is the place of an illegal character. -/
theorem IsIllegalPlace.exists_isIn {text : String} {illegal : Char} {place : Location}
    (here : IsIllegalPlace text illegal place) :
    ∃ earlier line char, place.IsIn text.toList earlier line char := by
  obtain ⟨before, rest, split, nothing, behind⟩ := here
  obtain ⟨earlier, line, inside⟩ :=
    @Location.IsBehind.exists_isIn _ _ rest illegal behind nothing.solid
  exact ⟨earlier, line, illegal, split ▸ inside⟩

namespace Diagnostic.RaisedBy

variable {text : String} {diagnostic : Diagnostic}

/-- A known place that is reported is in a line of the text. -/
theorem exists_isIn (raised : RaisedBy text diagnostic) (known : diagnostic.place.isKnown) :
    ∃ earlier line char, diagnostic.place.IsIn text.toList earlier line char := by
  cases raised with
  | @parsing error failed =>
    have placed := Program.parse_places text
    rw [failed] at placed
    obtain ⟨cause, place⟩ := error
    cases cause with
    | illegalCharacter char => exact placed.exists_isIn
    | unexpectedEnd =>
      -- The end of a text has no place.
      cases placed
      cases known
    | misspelledKeyword | unexpectedToken | wrongType => exact placed.exists_isIn
  | compiling parsed started failed =>
    have placed : IsTokenPlace text _ := Session.compile_placedIn parsed started _ failed
    exact placed.exists_isIn

/-- What a program is refused for in a new session is reported. -/
theorem of_refusesAt {cause : Cause} {place : Location}
    (refuses : Session.refusesAt text cause place) :
    RaisedBy text (cause.diagnostic place) := by
  obtain ⟨program, session, parsed, started, failed⟩ := Session.exists_of_refusesAt refuses
  exact @compiling text program (.object []) false session [] cause place parsed started failed

/--
A known place that is reported is in a line of the text. Rendered without colours, the error shows
that line with a caret under the character at the place, exactly if up to the end of the line only
line feeds end lines: or else if the line that is shown instead, one of those before, happens to
look the same.
-/
theorem shows_place (raised : RaisedBy text diagnostic) (known : diagnostic.place.isKnown)
    (fileName : String) :
    (∃ earlier line char, diagnostic.place.IsIn text.toList earlier line char) ∧
      ∀ earlier line char, diagnostic.place.IsIn text.toList earlier line char →
        (diagnostic.ShowsPlace text fileName line char ↔
          OnlyLineFeeds (earlier ++ line) ∨
            ¬ OnlyLineFeeds earlier ∧ ∃ other ∈ (splitLinesFrom [] earlier)[earlier.count '\n']?,
              blankTabs other = shownLine line) :=
  ⟨raised.exists_isIn known, fun _ _ _ here => showsPlace_iff here fileName⟩

/-- Behind a line that ends with a carriage return and a line feed, a name that is indented by a tab
is shown. -/
theorem indented_name_shown :
    ∃ diagnostic, RaisedBy "true;\r\n\tc;" diagnostic ∧ diagnostic.place = ⟨2, 2⟩ ∧
    diagnostic.place.isKnown ∧ shownLine "\tc;".toList = " c;".toList ∧
    diagnostic.place.IsIn "true;\r\n\tc;".toList "true;\r\n".toList "\tc;".toList 'c' ∧
    diagnostic.ShowsPlace "true;\r\n\tc;" "demo.x" "\tc;".toList 'c' := by
  have raised : RaisedBy "true;\r\n\tc;" ((Cause.unknownSymbol "c" none).diagnostic ⟨2, 2⟩) :=
    of_refusesAt (by decide +kernel)
  -- The tab before the name counts as one column.
  have here : Location.IsIn ⟨2, 2⟩ "true;\r\n\tc;".toList "true;\r\n".toList "\tc;".toList 'c' :=
    ⟨⟨[], rfl, nofun⟩, by rintro _ ⟨⟩; rfl, by decide, by decide, ⟨['\t'], [';'], rfl,
      rfl⟩, by decide⟩
  have shows := ((raised.shows_place rfl "demo.x").2 _ _ _ here).mpr (.inl (by decide))
  exact ⟨_, raised, rfl, rfl, rfl, here, shows⟩

/-- A form feed in a comment ends a line of the excerpt, so that the line with the error is not the
one that is shown. -/
theorem form_feed_hides_place :
    ∃ diagnostic, RaisedBy "//\x0c\nx;" diagnostic ∧ diagnostic.place.isKnown ∧
    diagnostic.place.IsIn "//\x0c\nx;".toList "//\x0c\n".toList "x;".toList 'x' ∧
    ∀ fileName, ¬ diagnostic.ShowsPlace "//\x0c\nx;" fileName "x;".toList 'x' := by
  have raised : RaisedBy "//\x0c\nx;" ((Cause.unknownSymbol "x" none).diagnostic ⟨2, 1⟩) :=
    of_refusesAt (by decide +kernel)
  have here : Location.IsIn ⟨2, 1⟩ "//\x0c\nx;".toList "//\x0c\n".toList "x;".toList 'x' :=
    ⟨⟨[], rfl, nofun⟩, by rintro _ ⟨⟩; rfl, by decide, by decide, ⟨[], [';'], rfl, rfl⟩, by decide⟩
  refine ⟨_, raised, rfl, here, fun fileName shows => ?_⟩
  -- The second line by all line ends is the empty one behind the form feed.
  have same := (showsPlace_iff_shown here fileName).mp shows
  revert same
  decide +kernel

end Diagnostic.RaisedBy

end LoopLang
