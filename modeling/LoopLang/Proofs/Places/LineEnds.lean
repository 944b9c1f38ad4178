import LoopLang.Parser.Basic
import LoopLang.Proofs.Token.LineEnds

/-! Parsing texts whose lines end with carriage returns: the same program or error, down to the
places in it. -/

namespace LoopLang

namespace Parser

/-- Reading a token does not depend on its position. -/
theorem step_unpositioned (state : State) (token : Token) :
    step state token.unpositioned = step state token := by
  -- The parser looks at lexemes and places only.
  rfl

/-- Nor does the error for a token that is refused. -/
theorem unexpected_unpositioned (previous : Option Token) (token : Token) (kinds : List TokenKind) :
    unexpected (previous.map Token.unpositioned) token.unpositioned kinds =
      unexpected previous token kinds := by
  rcases previous with _ | ⟨lexeme, position, place⟩
  · rfl
  -- The word in front is looked at for what it says, and blamed at its place.
  · have same : misspelled? (some (Token.unpositioned ⟨lexeme, position, place⟩)) =
        misspelled? (some ⟨lexeme, position, place⟩) := by
      cases lexeme <;> rfl
    simp only [unexpected, Option.map_some, same]
    rcases misspelled? (some ⟨lexeme, position, place⟩) with _ | ⟨name, keyword⟩ <;> rfl

/-- Reading tokens to their end does not depend on their positions. -/
theorem run_unpositioned (tokens : List Token) (previous : Option Token) (state : State)
    (ending : ScanEnd) :
    run (previous.map Token.unpositioned) state ending (tokens.map Token.unpositioned) =
      run previous state ending tokens := by
  induction tokens generalizing previous state with
  | nil => rfl
  | cons token rest same =>
    simp only [List.map_cons, run, step_unpositioned]
    -- A token that is read leads on; the first one that is refused ends the run.
    rcases step state token with (kinds | ⟨error, place⟩) | next
    · exact congrArg Except.error (unexpected_unpositioned previous token kinds)
    · rfl
    · exact same (some token) next

end Parser

namespace Program

/--
A text whose line feeds have carriage returns in front of some of them is the same program, place by
place, or is refused with the same error at the same place. So the text of a file is parsed like the
file itself, whose line ends count alike.
-/
theorem parse_addReturns {text raw : String} (returns : AddsReturns text.toList raw.toList) :
    Program.parse raw = Program.parse text ∧ Program.parseFile raw = Program.parse raw := by
  obtain ⟨tokens, ending⟩ := scan_addReturns returns
  have same : Program.parse raw = Program.parse text := by
    calc Program.parse raw
      _ = Parser.run none .start (scan raw).ending ((scan raw).tokens.map Token.unpositioned) :=
        (Parser.run_unpositioned (scan raw).tokens none .start _).symm
      _ = Parser.run none .start (scan text).ending
        ((scan text).tokens.map Token.unpositioned) := by
          rw [tokens, ending]
      _ = Program.parse text := Parser.run_unpositioned (scan text).tokens none .start _
  refine ⟨same, ?_⟩
  -- Reading the file takes the carriage returns away again.
  rw [Program.parseFile, returns.unifyLineEnds_eq, String.ofList_toList, same]

/-- A carriage return in a comment, one behind a statement, and a line feed that has none. -/
theorem comment_addReturns : AddsReturns "//\nx;\n\n".toList "//\r\nx;\r\n\n".toList ∧
    Program.parse "//\r\nx;\r\n\n" = Program.parse "//\nx;\n\n" ∧
    Program.parseFile "//\r\nx;\r\n\n" = Program.parse "//\r\nx;\r\n\n" := by
  -- Letters outside of line ends stand alike in both texts.
  have slashes (text raw : List Char) (rest : AddsReturns text raw) :
      AddsReturns ('/' :: '/' :: text) ('/' :: '/' :: raw) :=
        .same (by decide) (.same (by decide) rest)
  have statement (text raw : List Char) (rest : AddsReturns text raw) :
      AddsReturns ('x' :: ';' :: text) ('x' :: ';' :: raw) :=
        .same (by decide) (.same (by decide) rest)
  have returns : AddsReturns "//\nx;\n\n".toList "//\r\nx;\r\n\n".toList :=
    slashes _ _ (.added (statement _ _ (.added (.same (by decide) .none))))
  exact ⟨returns, parse_addReturns returns⟩

end Program

end LoopLang
