import LoopLang.Proofs.Places.Parser
import LoopLang.Proofs.Places.Statement
import LoopLang.Session.Basic

/-! Formatting never changes a program: blanks, line breaks and comments show in reported places
only. -/

namespace LoopLang

/-- Texts that are scanned to their ends and say the same, token by token, whatever stands between
the tokens. -/
structure SameTokens (first second : String) : Prop where
  firstScanned : (scan first).ending = .complete
  secondScanned : (scan second).ending = .complete
  lexemes : (scan first).tokens.map Token.lexeme = (scan second).tokens.map Token.lexeme

/-- Tokens without their places are given by what they say. -/
theorem map_unplaced (tokens : List Token) :
    tokens.map Token.unplaced = (tokens.map Token.lexeme).map fun lexeme =>
      ⟨lexeme, 0, .unknown⟩ := by
  simp only [List.map_map]
  rfl

/-- The same tokens make the same program or the same error, apart from the places in it. -/
theorem SameTokens.parse {first second : String} (same : SameTokens first second) :
    Parser.unplacedResult (Program.parse first) = Parser.unplacedResult (Program.parse second) := by
  -- Without places the parser reads nothing but lexemes, and those of both texts are the same.
  have runs (text : String) (scanned : (scan text).ending = .complete) :
      Parser.unplacedResult (Program.parse text) =
        Parser.run none Parser.State.start .complete ((scan text).tokens.map Token.unplaced) := by
    rw [Program.parse, Scan.parse, scanned]
    exact (Parser.run_unplaced (scan text).tokens none .start).symm
  rw [runs first same.firstScanned, runs second same.secondScanned, map_unplaced, map_unplaced,
    same.lexemes]

namespace Session

/-- How a session goes on with two trees: alike, or with failures that differ in their places
only. -/
def GoesOnAlike (session : Session) (first second : Tree) : Prop :=
  (session.compile first).2 = (session.compile second).2 ∧
    match (session.compile first).1, (session.compile second).1 with
    | .ok entry, .ok other => entry = other
    | .error failure, .error other => failure.unplaced = other.unplaced
    | _, _ => False

/-- With trees that differ in places only a session goes on alike. -/
theorem goesOnAlike (session : Session) {first second : Tree}
    (same : first.unplaced = second.unplaced) :
    session.GoesOnAlike first second := by
  have agree : Lowering.Agree (first.lowerProgram session.settings.entryName)
      (second.lowerProgram session.settings.entryName) :=
    .through (Tree.lowerProgram_agrees _ first) (same ▸ Tree.lowerProgram_agrees _ second)
  obtain ⟨answers, builders⟩ := agree session.builder
  simp only [GoesOnAlike, compile, perform]
  simp only [Lowering.outcome] at answers builders
  -- The answers are of one kind, and the builders are the same.
  generalize (first.lowerProgram session.settings.entryName).run.run session.builder = left,
    (second.lowerProgram session.settings.entryName).run.run session.builder =
    right at answers builders ⊢
  obtain ⟨_ | entry, builder⟩ := left <;> obtain ⟨_ | other, _⟩ := right <;> cases builders
  · exact ⟨rfl, Except.error.inj answers⟩
  · cases answers
  · cases answers
  · cases answers
    exact ⟨rfl, rfl⟩

/--
Two texts with the same tokens are programs that differ in places only, or are refused with the same
error. Compiling both programs leaves the same session, with the same code, and answers or fails
alike.
-/
theorem compile_ignores_layout {first second : String} (same : SameTokens first second) :
    match Program.parse first, Program.parse second with
    | .ok program, .ok other =>
      program.unplaced = other.unplaced ∧ ∀ session : Session,
        session.GoesOnAlike program.toTree other.toTree
    | .error error, .error other =>
      error.cause = other.cause ∧ error.diagnostic.category = other.diagnostic.category ∧
        error.diagnostic.message = other.diagnostic.message ∧
        error.diagnostic.hint = other.diagnostic.hint
    | _, _ => False := by
  have parsed := same.parse
  generalize Program.parse first = reading, Program.parse second = another at parsed ⊢
  rcases reading with error | program <;> rcases another with other | other
  -- What is said of an error depends on its cause only.
  · have errors : error.unplaced = other.unplaced := Except.error.inj parsed
    have causes : error.cause = other.cause := (ParseError.mk.inj errors).1
    simp only [ParseError.diagnostic, causes, and_self]
  -- It cannot be that one text is read and the other one is not.
  · cases parsed
  · cases parsed
  · have programs : program.unplaced = other.unplaced := Except.ok.inj parsed
    exact ⟨programs, fun session => session.goesOnAlike (Program.toTree_unplaced programs)⟩

/-- A text on one line, and the same tokens with line breaks and a comment between them. -/
theorem spread_ignores_layout :
    SameTokens "var x = true; x = false;" "var x =\n\ttrue; // here\nx=false;" ∧
      match Program.parse "var x = true; x = false;",
        Program.parse "var x =\n\ttrue; // here\nx=false;" with
      | .ok program, .ok other =>
        program.unplaced = other.unplaced ∧ ∀ session : Session,
          session.GoesOnAlike program.toTree other.toTree
      | .error error, .error other =>
        error.cause = other.cause ∧ error.diagnostic.category = other.diagnostic.category ∧
          error.diagnostic.message = other.diagnostic.message ∧
          error.diagnostic.hint = other.diagnostic.hint
      | _, _ => False := by
  -- The tokens are the same ones, between other blanks.
  have same : SameTokens "var x = true; x = false;" "var x =\n\ttrue; // here\nx=false;" :=
    ⟨by decide +kernel, by decide +kernel, by decide +kernel⟩
  exact ⟨same, compile_ignores_layout same⟩

end Session

end LoopLang
