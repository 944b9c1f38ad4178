import LoopLang.Proofs.Diagnostic.Session
import LoopLang.Proofs.Grammar.TypeNames
import LoopLang.Proofs.Places.Anchor
import LoopLang.Proofs.Quoting.Statement

/-! Errors rendered without colours: they are plain, unless a word is taken for a misspelled
keyword. -/

namespace LoopLang

/-- What a lexeme is quoted as is without escapes, as no word is written with one. -/
theorem Lexeme.Matches.display_free {lexeme : Lexeme} {slice after : List Char}
    (fits : lexeme.Matches slice after) :
    EscapeFree lexeme.display := by
  cases lexeme with
  | identifier name =>
    cases fits.written
    show escape ∉ name.toList
    generalize name.toList = slice at fits
    cases fits.admitted with
    -- The letters of a word are letters, digits and underscores.
    | word starts parts =>
      rw [List.mem_cons]
      rintro (rfl | later)
      · exact absurd starts (by decide)
      · exact absurd (parts _ later) (by decide)
  | number value => exact escapeFree_displayNumber value
  | mark sign => cases sign <;> decide
  | keyword word => cases word <;> decide

/-- So is what a token of a text is quoted as. -/
theorem display_free_of_mem {text : String} {token : Token} (member : token ∈ (scan text).tokens) :
    EscapeFree token.lexeme.display := by
  obtain ⟨slice, stands⟩ := scan_stands text token member
  obtain ⟨after, -, fits⟩ := stands.fits
  exact fits.display_free

namespace Parser

/-- An error about a token that is not expected quotes that token, or the word in front of it and a
keyword. -/
theorem unexpected_free {previous : Option Token} {token : Token} (kinds : List TokenKind)
    (words : ∀ word ∈ previous, EscapeFree word.lexeme.display)
    (free : EscapeFree token.lexeme.display) :
    (unexpected previous token kinds).cause.IsFree := by
  unfold unexpected
  split
  · rename_i word name keyword suspected
    -- Only an identifier is taken for a keyword, one of the keywords that there are.
    unfold misspelled? at suspected
    split at suspected
    · rename_i same
      cases same
      obtain ⟨proposed, made, same⟩ := Option.map_eq_some_iff.mp suspected
      cases same
      have keywords : ∀ keyword ∈ Keyword.words, EscapeFree keyword := by decide
      exact ⟨words _ rfl, keywords _ (suggest_mem made).1⟩
    · cases suspected
  · exact free

/-- A refused type name is quoted, if it names no kind at all. -/
theorem wrongType_free {error : AnnotationError}
    (free : ∀ word, error = .unknownType word → EscapeFree word) :
    (ParseCause.wrongType error).IsFree := by
  cases error with
  | voidNotAllowed => trivial
  | unknownType word => exact free word rfl

/-- An error at the end of the tokens quotes the character that starts none, or a type name. -/
theorem complete_free {state : State} {ending : ScanEnd}
    (stopped : ∀ char place, ending = .illegal char place → char ≠ escape)
    (types : state.TypesIn EscapeFree) {error : ParseError}
    (failed : complete state ending = .error error) :
    error.cause.IsFree := by
  unfold complete at failed
  split at failed
  -- An illegal character is quoted, and it is one of the text.
  · cases failed
    exact stopped _ _ rfl
  -- Behind complete tokens the last statement may still be refused.
  · unfold finish at failed
    split at failed
    · cases failed
    · rename_i cause place refused
      cases failed
      -- A word that names no type has been read from the text.
      refine wrongType_free fun word same => ?_
      subst same
      cases read : lastStatements state with
      | ok statements =>
        rw [read] at refused
        cases refused
      | error refusal =>
        rw [read] at refused
        cases refused
        exact types.last read
    all_goals
      cases failed
      trivial

/-- An error of tokens without escapes quotes none, whatever has been read before. -/
theorem run_free {ending : ScanEnd}
    (stopped : ∀ char place, ending = .illegal char place → char ≠ escape) {error : ParseError} :
    ∀ (tokens : List Token) (previous : Option Token) (state : State),
      (∀ token ∈ tokens, EscapeFree token.lexeme.display) →
      (∀ word ∈ previous, EscapeFree word.lexeme.display) →
        state.TypesIn EscapeFree → run previous state ending tokens = .error error →
        error.cause.IsFree
  | [], _, _, _, _, types, failed => complete_free stopped types failed
  | token :: rest, _, state, free, words, types, failed => by
    obtain ⟨token_free, rest_free⟩ := List.forall_mem_cons.mp free
    -- What the state keeps of types are words that have been read.
    have reads : ReadsTypes EscapeFree (step state token) := types.step fun word same => by
      rwa [same] at token_free
    unfold run at failed
    split at failed
    · rename_i next stepped
      rw [stepped] at reads
      -- Every token is plain, so the run goes on with plain words.
      exact run_free stopped rest _ next rest_free
        (fun word same => Option.some.inj same ▸ token_free) reads failed
    · cases failed
      exact unexpected_free _ words token_free
    · rename_i cause place stepped
      rw [stepped] at reads
      cases failed
      refine wrongType_free fun word same => ?_
      subst same
      exact reads

end Parser

/-- A parse error of a text without escapes quotes none. -/
theorem Program.parse_free {text : String} (free : EscapeFree text) {error : ParseError}
    (failed : Program.parse text = .error error) : error.cause.IsFree := by
  have none_stopped (char : Char) (place : Location)
      (stopped : (scan text).ending = .illegal char place) : char ≠ escape := by
    -- The character stands in the text.
    obtain ⟨before, rest, split, -⟩ := scan_stops stopped
    rintro rfl
    exact free (by simp [split])
  have types : Parser.State.TypesIn EscapeFree .start := ⟨List.forall_mem_nil _, trivial⟩
  have ran : Parser.run none .start (scan text).ending (scan text).tokens = .error error := failed
  have first (word : Token)
      (before : word ∈ (none : Option Token)) : EscapeFree word.lexeme.display := nomatch before
  exact Parser.run_free none_stopped _ none .start (fun _ => display_free_of_mem) first types ran

namespace Grammar

variable {span : List Token} {node : Tree}

/-- A name that stands at the first token of a production is that token's word. -/
theorem Begins.names (begins : Begins span node) {place : Location} {name : String} {kind : Tree}
    (same : node = .identifier place (.text name) kind) :
    ∀ anchor ∈ span.head?, anchor.lexeme = .identifier name := by
  -- Only a name and a parameter build an identifier.
  cases begins with
  | name word stated =>
    cases same
    rintro _ ⟨⟩
    rfl
  | parameter built =>
    obtain ⟨_, rfl⟩ := Param.exists_of_build built
    cases same
    rintro _ ⟨⟩
    rfl
  | declare built =>
    obtain ⟨leaf, word, value, rest, stated, -, -, tree⟩ :=
      VariableDeclaration.exists_of_build built
    cases tree.symm.trans same
  | @function declaration _ built =>
    obtain ⟨leaf, word, leftParen, params, rightParen, result, body⟩ := declaration
    obtain ⟨parameters, block, stated, -, -, tree⟩ := FunctionDeclaration.exists_of_build built
    cases tree.symm.trans same
  | finish statement => cases statement <;> cases same
  | @choose statement _ built =>
    obtain ⟨leaf, leftParen, condition, rightParen, body, alternative⟩ := statement
    obtain ⟨arm, other, -, -, tree⟩ := IfStatement.exists_of_build built
    cases tree.symm.trans same
  | @loop statement _ built =>
    cases statement with
    | plain leaf leftParen condition rightParen body =>
      obtain ⟨block, -, tree⟩ := LoopStatement.exists_of_build_plain built
      cases tree.symm.trans same
    | labelled label colon leaf leftParen condition rightParen body =>
      obtain ⟨block, -, tree⟩ := LoopStatement.exists_of_build_labelled built
      cases tree.symm.trans same
  | jump statement =>
    rcases statement with ⟨_ | _, leaf, semicolon⟩ | ⟨_ | _, leaf, label, semicolon⟩ <;> cases same
  | number | boolean | call | assign | block | alternative => cases same

/-- A name is the word of the token that it stands at. -/
theorem Anchored.names {anchor : Token} {place : Location} {name : String} {kind : Tree}
    (anchored : Anchored span (.identifier place (.text name) kind) anchor) :
    anchor.lexeme = .identifier name := by
  generalize same : Tree.identifier place (.text name) kind = node at anchored
  cases anchored with
  | first begins first => exact begins.names same.symm anchor first
  | sum | product | expression => cases same

end Grammar

/-- The names in a parsed program are words of its text. -/
theorem Program.parse_namesFree {text : String} {program : Program}
    (parsed : Program.parse text = .ok program) :
    Tree.NamesFree (Tree.preorderItems (Statement.toTrees program.body)) := by
  intro node member
  obtain ⟨statements, derived, built⟩ := exists_derivation parsed
  obtain ⟨span, anchor, inside, anchored⟩ :=
    (statements.lays program.body built []).exists_anchor member
  have free : EscapeFree anchor.lexeme.display :=
    display_free_of_mem (derived ▸ inside.subset anchored.mem)
  unfold Tree.NameFree
  split
  -- The name that a node gives is the word of the token that it stands at.
  · rwa [anchored.names] at free
  · trivial

/--
A failure is rendered plainly if it refuses a part of a program. Other failures are for want of a
name for the program only, and are no diagnostics.
-/
def Failure.RendersPlainly (text fileName : String) (entry : Document) : Failure → Prop
  | .refused cause place => (cause.diagnostic place).RendersPlainly text fileName
  | .fault _ => ¬ Lowering.IsName entry

namespace Session

variable {text fileName : String}

/-- A parsed program is refused in words without escapes, whatever a session has compiled before
it. -/
theorem compile_free {program : Program} (parsed : Program.parse text = .ok program)
    {overrides : Document} {debug : Bool} {session : Session}
    (started : Session.start overrides debug = .ok session)
    (named : ∀ entry, session.settings.entryName = .text entry → EscapeFree entry)
    (history : List Tree) {failure : Failure}
    (failed : ((session.compileAll history).2.compile program.toTree).1 = .error failure) :
    failure.IsFree := by
  -- No frame is open in front of the program, so that all names are its own, but for that of the
  -- entry.
  have quotes := Lowering.Quotes.entry named
    (.statements program.body (Program.parse_namesFree parsed))
  rw [← compileAll_settings session history] at quotes
  have ends := quotes (session.compileAll history).2.builder
    (by simp [Scopes.IsFree, compileAll_closed started history])
  exact @compile_fails _ program.toTree _ _ ends _ failed

/-- How the errors of a text are rendered with and without colours. -/
structure RendersErrors (text fileName : String) : Prop where
  /-- A parse error is rendered without control sequences exactly if no word is taken for a
  misspelled keyword. -/
  parsing_free : ∀ error, Program.parse text = .error error →
    (EscapeFree (error.diagnostic.render text fileName .plain) ↔ ¬ error.cause.SuspectsTypo)
  /-- With colours it is rendered in the same way, but for the control sequences, under the same
  condition. -/
  parsing_same : ∀ error, Program.parse text = .error error →
    (uncoloured (error.diagnostic.render text fileName .terminal) =
      error.diagnostic.render text fileName .plain ↔ ¬ error.cause.SuspectsTypo)
  /-- What a program is refused for is rendered so in any case, unless the settings give an escape
  in its name. -/
  compiling : ∀ program, Program.parse text = .ok program →
    ∀ overrides debug session (history : List Tree), Session.start overrides debug = .ok session →
      (∀ entry, session.settings.entryName = .text entry → EscapeFree entry) →
        ∀ failure, ((session.compileAll history).2.compile program.toTree).1 = .error failure →
          failure.RendersPlainly text fileName session.settings.entryName

/--
In a text without escapes, errors are rendered without control sequences where no colours are asked
for, and with colours in the same way but for them. Only the hint on a word that looks like a
keyword is coloured in any case.
-/
theorem errors_render (free : EscapeFree text) (name_free : EscapeFree fileName) :
    RendersErrors text fileName := by
  -- Errors of the parser quote plain words, and all but one hint are fixed.
  have neutral {error : ParseError} (failed : Program.parse text = .error error)
    (other : ¬ error.cause.SuspectsTypo) :
      error.diagnostic.RendersPlainly text fileName :=
    Diagnostic.IsNeutral.rendersPlainly
      ⟨ParseCause.message_free (Program.parse_free free failed), ParseCause.hint_free other⟩
      free name_free
  -- The hint about a misspelled word brings colours of its own.
  have coloured {error : ParseError} (failed : Program.parse text = .error error)
    (typo : error.cause.SuspectsTypo) :
      ¬ EscapeFree (error.diagnostic.render text fileName .plain) ∧
        uncoloured (error.diagnostic.render text fileName .terminal) ≠
        error.diagnostic.render text fileName .plain := by
    obtain ⟨cause, place⟩ := error
    obtain ⟨word, keyword, rfl⟩ := typo
    have quoted := Program.parse_free free failed
    exact Diagnostic.typo_coloured (ParseCause.hint_misspelledKeyword word keyword)
      (ParseCause.message_free quoted) free name_free quoted.1 quoted.2
  refine ⟨fun error failed => ?_, fun error failed => ?_, ?_⟩
  · exact ⟨fun plain typo => (coloured failed typo).1 plain,
      fun other => (neutral failed other).free⟩
  · exact ⟨fun same typo => (coloured failed typo).2 same, fun other => (neutral failed other).same⟩
  -- Errors of the compilation quote names of the program.
  · intro program parsed overrides debug session history started named failure failed
    have quoted := compile_free parsed started named history failed
    have placed := compile_placedIn parsed started history failed
    cases failure with
    | refused cause place =>
      exact Diagnostic.IsNeutral.rendersPlainly
        ⟨Cause.message_free quoted, Cause.hint_free quoted⟩ free name_free
    | fault fault => exact placed

/-- A name that stands for nothing, in a new session: the error is rendered plainly. -/
theorem unknown_name_renders : EscapeFree "c;" ∧ EscapeFree "demo.x" ∧ RendersErrors "c;" "demo.x" ∧
    ∃ program session, Program.parse "c;" = .ok program ∧ Session.start
      (.object []) false = .ok session ∧
      (session.compile program.toTree).1 = .error (.refused (.unknownSymbol "c" none) ⟨1, 1⟩) ∧
      ((Cause.unknownSymbol "c" none).diagnostic ⟨1, 1⟩).RendersPlainly "c;" "demo.x" := by
  have renders := @errors_render "c;" "demo.x" (by decide) (by decide)
  -- The name is unknown in an empty session, and nothing resembles it.
  have refuses : refusesAt "c;" (.unknownSymbol "c" none) ⟨1, 1⟩ := by decide +kernel
  obtain ⟨program, session, parsed, started, failed⟩ := exists_of_refusesAt refuses
  have named (entry : String)
      (same : session.settings.entryName = .text entry) : EscapeFree entry := by
    cases started
    cases same
    decide
  exact ⟨by decide, by decide, renders, program, session, parsed, started, failed,
    renders.compiling program parsed (.object []) false session [] started named _ failed⟩

/-- A keyword is misspelled: even without colours the rendering has control sequences, which are no
plain text. -/
theorem misspelled_return_coloured : EscapeFree "retrn 1;" ∧ EscapeFree "<stdin>" ∧
    ∃ error, Program.parse "retrn 1;" = .error error ∧
      ¬ EscapeFree (error.diagnostic.render "retrn 1;" "<stdin>" .plain) ∧
      uncoloured (error.diagnostic.render "retrn 1;" "<stdin>" .terminal) ≠
        error.diagnostic.render "retrn 1;" "<stdin>" .plain := by
  -- The word is close to a reserved one, so the parser suspects a typo.
  have failed : (((Program.parse "retrn 1;").map fun _ => false).tryCatch fun error =>
      .ok (decide (error.cause = .misspelledKeyword "retrn" "return"))).toOption = some true := by
    decide +kernel
  cases parsed : Program.parse "retrn 1;" with
  | ok program =>
    rw [parsed] at failed
    cases failed
  | error error =>
    rw [parsed] at failed
    obtain ⟨cause, place⟩ := error
    cases of_decide_eq_true (Option.some.inj failed)
    have quoted : (ParseCause.misspelledKeyword "retrn" "return").IsFree := ⟨by decide, by decide⟩
    exact ⟨by decide, by decide, _, rfl,
      Diagnostic.typo_coloured (ParseCause.hint_misspelledKeyword "retrn" "return")
      (ParseCause.message_free quoted) (by decide) (by decide) (by decide) (by decide)⟩

end Session

end LoopLang
