import LoopLang.Proofs.Blame.Grammar
import LoopLang.Proofs.Grammar.Prefix

/-!
Errors of syntax are found at the first token with which a text is no longer the beginning of a
program, and nothing behind that token can hide them.
-/

namespace LoopLang

open LoopLang.Parser

namespace Grammar

/-- A token is the first one with which a text is not the beginning of a program. -/
structure Breaks (before : List Token) (token : Token) : Prop where
  possible : IsPrefix before
  broken : ¬ IsPrefix (before ++ [token])

variable {tokens before other after rest : List Token} {token next : Token}

/-- A text that is broken is the beginning of no program. -/
theorem Breaks.not_isPrefix (breaks : Breaks before token) :
    ¬ IsPrefix (before ++ token :: after) :=
  fun reads => breaks.broken (reads.of_isPrefix ⟨after, by simp⟩)

/-- What a broken text has in common with the beginning of a program comes before the token that
breaks it. -/
theorem Breaks.isPrefix_before (breaks : Breaks before token) (reads : IsPrefix other)
    (same : before ++ token :: after = other ++ rest) : other <+: before := by
  have begins : other <+: before ++ token :: after := ⟨rest, same.symm⟩
  have start : before ++ [token] <+: before ++ token :: after := ⟨after, by simp⟩
  -- If it went further, the token would be in it.
  refine List.prefix_of_prefix_length_le begins (List.prefix_append _ _)
    (Nat.le_of_not_lt fun further => ?_)
  refine breaks.broken (reads.of_isPrefix (List.prefix_of_prefix_length_le start begins ?_))
  simp only [List.length_append, List.length_cons, List.length_nil]
  omega

/-- A text is broken by one token. -/
theorem Breaks.unique (breaks : Breaks before token) (too : Breaks other next)
    (same : before ++ token :: after = other ++ next :: rest) : before = other ∧ token = next := by
  have shorter := (breaks.isPrefix_before too.possible same).length_le
  have longer := (too.isPrefix_before breaks.possible same.symm).length_le
  obtain ⟨rfl, tails⟩ := List.append_inj same (Nat.le_antisymm longer shorter)
  exact ⟨rfl, (List.cons.inj tails).1⟩

end Grammar

namespace Parser

open Grammar

variable {state next : State} {before rest : List Token} {token : Token}

/-- Tokens lead to a state, which stands for them, and from which reading goes on behind them. -/
structure Reaches (before : List Token) (state : State) : Prop where
  reads : state.Reads before
  follows : ∀ rest, follow .start (before ++ rest) = follow state rest
  runs : ∀ ending rest, run none .start ending
    (before ++ rest) = run before.getLast? state ending rest

/-- No tokens lead to the start. -/
theorem Reaches.start : Reaches [] .start := ⟨.start, fun _ => rfl, fun _ _ => rfl⟩

/-- A step leads on. -/
theorem Reaches.step (reaches : Reaches before state)
    (stepped : Parser.step state token = .ok next) :
    Reaches (before ++ [token]) next where
  reads := reaches.reads.step stepped
  follows rest := by
    rw [List.append_assoc, List.singleton_append, reaches.follows, follow_cons, stepped, proceed_ok]
  runs ending rest := by
    rw [List.append_assoc, List.singleton_append, reaches.runs, List.getLast?_concat, run, stepped]

/-- All tokens are read, or one of them is refused. -/
theorem Reaches.exists_stop (reaches : Reaches before state) (rest : List Token) :
    (∃ final, Reaches (before ++ rest) final) ∨
      ∃ more token after final refusal,
        rest = more ++ token :: after ∧ Reaches (before ++ more) final ∧
        Parser.step final token = .error refusal := by
  -- Token by token, until one is refused or none is left.
  induction rest generalizing before state with
  | nil => exact .inl ⟨state, by simpa using reaches⟩
  | cons token rest ih =>
    cases stepped : Parser.step state token with
    | error refusal =>
      exact .inr ⟨[], token, rest, state, refusal, rfl, by simpa using reaches, stepped⟩
    | ok next =>
      rcases ih (reaches.step stepped) with ⟨final, read⟩ | ⟨more, refused, after, final, refusal,
        rfl, read, stopped⟩
      · exact .inl ⟨final, by simpa using read⟩
      · exact .inr ⟨token :: more, refused, after, final, refusal,
          rfl, by simpa using read, stopped⟩

/-- What is wrong with the tokens of a program is a type name at most. -/
theorem Reaches.follow_sentence {error : ParseError} (reaches : Reaches before state)
    (sentence : IsSentence (before ++ rest)) (failed : follow state rest = .error error) :
    ∃ cause, error.cause = .wrongType cause := by
  obtain ⟨tree, written⟩ := sentence
  have settles := tree.program_settles
  rw [← follow_program, written, reaches.follows, failed] at settles
  exact settles.1

/-- A token that is not expected breaks the text. -/
theorem Reaches.breaks {kinds : List TokenKind} (reaches : Reaches before state)
    (refused : Parser.step state token = .error (.expected kinds)) : Breaks before token where
  possible := reaches.reads.isPrefix
  broken := by
    rintro ⟨rest, sentence⟩
    -- With the token in front the rest is never looked at, so no sentence begins like that.
    have failed : follow state (token :: rest) = .error (Refusal.expected kinds).error := by
      rw [follow_cons, refused]
      rfl
    obtain ⟨cause, wrong⟩ := reaches.follow_sentence (by simpa using sentence) failed
    cases wrong

/-- Where the end of the text is not expected, it is no program. -/
theorem Reaches.not_isSentence {place : Location} (reaches : Reaches before state)
    (ended : complete state .complete = .error ⟨.unexpectedEnd, place⟩) : ¬ IsSentence before := by
  intro sentence
  obtain ⟨cause, wrong⟩ :=
    @Reaches.follow_sentence state before [] _ reaches (by simpa using sentence) ended
  cases wrong

/-! Type names that are refused. -/

/-- Nothing is refused for a type name. -/
def NoTypeName (result : Except Refusal State) : Prop :=
  ∀ error place, result ≠ .error (.wrongType error place)

namespace NoTypeName

variable {purpose : Purpose} {opened : OpenExpression}

/-- The start of an operand is refused by its sort, and never as a type name. -/
theorem startOperand {role : NameRole} {expected : List TokenKind} :
    NoTypeName (startOperand role expected purpose opened state token) := by
  intro error place
  unfold Parser.startOperand
  split <;> nofun

/-- So is the end of an expression. -/
theorem endExpression {value : LoopLang.Expression} {brackets : List (Bracket × Pending)} :
    NoTypeName (endExpression value purpose brackets state token) := by
  intro error place
  unfold Parser.endExpression
  repeat' split
  all_goals nofun

/-- So is what stands behind an operand. -/
theorem followOperand {expected : List TokenKind} {operand : LoopLang.Expression} :
    NoTypeName (followOperand expected operand purpose opened state token) := by
  intro error place
  unfold Parser.followOperand
  dsimp only
  split
  -- At a mark that may close the expression, the end of the expression decides.
  case h_5 | h_6 | h_7 =>
    split
    · exact endExpression error place
    · nofun
  all_goals nofun

/-- So is what stands behind a name. -/
theorem followName {role : NameRole} {name : Identifier} :
    NoTypeName (followName role name purpose opened state token) := by
  intro error place
  unfold Parser.followName
  split
  case h_5 => exact followOperand error place
  all_goals nofun

/-- So is the start of an expression. -/
theorem startExpression {start : ExpressionStart} :
    NoTypeName (startExpression start purpose opened state token) := by
  intro error place
  unfold Parser.startExpression
  split
  case h_3 => exact startOperand error place
  all_goals nofun

/-- So is the start of a statement. -/
theorem startStatement : NoTypeName (startStatement state token) := by
  intro error place
  unfold Parser.startStatement
  split
  case h_10 | h_11 => exact startOperand error place
  all_goals nofun

end NoTypeName

/-- Whether a statement or a parameter ends at a position. -/
def Position.isEnd : Position → Bool
  | .ended _ | .closed .. | .parameterEnd .. => true
  | _ => false

/-- Where nothing ends, no type name is looked at. -/
theorem NoTypeName.step {blocks : List OpenBlock} {statements : List LoopLang.Statement}
    {position : Position} (inside : position.isEnd = false) :
    NoTypeName (Parser.step ⟨blocks, statements, position⟩ token) := by
  cases position with
  -- At these positions something may end, which is where names of types are looked at.
  | ended | closed | parameterEnd => cases inside
  | blockStart => exact .startStatement
  | expression => exact .startExpression
  | operand => exact .startOperand
  | afterName => exact .followName
  | afterOperand => exact .followOperand
  | bodyOpen head condition =>
    intro error place refused
    obtain ⟨lexeme, offset, here⟩ := token
    rcases lexeme with _ | _ | sign | _
    case mark => cases sign <;> cases head <;> cases refused
    all_goals cases head <;> cases refused
  -- Elsewhere a token leads on or is refused for what it is.
  | _ =>
    intro error place refused
    obtain ⟨lexeme, offset, here⟩ := token
    rcases lexeme with _ | _ | sign | reserved
    · cases refused
    · cases refused
    · cases sign <;> cases refused
    · cases reserved <;> cases refused

variable {known : Location → Prop} {error : AnnotationError} {place : Location}

/-- A type name that is refused in a complete statement stands where one of the tokens does. -/
theorem settled_known {statement : Grammar.Statement}
    {settled : Except Refusal LoopLang.Statement} (tokens_known : Known known statement.tokens)
    (built : statement.build = settled.mapError Refusal.error)
    (refused : settled = .error (.wrongType error place)) : known place := by
  have builds := statement.builds tokens_known
  rw [built, refused] at builds
  exact builds

/-- Behind a complete statement, its type name is the only one that can be refused. -/
theorem settled_refused {settled : Except Refusal LoopLang.Statement}
    {blocks : LoopLang.Statement → State}
    (refused : (settled >>= fun statement => startStatement (blocks statement) token) = .error
      (.wrongType error place)) :
    settled = .error (.wrongType error place) := by
  cases settled with
  -- The statement was complete, and the start of the next one names no types.
  | ok statement => exact absurd refused (NoTypeName.startStatement error place)
  | error refusal =>
    cases refused
    rfl

/-- A type name that a token makes the parser refuse has been read before. -/
theorem Position.Reads.blames {inside : List Token} (reads : state.position.Reads inside)
    (tokens_known : Known known inside)
    (refused : Parser.step state token = .error (.wrongType error place)) :
    known place := by
  obtain ⟨blocks, statements, position⟩ := state
  -- Types are read behind a statement, behind its block, and behind a parameter.
  cases reads with
  | ended statement built =>
    unfold Parser.step at refused
    dsimp only at refused
    split at refused
    · exact settled_known tokens_known built (settled_refused refused)
    · cases refused
  | @closed owner _ owner_read block start body built =>
    obtain ⟨whole, written, builds⟩ := owner_read.close block
    rw [← written] at tokens_known
    by_cases alternative : token.lexeme = .keyword .else
    -- In front of an alternative the statement is not complete.
    · obtain ⟨lexeme, offset, here⟩ := token
      subst alternative
      rcases owner_read with _ | _ | _ | _ | _ | _ <;> cases refused
    · replace refused :=
        (@Grammar.step_closed ⟨blocks, statements, .closed start owner body⟩ token _ _ _
          alternative).symm.trans refused
      split at refused
      · exact settled_known tokens_known (builds built) (settled_refused refused)
      · cases refused
  | @parameterEnd head _ params_read param =>
    simp only [known_append, Grammar.Param.tokens, known_cons] at tokens_known
    have type_known : known param.type.place := tokens_known.2.2.2.1
    -- The type name is looked at when one of the two separators is read.
    have separated (isLast : Bool) (leaf : Leaf)
        (same : token = leaf.mark (separator isLast)) : known place := by
      subst same
      have settles :=
        (@step_separator ⟨blocks, statements, .blockStart⟩ head _ ⟨_, _⟩ isLast leaf).symm.trans
        refused
      cases read : ValueKind.ofWord param.type.name with
      | ok kind =>
        rw [read] at settles
        cases settles
      | error wrong =>
        rw [read] at settles
        cases settles
        exact type_known
    obtain ⟨lexeme, offset, here⟩ := token
    rcases lexeme with _ | _ | sign | _
    case mark =>
      cases sign
      case comma => exact separated false ⟨offset, here⟩ rfl
      case rightParen => exact separated true ⟨offset, here⟩ rfl
      all_goals cases refused
    all_goals cases refused
  | _ => exact absurd refused (@NoTypeName.step token blocks statements _ rfl error place)

/-- A type name that is refused at the end of the text has been read before, too. -/
theorem Position.Reads.blames_last {inside : List Token} (reads : state.position.Reads inside)
    (tokens_known : Known known inside)
    (refused : lastStatements state = .error (.wrongType error place)) :
    known place := by
  -- Nothing but the last statement can be refused.
  have settled_of_map {settled : Except Refusal LoopLang.Statement}
      (refused : (settled.map fun statement => some (state.statements ++ [statement])) =
        .error (.wrongType error place)) : settled = .error (.wrongType error place) := by
    cases settled <;> cases refused
    rfl
  obtain ⟨blocks, statements, position⟩ := state
  cases reads with
  | ended statement built => exact settled_known tokens_known built (settled_of_map refused)
  | closed owner_read block built =>
    obtain ⟨whole, written, builds⟩ := owner_read.close block
    exact settled_known (written ▸ tokens_known) (builds built) (settled_of_map refused)
  | _ => cases refused

/-- Known places of tokens are those of what has been read. -/
theorem State.Reads.exists_inside (reads : state.Reads before) :
    ∃ inside, state.position.Reads inside ∧ ∀ token ∈ inside, token ∈ before := by
  obtain ⟨outside, inside, complete, -, -, position_read, rfl⟩ := reads
  exact ⟨inside, position_read, fun token member => List.mem_append_right _ member⟩

/-! The error that is reported. -/

/-- A token that is not expected is reported, whatever follows it. -/
theorem Reaches.parse_expected {kinds : List TokenKind} (reaches : Reaches before state)
    (refused : Parser.step state token = .error (.expected kinds)) (other : List Token)
    (ending : ScanEnd) :
    Scan.parse ⟨before ++ token :: other, ending⟩ = .error
      (unexpected before.getLast? token kinds) := by
  rw [Scan.parse, reaches.runs, run, refused]

/-- So is a type name that is refused. -/
theorem Reaches.parse_wrongType (reaches : Reaches before state)
    (refused : Parser.step state token = .error (.wrongType error place)) (other : List Token)
    (ending : ScanEnd) :
    Scan.parse ⟨before ++ token :: other, ending⟩ = .error ⟨.wrongType error, place⟩ := by
  rw [Scan.parse, reaches.runs, run, refused]

/-- What is reported of tokens that can all be read is found at the end. -/
theorem Reaches.parse_end (reaches : Reaches before state) (ending : ScanEnd) :
    Scan.parse ⟨before, ending⟩ = complete state ending := by
  have runs := reaches.runs ending []
  rwa [List.append_nil] at runs

/-- What can be wrong at the end of a text. -/
theorem complete_error {ending : ScanEnd} {found : ParseError}
    (failed : complete state ending = .error found) :
    (∃ char place, ending = .illegal char place ∧ found = ⟨.illegalCharacter char, place⟩) ∨
      ending = .complete ∧ (found = ⟨.unexpectedEnd, .unknown⟩ ∨
        ∃ cause place, found = ⟨.wrongType cause, place⟩ ∧ lastStatements state = .error
          (.wrongType cause place)) := by
  cases ending with
  -- An illegal character is reported whatever the state.
  | illegal char place =>
    cases failed
    exact .inl ⟨char, place, rfl, rfl⟩
  -- At the end either the sentence is not complete, or its last name of a type is wrong.
  | complete =>
    refine .inr ⟨rfl, ?_⟩
    unfold complete finish at failed
    cases last : lastStatements state with
    | ok statements =>
      rw [last] at failed
      dsimp only [Except.map] at failed
      generalize (if state.blocks.isEmpty then statements.map Program.mk else none) =
        program at failed
      cases program <;> cases failed
      exact .inl rfl
    | error refusal =>
      rw [last] at failed
      cases refusal with
      | expected kinds =>
        cases failed
        exact .inl rfl
      | wrongType cause place =>
        cases failed
        exact .inr ⟨cause, place, rfl, rfl⟩

/-- A type name that is refused stands where one of the tokens in front of it does. -/
theorem Reaches.exists_named (reaches : Reaches before state)
    (refused : Parser.step state token = .error (.wrongType error place)) :
    ∃ word ∈ before, word.place = place := by
  obtain ⟨inside, reads, members⟩ := reaches.reads.exists_inside
  exact @Position.Reads.blames state token
    (fun place => ∃ word ∈ before, word.place = place) error place inside reads
    (fun word member => ⟨word, members word member, rfl⟩) refused

end Parser

/-- Errors that name a token which is not expected, or the word in front of it. -/
def ParseCause.RefusesToken : ParseCause → Prop
  | .unexpectedToken .. | .misspelledKeyword .. => True
  | .illegalCharacter _ | .unexpectedEnd | .wrongType _ => False

/-- Errors of syntax are found as early as they can be. -/
structure Program.DetectsEarly (text : String) : Prop where
  /-- A token that is refused breaks the text, and the error is the same whatever follows it. -/
  at_token : ∀ error, Program.parse text = .error error → error.cause.RefusesToken →
    ∃ before token after kinds,
    (scan text).tokens = before ++ token :: after ∧ Grammar.Breaks before token ∧
      error = unexpected before.getLast? token kinds ∧
      ∀ other ending, Scan.parse ⟨before ++ token :: other, ending⟩ = .error error
  /-- An end that is not expected comes behind the beginning of a program that is no program. -/
  at_end : ∀ error, Program.parse text = .error error → error.cause = .unexpectedEnd →
    (scan text).ending = .complete ∧ Grammar.IsPrefix (scan text).tokens ∧ ¬ Grammar.IsSentence
    (scan text).tokens
  /-- Where a token breaks the text, it is refused, unless a type name in front of it is; what
  follows does not matter. -/
  first : ∀ before token after, (scan text).tokens = before ++ token :: after →
    Grammar.Breaks before token → ∃ error, Program.parse text = .error error ∧
      (∀ other ending, Scan.parse ⟨before ++ token :: other, ending⟩ = .error error) ∧
      ((∃ kinds, error = unexpected before.getLast? token kinds) ∨
        (∃ cause, error.cause = .wrongType cause) ∧ ∃ word ∈ before, word.place = error.place)

namespace Program

variable {text : String} {error : ParseError} {before after : List Token} {token : Token}

/-- What is reported of a token that is not expected is no other error. -/
theorem unexpected_refusesToken (previous : Option Token) (token : Token) (kinds : List TokenKind) :
    (unexpected previous token kinds).cause.RefusesToken := by
  unfold unexpected
  split <;> trivial

/-- Where a token breaks a text, the text is refused there or before. -/
theorem parse_breaks (split : (scan text).tokens = before ++ token :: after)
    (breaks : Grammar.Breaks before token) :
    ∃ error, (∀ other ending, Scan.parse ⟨before ++ token :: other, ending⟩ = .error error) ∧
      ((∃ kinds, error = unexpected before.getLast? token kinds) ∨
        (∃ cause, error.cause = .wrongType cause) ∧ ∃ word ∈ before, word.place = error.place) := by
  rcases Reaches.start.exists_stop (scan text).tokens with
    ⟨final, read⟩ | ⟨more, refused, rest, final, refusal, same, read, stopped⟩
  -- Tokens of which one breaks the text cannot all be read.
  · rw [List.nil_append, split] at read
    exact absurd read.reads.isPrefix breaks.not_isPrefix
  · rw [List.nil_append] at read
    have whole : before ++ token :: after = more ++ refused :: rest := split.symm.trans same
    cases refusal with
    | expected kinds =>
      obtain ⟨rfl, rfl⟩ := breaks.unique (read.breaks stopped) whole
      exact ⟨_, read.parse_expected stopped, .inl ⟨kinds, rfl⟩⟩
    | wrongType cause place =>
      obtain ⟨between, rfl⟩ := breaks.isPrefix_before read.reads.isPrefix whole
      obtain ⟨word, member, named⟩ := read.exists_named stopped
      refine ⟨⟨.wrongType cause, place⟩, fun other ending => ?_,
        .inr ⟨⟨cause, rfl⟩, word, List.mem_append_left between member, named⟩⟩
      -- The token that is refused comes before the one that breaks the text, or is that one.
      have behind : between ++ token :: after = refused :: rest := by simpa using whole
      rw [List.append_assoc]
      cases between with
      | nil =>
        cases behind
        exact read.parse_wrongType stopped other ending
      | cons first between =>
        cases behind
        exact read.parse_wrongType stopped (between ++ token :: other) ending

/-- Whatever a text is, its errors of syntax are found as early as they can be. -/
theorem parse_detectsEarly (text : String) : DetectsEarly text where
  at_token error failed refuses := by
    have whole : Scan.parse ⟨(scan text).tokens, (scan text).ending⟩ = .error error := failed
    rcases Reaches.start.exists_stop (scan text).tokens with
      ⟨final, read⟩ | ⟨before, token, after, final, refusal, same, read, stopped⟩ <;>
        rw [List.nil_append] at read
    -- At the end no token is refused.
    · rw [read.parse_end] at whole
      rcases complete_error whole with ⟨_, _, _, rfl⟩ | ⟨_, rfl | ⟨_, _, rfl, _⟩⟩ <;>
        exact refuses.elim
    -- The token that is refused is the one that the error names.
    · rw [same] at whole
      cases refusal with
      | expected kinds =>
        cases (read.parse_expected stopped after _).symm.trans whole
        exact ⟨before, token, after, kinds, same, read.breaks stopped, rfl,
          read.parse_expected stopped⟩
      | wrongType cause place =>
        cases (read.parse_wrongType stopped after _).symm.trans whole
        exact refuses.elim
  at_end error failed ended := by
    have whole : Scan.parse ⟨(scan text).tokens, (scan text).ending⟩ = .error error := failed
    rcases Reaches.start.exists_stop (scan text).tokens with
      ⟨final, read⟩ | ⟨before, token, after, final, refusal, same, read, stopped⟩ <;>
        rw [List.nil_append] at read
    · rw [read.parse_end] at whole
      rcases complete_error whole with ⟨_, _, _, rfl⟩ | ⟨complete, rfl | ⟨_, _, rfl, _⟩⟩
      · cases ended
      · rw [complete] at whole
        exact ⟨complete, read.reads.isPrefix, read.not_isSentence whole⟩
      · cases ended
    -- In front of the end the error names a token, or a type name.
    · rw [same] at whole
      cases refusal with
      | expected kinds =>
        cases (read.parse_expected stopped after _).symm.trans whole
        have refuses := unexpected_refusesToken before.getLast? token kinds
        rw [ended] at refuses
        exact refuses.elim
      | wrongType cause place =>
        cases (read.parse_wrongType stopped after _).symm.trans whole
        cases ended
  -- Whatever stands behind the token, or ends the text, the error is the same.
  first before token after split breaks := by
    obtain ⟨error, stays, reported⟩ := parse_breaks split breaks
    refine ⟨error, ?_, stays, reported⟩
    have parsed := stays after (scan text).ending
    rwa [← split] at parsed

/-- A variable without a value, and an illegal character behind it: the semicolon is what breaks the
text. -/
theorem missing_value_detected : DetectsEarly "var x = ; ?" ∧ ∃ before token after kinds,
    (scan "var x = ; ?").tokens = before ++ token :: after ∧ token.lexeme = .mark .semicolon ∧
      Grammar.Breaks before token ∧ Program.parse "var x = ; ?" = .error
        (unexpected before.getLast? token kinds) := by
  have detects := parse_detectsEarly "var x = ; ?"
  -- Evaluated once: the semicolon is refused where a value should start.
  have failed : (match Program.parse "var x = ; ?" with
      | .ok _ => false
      | .error error =>
        decide (error.cause = .unexpectedToken (.mark .semicolon) expressionStarts)) = true := by
    decide +kernel
  refine ⟨detects, ?_⟩
  cases parsed : Program.parse "var x = ; ?" with
  | ok program =>
    rw [parsed] at failed
    cases failed
  | error error =>
    rw [parsed] at failed
    have cause : error.cause = .unexpectedToken (.mark .semicolon) expressionStarts :=
      of_decide_eq_true failed
    obtain ⟨before, token, after, kinds, split, breaks, rfl, -⟩ :=
      detects.at_token error parsed (cause ▸ trivial)
    refine ⟨before, token, after, kinds, split, ?_, breaks, rfl⟩
    -- An error that blames the word in front of the token says so.
    unfold unexpected at cause
    split at cause
    · cases cause
    · exact (ParseCause.unexpectedToken.inj cause).1

end Program

end LoopLang
