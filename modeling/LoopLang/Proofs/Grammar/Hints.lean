import LoopLang.Proofs.Grammar.Detection
import LoopLang.Proofs.Grammar.Parentheses

/-!
Hints at tokens that were expected. They are read off what may follow a phrase anywhere, and not off
the phrases around it. All the same every token that they name can stand where the refused one does,
but for a semicolon in an open parenthesis.
-/

namespace LoopLang

open LoopLang.Parser
open Grammar (Leaf IsPrefix BeginsStatement)

/-- The kinds of tokens that a hint speaks of: a semicolon that might be missing, or the first five
that were expected. -/
def ParseCause.named : ParseCause → List TokenKind
  | .unexpectedToken lexeme expected =>
    if lexeme.isKeyword && expected.contains (.mark .semicolon) then [.mark .semicolon]
      else expected.take 5
  | _ => []

/-- How a hint says that a semicolon might be missing, or that one of some kinds was expected. -/
def ParseCause.Says (cause : ParseCause) (kinds : List TokenKind) : Prop :=
  cause.hint = some "Check the previous line. You might be missing a semicolon ';'." ∧
    kinds = [.mark .semicolon] ∨
    cause.hint = some ("Expected one of: " ++ ", ".intercalate (kinds.map TokenKind.description))

/-- The hint at a refused token names these kinds, and without any there is no hint. -/
theorem ParseCause.says_named (lexeme : Lexeme) (expected : List TokenKind) :
    if expected = [] then (unexpectedToken lexeme expected).hint = none
    else (unexpectedToken lexeme expected).Says (unexpectedToken lexeme expected).named := by
  -- A reserved word where a semicolon could stand: only the semicolon is named.
  by_cases missing : lexeme.isKeyword ∧ .mark .semicolon ∈ expected
  · rw [if_neg (List.ne_nil_of_mem missing.2)]
    exact .inl (by simp [hint, named, missing])
  · have listed : (lexeme.isKeyword && expected.contains (.mark .semicolon)) = false := by
      simpa using missing
    -- Else the hint lists up to five tokens of those expected.
    cases expected with
    | nil => simp [hint, expectedHint]
    | cons first rest =>
      rw [if_neg (List.cons_ne_nil first rest)]
      refine .inr ?_
      simp only [hint, named, listed, Bool.false_eq_true, if_false, expectedHint]
      simp

namespace Parser

variable {state : State} {token next : Token} {kinds expected : List TokenKind} {lexeme : Lexeme}
  {kind : TokenKind}

/-- What a hint speaks of was expected. -/
theorem mem_of_named (spoken : kind ∈ (ParseCause.unexpectedToken lexeme kinds).named) :
    kind ∈ kinds := by
  dsimp only [ParseCause.named] at spoken
  split at spoken
  -- A semicolon is named alone, and only if it was expected.
  · rename_i missing
    have member : .mark .semicolon ∈ kinds := by simpa using (Bool.and_eq_true_iff.mp missing).2
    cases List.mem_singleton.mp spoken
    exact member
  · exact List.mem_of_mem_take spoken

/-- Where more than five kinds were expected, a hint speaks of the first five at most, or of a
semicolon. -/
theorem mem_take_of_named (spoken : kind ∈ (ParseCause.unexpectedToken lexeme kinds).named) :
    kind = .mark .semicolon ∨ kind ∈ kinds.take 5 := by
  dsimp only [ParseCause.named] at spoken
  split at spoken
  · exact .inl (List.mem_singleton.mp spoken)
  · exact .inr spoken

/-! Which tokens a step reads. -/

/-- A step reads the tokens of some kinds, and says of all others that these were expected. -/
def Expects (result : Token → Except Refusal State) (kinds : List TokenKind) : Prop :=
  ∀ token, if token.kind ∈ kinds then ∃ state, result token = .ok state
    else result token = refuse kinds

namespace Expects

variable {result : Token → Except Refusal State}

/-- Tokens of these kinds are read. -/
theorem accepts (expects : Expects result kinds) (member : next.kind ∈ kinds) :
    ∃ state, result next = .ok state := by
  simpa [member] using expects next

/-- What is said of a refused token are these kinds. -/
theorem refused (expects : Expects result kinds)
    (failed : result token = .error (.expected expected)) : expected = kinds := by
  have settled := expects token
  -- A token of some other kind is refused with all the kinds, one of these is not refused.
  split at settled
  · obtain ⟨state, read⟩ := settled
    cases read.symm.trans failed
  · cases settled.symm.trans failed
    rfl

/-- It is enough to look at each lexeme. -/
theorem of_lexeme (settled : ∀ (lexeme : Lexeme) (offset : Nat) (place : Location),
    if lexeme.kind ∈ kinds then ∃ state, result ⟨lexeme, offset, place⟩ = .ok state
    else result ⟨lexeme, offset, place⟩ = refuse kinds) : Expects result kinds :=
  fun ⟨lexeme, offset, place⟩ => settled lexeme offset place

end Expects

/-- What is expected at a position within a statement that no expression is open in. -/
def Position.row : Position → List TokenKind
  | .functionName _ | .parameterName _ | .parameterType .. | .resultType _ | .variableName _
  | .variableType .. =>
    [.identifier]
  | .functionOpen .. | .conditionOpen _ => [.mark .leftParen]
  | .parametersStart _ => [.mark .rightParen, .identifier]
  | .parameterColon .. => [.mark .colon]
  | .resultStart _ => [.mark .arrow, .mark .leftBrace]
  | .functionBody .. | .bodyOpen .. => [.mark .leftBrace]
  | .variableNext .. => [.mark .colon, .mark .equal]
  | .variableEqual .. => [.mark .equal]
  | .elseNext .. => [.mark .leftBrace, .keyword .if]
  | .labelNext _ => [.keyword .loop]
  | .jumpNext .. => [.mark .semicolon, .identifier]
  | .jumpEnd .. => [.mark .semicolon]
  -- Elsewhere more than one row of tokens may be expected.
  | _ => []

/-- Within a row of tokens the next one of them is expected. -/
theorem Position.step_row (blocks : List OpenBlock) (statements : List Statement)
    {position : Position} (within : position.row ≠ []) :
    Expects (step ⟨blocks, statements, position⟩) position.row := by
  refine .of_lexeme fun lexeme offset place => ?_
  cases position with
  -- Whose body it is decides on what is opened, not on the token.
  | bodyOpen head condition =>
    rcases lexeme with _ | _ | sign | reserved
    case mark => cases sign <;> cases head <;> first | exact ⟨_, rfl⟩ | rfl
    all_goals cases head <;> rfl
  | blockStart | ended | closed | parameterEnd | expression | operand | afterName
  | afterOperand => exact absurd rfl within
  -- At all other positions the token alone decides.
  | _ =>
    rcases lexeme with _ | _ | sign | reserved
    case mark => cases sign <;> first | exact ⟨_, rfl⟩ | rfl
    case keyword => cases reserved <;> first | exact ⟨_, rfl⟩ | rfl
    all_goals first | exact ⟨_, rfl⟩ | rfl

/-- Of a row with a semicolon in it, every token can be read wherever no parenthesis is open. -/
theorem Position.depth_row {position : Position} (member : .mark .semicolon ∈ position.row) :
    position.depth = 0 := by
  cases position <;> first | rfl | simp [Position.row] at member

/-! Which tokens are read in an expression. -/

variable {role : NameRole} {purpose : Purpose} {opened : OpenExpression}
  {brackets : List (Bracket × Pending)}

/-- What is expected behind an expression that fills its innermost parenthesis, or behind a whole
one. -/
def endExpected (purpose : Purpose) : List (Bracket × Pending) → List TokenKind
  | (.group, _) :: _ => [.mark .rightParen]
  | (.call _ _, _) :: _ => [.mark .comma, .mark .rightParen]
  | [] => [.mark purpose.closing]

/-- Behind an expression its innermost parenthesis is closed, or what it is for goes on. -/
theorem endExpression_row (value : Expression) (purpose : Purpose)
    (brackets : List (Bracket × Pending)) (state : State) :
    Expects (endExpression value purpose brackets state) (endExpected purpose brackets) := by
  refine .of_lexeme fun lexeme offset place => ?_
  rcases brackets with _ | ⟨⟨_ | _, pending⟩, rest⟩
  -- A whole expression ends as its purpose says.
  · rcases purpose with _ | ⟨_, _, _ | _⟩ | _ | _ <;> rcases lexeme with _ | _ | sign | reserved
    all_goals first | rfl | (cases sign <;> first | exact ⟨_, rfl⟩ | rfl)
  all_goals
    rcases lexeme with _ | _ | sign | reserved
    case mark => cases sign <;> first | exact ⟨_, rfl⟩ | rfl
    all_goals rfl

/-- A semicolon ends an expression exactly if no parenthesis is open. -/
theorem semicolon_mem_endExpected :
    .mark .semicolon ∈ endExpected purpose brackets ↔ purpose.depth + brackets.length = 0 := by
  rcases brackets with _ | ⟨⟨_ | _, pending⟩, rest⟩
  · cases purpose <;> simp [endExpected, Purpose.closing, Purpose.depth]
  · simp [endExpected]
  · simp [endExpected]

/-- What ends an expression is one of three marks. -/
theorem endExpected_subset (purpose : Purpose) (brackets : List (Bracket × Pending)) :
    endExpected purpose brackets ⊆ [.mark .semicolon, .mark .rightParen, .mark .comma] := by
  rcases brackets with _ | ⟨⟨_ | _, pending⟩, rest⟩
  · cases purpose <;> simp [endExpected, Purpose.closing]
  · simp [endExpected]
  · simp [endExpected]

/-- Behind an operand, an operator can be read anywhere. -/
theorem followOperand_operator
    (member : next.kind ∈ [.mark .star, .mark .slash, .mark .plus, .mark .minus])
    (expected : List TokenKind) (operand : Expression) (purpose : Purpose)
    (opened : OpenExpression) (state : State) :
    ∃ final, followOperand expected operand purpose opened state next = .ok final := by
  obtain ⟨lexeme, offset, place⟩ := next
  rcases lexeme with _ | _ | sign | reserved
  -- Behind an operand each of the four signs begins a further one.
  case mark => cases sign <;> first | exact ⟨_, rfl⟩ | simp [Token.kind, Lexeme.kind] at member
  all_goals simp [Token.kind, Lexeme.kind] at member

/-- A mark that may follow the operand is read if the expression may end with it. -/
theorem followOperand_mark
    (member : next.kind ∈ [.mark .semicolon, .mark .rightParen, .mark .comma])
    (follows : next.kind ∈ expected) (operand : Expression) (purpose : Purpose)
    (opened : OpenExpression) (state : State) :
    followOperand expected operand purpose opened state next =
      endExpression (opened.pending.close operand) purpose opened.brackets state next := by
  have contained : expected.contains next.kind = true := by simpa using follows
  obtain ⟨lexeme, offset, place⟩ := next
  rcases lexeme with _ | _ | sign | reserved
  -- Of the three signs, each one ends an expression or is refused there.
  case mark =>
    cases sign
    case semicolon | rightParen | comma => exact if_pos contained
    all_goals simp [Token.kind, Lexeme.kind] at member
  all_goals simp [Token.kind, Lexeme.kind] at member

/-- What is said of a token behind an operand depends on the operand, or on what the expression may
end with. -/
theorem followOperand_refused {operand : Expression}
    (refused : followOperand expected operand purpose opened state token = .error
      (.expected kinds)) :
    kinds = expected ∨ kinds = endExpected purpose opened.brackets := by
  unfold followOperand at refused
  dsimp only at refused
  split at refused
  -- A sign that may end the expression is refused by what is around it.
  case h_5 | h_6 | h_7 =>
    split at refused
    · exact .inr ((endExpression_row _ purpose opened.brackets state).refused refused)
    · cases refused
      exact .inl rfl
  case h_8 =>
    cases refused
    exact .inl rfl
  all_goals cases refused

/--
Of the kinds that a hint behind an operand speaks of, operators can be read anywhere, and the other
marks where the expression can end with them.
-/
theorem followOperand_fits {operand : Expression}
    (ends : endExpected purpose opened.brackets ⊆ expected)
    (spoken : next.kind ∈ [.mark .star, .mark .slash, .mark .plus, .mark .minus] ∨
      next.kind = .mark .semicolon ∧ .mark .semicolon ∈ expected ∨
      next.kind ∈ endExpected purpose opened.brackets) :
    (∃ final, followOperand expected operand purpose opened state next = .ok final) ↔
      (next.kind = .mark .semicolon → purpose.depth + opened.brackets.length = 0) := by
  have row := endExpression_row (opened.pending.close operand) purpose opened.brackets state
  -- An operator goes on, a semicolon needs all brackets closed, and any other sign ends what is
  -- open.
  rcases spoken with operator | ⟨semicolon, follows⟩ | member
  · refine iff_of_true (followOperand_operator operator ..) fun semicolon => ?_
    rw [semicolon] at operator
    simp at operator
  · rw [followOperand_mark (by simp [semicolon]) (semicolon ▸ follows)]
    have settled := row next
    rw [semicolon] at settled
    -- The semicolon ends an expression exactly when no bracket is open.
    have ends : .mark .semicolon ∈ endExpected purpose opened.brackets ↔
        purpose.depth + opened.brackets.length = 0 :=
      semicolon_mem_endExpected
    simp only [semicolon, true_implies, ← ends]
    split at settled
    · exact iff_of_true settled ‹_›
    · refine iff_of_false (fun ⟨final, read⟩ => ?_) ‹_›
      cases settled.symm.trans read
  · rw [followOperand_mark (endExpected_subset _ _ member) (ends member)]
    refine iff_of_true (row.accepts member) fun semicolon => ?_
    rw [semicolon] at member
    exact semicolon_mem_endExpected.mp member

/-- So it is behind an identifier, where a parenthesis, a colon or an equal sign may follow, too. -/
theorem followName_fits {name : Identifier}
    (outermost : role = .statement → purpose = .evaluate ∧ opened.brackets = [])
    (refused : followName role name purpose opened state token = .error (.expected kinds))
    (spoken : next.kind ∈ (ParseCause.unexpectedToken token.lexeme kinds).named) :
    (∃ final, followName role name purpose opened state next = .ok final) ↔
      (next.kind = .mark .semicolon → purpose.depth + opened.brackets.length = 0) := by
  -- What may end the expression may stand behind the name as well.
  have ends : endExpected purpose opened.brackets ⊆ nameFollows role := by
    cases role with
    | statement =>
      obtain ⟨rfl, closed⟩ := outermost rfl
      simp [closed, endExpected, Purpose.closing, nameFollows]
    | expression | operand => exact List.Subset.trans (endExpected_subset _ _) (by decide)
  -- The marks that make a label, a target or a callee of the identifier are read at once.
  by_cases named : next.kind = .mark .colon ∧ role = .statement ∨ next.kind = .mark .equal ∧
    role ≠ .operand
  · obtain ⟨lexeme, offset, place⟩ := next
    rcases named with ⟨colon, rfl⟩ | ⟨equal, assigned⟩
    · cases lexeme <;> cases colon
      exact iff_of_true ⟨_, rfl⟩ (by intro same; cases same)
    · cases lexeme <;> cases equal
      cases role
      case operand => exact absurd rfl assigned
      all_goals exact iff_of_true ⟨_, rfl⟩ (by intro same; cases same)
  -- All others are read as behind any operand.
  · have spoken_operand : next.kind ∈ [.mark .star, .mark .slash, .mark .plus, .mark .minus] ∨
        next.kind = .mark .semicolon ∧ .mark .semicolon ∈ nameFollows role ∨
          next.kind ∈ endExpected purpose opened.brackets := by
      have said : kinds = nameFollows role ∨ kinds = endExpected purpose opened.brackets := by
        unfold followName at refused
        split at refused
        case h_5 => exact followOperand_refused refused
        all_goals cases refused
      rcases said with rfl | rfl
      · rcases mem_take_of_named spoken with semicolon | visible
        · exact .inr (.inl ⟨semicolon, semicolon ▸ mem_of_named spoken⟩)
        · cases role <;> simp [nameFollows] at visible named ⊢ <;> grind
      · exact .inr (.inr (mem_of_named spoken))
    have same : followName role name purpose opened state next =
        followOperand (nameFollows role)
        (.identifier name.place name.name) purpose opened state next := by
      -- A bracket would make a callee of the name, but no hint names it.
      have other : next.kind ≠ .mark .leftParen := by
        intro paren
        rcases spoken_operand with operator | ⟨semicolon, -⟩ | member
        · simp [paren] at operator
        · simp [paren] at semicolon
        · have marks := endExpected_subset _ _ member
          simp [paren] at marks
      obtain ⟨lexeme, offset, place⟩ := next
      unfold followName
      split
      case h_5 => rfl
      all_goals simp_all [Token.kind, Lexeme.kind]
    rw [same]
    exact followOperand_fits ends spoken_operand

/-- The token behind any other operand. -/
theorem afterOperand_fits {operand : Expression}
    (refused : followOperand operandFollows operand purpose opened state token = .error
      (.expected kinds))
    (spoken : next.kind ∈ (ParseCause.unexpectedToken token.lexeme kinds).named) :
    (∃ final, followOperand operandFollows operand purpose opened state next = .ok final) ↔
      (next.kind = .mark .semicolon → purpose.depth + opened.brackets.length = 0) := by
  refine followOperand_fits (List.Subset.trans (endExpected_subset _ _) (by decide)) ?_
  rcases followOperand_refused refused with rfl | rfl
  -- Of the row behind an operand, the first five are operators.
  · rcases mem_take_of_named spoken with semicolon | visible
    · exact .inr (.inl ⟨semicolon, by decide⟩)
    · simp [operandFollows] at visible ⊢
      grind
  · exact .inr (.inr (mem_of_named spoken))

/-! Which tokens are read where an operand or a statement starts. -/

/-- An operand starts with any of its tokens. -/
theorem startOperand_row (same : ∀ kind, kind ∈ expected ↔ kind ∈ operandStarts) (role : NameRole)
    (purpose : Purpose) (opened : OpenExpression) (state : State) :
    Expects (startOperand role expected purpose opened state) expected := by
  intro token
  simp only [same]
  obtain ⟨lexeme, offset, place⟩ := token
  rcases lexeme with _ | _ | sign | reserved
  -- Token by token: read, or refused with the row.
  case mark => cases sign <;> first | exact ⟨_, rfl⟩ | rfl
  case keyword => cases reserved <;> first | exact ⟨_, rfl⟩ | rfl
  all_goals exact ⟨_, rfl⟩

/-- A statement starts with any of its own; within a block the block may end as well. -/
theorem startStatement_row (state : State) :
    Expects (startStatement state)
      (if state.blocks = [] then statementStarts else blockStarts) := by
  refine .of_lexeme fun lexeme offset place => ?_
  obtain ⟨blocks, statements, position⟩ := state
  -- Inside of a block a closing brace is expected as well, so the two rows differ.
  cases blocks <;> rcases lexeme with _ | _ | sign | reserved
  case nil.mark | cons.mark => cases sign <;> first | exact ⟨_, rfl⟩ | rfl
  case nil.keyword | cons.keyword => cases reserved <;> first | exact ⟨_, rfl⟩ | rfl
  all_goals exact ⟨_, rfl⟩

/-- Where an expression starts, the phrase that could end at once is known. -/
theorem Position.Reads.startExpression_row {start : ExpressionStart} {inside : List Token}
    (reads : (Position.expression start purpose opened).Reads inside) (state : State) :
    Expects (startExpression start purpose opened state) (startExpected start) := by
  refine .of_lexeme fun lexeme offset place => ?_
  -- Each of the places where an expression may start has a row of its own.
  cases reads <;> rcases lexeme with _ | _ | sign | reserved
  case expression.mark | result.mark | argument.mark => cases sign <;> first | exact ⟨_, rfl⟩ | rfl
  case expression.keyword | result.keyword | argument.keyword =>
    cases reserved <;>
      first | exact ⟨_, rfl⟩ | rfl
  all_goals exact ⟨_, rfl⟩

/-! Positions within statements. -/

/-- What is expected by a row is read, if a semicolon in it is read only where no parenthesis is
open. -/
theorem Expects.fits {result : Token → Except Refusal State} {depth : Nat}
    (expects : Expects result expected) (refused : result token = .error (.expected kinds))
    (spoken : next.kind ∈ (ParseCause.unexpectedToken token.lexeme kinds).named)
    (outermost : .mark .semicolon ∈ expected → depth = 0) :
    (∃ final, result next = .ok final) ↔ (next.kind = .mark .semicolon → depth = 0) := by
  have member := mem_of_named spoken
  rw [expects.refused refused] at member
  -- A named kind is always accepted, and a semicolon is named outside of brackets only.
  exact iff_of_true (expects.accepts member) fun semicolon => outermost (semicolon ▸ member)

/-- Within a statement, what a hint speaks of is read, a semicolon only where no parenthesis is
open. -/
theorem Position.Reads.fits {blocks : List OpenBlock} {statements : List Statement}
    {position : Position} {inside : List Token} (reads : position.Reads inside)
    (within : position.isEnd = false)
    (refused : step ⟨blocks, statements, position⟩ token = .error (.expected kinds))
    (spoken : next.kind ∈ (ParseCause.unexpectedToken token.lexeme kinds).named) :
    (∃ final, step ⟨blocks, statements, position⟩ next = .ok final) ↔
      (next.kind = .mark .semicolon → position.depth = 0) := by
  cases reads with
  | ended | closed | parameterEnd => cases within
  | blockStart =>
    exact (startStatement_row ⟨blocks, statements, .blockStart⟩).fits refused spoken fun _ => rfl
  -- Without a result, the end of a function may come at once, and then nothing is open.
  | result leaf =>
    exact ((Position.Reads.result leaf).startExpression_row _).fits refused spoken fun _ => rfl
  | expression purpose_read brackets_read targets_read =>
    exact ((Position.Reads.expression purpose_read brackets_read targets_read).startExpression_row
      _).fits refused spoken (by simp [startExpected, expressionStarts])
  | argument purpose_read brackets_read pending_read callee leftParen =>
    exact ((Position.Reads.argument purpose_read brackets_read pending_read callee
      leftParen).startExpression_row _).fits
      refused spoken (by simp [startExpected, expressionStarts])
  | @operand purpose opened =>
    have row := startOperand_row (fun _ => Iff.rfl) .operand purpose opened
      ⟨blocks, statements, .operand purpose opened⟩
    exact row.fits refused spoken (by simp [operandStarts])
  -- Behind names and operands, what may follow depends on the brackets that are open.
  | afterStatementName name => exact followName_fits (fun _ => ⟨rfl, rfl⟩) refused spoken
  | afterExpressionName | afterOperandName =>
    exact followName_fits (by intro same; cases same) refused spoken
  | afterOperand => exact afterOperand_fits refused spoken
  | _ =>
    exact Expects.fits (Position.step_row blocks statements (by simp [Position.row])) refused spoken
      Position.depth_row

/-! Positions behind statements and parameters, where a misnamed type does not matter to the
grammar. -/

/-- What starts a statement begins a program. -/
theorem isPrefix_of_starts (starts : next.kind ∈ statementStarts) : IsPrefix [next] := by
  obtain ⟨state, read⟩ := (startStatement_row .start).accepts starts
  exact (Reaches.start.step read).reads.isPrefix

/-- Behind statements there can be others. -/
theorem exists_tokens_append (first : Grammar.Statements) :
    ∀ second : Grammar.Statements, ∃ whole : Grammar.Statements,
      whole.tokens = first.tokens ++ second.tokens
  | .empty => ⟨first, by simp [Grammar.Statements.tokens]⟩
  | .more before last => by
    obtain ⟨whole, written⟩ := exists_tokens_append first before
    exact ⟨.more whole last, by simp [Grammar.Statements.tokens, written]⟩

/-- Behind a complete statement, another one can start. -/
theorem ReadsBlocks.isPrefix_starts {blocks : List OpenBlock} {outside : List Token}
    (reads : ReadsBlocks blocks outside) (complete : Grammar.Statements)
    (statement : Grammar.Statement) (starts : next.kind ∈ statementStarts) :
    IsPrefix (outside ++ complete.tokens ++ statement.tokens ++ [next]) := by
  obtain ⟨rest, tree, written⟩ := isPrefix_of_starts starts
  -- One more statement in the innermost block, and then that block is closed.
  obtain ⟨whole, whole_written⟩ := exists_tokens_append (.more complete statement) tree
  refine (reads.complete whole).of_isPrefix ⟨rest, ?_⟩
  simp [whole_written, written, Grammar.Statements.tokens]

/-- What is said of a token behind a complete statement that it does not belong to. -/
theorem settled_expected {settled : Except Refusal Statement}
    (settles : ∀ kinds, settled ≠ .error (.expected kinds))
    (follows : token.kind ∈ statementFollows)
    (refused : (settled >>= fun statement => startStatement (state.push statement) token) = .error
      (.expected kinds)) :
    kinds = statementStarts := by
  -- The statement itself expects nothing more, so the token was refused as the start of a new one.
  cases settled with
  | error refusal =>
    cases refused
    exact absurd rfl (settles kinds)
  | ok statement =>
    have row := startStatement_row (state.push statement)
    have said := row.refused refused
    split at said
    · exact said
    -- Within a block, whatever may follow a statement is read.
    · rename_i within
      rw [if_neg within] at row
      obtain ⟨final, read⟩ := row.accepts ((by decide : statementFollows ⊆ blockStarts) follows)
      cases read.symm.trans refused

/-- Errors of annotations do not say what was expected. -/
theorem annotated_settles {α β : Type} (place : Location) (read : Except AnnotationError α)
    (next : α → β) (kinds : List TokenKind) :
    (annotated place read >>= fun value => pure (next value)) ≠ .error (.expected kinds) := by
  cases read <;> nofun

/-- A statement that has ended expects no further token. -/
theorem endedStatement_settles (ended : Ended) (kinds : List TokenKind) :
    endedStatement ended ≠ .error (.expected kinds) := by
  cases ended with
  | statement statement => nofun
  | declaration place name type value => exact annotated_settles _ _ _ _

/-- Nor does one whose block is closed. -/
theorem closedStatement_settles (place : Location) (body : List Statement) (owner : Owner)
    (kinds : List TokenKind) :
    closedStatement place body owner ≠ .error (.expected kinds) := by
  rcases owner with _ | ⟨head, _ | type⟩ | _ | _ | _
  case function.some => exact annotated_settles _ _ _ _
  all_goals nofun

/-- What is expected behind a statement, the first kinds of which can start another one. -/
theorem starts_of_named
    (said : kinds = statementFollows ∨ kinds = braceFollows ∨ kinds = statementStarts)
    (spoken : kind ∈ (ParseCause.unexpectedToken lexeme kinds).named) : kind ∈ statementStarts := by
  -- A semicolon is in none of the rows, and the first five of each start a statement.
  rcases mem_take_of_named spoken with rfl | visible
  · have member := mem_of_named spoken
    rcases said with rfl | rfl | rfl <;>
      simp [braceFollows, statementFollows, statementStarts] at member
  · rcases said with rfl | rfl | rfl
    · exact (by decide : statementFollows.take 5 ⊆ statementStarts) visible
    · exact (by decide : braceFollows.take 5 ⊆ statementStarts) visible
    · exact (by decide : statementStarts.take 5 ⊆ statementStarts) visible

/-- Behind a parameter there may be another one, or the end of the parameters. -/
theorem ReadsParams.begins_separated {head : FunctionHead} {tokens : List Token}
    (reads : ReadsParams head tokens) (param : Grammar.Param)
    (separates : next.kind ∈ [.mark .comma, .mark .rightParen]) :
    BeginsStatement (tokens ++ param.tokens ++ [next]) := by
  obtain ⟨leaf, name, leftParen, params, -, -, written, -⟩ := reads.close param
  have marks : next.kind = .mark .comma ∨ next.kind = .mark .rightParen := by simpa using separates
  obtain ⟨lexeme, offset, place⟩ := next
  rw [written]
  -- Behind a comma one more parameter completes the function, behind a bracket only a body is
  -- missing.
  rcases marks with comma | rightParen
  · cases lexeme <;> cases comma
    refine ⟨.function (.declare leaf name leftParen
      (.list (.more params ⟨offset, place⟩ ⟨.added, .added, .added⟩)) .added
      .empty .added), (⟨.added, .added, .added⟩ : Grammar.Param).tokens ++
        Leaf.added.mark .rightParen :: Grammar.Block.added.tokens, ?_⟩
    simp [Grammar.Statement.tokens, Grammar.FunctionDeclaration.tokens, Grammar.Params.tokens,
      Grammar.ParamList.tokens, Grammar.ReturnType.tokens, Leaf.mark]
  · cases lexeme <;> cases rightParen
    refine ⟨.function (.declare leaf name leftParen (.list params) ⟨offset, place⟩ .empty .added),
      Grammar.Block.added.tokens, ?_⟩
    simp [Grammar.Statement.tokens, Grammar.FunctionDeclaration.tokens, Grammar.Params.tokens,
      Grammar.ReturnType.tokens, Leaf.mark]

/-- Behind a statement or a parameter, what a hint speaks of can stand, and it speaks of no
semicolon. -/
theorem State.Reads.fits_end {before : List Token} (reads : state.Reads before)
    (ends : state.position.isEnd = true)
    (refused : Parser.step state token = .error (.expected kinds))
    (spoken : next.kind ∈ (ParseCause.unexpectedToken token.lexeme kinds).named) :
    IsPrefix (before ++ [next]) ∧ next.kind ≠ .mark .semicolon := by
  obtain ⟨outside, inside, complete, blocks_read, -, position_read, rfl⟩ := reads
  obtain ⟨blocks, statements, position⟩ := state
  -- Behind a statement, the tokens that a hint can name start another one.
  have starts : ∀ statement : Grammar.Statement, statement.tokens = inside →
      kinds = statementFollows ∨ kinds = braceFollows ∨ kinds = statementStarts →
        IsPrefix (outside ++ complete.tokens ++ inside ++ [next]) ∧
        next.kind ≠ .mark .semicolon := by
    rintro statement rfl said
    have member := starts_of_named said spoken
    refine ⟨blocks_read.isPrefix_starts complete statement member, fun semicolon => ?_⟩
    rw [semicolon] at member
    simp [statementStarts] at member
  cases position_read with
  | ended statement built =>
    refine starts statement rfl ?_
    unfold Parser.step at refused
    dsimp only at refused
    split at refused
    · rename_i follows
      exact .inr
        (.inr (settled_expected (endedStatement_settles _) (by simpa using follows) refused))
    · cases refused
      exact .inl rfl
  | @closed owner own owner_read block place body built =>
    obtain ⟨whole, written, -⟩ := owner_read.close block
    refine starts whole written ?_
    by_cases alternative : token.lexeme = .keyword .else
    · obtain ⟨lexeme, offset, here⟩ := token
      subst alternative
      cases owner <;> cases refused
      all_goals exact .inl rfl
    · replace refused :=
        (@Grammar.step_closed ⟨blocks, statements, .closed place owner body⟩ token _ _ _
          alternative).symm.trans refused
      split at refused
      · rename_i brace
        refine .inr (.inr (settled_expected (closedStatement_settles _ _ _) ?_ refused))
        -- What may follow a brace but no statement is an alternative.
        have follows : token.kind ∈ statementFollows ∨ token.kind = .keyword .else := by
          simpa [braceFollows] using brace
        refine follows.resolve_right fun same => alternative ?_
        cases lexeme : token.lexeme <;> simp_all [Token.kind, Lexeme.kind]
      · cases refused
        exact .inr (.inl rfl)
  | @parameterEnd head own params_read param =>
    have separates : next.kind ∈ [.mark .comma, .mark .rightParen] := by
      -- Where a separator is refused, it is for the type name in front of it.
      have separator (isLast : Bool) (leaf : Leaf) : token ≠ leaf.mark
          (Grammar.separator isLast) := by
        rintro rfl
        have settles :=
          (@Grammar.step_separator ⟨blocks, statements, .blockStart⟩ head _
            ⟨_, _⟩ isLast leaf).symm.trans refused
        cases read : ValueKind.ofWord param.type.name <;> rw [read] at settles <;> cases settles
      have said : kinds = [.mark .comma, .mark .rightParen] := by
        obtain ⟨lexeme, offset, here⟩ := token
        rcases lexeme with _ | _ | sign | _
        case mark =>
          cases sign
          case comma => exact absurd rfl (separator false ⟨offset, here⟩)
          case rightParen => exact absurd rfl (separator true ⟨offset, here⟩)
          all_goals
            cases refused
            rfl
        all_goals
          cases refused
          rfl
      exact said ▸ mem_of_named spoken
    -- Behind a separator the function can still be completed.
    obtain ⟨statement, rest, begins⟩ := params_read.begins_separated param separates
    refine ⟨(blocks_read.complete (.more complete statement)).of_isPrefix ⟨rest, ?_⟩,
      fun semicolon => ?_⟩
    · simp [Grammar.Statements.tokens, begins]
    · simp [semicolon] at separates
  | _ => cases ends

/-- Wherever a token is refused, what a hint speaks of can stand, a semicolon exactly if no
parenthesis is open. -/
theorem Reaches.fits {before : List Token} (reaches : Reaches before state)
    (refused : Parser.step state token = .error (.expected kinds))
    (spoken : next.kind ∈ (ParseCause.unexpectedToken token.lexeme kinds).named) :
    IsPrefix (before ++ [next]) ↔ (next.kind = .mark .semicolon → openParens before = 0) := by
  cases ends : state.position.isEnd with
  | true =>
    obtain ⟨possible, other⟩ := reaches.reads.fits_end ends refused spoken
    exact iff_of_true possible fun semicolon => absurd semicolon other
  | false =>
    obtain ⟨blocks, statements, position⟩ := state
    -- Within a statement the parser can be asked: it refuses what cannot stand.
    have asked : IsPrefix (before ++ [next]) ↔ ∃ final,
        Parser.step ⟨blocks, statements, position⟩ next = .ok final := by
      refine ⟨fun possible => ?_, fun ⟨final, read⟩ => (reaches.step read).reads.isPrefix⟩
      cases read : Parser.step ⟨blocks, statements, position⟩ next with
      | ok final => exact ⟨final, rfl⟩
      | error refusal =>
        cases refusal with
        | expected others => exact absurd possible (reaches.breaks read).broken
        | wrongType error place => exact absurd read (NoTypeName.step ends error place)
    rw [asked, reaches.reads.openParens_eq]
    obtain ⟨outside, inside, complete, -, -, position_read, -⟩ := reaches.reads
    simpa using position_read.fits ends refused spoken

end Parser

namespace Program

variable {text : String} {error : ParseError}

/-- Where a token is refused, the parser has read what stands in front of it. -/
theorem exists_refused {lexeme : Lexeme} {expected : List TokenKind} {place : Location}
    (failed : Program.parse text = .error ⟨.unexpectedToken lexeme expected, place⟩) :
    ∃ before token after state,
      (scan text).tokens = before ++ token :: after ∧ token.lexeme = lexeme ∧
      token.place = place ∧ Reaches before state ∧ step state token = .error
        (.expected expected) := by
  have whole : Scan.parse ⟨(scan text).tokens, (scan text).ending⟩ = .error
      ⟨.unexpectedToken lexeme expected, place⟩ := failed
  rcases Reaches.start.exists_stop (scan text).tokens with
    ⟨final, read⟩ | ⟨before, token, after, final, refusal, same, read, stopped⟩ <;>
      rw [List.nil_append] at read
  -- At the end no token is refused.
  · rw [read.parse_end] at whole
    rcases complete_error whole with ⟨_, _, _, wrong⟩ | ⟨_, wrong | ⟨_, _, wrong, _⟩⟩ <;>
      cases wrong
  · rw [same] at whole
    cases refusal with
    | expected kinds =>
      have reported := Except.error.inj ((read.parse_expected stopped after _).symm.trans whole)
      -- It is not the word in front of the token that is blamed.
      unfold unexpected at reported
      split at reported <;> cases reported
      exact ⟨before, token, after, final, same, rfl, rfl, read, stopped⟩
    | wrongType cause place => cases (read.parse_wrongType stopped after _).symm.trans whole

/--
A hint names tokens that can stand where one was refused: what has been read begins a program with
any of them behind it. For a semicolon that is so exactly if no parenthesis is open there.
-/
theorem parse_hint_fits (failed : Program.parse text = .error error)
    (speaks : error.cause.named ≠ []) :
    error.cause.Says error.cause.named ∧
      ∃ before token after, (scan text).tokens = before ++ token :: after ∧
      Grammar.Breaks before token ∧
        token.place = error.place ∧ ∀ next : Token, next.kind ∈ error.cause.named →
          (IsPrefix (before ++ [next]) ↔
            (next.kind = .mark .semicolon → openParens before = 0)) := by
  obtain ⟨cause, place⟩ := error
  cases cause with
  -- Only this cause names any tokens.
  | unexpectedToken lexeme expected =>
    have stated := ParseCause.says_named lexeme expected
    rw [if_neg] at stated
    · obtain ⟨before, token, after, state, same, rfl, rfl, reaches, refused⟩ :=
        exists_refused failed
      exact ⟨stated, before, token, after, same, reaches.breaks refused, rfl,
        fun next spoken => reaches.fits refused spoken⟩
    -- Where nothing was expected, nothing is named.
    · rintro rfl
      simp [ParseCause.named] at speaks
  | _ => exact absurd rfl speaks

/-- A condition whose parenthesis is not closed: the hint names a semicolon, which cannot stand
there. -/
theorem unclosed_hint_fits :
    ∃ error, Program.parse "if (true \x7b" = .error error ∧ error.cause.named ≠ [] ∧
    error.cause.Says error.cause.named ∧
      ∃ before token after, (scan "if (true \x7b").tokens = before ++ token :: after ∧
      Grammar.Breaks before token ∧
        token.place = error.place ∧ ∀ next : Token, next.kind ∈ error.cause.named →
          (IsPrefix (before ++ [next]) ↔
            (next.kind = .mark .semicolon → openParens before = 0)) := by
  -- The brace stands where the bracket should be closed.
  have failed : (match Program.parse "if (true \x7b" with
      | .ok _ => false
      | .error error =>
        decide (error.cause = .unexpectedToken (.mark .leftBrace) operandFollows)) = true := by
    decide +kernel
  cases parsed : Program.parse "if (true \x7b" with
  | ok program =>
    rw [parsed] at failed
    cases failed
  | error error =>
    rw [parsed] at failed
    have cause : error.cause = .unexpectedToken (.mark .leftBrace) operandFollows :=
      of_decide_eq_true failed
    have speaks : error.cause.named ≠ [] := by rw [cause]; decide
    exact ⟨error, rfl, speaks, parse_hint_fits parsed speaks⟩

/-- So not everything that a hint names can stand where the refused token does. -/
theorem unclosed_hint_names_semicolon :
    ¬ ∀ (text : String) (error : ParseError) (before : List Token) (token : Token)
        (after : List Token) (next : Token),
      Program.parse text = .error error → (scan text).tokens = before ++ token :: after →
      Grammar.Breaks before token →
        next.kind ∈ error.cause.named → IsPrefix (before ++ [next]) := by
  intro claim
  have tokens : scan "if (true \x7b" = ⟨[⟨.keyword .if, 0, ⟨1, 1⟩⟩, ⟨.mark .leftParen, 3, ⟨1, 4⟩⟩,
      ⟨.keyword .true, 4, ⟨1, 5⟩⟩] ++ [⟨.mark .leftBrace, 9, ⟨1, 10⟩⟩], .complete⟩ := by
    decide +kernel
  -- The parser reads three tokens, and refuses the brace behind them.
  obtain ⟨state, reaches, refused⟩ : ∃ state,
    Reaches [⟨.keyword .if, 0, ⟨1, 1⟩⟩, ⟨.mark .leftParen, 3, ⟨1, 4⟩⟩,
      ⟨.keyword .true, 4, ⟨1, 5⟩⟩] state ∧
      Parser.step state ⟨.mark .leftBrace, 9, ⟨1, 10⟩⟩ = .error (.expected operandFollows) :=
    ⟨_, ((Reaches.start.step rfl).step rfl).step rfl, rfl⟩
  have parsed : Program.parse "if (true \x7b" = .error
      ⟨.unexpectedToken (.mark .leftBrace) operandFollows, ⟨1, 10⟩⟩ :=
    (congrArg Scan.parse tokens).trans (reaches.parse_expected refused [] .complete)
  let semicolon : Token := ⟨.mark .semicolon, 9, ⟨1, 10⟩⟩
  have spoken : semicolon.kind ∈
      (ParseCause.unexpectedToken (.mark .leftBrace) operandFollows).named := by decide
  -- The parenthesis in front of the condition is open.
  have possible := claim _ _ _ _ [] semicolon parsed (congrArg Scan.tokens tokens)
    (reaches.breaks refused) spoken
  exact absurd ((reaches.fits refused spoken).mp possible rfl) (by decide)

end Program

end LoopLang
