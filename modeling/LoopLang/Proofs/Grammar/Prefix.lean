import LoopLang.Proofs.Grammar.Parse

/-! Whatever a parser has read can be completed: the tokens so far are what some program begins
with. -/

namespace LoopLang

namespace Grammar

/-- Tokens that a program has, whatever the type names in it. -/
def IsSentence (tokens : List Token) : Prop := ∃ tree : Statements, tree.tokens = tokens

/-- Tokens that some program begins with. -/
def IsPrefix (tokens : List Token) : Prop := ∃ rest, IsSentence (tokens ++ rest)

/-- Tokens that some statement begins with. -/
def BeginsStatement (tokens : List Token) : Prop :=
  ∃ (statement : Statement) (rest : List Token), statement.tokens = tokens ++ rest

variable {tokens shorter : List Token}

/-- What a prefix begins with is a prefix. -/
theorem IsPrefix.of_isPrefix (reads : IsPrefix tokens) (begins : shorter <+: tokens) :
    IsPrefix shorter := by
  obtain ⟨more, rfl⟩ := begins
  obtain ⟨rest, sentence⟩ := reads
  exact ⟨more ++ rest, by rwa [← List.append_assoc]⟩

/-- What the beginning of a statement begins with is one. -/
theorem BeginsStatement.of_isPrefix (reads : BeginsStatement tokens) (begins : shorter <+: tokens) :
    BeginsStatement shorter := by
  obtain ⟨more, rfl⟩ := begins
  obtain ⟨statement, rest, written⟩ := reads
  exact ⟨statement, more ++ rest, by rw [written, List.append_assoc]⟩

/-! Phrases that complete others; their tokens stand nowhere. -/

/-- A token that is added. -/
def Leaf.added : Leaf := ⟨0, .unknown⟩

/-- An identifier that is added. -/
def Word.added : Word := ⟨.added, "x"⟩

/-- An operand that is added. -/
def Primary.added : Primary := .boolean .added true

/-- An expression that is added. -/
def Expression.added : Expression := .additive (.multiplicative (.primary .added))

/-- A block that is added. -/
def Block.added : Block := .braces .added .empty .added

end Grammar

namespace Parser

open Grammar (Leaf Word IsPrefix BeginsStatement)

variable {tokens before inside outside : List Token}

/-! Expressions. -/

/-- An expression in an open parenthesis is the last one if the parenthesis is closed behind it. -/
theorem Bracket.Reads.complete {bracket : Bracket} (reads : bracket.Reads tokens)
    (value : Grammar.Expression) :
    ∃ factor : Grammar.Primary,
      factor.tokens = tokens ++ value.tokens ++ [Leaf.added.mark .rightParen] := by
  -- A bracket is closed by a sign that is not in the text, behind the value that was read.
  cases reads with
  | group leftParen => exact ⟨.group leftParen value .added, rfl⟩
  | call callee leftParen => exact ⟨.call callee leftParen (.list (.single value)) .added, rfl⟩
  | more callee leftParen items comma =>
    exact ⟨.call callee leftParen (.list (.more items comma value)) .added,
      by simp [Grammar.Primary.tokens, Grammar.Args.tokens, Grammar.ArgList.tokens]⟩

/-- Behind an expression, the parentheses around it can be closed. -/
theorem ReadsBrackets.complete {brackets : List (Bracket × Pending)}
    (reads : ReadsBrackets brackets outside) (value : Grammar.Expression) :
    ∃ (whole : Grammar.Expression) (rest : List Token),
      whole.tokens = outside ++ value.tokens ++ rest := by
  -- From the innermost bracket outwards, each one is closed and completed by what is pending around
  -- it.
  induction reads generalizing value with
  | none => exact ⟨value, [], by simp⟩
  | more outer pending_read bracket_read ih =>
    obtain ⟨factor, factor_written⟩ := bracket_read.complete value
    obtain ⟨around, around_written, -⟩ := pending_read.close factor
    obtain ⟨whole, rest, written⟩ := ih around
    exact ⟨whole, Leaf.added.mark .rightParen ::
      rest, by simp [written, around_written, factor_written]⟩

/-- Behind an operand, the expression that it belongs to can be ended. -/
theorem OpenExpression.Reads.complete {opened : OpenExpression} (reads : opened.Reads inside)
    (factor : Grammar.Primary) :
    ∃ (whole : Grammar.Expression) (rest : List Token),
      whole.tokens = inside ++ factor.tokens ++ rest := by
  obtain ⟨brackets_read, pending_read⟩ := reads
  -- First the operators that wait, then the brackets around them.
  obtain ⟨value, value_written, -⟩ := pending_read.close factor
  obtain ⟨whole, rest, written⟩ := brackets_read.complete value
  exact ⟨whole, rest, by simp [written, value_written]⟩

/-! Statements. -/

/-- Behind what belongs to a block, the block can stand. -/
theorem Owner.Reads.begins {owner : Owner} (reads : owner.Reads tokens) (block : Grammar.Block) :
    BeginsStatement (tokens ++ block.tokens) := by
  obtain ⟨whole, written, -⟩ := reads.close block
  exact ⟨whole, [], by simp [written]⟩

/-- A condition can follow the words in front of it. -/
theorem Head.Reads.begins {head : Head} (reads : head.Reads tokens) (leftParen : Leaf)
    (condition : Grammar.Expression) (rightParen : Leaf) :
    BeginsStatement (tokens ++
      (leftParen.mark .leftParen :: condition.tokens ++ [rightParen.mark .rightParen])) := by
  -- Behind the condition an empty block is enough for a statement.
  cases head with
  | choice place outer =>
    exact (Owner.Reads.begins (.thenBranch reads leftParen condition rightParen) .added).of_isPrefix
      (by simp)
  | loop place label =>
    exact (Owner.Reads.begins (.loop reads leftParen condition rightParen) .added).of_isPrefix
      (by simp)

/-- An expression can follow what stands in front of it. -/
theorem Purpose.Reads.begins {purpose : Purpose} (reads : purpose.Reads before)
    (value : Grammar.Expression) :
    BeginsStatement (before ++ value.tokens) := by
  cases reads with
  | evaluate => exact ⟨.expression ⟨value, .added⟩, _, rfl⟩
  | plain leaf name equal => exact ⟨.variable (.plain leaf name equal value .added), _, rfl⟩
  | typed leaf name colon type equal =>
    exact ⟨.variable (.typed leaf name colon type equal value .added), _, rfl⟩
  | result leaf => exact ⟨.return (.value leaf value .added), _, rfl⟩
  -- A condition is not complete without its bracket.
  | condition head_read leftParen =>
    exact (head_read.begins leftParen value .added).of_isPrefix
      ⟨[Leaf.added.mark .rightParen], by simp⟩

/-- An operand can follow what stands in front of it. -/
theorem Purpose.Reads.begins_operand {purpose : Purpose} {opened : OpenExpression}
    (reads : purpose.Reads before) (opened_read : opened.Reads inside) (factor : Grammar.Primary) :
    BeginsStatement (before ++ inside ++ factor.tokens) := by
  obtain ⟨whole, rest, written⟩ := opened_read.complete factor
  exact (reads.begins whole).of_isPrefix ⟨rest, by simp [written]⟩

/-- A parameter can follow what stands in front of it. -/
theorem ReadsParams.begins {head : FunctionHead} (reads : ReadsParams head tokens)
    (param : Grammar.Param) :
    BeginsStatement (tokens ++ param.tokens) := by
  obtain ⟨leaf, name, leftParen, params, -, -, written, -⟩ := reads.close param
  rw [written]
  -- The list is closed behind this parameter, and the function gets an empty body.
  refine ⟨.function (.declare leaf name leftParen (.list params) .added .empty .added),
    Leaf.added.mark .rightParen :: Grammar.Block.added.tokens, ?_⟩
  simp [Grammar.Statement.tokens, Grammar.FunctionDeclaration.tokens, Grammar.Params.tokens,
    Grammar.ReturnType.tokens]

/-- A type name can follow the arrow behind a function. -/
theorem FunctionHead.Reads.begins {head : FunctionHead} (reads : head.Reads tokens) (arrow : Leaf)
    (type : Word) :
    BeginsStatement (tokens ++ [arrow.mark .arrow, type.token]) :=
  (Owner.Reads.begins (.typed reads arrow type) .added).of_isPrefix (List.prefix_append _ _)

/-- An alternative can follow the word in front of it. -/
theorem ReadsOuter.begins {choice : OuterChoice} {outer : List OuterChoice}
    (reads : ReadsOuter (choice :: outer) tokens) :
    BeginsStatement tokens :=
  (Owner.Reads.begins (.elseBranch reads) .added).of_isPrefix (List.prefix_append _ _)

/-- What has been read of a statement is the beginning of one. -/
theorem Position.Reads.begins {position : Position} (reads : position.Reads inside) :
    inside = [] ∨ BeginsStatement inside := by
  have param : Grammar.Param := ⟨.added, .added, .added⟩
  -- A place where an operand may stand is completed by one, and other places by what may follow
  -- there.
  cases reads with
  | blockStart => exact .inl rfl
  | ended statement => exact .inr ⟨statement, [], by simp⟩
  | closed owner_read block => exact .inr (owner_read.begins block)
  | functionName leaf =>
    exact .inr ((ReadsParams.begins (.first leaf .added .added) param).of_isPrefix (by simp))
  | functionOpen leaf name =>
    exact .inr ((ReadsParams.begins (.first leaf name .added) param).of_isPrefix (by simp))
  | parametersStart leaf name leftParen =>
    exact .inr ((ReadsParams.begins (.first leaf name leftParen) param).of_isPrefix (by simp))
  -- A list of parameters is completed by one more, and the function by an empty body.
  | parameterName params_read => exact .inr ((params_read.begins param).of_isPrefix (by simp))
  | parameterColon params_read name =>
    exact .inr ((params_read.begins ⟨name, .added, .added⟩).of_isPrefix
      (by simp [Grammar.Param.tokens]))
  | parameterType params_read name colon =>
    exact .inr ((params_read.begins ⟨name, colon, .added⟩).of_isPrefix
      (by simp [Grammar.Param.tokens]))
  | parameterEnd params_read param => exact .inr (params_read.begins param)
  | resultStart head_read => exact .inr ((head_read.begins .added .added).of_isPrefix (by simp))
  | resultType head_read arrow => exact .inr ((head_read.begins arrow .added).of_isPrefix (by simp))
  | functionBody head_read arrow type => exact .inr (head_read.begins arrow type)
  -- A declaration is completed by its name, its value and a semicolon.
  | variableName leaf =>
    exact .inr ((Purpose.Reads.begins (.plain leaf .added .added) .added).of_isPrefix (by simp))
  | variableNext leaf name =>
    exact .inr ((Purpose.Reads.begins (.plain leaf name .added) .added).of_isPrefix (by simp))
  | variableType leaf name colon =>
    exact .inr ((Purpose.Reads.begins (.typed leaf name colon .added .added) .added).of_isPrefix
      (by simp))
  | variableEqual leaf name colon type =>
    exact .inr ((Purpose.Reads.begins (.typed leaf name colon type .added) .added).of_isPrefix
      (by simp))
  | conditionOpen head_read =>
    exact .inr ((head_read.begins .added .added .added).of_isPrefix (by simp))
  | bodyOpen head_read leftParen condition rightParen =>
    exact .inr (head_read.begins leftParen condition rightParen)
  | elseNext outer_read => exact .inr outer_read.begins
  | labelNext label colon =>
    exact .inr ((Head.Reads.begins (.labelled label colon .added) .added .added .added).of_isPrefix
      (by simp))
  | jumpNext isBreak leaf => exact .inr ⟨.jump (.plain isBreak leaf .added), _, rfl⟩
  | jumpEnd isBreak leaf label => exact .inr ⟨.jump (.labelled isBreak leaf label .added), _, rfl⟩
  -- An expression is completed by an operand, which closes whatever is open.
  | expression purpose_read brackets_read targets_read =>
    have begins := purpose_read.begins_operand
      (.parts brackets_read (.ofTargets targets_read)) .added
    exact .inr (begins.of_isPrefix (by simp))
  | result leaf => exact .inr ⟨.return (.plain leaf .added), _, rfl⟩
  | argument purpose_read brackets_read pending_read callee leftParen =>
    have begins := purpose_read.begins_operand (.parts brackets_read pending_read)
      (.call callee leftParen .empty .added)
    exact .inr (begins.of_isPrefix (by simp [Grammar.Primary.tokens]))
  | operand purpose_read opened_read =>
    exact .inr ((purpose_read.begins_operand opened_read .added).of_isPrefix (by simp))
  | afterStatementName name =>
    exact .inr (Purpose.Reads.begins .evaluate
      (.additive (.multiplicative (.primary (.identifier name)))))
  | afterExpressionName purpose_read brackets_read targets_read name =>
    have begins := purpose_read.begins_operand (.parts brackets_read (.ofTargets targets_read))
      (.identifier name)
    exact .inr (begins.of_isPrefix (by simp [Grammar.Primary.tokens]))
  | afterOperandName purpose_read opened_read name =>
    exact .inr (purpose_read.begins_operand opened_read (.identifier name))
  | afterOperand purpose_read opened_read factor =>
    exact .inr (purpose_read.begins_operand opened_read factor)

/-! Programs. -/

/-- Behind statements, the blocks around them can be closed. -/
theorem ReadsBlocks.complete {blocks : List OpenBlock} (reads : ReadsBlocks blocks outside)
    (statements : Grammar.Statements) : IsPrefix (outside ++ statements.tokens) := by
  induction reads generalizing statements with
  | none => exact ⟨[], statements, by simp⟩
  | more outer before built owner_read leftBrace ih =>
    -- The innermost block is closed, which gives one more statement in the block around it.
    obtain ⟨whole, written, -⟩ := owner_read.close (.braces leftBrace statements .added)
    have reads := ih (.more before whole)
    exact reads.of_isPrefix
      ⟨[Leaf.added.mark .rightBrace], by simp [Grammar.Statements.tokens, written,
        Grammar.Block.tokens]⟩

/-- Whatever has been read is a prefix of a program. -/
theorem State.Reads.isPrefix {state : State} (reads : state.Reads tokens) : IsPrefix tokens := by
  obtain ⟨outside, inside, complete, blocks_read, -, position_read, rfl⟩ := reads
  rcases position_read.begins with rfl | ⟨statement, rest, written⟩
  · simpa using blocks_read.complete complete
  · have prefixed := blocks_read.complete (.more complete statement)
    exact prefixed.of_isPrefix ⟨rest, by simp [Grammar.Statements.tokens, written]⟩

end Parser

end LoopLang
