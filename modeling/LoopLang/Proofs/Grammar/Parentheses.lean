import LoopLang.Proofs.Grammar.Prefix

/-! Parentheses: phrases close what they open, and how many are open is known from where a parser
is. -/

namespace LoopLang

/-- What a token adds to the number of open parentheses. -/
def Token.parenthesis (token : Token) : Int :=
  match token.lexeme with
  | .mark .leftParen => 1
  | .mark .rightParen => -1
  | _ => 0

/-- How many more parentheses are opened than closed. -/
def openParens : List Token → Int
  | [] => 0
  | token :: rest => token.parenthesis + openParens rest

/-- Without tokens no parenthesis is open. -/
@[simp] theorem openParens_nil : openParens [] = 0 := rfl

/-- Each token counts for itself. -/
@[simp] theorem openParens_cons (token : Token) (rest : List Token) :
    openParens (token :: rest) = token.parenthesis + openParens rest := rfl

/-- What is open behind two stretches of tokens is open behind each of them. -/
@[simp] theorem openParens_append (first second : List Token) :
    openParens (first ++ second) = openParens first + openParens second := by
  induction first with
  | nil => simp
  | cons token rest ih => simp [ih, Int.add_assoc]

namespace Grammar

/-- A keyword opens nothing. -/
@[simp] theorem Leaf.parenthesis_keyword (leaf : Leaf) (reserved : Keyword) :
    (leaf.keyword reserved).parenthesis = 0 :=
  rfl

/-- Nor does a word. -/
@[simp] theorem Word.parenthesis_token (word : Word) : word.token.parenthesis = 0 := rfl

/-- Of the marks, only parentheses count. -/
@[simp] theorem Leaf.parenthesis_mark (leaf : Leaf) (sign : Mark) :
    (leaf.mark sign).parenthesis = if sign = .leftParen then 1 else if sign = .rightParen then -1
      else 0 := by
  cases sign <;> rfl

/-! Expressions. -/

mutual

/-- An expression closes what it opens. -/
@[simp] theorem Expression.openParens_tokens : ∀ value : Expression, openParens value.tokens = 0
  | .assign target equal value => by simp [Expression.tokens, Expression.openParens_tokens value]
  | .additive value => by simp [Expression.tokens, Additive.openParens_tokens value]

/-- So does a sum. -/
@[simp] theorem Additive.openParens_tokens : ∀ value : Additive, openParens value.tokens = 0
  | .multiplicative term => by simp [Additive.tokens, Multiplicative.openParens_tokens term]
  | .sum left sign leaf right => by
    have left_closed := Additive.openParens_tokens left
    have right_closed := Multiplicative.openParens_tokens right
    cases sign <;> simp [Additive.tokens, SumSign.mark, left_closed, right_closed]

/-- So does a product. -/
@[simp] theorem Multiplicative.openParens_tokens :
    ∀ term : Multiplicative, openParens term.tokens = 0
  | .primary factor => by simp [Multiplicative.tokens, Primary.openParens_tokens factor]
  | .product left sign leaf right => by
    have left_closed := Multiplicative.openParens_tokens left
    have right_closed := Primary.openParens_tokens right
    cases sign <;> simp [Multiplicative.tokens, ProductSign.mark, left_closed, right_closed]

/-- A group and a call close the parenthesis that they open. -/
@[simp] theorem Primary.openParens_tokens : ∀ factor : Primary, openParens factor.tokens = 0
  | .number leaf value => rfl
  | .boolean leaf value => rfl
  | .identifier word => rfl
  -- The two parentheses around arguments or an expression cancel out.
  | .call callee leftParen args rightParen => by simp [Primary.tokens, Args.openParens_tokens args]
  | .group leftParen inner rightParen => by
    simp [Primary.tokens, Expression.openParens_tokens inner]

/-- Arguments close what they open, if there are any. -/
@[simp] theorem Args.openParens_tokens : ∀ args : Args, openParens args.tokens = 0
  | .list items => by simp [Args.tokens, ArgList.openParens_tokens items]
  | .empty => rfl

/-- So does a list of arguments. -/
@[simp] theorem ArgList.openParens_tokens : ∀ items : ArgList, openParens items.tokens = 0
  | .single item => by simp [ArgList.tokens, Expression.openParens_tokens item]
  | .more items comma last => by
    simp [ArgList.tokens, ArgList.openParens_tokens items, Expression.openParens_tokens last]

end

/-! Statements. -/

/-- A parameter has no parentheses. -/
@[simp] theorem Param.openParens_tokens (param : Param) : openParens param.tokens = 0 := by
  simp [Param.tokens]

/-- Nor has a list of parameters. -/
@[simp] theorem ParamList.openParens_tokens : ∀ params : ParamList, openParens params.tokens = 0
  | .single param => by simp [ParamList.tokens]
  | .more params comma last => by simp [ParamList.tokens, ParamList.openParens_tokens params]

/-- Nor have the parameters of a function, whose parentheses are not among them. -/
@[simp] theorem Params.openParens_tokens (params : Params) : openParens params.tokens = 0 := by
  cases params <;> simp [Params.tokens]

/-- A result type has none, either. -/
@[simp] theorem ReturnType.openParens_tokens (result : ReturnType) :
    openParens result.tokens = 0 := by
  cases result <;> simp [ReturnType.tokens]

mutual

/-- Statements close what they open. -/
@[simp] theorem Statements.openParens_tokens :
    ∀ statements : Statements, openParens statements.tokens = 0
  | .more before last => by
    simp [Statements.tokens, Statements.openParens_tokens before, Statement.openParens_tokens last]
  | .empty => rfl

/-- So does each of them. -/
@[simp] theorem Statement.openParens_tokens :
    ∀ statement : Statement, openParens statement.tokens = 0
  -- Whatever is opened within a statement is closed within it.
  | .function declaration => by
    simp [Statement.tokens, FunctionDeclaration.openParens_tokens declaration]
  | .variable declaration => by
    cases declaration <;> simp [Statement.tokens, VariableDeclaration.tokens]
  | .block block => by simp [Statement.tokens, Block.openParens_tokens block]
  | .return statement => by cases statement <;> simp [Statement.tokens, ReturnStatement.tokens]
  | .if statement => by simp [Statement.tokens, IfStatement.openParens_tokens statement]
  | .loop statement => by simp [Statement.tokens, LoopStatement.openParens_tokens statement]
  | .jump statement => by cases statement <;> simp [Statement.tokens, JumpStatement.tokens]
  | .expression statement => by simp [Statement.tokens, ExpressionStatement.tokens]

/-- So does a block. -/
@[simp] theorem Block.openParens_tokens : ∀ block : Block, openParens block.tokens = 0
  | .braces leftBrace body rightBrace => by simp [Block.tokens, Statements.openParens_tokens body]

/-- A function closes the parenthesis around its parameters. -/
@[simp] theorem FunctionDeclaration.openParens_tokens :
    ∀ declaration : FunctionDeclaration, openParens declaration.tokens = 0
  | .declare leaf name leftParen params rightParen result body => by
    simp [FunctionDeclaration.tokens, Block.openParens_tokens body]

/-- A branch closes the one around its condition. -/
@[simp] theorem IfStatement.openParens_tokens :
    ∀ statement : IfStatement, openParens statement.tokens = 0
  | .choose leaf leftParen condition rightParen body alternative => by
    simp [IfStatement.tokens, Block.openParens_tokens body,
      ElseClause.openParens_tokens alternative]

/-- Its alternative closes what it opens. -/
@[simp] theorem ElseClause.openParens_tokens :
    ∀ alternative : ElseClause, openParens alternative.tokens = 0
  | .block leaf body => by simp [ElseClause.tokens, Block.openParens_tokens body]
  | .if leaf inner => by simp [ElseClause.tokens, IfStatement.openParens_tokens inner]
  | .empty => rfl

/-- A loop closes the one around its condition, with a label in front of it or without. -/
@[simp] theorem LoopStatement.openParens_tokens :
    ∀ statement : LoopStatement, openParens statement.tokens = 0
  | .plain leaf leftParen condition rightParen body => by
    simp [LoopStatement.tokens, Block.openParens_tokens body]
  | .labelled label colon leaf leftParen condition rightParen body => by
    simp [LoopStatement.tokens, Block.openParens_tokens body]

end

end Grammar

namespace Parser

variable {tokens before inside outside : List Token}

/-! What is open inside an expression. -/

/-- Targets of assignments open nothing. -/
theorem ReadsTargets.openParens_eq {targets : List Identifier}
    (reads : ReadsTargets targets tokens) :
    openParens tokens = 0 := by
  induction reads with
  | none => rfl
  | more outer target equal ih => simp [ih]

/-- Nor do the operands that wait for others. -/
theorem Pending.Reads.openParens_eq {pending : Pending} (reads : pending.Reads tokens) :
    openParens tokens = 0 := by
  obtain ⟨targets_read, sum_read, product_read⟩ := reads
  have targets_closed := targets_read.openParens_eq
  -- A sign is no parenthesis, and what stands in front of it is complete.
  rcases sum_read with _ | ⟨left, _ | _, leaf⟩ <;>
    rcases product_read with _ | ⟨factor, _ | _, sign⟩ <;>
    simp [targets_closed, Grammar.SumSign.mark, Grammar.ProductSign.mark]

/-- A bracket is open, and only that. -/
theorem Bracket.Reads.openParens_eq {bracket : Bracket} (reads : bracket.Reads tokens) :
    openParens tokens = 1 := by
  cases reads <;> simp

/-- Every bracket that waits has opened a parenthesis. -/
theorem ReadsBrackets.openParens_eq {brackets : List (Bracket × Pending)}
    (reads : ReadsBrackets brackets tokens) :
    openParens tokens = brackets.length := by
  induction reads with
  | none => rfl
  | more outer pending_read bracket_read ih =>
    simp [ih, pending_read.openParens_eq, bracket_read.openParens_eq]

/-- An expression that is still open has as many of them open as it has brackets. -/
theorem OpenExpression.Reads.openParens_eq {opened : OpenExpression} (reads : opened.Reads tokens) :
    openParens tokens = opened.brackets.length := by
  obtain ⟨brackets_read, pending_read⟩ := reads
  simp [brackets_read.openParens_eq, pending_read.openParens_eq]

/-! What is open inside a statement. -/

/-- Whether the parenthesis around a condition is open. -/
def Purpose.depth : Purpose → Nat
  | .condition _ => 1
  | _ => 0

/-- How many parentheses are open at a position. -/
def Position.depth : Position → Nat
  | .expression _ purpose opened | .operand purpose opened | .afterName _ _ purpose opened
  | .afterOperand _ purpose opened => purpose.depth + opened.brackets.length
  | .parametersStart _ | .parameterName _ | .parameterColon .. | .parameterType ..
  | .parameterEnd .. => 1
  | _ => 0

/-- The branches around an alternative are complete up to it. -/
theorem ReadsOuter.openParens_eq {outer : List OuterChoice} (reads : ReadsOuter outer tokens) :
    openParens tokens = 0 := by
  induction reads with
  | none => rfl
  | more outer_read leaf leftParen condition rightParen arm arm_built word ih => simp [ih]

/-- The head of a branch or a loop opens nothing before its condition. -/
theorem Head.Reads.openParens_eq {head : Head} (reads : head.Reads tokens) :
    openParens tokens = 0 := by
  cases reads with
  | choice outer_read leaf => simp [outer_read.openParens_eq]
  | loop leaf => simp
  | labelled label colon leaf => simp

/-- What an expression is for opens the parenthesis of a condition, or none. -/
theorem Purpose.Reads.openParens_eq {purpose : Purpose} (reads : purpose.Reads tokens) :
    openParens tokens = purpose.depth := by
  cases reads with
  | condition head_read leftParen => simp [Purpose.depth, head_read.openParens_eq]
  | _ => simp [Purpose.depth]

/-- What owns a block has closed its parentheses in front of it. -/
theorem Owner.Reads.openParens_eq {owner : Owner} (reads : owner.Reads tokens) :
    openParens tokens = 0 := by
  -- With a block behind it, it is a whole statement.
  obtain ⟨whole, written, -⟩ := reads.close .added
  have closed := whole.openParens_tokens
  rw [written] at closed
  simpa using closed

/-- Between open blocks no parenthesis is open. -/
theorem ReadsBlocks.openParens_eq {blocks : List OpenBlock} (reads : ReadsBlocks blocks tokens) :
    openParens tokens = 0 := by
  induction reads with
  | none => rfl
  | more outer before built owner_read leftBrace ih => simp [ih, owner_read.openParens_eq]

/-- The parenthesis around the parameters is open as long as they are read. -/
theorem ReadsParams.openParens_eq {head : FunctionHead} (reads : ReadsParams head tokens) :
    openParens tokens = 1 := by
  cases reads <;> simp

/-- Behind the head of a function it is closed. -/
theorem FunctionHead.Reads.openParens_eq {head : FunctionHead} (reads : head.Reads tokens) :
    openParens tokens = 0 := by
  cases reads
  simp

/-- What is open in the statement that is being read is what the position knows of. -/
theorem Position.Reads.openParens_eq {position : Position} (reads : position.Reads tokens) :
    openParens tokens = position.depth := by
  -- The depth of each place counts the brackets that its tokens have left open.
  cases reads with
  | expression purpose_read brackets_read targets_read =>
    simp [Position.depth, purpose_read.openParens_eq, brackets_read.openParens_eq,
      targets_read.openParens_eq]
  | result leaf => simp [Position.depth, Purpose.depth, OpenExpression.empty]
  | argument purpose_read brackets_read pending_read callee leftParen =>
    simp [Position.depth, purpose_read.openParens_eq, brackets_read.openParens_eq,
      pending_read.openParens_eq]
  | operand purpose_read opened_read =>
    simp [Position.depth, purpose_read.openParens_eq, opened_read.openParens_eq]
  | afterStatementName name => simp [Position.depth, Purpose.depth, OpenExpression.empty]
  | afterExpressionName purpose_read brackets_read targets_read name =>
    simp [Position.depth, purpose_read.openParens_eq, brackets_read.openParens_eq,
      targets_read.openParens_eq]
  | afterOperandName purpose_read opened_read name =>
    simp [Position.depth, purpose_read.openParens_eq, opened_read.openParens_eq]
  | afterOperand purpose_read opened_read factor =>
    simp [Position.depth, purpose_read.openParens_eq, opened_read.openParens_eq]
  -- Where parameters are read, the parenthesis in front of them is open.
  | parameterName params_read | parameterColon params_read | parameterType params_read
  | parameterEnd params_read =>
    simp [Position.depth, params_read.openParens_eq]
  | resultStart head_read | resultType head_read | functionBody head_read =>
    simp [Position.depth, head_read.openParens_eq]
  | conditionOpen head_read | bodyOpen head_read => simp [Position.depth, head_read.openParens_eq]
  | closed owner_read => simp [Position.depth, owner_read.openParens_eq]
  | elseNext outer_read => simp [Position.depth, outer_read.openParens_eq]
  | _ => simp [Position.depth]

/-- What has been read before that statement leaves nothing open. -/
theorem State.Reads.openParens_eq {state : State} (reads : state.Reads tokens) :
    openParens tokens = state.position.depth := by
  obtain ⟨outside, inside, complete, blocks_read, -, position_read, rfl⟩ := reads
  simp [blocks_read.openParens_eq, position_read.openParens_eq]

end Parser

end LoopLang
