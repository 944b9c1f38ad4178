import LoopLang.Proofs.Grammar.FollowExpression

/-! The parser follows the grammar through statements, and comes to the program that is built from
them. -/

namespace LoopLang

open LoopLang.Parser

namespace Grammar

variable {state entry : State} {token : Token} {rest : List Token}

/-- Behind a statement there is nothing, another statement, or the end of a block. -/
def Resumes (rest : List Token) : Prop := ∀ token ∈ rest.head?, token.kind ∈ statementFollows

/-- The end of the text may follow a statement. -/
theorem Resumes.nil : Resumes [] := nofun

/-- So may any token that a statement may be followed by. -/
theorem Resumes.cons (follows : token.kind ∈ statementFollows) : Resumes (token :: rest) := by
  rintro _ ⟨⟩
  exact follows

/-- The end of a block may come behind its last statement. -/
theorem Resumes.rightBrace (leaf : Leaf) (rest : List Token) :
    Resumes (leaf.mark .rightBrace :: rest) :=
  .cons (by decide : TokenKind.mark .rightBrace ∈ statementFollows)

/-- It does not matter to the start of a statement where the parser has been. -/
theorem startStatement_goTo (position : Position) :
    startStatement (state.goTo position) token = startStatement state token := by
  -- A statement may begin with an operand, and then with a position of its own.
  have operand : ∀ expected,
      startOperand .statement expected .evaluate .empty (state.goTo position) token =
      startOperand .statement expected .evaluate .empty state token := fun expected => by
    unfold startOperand
    split <;> rfl
  unfold startStatement
  simp only [operand]
  rfl

/-- Errors of annotations are those that the parser reports. -/
theorem mapError_annotated {α : Type} (place : Location) (read : Except AnnotationError α) :
    (annotated place read).mapError Refusal.error = read.mapError fun error =>
      ⟨.wrongType error, place⟩ := by
  cases read <;> rfl

/--
A statement whose last token has been read is complete, up to the kinds that are named in it, when
the next one, the end of its block, or the end of the text is found.
-/
theorem follow_settled {settled : Except Refusal LoopLang.Statement}
    (blocks : entry.blocks = state.blocks)
    (ends : lastStatements entry = settled.map fun statement =>
      some (state.statements ++ [statement]))
    (steps : ∀ token : Token, token.kind ∈ statementFollows →
      step entry token = settled >>= fun statement => startStatement (state.push statement) token)
    (resumes : Resumes rest) :
    follow entry rest = settled.mapError Refusal.error >>= fun statement =>
      follow ((state.push statement).goTo .blockStart) rest := by
  -- The statement is settled by what follows it: another one, or the end of the text.
  cases rest with
  | nil =>
    have finished : finish entry = settled.map fun statement =>
        if state.blocks.isEmpty then some ⟨state.statements ++ [statement]⟩ else none := by
      rw [finish, ends, blocks]
      cases settled <;> rfl
    show complete entry .complete = _
    rw [complete, finished]
    cases settled with
    | ok statement => rfl
    | error refusal => cases refusal <;> rfl
  -- The token is not part of the statement, and begins the next one.
  | cons token rest =>
    rw [follow_cons, steps token (resumes token rfl)]
    cases settled with
    | ok statement => exact congrArg (proceed · rest) (startStatement_goTo .blockStart).symm
    | error refusal => rfl

/-- A statement that ends with a semicolon. -/
theorem follow_ended (ended : Ended) (resumes : Resumes rest) :
    follow (state.goTo (.ended ended)) rest = (endedStatement ended).mapError Refusal.error >>=
      fun statement =>
        follow ((state.push statement).goTo .blockStart) rest := by
  -- The statement is settled by the first token behind it, which starts the next one.
  refine follow_settled rfl rfl (fun token follows => ?_) resumes
  refine (if_pos (by simpa using follows)).trans ?_
  cases endedStatement ended with
  | ok statement => exact @startStatement_goTo (state.push statement) token (.ended ended)
  | error refusal => rfl

/-- Behind a closed block, an alternative apart, the statement that it ends is complete. -/
theorem step_closed {place : Location} {owner : Owner} {body : List LoopLang.Statement}
    (other : token.lexeme ≠ .keyword .else) :
    step (state.goTo (.closed place owner body)) token =
      if braceFollows.contains token.kind then
        closedStatement place body owner >>= fun statement =>
          startStatement (state.push statement) token
      else refuse braceFollows := by
  -- The position is the only thing that the next statement does not look at.
  have stepped : step (state.goTo (.closed place owner body)) token =
      if braceFollows.contains token.kind then
        closedStatement place body owner >>= fun statement =>
          startStatement ((state.push statement).goTo (.closed place owner body)) token
      else refuse braceFollows := by
    unfold step
    split
    all_goals simp_all [State.goTo]
    rfl
  rw [stepped]
  simp only [startStatement_goTo]

/-- A statement that ends with a block. -/
theorem follow_closed (place : Location) (owner : Owner) (body : List LoopLang.Statement)
    (resumes : Resumes rest) :
    follow (state.goTo (.closed place owner body)) rest =
      (closedStatement place body owner).mapError Refusal.error >>= fun statement =>
        follow ((state.push statement).goTo .blockStart) rest := by
  refine follow_settled rfl rfl (fun token follows => ?_) resumes
  have brace : braceFollows.contains token.kind = true := by simp [braceFollows, follows]
  -- An alternative would go on with the statement, but it cannot stand here.
  have other : token.lexeme ≠ .keyword .else := by
    intro same
    simp [Token.kind, same, Lexeme.kind, statementFollows, statementStarts] at follows
  rw [step_closed other, if_pos brace]

/-! What phrases start with. -/

mutual

/-- An expression starts with a token that can start an operand. -/
theorem Expression.starts :
    ∀ value : Expression, ∃ token rest, value.tokens = token :: rest ∧ token.kind ∈ operandStarts
  | .assign target _ _ => ⟨target.token, _, rfl, (by decide : TokenKind.identifier ∈ operandStarts)⟩
  | .additive value => value.starts

/-- So does a sum. -/
theorem Additive.starts :
    ∀ value : Additive, ∃ token rest, value.tokens = token :: rest ∧ token.kind ∈ operandStarts
  | .multiplicative term => term.starts
  | .sum left _ _ _ => by
    obtain ⟨token, rest, tokens, starts⟩ := left.starts
    exact ⟨token, _, by rw [Additive.tokens, tokens, List.cons_append], starts⟩

/-- So does a product. -/
theorem Multiplicative.starts :
    ∀ term : Multiplicative, ∃ token rest, term.tokens = token :: rest ∧ token.kind ∈ operandStarts
  | .primary factor => factor.starts
  | .product left _ _ _ => by
    obtain ⟨token, rest, tokens, starts⟩ := left.starts
    exact ⟨token, _, by rw [Multiplicative.tokens, tokens, List.cons_append], starts⟩

/-- These are the tokens that can start an operand. -/
theorem Primary.starts :
    ∀ factor : Primary, ∃ token rest, factor.tokens = token :: rest ∧ token.kind ∈ operandStarts
  | .number leaf value => ⟨_, _, rfl, (by decide : TokenKind.number ∈ operandStarts)⟩
  | .boolean leaf true => ⟨_, _, rfl, (by decide : TokenKind.keyword .true ∈ operandStarts)⟩
  | .boolean leaf false => ⟨_, _, rfl, (by decide : TokenKind.keyword .false ∈ operandStarts)⟩
  | .identifier word => ⟨_, _, rfl, (by decide : TokenKind.identifier ∈ operandStarts)⟩
  | .call callee _ _ _ => ⟨_, _, rfl, (by decide : TokenKind.identifier ∈ operandStarts)⟩
  | .group _ _ _ => ⟨_, _, rfl, (by decide : TokenKind.mark .leftParen ∈ operandStarts)⟩

end

/-- An operand may begin the next statement. -/
theorem operandStarts_subset : operandStarts ⊆ statementFollows := by decide

/-- A statement may stand behind another one. -/
theorem Statement.resumes (statement : Statement) (rest : List Token) :
    Resumes (statement.tokens ++ rest) := by
  -- Every statement begins with a token that may stand behind another statement.
  cases statement with
  | function declaration =>
    cases declaration
    exact .cons (by decide : TokenKind.keyword .function ∈ statementFollows)
  | «variable» declaration =>
    cases declaration <;> exact .cons (by decide : TokenKind.keyword .var ∈ statementFollows)
  | block block =>
    cases block
    exact .cons (by decide : TokenKind.mark .leftBrace ∈ statementFollows)
  | «return» statement =>
    cases statement <;> exact .cons (by decide : TokenKind.keyword .return ∈ statementFollows)
  | «if» statement =>
    cases statement
    exact .cons (by decide : TokenKind.keyword .if ∈ statementFollows)
  | loop statement =>
    cases statement
    · exact .cons (by decide : TokenKind.keyword .loop ∈ statementFollows)
    · exact .cons (by decide : TokenKind.identifier ∈ statementFollows)
  | jump statement =>
    rcases statement with ⟨_ | _, _, _⟩ | ⟨_ | _, _, _, _⟩
    · exact .cons (by decide : TokenKind.keyword .continue ∈ statementFollows)
    · exact .cons (by decide : TokenKind.keyword .break ∈ statementFollows)
    · exact .cons (by decide : TokenKind.keyword .continue ∈ statementFollows)
    · exact .cons (by decide : TokenKind.keyword .break ∈ statementFollows)
  -- An expression begins with an operand, and all of these may stand there.
  | expression statement =>
    obtain ⟨token, tail, tokens, starts⟩ := statement.value.starts
    rw [Statement.tokens, ExpressionStatement.tokens, tokens]
    exact .cons (operandStarts_subset starts)

/-! The parts of statements. -/

/-- The separator behind a parameter: a comma, or the parenthesis behind the last one. -/
def separator (isLast : Bool) : Mark := if isLast then .rightParen else .comma

/-- Where a separator leads. -/
def separated (isLast : Bool) (head : FunctionHead) : Position :=
  if isLast then .resultStart head else .parameterName head

/-- At the separator behind a parameter its type is looked at. -/
theorem step_separator (head : FunctionHead) (name : Identifier) (type : TypeName) (isLast : Bool)
    (leaf : Leaf) :
    step (state.goTo (.parameterEnd head name type)) (leaf.mark (separator isLast)) =
      annotated type.place (ValueKind.ofWord type.word) >>= fun kind =>
        .ok (state.goTo (separated isLast
        { head with parameters := head.parameters ++ [⟨name.place, name.name, kind⟩] })) := by
  -- Only the sign behind the parameter tells whether it is the last one.
  cases isLast <;> dsimp only [step, State.goTo, Leaf.mark, separator] <;>
    cases ValueKind.ofWord type.word <;> rfl

/-- A parameter is complete when the separator behind it is read. -/
theorem follow_param (param : Param) {head : FunctionHead}
    (opens : ∀ word : Word, step entry word.token = .ok
      (state.goTo (.parameterColon head word.identifier)))
    (isLast : Bool) (leaf : Leaf) (rest : List Token) :
    follow entry (param.tokens ++ leaf.mark (separator isLast) :: rest) = param.build >>=
      fun parameter =>
        follow (state.goTo
          (separated isLast { head with parameters := head.parameters ++ [parameter] })) rest := by
  obtain ⟨name, colon, type⟩ := param
  rw [Param.tokens, List.cons_append, follow_cons, opens]
  rw [Param.build, Word.valueKind, ← mapError_annotated]
  show proceed (step (state.goTo (.parameterEnd head name.identifier ⟨type.place, type.name⟩)) _)
      rest = _
  -- Whether the name of the type means one is seen at the sign behind it.
  rw [step_separator]
  cases ValueKind.ofWord type.name <;> rfl

/-- Parameters are read one by one, each behind the separator of the one before it. -/
theorem follow_paramList :
    ∀ (params : ParamList) {entry : State} {head : FunctionHead}, head.parameters = [] →
    (∀ word : Word, step entry word.token = .ok
      (state.goTo (.parameterColon head word.identifier))) →
    ∀ (isLast : Bool) (leaf : Leaf) (rest : List Token),
      follow entry (params.tokens ++ leaf.mark (separator isLast) :: rest) = params.build >>=
        fun parameters =>
          follow (state.goTo (separated isLast { head with parameters })) rest
  | .single param, entry, head, none_yet, opens, isLast, leaf, rest => by
    rw [ParamList.tokens, follow_param param opens, ParamList.build, none_yet]
    cases param.build <;> rfl
  | .more params comma last, entry, head, none_yet, opens, isLast, leaf, rest => by
    rw [ParamList.tokens, List.append_assoc, List.cons_append, ParamList.build]
    -- The comma ends the parameters before the last one.
    refine (follow_paramList params none_yet opens false comma _).trans ?_
    cases params.build with
    | error error => rfl
    | ok parameters =>
      -- Behind a comma a name is read as it is behind the bracket.
      have opened : ∀ word : Word,
          step (state.goTo (.parameterName { head with parameters })) word.token =
          .ok (state.goTo (.parameterColon { head with parameters } word.identifier)) :=
            fun _ => rfl
      refine (follow_param last opened isLast leaf rest).trans ?_
      cases last.build <;> rfl

/-- The parameters of a function, up to the parenthesis behind them. -/
theorem follow_params (params : Params) (head : FunctionHead) (none_yet : head.parameters = [])
    (leaf : Leaf) (rest : List Token) :
    follow (state.goTo (.parametersStart head)) (params.tokens ++ leaf.mark .rightParen :: rest) =
      params.build >>= fun parameters =>
        follow (state.goTo (.resultStart { head with parameters })) rest := by
  cases params with
  | list params => exact follow_paramList params none_yet (fun _ => rfl) true leaf rest
  -- The closing bracket follows directly, and the head stays without parameters.
  | empty =>
    obtain ⟨place, name, parameters⟩ := head
    cases none_yet
    rfl

/-- A condition in its parentheses. -/
theorem follow_condition (condition : Expression) (head : Head) (leftParen rightParen : Leaf)
    (rest : List Token) :
    follow (state.goTo (.conditionOpen head))
        (leftParen.mark .leftParen :: (condition.tokens ++ rightParen.mark .rightParen :: rest)) =
      follow (state.goTo (.bodyOpen head condition.build)) rest :=
  follow_expression condition (.expression state .plain (.condition head) .empty)
    (by decide) rfl rfl (rightParen_ends rightParen) rest

/-- An expression up to the semicolon of its statement. -/
theorem follow_value (value : Expression) {role : NameRole} {purpose : Purpose}
    (opens : Opens entry role purpose .empty state) (whole : role ≠ .operand) (semicolon : Leaf)
    (rest : List Token) :
    follow entry (value.tokens ++ semicolon.mark .semicolon :: rest) =
      proceed (endExpression value.build purpose [] state (semicolon.mark .semicolon)) rest :=
  follow_expression value opens whole rfl rfl (semicolon_ends semicolon) rest

/-- A variable is complete with its kind when its declaration has ended. -/
theorem VariableDeclaration.build_typed (leaf : Leaf) (name : Word) (colon : Leaf) (type : Word)
    (equal : Leaf) (value : Expression) (semicolon : Leaf) :
    (VariableDeclaration.typed leaf name colon type equal value semicolon).build =
      (endedStatement (.declaration leaf.place name.identifier
        ⟨type.place, type.name⟩ value.build)).mapError Refusal.error := by
  rw [VariableDeclaration.build, Word.valueKind, ← mapError_annotated]
  dsimp only [endedStatement]
  cases annotated type.place (ValueKind.ofWord type.name) <;> rfl

/-- A variable, with or without a type name. -/
theorem follow_variable (declaration : VariableDeclaration) (resumes : Resumes rest) :
    follow (state.goTo .blockStart) (declaration.tokens ++ rest) = declaration.build >>=
      fun statement =>
        follow ((state.push statement).goTo .blockStart) rest := by
  cases declaration with
  | typed leaf name colon type equal value semicolon =>
    simp only [VariableDeclaration.tokens, List.cons_append, List.append_assoc, List.nil_append]
    -- The semicolon ends the value, and then the declaration is complete.
    refine (follow_value value
      (.expression state .plain
        (.declare leaf.place name.identifier (some ⟨type.place, type.name⟩)) .empty)
      (by decide) semicolon rest).trans ?_
    rw [VariableDeclaration.build_typed]
    exact follow_ended _ resumes
  | plain leaf name equal value semicolon =>
    simp only [VariableDeclaration.tokens, List.cons_append, List.append_assoc, List.nil_append]
    refine (follow_value value
      (.expression state .plain (.declare leaf.place name.identifier none) .empty)
      (by decide) semicolon rest).trans ?_
    exact follow_ended _ resumes

/-- The end of a function, with or without a result. -/
theorem follow_return (statement : ReturnStatement) (resumes : Resumes rest) :
    follow (state.goTo .blockStart) (statement.tokens ++ rest) =
      follow ((state.push statement.build).goTo .blockStart) rest := by
  cases statement with
  | value leaf result semicolon =>
    simp only [ReturnStatement.tokens, List.cons_append, List.append_assoc, List.nil_append]
    refine (follow_value result (.expression state .result (.return leaf.place) .empty)
      (by decide) semicolon rest).trans ?_
    exact follow_ended (.statement _) resumes
  | plain leaf semicolon => exact follow_ended (.statement (.return leaf.place none)) resumes

/-- A jump, with or without a label. -/
theorem follow_jump (statement : JumpStatement) (resumes : Resumes rest) :
    follow (state.goTo .blockStart) (statement.tokens ++ rest) =
      follow ((state.push statement.build).goTo .blockStart) rest := by
  -- With or without a label, a break or a continue: each is complete at its semicolon.
  rcases statement with ⟨_ | _, leaf, _⟩ | ⟨_ | _, leaf, label, _⟩
  · exact follow_ended (.statement (.continue leaf.place none)) resumes
  · exact follow_ended (.statement (.break leaf.place none)) resumes
  · exact follow_ended (.statement (.continue leaf.place (some label.identifier))) resumes
  · exact follow_ended (.statement (.break leaf.place (some label.identifier))) resumes

/-- An expression that stands for itself. -/
theorem follow_evaluate (statement : ExpressionStatement) (resumes : Resumes rest) :
    follow (state.goTo .blockStart) (statement.tokens ++ rest) =
      follow ((state.push statement.build).goTo .blockStart) rest := by
  obtain ⟨value, semicolon⟩ := statement
  simp only [ExpressionStatement.tokens, List.append_assoc, List.cons_append, List.nil_append]
  refine (follow_value value (.statement state) (by decide) semicolon rest).trans ?_
  exact follow_ended (.statement _) resumes

/-! Statements with other statements in them. -/

/-- The result type of a function as it is written. -/
def ReturnType.typeName? : ReturnType → Option TypeName
  | .arrow _ type => some ⟨type.place, type.name⟩
  | .empty => none

/-- Behind the result type of a function, a brace opens its body. -/
theorem follow_result (result : ReturnType) (state : State) (head : FunctionHead) : ∃ entry : State,
    (∀ rest, follow (state.goTo (.resultStart head)) (result.tokens ++ rest) = follow entry rest) ∧
    ∀ leaf : Leaf, step entry (leaf.mark .leftBrace) =
      .ok (state.openBlock leaf.place (.function head result.typeName?)) := by
  -- Without an arrow, the brace is read where the arrow might have been.
  cases result with
  | arrow leaf type =>
    exact ⟨state.goTo (.functionBody head ⟨type.place, type.name⟩), fun _ => rfl, fun _ => rfl⟩
  | empty => exact ⟨state.goTo (.resultStart head), fun _ => rfl, fun _ => rfl⟩

/-- A function is complete behind its body, where the type of its result is looked at. -/
theorem closedStatement_function (place : Location) (body : List LoopLang.Statement)
    (head : FunctionHead) (result : ReturnType) :
    (closedStatement place body (.function head result.typeName?)).mapError Refusal.error =
      result.build >>= fun result =>
        return .function head.place head.name head.parameters place body result := by
  cases result with
  | arrow leaf type =>
    -- The type name is read when the body closes, so an error of it comes this late.
    rw [ReturnType.build, Word.resultKind, ← mapError_annotated]
    dsimp only [closedStatement, ReturnType.typeName?]
    cases annotated type.place (ExactKind.ofWord type.name) <;> rfl
  | empty => rfl

mutual

/-- Statements are added to those before them in their block. -/
theorem follow_statements :
    ∀ (statements : Statements) {state : State} {rest : List Token}, Resumes rest →
    follow (state.goTo .blockStart) (statements.tokens ++ rest) = statements.build >>= fun body =>
      follow ({ state with statements := state.statements ++ body }.goTo .blockStart) rest
  | .empty, state, rest, _ => by
    show _ = follow ({ state with statements := state.statements ++ [] }.goTo .blockStart) rest
    rw [List.append_nil]
    rfl
  -- What stands before the last statement is followed by it, and so is settled.
  | .more before last, state, rest, resumes => by
    rw [Statements.tokens, List.append_assoc, follow_statements before (last.resumes rest),
      Statements.build]
    cases before.build with
    | error error => rfl
    | ok body =>
      refine (@follow_statement last
        { state with statements := state.statements ++ body } rest resumes).trans ?_
      cases last.build with
      | error error => rfl
      | ok statement =>
        show follow (⟨state.blocks, state.statements ++ body ++ [statement], .blockStart⟩ : State)
            rest =
          follow (⟨state.blocks, state.statements ++ (body ++ [statement]), .blockStart⟩ : State)
          rest
        rw [List.append_assoc]

/-- A statement is added to those before it in its block. -/
theorem follow_statement :
    ∀ (statement : Statement) {state : State} {rest : List Token}, Resumes rest →
    follow (state.goTo .blockStart) (statement.tokens ++ rest) = statement.build >>=
      fun statement =>
        follow ((state.push statement).goTo .blockStart) rest
  | .function declaration, _, _, resumes => follow_function declaration resumes
  | .variable declaration, _, _, resumes => follow_variable declaration resumes
  -- A block is read with no head, so that it may be followed by anything.
  | .block block, state, rest, resumes => by
    refine (follow_block block .plain (fun _ => rfl) rest).trans ?_
    rw [Statement.build]
    cases block.build with
    | error error => rfl
    | ok body => exact follow_closed body.1 .plain body.2 resumes
  | .return statement, _, _, resumes => follow_return statement resumes
  | .if statement, _, _, resumes => follow_if statement [] (fun _ => rfl) resumes
  | .loop statement, _, _, resumes => follow_loop statement resumes
  | .jump statement, _, _, resumes => follow_jump statement resumes
  | .expression statement, _, _, resumes => follow_evaluate statement resumes

/-- A block is read up to its right brace. -/
theorem follow_block : ∀ (block : Block) {entry state : State} (owner : Owner),
    (∀ leaf : Leaf, step entry (leaf.mark .leftBrace) = .ok (state.openBlock leaf.place owner)) →
    ∀ rest,
      follow entry (block.tokens ++ rest) = block.build >>= fun (place, body) =>
        follow (state.goTo (.closed place owner body)) rest
  | .braces leftBrace body rightBrace, entry, state, owner, opens, rest => by
    simp only [Block.tokens, List.cons_append, List.append_assoc, List.nil_append]
    -- The brace opens a block for its owner, and the statements are read into it.
    rw [follow_cons, opens, Block.build]
    refine (@follow_statements body (state.openBlock leftBrace.place owner) _
      (.rightBrace rightBrace rest)).trans ?_
    cases body.build <;> rfl

/-- A function is complete behind its body. -/
theorem follow_function :
    ∀ (declaration : FunctionDeclaration) {state : State} {rest : List Token}, Resumes rest →
    follow (state.goTo .blockStart) (declaration.tokens ++ rest) = declaration.build >>=
      fun statement =>
        follow ((state.push statement).goTo .blockStart) rest
  | .declare leaf name leftParen params rightParen result body, state, rest, resumes => by
    simp only [FunctionDeclaration.tokens, List.cons_append, List.append_assoc]
    -- The parameters are complete at the bracket, and their types are settled by then.
    refine (follow_params params ⟨leaf.place, name.identifier, []⟩ rfl rightParen _).trans ?_
    rw [FunctionDeclaration.build]
    cases params.build with
    | error error => rfl
    | ok parameters =>
      -- A type of the result is looked at only when the body has been read.
      obtain ⟨entry, entered, opens⟩ :=
        follow_result result state ⟨leaf.place, name.identifier, parameters⟩
      refine (entered _).trans ((follow_block body _ opens rest).trans ?_)
      show _ = ((body.build >>= fun body => result.build >>= fun result => _) >>= _)
      cases body.build with
      | error error => rfl
      | ok body =>
        refine (follow_closed body.1 _ body.2 resumes).trans ?_
        rw [closedStatement_function]
        show _ = ((result.build >>= fun result => _) >>= _)
        -- So an error in the body comes before one in the type of the result.
        cases result.build <;> rfl

/-- A condition is complete behind its last arm, within the conditions whose alternative it is. -/
theorem follow_if :
    ∀ (statement : IfStatement) {entry state : State} {rest : List Token}
      (outer : List OuterChoice),
    (∀ leaf : Leaf, step entry (leaf.keyword .if) =
      .ok (state.goTo (.conditionOpen (.choice leaf.place outer)))) →
    Resumes rest → follow entry (statement.tokens ++ rest) = statement.build >>= fun statement =>
      follow ((state.push (nestChoices outer statement)).goTo .blockStart) rest
  | .choose leaf leftParen condition rightParen body alternative, entry, state, rest, outer, opens,
      resumes => by
    simp only [IfStatement.tokens, List.cons_append, List.append_assoc]
    rw [follow_cons, opens, IfStatement.build]
    -- The condition, then the first arm.
    refine (follow_condition condition (.choice leaf.place outer) leftParen rightParen _).trans ?_
    refine (follow_block body (.thenBranch leaf.place outer condition.build) (fun _ => rfl) _).trans
      ?_
    cases body.build with
    | error error => rfl
    | ok arm =>
      -- What the alternative is decides where the parser goes on behind the first arm.
      cases alternative with
      | empty =>
        exact follow_closed arm.1 (.thenBranch leaf.place outer condition.build) arm.2 resumes
      | block word second =>
        have opened : ∀ behind : Leaf, step (state.goTo (.elseNext
            ⟨leaf.place, condition.build, arm.1, arm.2, word.place⟩ outer))
              (behind.mark .leftBrace) =
              .ok (state.openBlock behind.place
                (.elseBranch leaf.place outer condition.build arm.1 arm.2)) := fun _ => rfl
        refine (follow_block second _ opened rest).trans ?_
        rw [ElseClause.build]
        cases second.build with
        | error error => rfl
        | ok second =>
          exact follow_closed second.1
            (.elseBranch leaf.place outer condition.build arm.1 arm.2) second.2 resumes
      -- Behind `else` the inner branch is read, with this one around it.
      | «if» word inner =>
        have opened : ∀ behind : Leaf, step (state.goTo (.elseNext
            ⟨leaf.place, condition.build, arm.1, arm.2, word.place⟩ outer))
              (behind.keyword .if) = .ok (state.goTo
              (.conditionOpen (.choice behind.place
                (⟨leaf.place, condition.build, arm.1, arm.2, word.place⟩ :: outer)))) :=
          fun _ => rfl
        refine (follow_if inner _ opened resumes).trans ?_
        rw [ElseClause.build]
        cases inner.build <;> rfl

/-- A loop is complete behind its body. -/
theorem follow_loop :
    ∀ (statement : LoopStatement) {state : State} {rest : List Token}, Resumes rest →
    follow (state.goTo .blockStart) (statement.tokens ++ rest) = statement.build >>=
      fun statement =>
        follow ((state.push statement).goTo .blockStart) rest
  | .plain leaf leftParen condition rightParen body, state, rest, resumes => by
    simp only [LoopStatement.tokens, List.cons_append, List.append_assoc]
    -- The condition, then the body, which ends the loop.
    refine (follow_condition condition (.loop leaf.place none) leftParen rightParen _).trans ?_
    refine (follow_block body (.loop leaf.place none condition.build) (fun _ => rfl) rest).trans ?_
    rw [LoopStatement.build]
    cases body.build with
    | error error => rfl
    | ok body => exact follow_closed body.1 (.loop leaf.place none condition.build) body.2 resumes
  | .labelled label colon leaf leftParen condition rightParen body, state, rest, resumes => by
    simp only [LoopStatement.tokens, List.cons_append, List.append_assoc]
    -- Up to the colon, a label may still be the first word of an expression.
    rw [follow_cons, (Opens.statement state).starts label.token
      (by decide : TokenKind.identifier ∈ operandStarts)]
    refine (@follow_condition state condition
      (.loop label.place (some label.identifier)) leftParen rightParen _).trans ?_
    refine (follow_block body (.loop label.place (some label.identifier) condition.build)
      (fun _ => rfl) rest).trans ?_
    rw [LoopStatement.build]
    cases body.build with
    | error error => rfl
    | ok body =>
      exact follow_closed body.1
        (.loop label.place (some label.identifier) condition.build) body.2 resumes

end

/-- Reading the tokens of a whole program comes to what is built from it, or to the first wrong type
name in it. -/
theorem follow_program (statements : Statements) :
    follow .start statements.tokens = statements.program := by
  have followed := @follow_statements statements .start [] .nil
  rw [List.append_nil] at followed
  refine followed.trans ?_
  rw [Statements.program]
  cases statements.build <;> rfl

end Grammar

end LoopLang
