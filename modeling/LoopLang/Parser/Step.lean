import LoopLang.Parser.State

/-! One token read by the parser: the next state, or what was expected instead. -/

namespace LoopLang.Parser

/-- Why a token is refused: other kinds of tokens were expected, or it completes a phrase with a
wrong annotation. -/
inductive Refusal
  | expected (kinds : List TokenKind)
  | wrongType (error : AnnotationError) (place : Location)
  deriving DecidableEq, Repr

/-- What may start a statement. -/
def statementStarts : List TokenKind :=
  [.keyword .function, .keyword .var, .mark .leftBrace, .keyword .return, .keyword .if,
    .keyword .loop,
    .identifier, .keyword .break, .keyword .continue, .number, .keyword .true, .keyword .false,
    .mark .leftParen]

/-- What may start a statement or end a block. -/
def blockStarts : List TokenKind := .mark .rightBrace :: statementStarts

/-- What may follow a statement. -/
def statementFollows : List TokenKind := statementStarts ++ [.mark .rightBrace]

/-- What may follow a closing brace. -/
def braceFollows : List TokenKind := statementFollows ++ [.keyword .else]

/-- What may start an expression. -/
def expressionStarts : List TokenKind :=
  [.identifier, .number, .keyword .true, .keyword .false, .mark .leftParen]

/-- What may start an operand. -/
def operandStarts : List TokenKind :=
  [.number, .keyword .true, .keyword .false, .identifier, .mark .leftParen]

/-- What may follow an operand. -/
def operandFollows : List TokenKind :=
  [.mark .star, .mark .slash, .mark .plus, .mark .minus, .mark .semicolon, .mark .rightParen,
    .mark .comma]

/-- What may follow an identifier. -/
def nameFollows : NameRole → List TokenKind
  | .statement =>
    [.mark .colon, .mark .equal, .mark .star, .mark .slash, .mark .plus, .mark .minus,
      .mark .semicolon, .mark .leftParen]
  | .expression =>
    [.mark .equal, .mark .star, .mark .slash, .mark .plus, .mark .minus, .mark .rightParen,
      .mark .semicolon, .mark .comma, .mark .leftParen]
  | .operand =>
    [.mark .star, .mark .slash, .mark .plus, .mark .minus, .mark .semicolon, .mark .rightParen,
      .mark .comma, .mark .leftParen]

/-- What may stand where an expression starts. -/
def startExpected : ExpressionStart → List TokenKind
  | .plain => expressionStarts
  | .result => .mark .semicolon :: expressionStarts
  | .argument => .mark .rightParen :: expressionStarts

/-- An annotation error at the place of its type name. -/
def annotated {α : Type} (place : Location) : Except AnnotationError α → Except Refusal α
  | .ok value => .ok value
  | .error error => .error (.wrongType error place)

namespace Pending

/-- An operand with the product that it completes. -/
def closeProduct (pending : Pending) (operand : Expression) : Expression :=
  match pending.product with
  | some operation => .binary operation.place operation.operator operation.left operand
  | none => operand

/-- An operand with the product and the sum that it completes. -/
def closeSum (pending : Pending) (operand : Expression) : Expression :=
  match pending.sum with
  | some operation =>
    .binary operation.place operation.operator operation.left (pending.closeProduct operand)
  | none => pending.closeProduct operand

/-- An operand with everything that it completes within its parenthesis. -/
def close (pending : Pending) (operand : Expression) : Expression :=
  pending.targets.foldl (fun value target => .assign target.place target value)
    (pending.closeSum operand)

/-- A product goes on with another factor. -/
def multiply (pending : Pending) (place : Location) (operator : Operator) (operand : Expression) :
    Pending :=
  { pending with product := some ⟨place, operator, pending.closeProduct operand⟩ }

/-- A sum goes on with another term. -/
def add (pending : Pending) (place : Location) (operator : Operator) (operand : Expression) :
    Pending :=
  { pending with sum := some ⟨place, operator, pending.closeSum operand⟩, product := none }

/-- An assignment waits for its value. -/
def assign (pending : Pending) (target : Identifier) : Pending :=
  { pending with targets := target :: pending.targets }

end Pending

/-- Puts a statement that is the alternative of other conditions into them. -/
def nestChoices (outer : List OuterChoice) (inner : Statement) : Statement :=
  outer.foldl (fun nested choice =>
    .choose choice.place choice.condition choice.thenPlace choice.thenBody choice.elsePlace
      [nested]) inner

/-- The statement that a closed block completes. -/
def closedStatement (place : Location) (body : List Statement) : Owner → Except Refusal Statement
  | .plain => .ok (.block place body)
  | .function head none => .ok (.function head.place head.name head.parameters place body .void)
  | .function head (some type) => do
    let result ← annotated type.place (ExactKind.ofWord type.word)
    return .function head.place head.name head.parameters place body result
  | .thenBranch start outer condition => .ok (nestChoices outer (.when start condition place body))
  | .elseBranch start outer condition thenPlace thenBody =>
    .ok (nestChoices outer (.choose start condition thenPlace thenBody place body))
  | .loop start label condition => .ok (.loop start condition place body label)

/-- A statement that has ended, with the kind that its annotation names. -/
def endedStatement : Ended → Except Refusal Statement
  | .statement statement => .ok statement
  | .declaration place name type value => do
    let kind ← annotated type.place (ValueKind.ofWord type.word)
    return .declare place name (some kind) value

namespace State

/-- Moves to another position. -/
def goTo (state : State) (position : Position) : State := { state with position }

/-- Moves behind a complete statement. -/
def endWith (state : State) (ended : Ended) : State := state.goTo (.ended ended)

/-- Adds a complete statement to the innermost block. -/
def push (state : State) (statement : Statement) : State :=
  { state with statements := state.statements ++ [statement] }

/-- Opens a block. -/
def openBlock (state : State) (place : Location) (owner : Owner) : State :=
  ⟨⟨place, owner, state.statements⟩ :: state.blocks, [], .blockStart⟩

end State

/-- Refuses a token where others were expected. -/
def refuse {α : Type} (kinds : List TokenKind) : Except Refusal α := .error (.expected kinds)

/-- Reads the first token of an operand; anything else is refused with the given expectation. -/
def startOperand (role : NameRole) (expected : List TokenKind) (purpose : Purpose)
    (opened : OpenExpression) (state : State) (token : Token) : Except Refusal State :=
  match token.lexeme with
  | .number value => .ok (state.goTo (.afterOperand (.number token.place value) purpose opened))
  | .keyword .true => .ok (state.goTo (.afterOperand (.boolean token.place true) purpose opened))
  | .keyword .false => .ok (state.goTo (.afterOperand (.boolean token.place false) purpose opened))
  | .identifier name => .ok (state.goTo (.afterName role ⟨token.place, name⟩ purpose opened))
  | .mark .leftParen =>
    .ok (state.goTo (.expression .plain purpose
      ⟨.empty, (.group, opened.pending) :: opened.brackets⟩))
  | _ => refuse expected

/-- Reads the token behind an expression that fills its innermost parenthesis, or behind a whole
one. -/
def endExpression (value : Expression) (purpose : Purpose) (brackets : List (Bracket × Pending))
    (state : State) (token : Token) : Except Refusal State :=
  match brackets, token.lexeme with
  -- A closed group is an operand of what stands around it.
  | (.group, pending) :: rest, .mark .rightParen =>
    .ok (state.goTo (.afterOperand value purpose ⟨pending, rest⟩))
  | (.group, _) :: _, _ => refuse [.mark .rightParen]
  | (.call callee arguments, pending) :: rest, .mark .rightParen =>
    .ok (state.goTo (.afterOperand (.call callee.place callee (arguments ++ [value])) purpose
      ⟨pending, rest⟩))
  -- A comma asks for one more argument, which starts afresh.
  | (.call callee arguments, pending) :: rest, .mark .comma =>
    .ok (state.goTo (.expression .plain purpose
      ⟨.empty, (.call callee (arguments ++ [value]), pending) :: rest⟩))
  | (.call _ _, _) :: _, _ => refuse [.mark .comma, .mark .rightParen]
  -- No parenthesis is open, so that the expression is whole.
  | [], lexeme =>
    match purpose, lexeme with
    | .evaluate, .mark .semicolon => .ok (state.endWith (.statement (.evaluate value)))
    | .declare place name none, .mark .semicolon =>
      .ok (state.endWith (.statement (.declare place name none value)))
    | .declare place name (some type), .mark .semicolon =>
      .ok (state.endWith (.declaration place name type value))
    | .return place, .mark .semicolon =>
      .ok (state.endWith (.statement (.return place (some value))))
    -- A condition ends with its bracket, everything else with a semicolon.
    | .condition head, .mark .rightParen => .ok (state.goTo (.bodyOpen head value))
    | .condition _, _ => refuse [.mark .rightParen]
    | _, _ => refuse [.mark .semicolon]

/-- Reads the token behind an operand; anything that cannot follow is refused with the given
expectation. -/
def followOperand (expected : List TokenKind) (operand : Expression) (purpose : Purpose)
    (opened : OpenExpression) (state : State) (token : Token) : Except Refusal State :=
  let times := fun operator =>
    .ok (state.goTo (.operand purpose
      { opened with pending := opened.pending.multiply token.place operator operand }))
  let plus := fun operator =>
    .ok (state.goTo (.operand purpose
      { opened with pending := opened.pending.add token.place operator operand }))
  match token.lexeme with
  | .mark .star => times .multiply
  | .mark .slash => times .divide
  | .mark .plus => plus .add
  | .mark .minus => plus .subtract
  | .mark .semicolon | .mark .rightParen | .mark .comma =>
    -- Whether the expression may end here is said by what may follow the operand.
    if expected.contains token.kind then
      endExpression (opened.pending.close operand) purpose opened.brackets state token
    else refuse expected
  | _ => refuse expected

/-- Reads the token behind an identifier. -/
def followName (role : NameRole) (name : Identifier) (purpose : Purpose) (opened : OpenExpression)
    (state : State) (token : Token) : Except Refusal State :=
  match role, token.lexeme with
  | .statement, .mark .colon => .ok (state.goTo (.labelNext name))
  -- A name in front of the sign is a target, and the value may be another assignment.
  | .statement, .mark .equal | .expression, .mark .equal =>
    .ok (state.goTo (.expression .plain purpose
      { opened with pending := opened.pending.assign name }))
  | _, .mark .leftParen =>
    .ok (state.goTo (.expression .argument purpose
      ⟨.empty, (.call name [], opened.pending) :: opened.brackets⟩))
  | _, _ =>
    followOperand (nameFollows role) (.identifier name.place name.name) purpose opened state token

/-- Reads the first token where an expression may start. -/
def startExpression (start : ExpressionStart) (purpose : Purpose) (opened : OpenExpression)
    (state : State) (token : Token) : Except Refusal State :=
  match start, purpose, opened.brackets, token.lexeme with
  | .result, .return place, _, .mark .semicolon =>
    .ok (state.endWith (.statement (.return place none)))
  | .argument, _, (.call callee arguments, pending) :: rest, .mark .rightParen =>
    .ok (state.goTo (.afterOperand (.call callee.place callee arguments) purpose ⟨pending, rest⟩))
  | _, _, _, _ => startOperand .expression (startExpected start) purpose opened state token

/-- Reads the first token of a statement, or the brace that closes the innermost block. -/
def startStatement (state : State) (token : Token) : Except Refusal State :=
  match token.lexeme, state.blocks with
  | .keyword .function, _ => .ok (state.goTo (.functionName token.place))
  | .keyword .var, _ => .ok (state.goTo (.variableName token.place))
  | .mark .leftBrace, _ => .ok (state.openBlock token.place .plain)
  -- The statements of the block are complete; those in front of it are gone on with.
  | .mark .rightBrace, block :: outer =>
    .ok ⟨outer, block.before, .closed block.place block.owner state.statements⟩
  | .keyword .return, _ => .ok (state.goTo (.expression .result (.return token.place) .empty))
  | .keyword .if, _ => .ok (state.goTo (.conditionOpen (.choice token.place [])))
  | .keyword .loop, _ => .ok (state.goTo (.conditionOpen (.loop token.place none)))
  | .keyword .break, _ => .ok (state.goTo (.jumpNext true token.place))
  | .keyword .continue, _ => .ok (state.goTo (.jumpNext false token.place))
  | _, [] => startOperand .statement statementStarts .evaluate .empty state token
  | _, _ :: _ => startOperand .statement blockStarts .evaluate .empty state token

/-- The jump statement with an optional label. -/
def jump (isBreak : Bool) (place : Location) (label : Option Identifier) : Statement :=
  if isBreak then .break place label else .continue place label

/-- Reads one token. -/
def step (state : State) (token : Token) : Except Refusal State :=
  match state.position, token.lexeme with
  | .blockStart, _ => startStatement state token
  | .ended ended, _ =>
    -- The statement is complete only if the token can stand behind it.
    if statementFollows.contains token.kind then do
      let statement ← endedStatement ended
      startStatement (state.push statement) token
    else refuse statementFollows
  | .closed place owner body, lexeme =>
    match owner, lexeme with
    -- Behind the arm of a branch an alternative may follow.
    | .thenBranch start outer condition, .keyword .else =>
      .ok (state.goTo (.elseNext ⟨start, condition, place, body, token.place⟩ outer))
    | _, .keyword .else => refuse statementFollows
    | _, _ =>
      if braceFollows.contains token.kind then do
        let statement ← closedStatement place body owner
        startStatement (state.push statement) token
      else refuse braceFollows
  -- The head of a function: its name, its parameters, and its result.
  | .functionName place, .identifier name =>
    .ok (state.goTo (.functionOpen place ⟨token.place, name⟩))
  | .functionName _, _ => refuse [.identifier]
  | .functionOpen place name, .mark .leftParen =>
    .ok (state.goTo (.parametersStart ⟨place, name, []⟩))
  | .functionOpen _ _, _ => refuse [.mark .leftParen]
  | .parametersStart head, .mark .rightParen => .ok (state.goTo (.resultStart head))
  | .parametersStart head, .identifier name =>
    .ok (state.goTo (.parameterColon head ⟨token.place, name⟩))
  | .parametersStart _, _ => refuse [.mark .rightParen, .identifier]
  | .parameterName head, .identifier name =>
    .ok (state.goTo (.parameterColon head ⟨token.place, name⟩))
  | .parameterName _, _ => refuse [.identifier]
  | .parameterColon head name, .mark .colon => .ok (state.goTo (.parameterType head name))
  | .parameterColon _ _, _ => refuse [.mark .colon]
  | .parameterType head name, .identifier word =>
    .ok (state.goTo (.parameterEnd head name ⟨token.place, word⟩))
  | .parameterType _ _, _ => refuse [.identifier]
  | .parameterEnd head name type, lexeme =>
    let complete := do
      -- The type name is looked up once the token behind it is seen.
      let kind ← annotated type.place (ValueKind.ofWord type.word)
      return { head with parameters := head.parameters ++ [⟨name.place, name.name, kind⟩] }
    match lexeme with
    | .mark .comma => return state.goTo (.parameterName (← complete))
    | .mark .rightParen => return state.goTo (.resultStart (← complete))
    | _ => refuse [.mark .comma, .mark .rightParen]
  | .resultStart head, .mark .arrow => .ok (state.goTo (.resultType head))
  -- Without an arrow the function is void.
  | .resultStart head, .mark .leftBrace => .ok (state.openBlock token.place (.function head none))
  | .resultStart _, _ => refuse [.mark .arrow, .mark .leftBrace]
  | .resultType head, .identifier word => .ok (state.goTo (.functionBody head ⟨token.place, word⟩))
  | .resultType _, _ => refuse [.identifier]
  | .functionBody head type, .mark .leftBrace =>
    .ok (state.openBlock token.place (.function head (some type)))
  | .functionBody _ _, _ => refuse [.mark .leftBrace]
  -- A declaration, with a type or without.
  | .variableName place, .identifier name =>
    .ok (state.goTo (.variableNext place ⟨token.place, name⟩))
  | .variableName _, _ => refuse [.identifier]
  | .variableNext place name, .mark .colon => .ok (state.goTo (.variableType place name))
  | .variableNext place name, .mark .equal =>
    .ok (state.goTo (.expression .plain (.declare place name none) .empty))
  | .variableNext _ _, _ => refuse [.mark .colon, .mark .equal]
  | .variableType place name, .identifier word =>
    .ok (state.goTo (.variableEqual place name ⟨token.place, word⟩))
  | .variableType _ _, _ => refuse [.identifier]
  | .variableEqual place name type, .mark .equal =>
    .ok (state.goTo (.expression .plain (.declare place name (some type)) .empty))
  | .variableEqual _ _ _, _ => refuse [.mark .equal]
  -- Branches and loops, up to the brace of a body.
  | .conditionOpen head, .mark .leftParen =>
    .ok (state.goTo (.expression .plain (.condition head) .empty))
  | .conditionOpen _, _ => refuse [.mark .leftParen]
  | .bodyOpen (.choice place outer) condition, .mark .leftBrace =>
    .ok (state.openBlock token.place (.thenBranch place outer condition))
  | .bodyOpen (.loop place label) condition, .mark .leftBrace =>
    .ok (state.openBlock token.place (.loop place label condition))
  | .bodyOpen _ _, _ => refuse [.mark .leftBrace]
  | .elseNext choice outer, .mark .leftBrace =>
    .ok (state.openBlock token.place
      (.elseBranch choice.place outer choice.condition choice.thenPlace choice.thenBody))
  -- A branch behind `else` is read as one, inside of the branches before it.
  | .elseNext choice outer, .keyword .if =>
    .ok (state.goTo (.conditionOpen (.choice token.place (choice :: outer))))
  | .elseNext _ _, _ => refuse [.mark .leftBrace, .keyword .if]
  -- Behind a label there must be a loop.
  | .labelNext label, .keyword .loop =>
    .ok (state.goTo (.conditionOpen (.loop label.place (some label))))
  | .labelNext _, _ => refuse [.keyword .loop]
  -- Jumps may name a label.
  | .jumpNext isBreak place, .mark .semicolon =>
    .ok (state.endWith (.statement (jump isBreak place none)))
  | .jumpNext isBreak place, .identifier name =>
    .ok (state.goTo (.jumpEnd isBreak place ⟨token.place, name⟩))
  | .jumpNext _ _, _ => refuse [.mark .semicolon, .identifier]
  | .jumpEnd isBreak place label, .mark .semicolon =>
    .ok (state.endWith (.statement (jump isBreak place (some label))))
  | .jumpEnd _ _ _, _ => refuse [.mark .semicolon]
  | .expression start purpose opened, _ => startExpression start purpose opened state token
  | .operand purpose opened, _ => startOperand .operand operandStarts purpose opened state token
  | .afterName role name purpose opened, _ => followName role name purpose opened state token
  | .afterOperand operand purpose opened, _ =>
    followOperand operandFollows operand purpose opened state token

/-- The statements of the innermost block at the end of the text, unless a statement is open. -/
def lastStatements (state : State) : Except Refusal (Option (List Statement)) :=
  match state.position with
  | .blockStart => .ok (some state.statements)
  | .ended ended =>
    (endedStatement ended).map fun statement => some (state.statements ++ [statement])
  | .closed place owner body =>
    (closedStatement place body owner).map fun statement => some (state.statements ++ [statement])
  | _ => .ok none

/-- The end of the text: the program, if no phrase is open. -/
def finish (state : State) : Except Refusal (Option Program) :=
  (lastStatements state).map fun statements =>
    if state.blocks.isEmpty then statements.map Program.mk else none

end LoopLang.Parser
