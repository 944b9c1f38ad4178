import LoopLang.Parser.Basic

/-!
The grammar: phrases as trees with one shape for each production, the tokens that a phrase is
written with, the type names in it, and the part of the program that is built from it.
-/

namespace LoopLang.Grammar

/-- Where a token stands whose lexeme is known from the production that it belongs to. -/
structure Leaf where
  position : Nat
  place : Location
  deriving DecidableEq, Repr

namespace Leaf

/-- The token of a mark. -/
def mark (leaf : Leaf) (sign : Mark) : Token := ⟨.mark sign, leaf.position, leaf.place⟩

/-- The token of a reserved word. -/
def keyword (leaf : Leaf) (reserved : Keyword) : Token :=
  ⟨.keyword reserved, leaf.position, leaf.place⟩

end Leaf

/-- An identifier. -/
structure Word extends Leaf where
  name : String
  deriving DecidableEq, Repr

namespace Word

/-- The token of an identifier. -/
def token (word : Word) : Token := ⟨.identifier word.name, word.position, word.place⟩

/-- An identifier at its place. -/
def identifier (word : Word) : Identifier := ⟨word.place, word.name⟩

/-- The kind of values that a type name stands for, which may not be `void`. -/
def valueKind (word : Word) : Except ParseError ValueKind :=
  (ValueKind.ofWord word.name).mapError fun error => ⟨.wrongType error, word.place⟩

/-- The kind of results that a type name stands for. -/
def resultKind (word : Word) : Except ParseError ExactKind :=
  (ExactKind.ofWord word.name).mapError fun error => ⟨.wrongType error, word.place⟩

end Word

/-- A type name where it is used, and whether it may be `void` where it stands. -/
structure TypeUse where
  word : String
  mayBeVoid : Bool
  deriving DecidableEq, Repr

/-- Values are numbers or truth values, and only a result may be none. -/
def TypeUse.IsLegal (typeUse : TypeUse) : Prop :=
  typeUse.word = "num" ∨ typeUse.word = "bool" ∨ typeUse.mayBeVoid = true ∧ typeUse.word = "void"
  deriving Decidable

/-- The signs between the terms of a sum. -/
inductive SumSign
  | plus
  | minus
  deriving DecidableEq, Repr

/-- The signs between the factors of a product. -/
inductive ProductSign
  | times
  | per
  deriving DecidableEq, Repr

namespace SumSign

/-- How a sign is written. -/
def mark : SumSign → Mark
  | plus => .plus
  | minus => .minus

/-- What a sign means. -/
def operator : SumSign → Operator
  | plus => .add
  | minus => .subtract

end SumSign

namespace ProductSign

/-- How a sign is written. -/
def mark : ProductSign → Mark
  | times => .star
  | per => .slash

/-- What a sign means. -/
def operator : ProductSign → Operator
  | times => .multiply
  | per => .divide

end ProductSign

/-! Expressions. -/

mutual

/-- Productions `expression : IDENTIFIER EQUAL expression | additive`. -/
inductive Expression
  | assign (target : Word) (equal : Leaf) (value : Expression)
  | additive (value : Additive)

/-- Productions `additive : multiplicative | additive PLUS multiplicative | additive MINUS
multiplicative`. -/
inductive Additive
  | multiplicative (term : Multiplicative)
  | sum (left : Additive) (sign : SumSign) (leaf : Leaf) (right : Multiplicative)

/-- Productions `multiplicative : primary | multiplicative MULT primary | multiplicative DIV
primary`. -/
inductive Multiplicative
  | primary (factor : Primary)
  | product (left : Multiplicative) (sign : ProductSign) (leaf : Leaf) (right : Primary)

/-- Productions `primary : NUMBER | TRUE | FALSE | IDENTIFIER | IDENTIFIER LPAREN args RPAREN |
LPAREN expression RPAREN`. -/
inductive Primary
  | number (leaf : Leaf) (value : Float)
  | boolean (leaf : Leaf) (value : Bool)
  | identifier (word : Word)
  | call (callee : Word) (leftParen : Leaf) (args : Args) (rightParen : Leaf)
  | group (leftParen : Leaf) (inner : Expression) (rightParen : Leaf)

/-- Productions `args : arg_list | empty`. -/
inductive Args
  | list (items : ArgList)
  | empty

/-- Productions `arg_list : expression | arg_list COMMA expression`. -/
inductive ArgList
  | single (item : Expression)
  | more (items : ArgList) (comma : Leaf) (last : Expression)

end

mutual

/-- The tokens of an expression. -/
def Expression.tokens : Expression → List Token
  | .assign target equal value => target.token :: equal.mark .equal :: value.tokens
  | .additive value => value.tokens

/-- The tokens of a sum. -/
def Additive.tokens : Additive → List Token
  | .multiplicative term => term.tokens
  | .sum left sign leaf right => left.tokens ++ leaf.mark sign.mark :: right.tokens

/-- The tokens of a product. -/
def Multiplicative.tokens : Multiplicative → List Token
  | .primary factor => factor.tokens
  | .product left sign leaf right => left.tokens ++ leaf.mark sign.mark :: right.tokens

/-- The tokens of an operand. -/
def Primary.tokens : Primary → List Token
  | .number leaf value => [⟨.number value, leaf.position, leaf.place⟩]
  | .boolean leaf value => [leaf.keyword (if value then .true else .false)]
  | .identifier word => [word.token]
  | .call callee leftParen args rightParen =>
    callee.token :: leftParen.mark .leftParen :: args.tokens ++ [rightParen.mark .rightParen]
  | .group leftParen inner rightParen =>
    leftParen.mark .leftParen :: inner.tokens ++ [rightParen.mark .rightParen]

/-- The tokens between the parentheses of a call. -/
def Args.tokens : Args → List Token
  | .list items => items.tokens
  | .empty => []

/-- The tokens of arguments. -/
def ArgList.tokens : ArgList → List Token
  | .single item => item.tokens
  | .more items comma last => items.tokens ++ comma.mark .comma :: last.tokens

end

mutual

/-- An assignment stands at its target. -/
def Expression.build : Expression → LoopLang.Expression
  | .assign target _ value => .assign target.place target.identifier value.build
  | .additive value => value.build

/-- A sum stands at its sign. -/
def Additive.build : Additive → LoopLang.Expression
  | .multiplicative term => term.build
  | .sum left sign leaf right => .binary leaf.place sign.operator left.build right.build

/-- A product stands at its sign. -/
def Multiplicative.build : Multiplicative → LoopLang.Expression
  | .primary factor => factor.build
  | .product left sign leaf right => .binary leaf.place sign.operator left.build right.build

/-- Of parentheses around an expression nothing is left. -/
def Primary.build : Primary → LoopLang.Expression
  | .number leaf value => .number leaf.place value
  | .boolean leaf value => .boolean leaf.place value
  | .identifier word => .identifier word.place word.name
  | .call callee _ args _ => .call callee.place callee.identifier args.build
  | .group _ inner _ => inner.build

/-- The arguments of a call, if there are any. -/
def Args.build : Args → List LoopLang.Expression
  | .list items => items.build
  | .empty => []

/-- Arguments in order. -/
def ArgList.build : ArgList → List LoopLang.Expression
  | .single item => [item.build]
  | .more items _ last => items.build ++ [last.build]

end

/-! Parts of functions. -/

/-- Production `param : IDENTIFIER COLON IDENTIFIER`. -/
structure Param where
  name : Word
  colon : Leaf
  type : Word

/-- Productions `param_list : param | param_list COMMA param`. -/
inductive ParamList
  | single (param : Param)
  | more (params : ParamList) (comma : Leaf) (last : Param)

/-- Productions `params : param_list | empty`. -/
inductive Params
  | list (params : ParamList)
  | empty

/-- Productions `return_type : ARROW IDENTIFIER | empty`. -/
inductive ReturnType
  | arrow (leaf : Leaf) (type : Word)
  | empty

/-- The tokens of a parameter. -/
def Param.tokens (param : Param) : List Token :=
  [param.name.token, param.colon.mark .colon, param.type.token]

/-- The type name of a parameter. -/
def Param.typeUse (param : Param) : TypeUse := ⟨param.type.name, false⟩

/-- A parameter stands at its name. -/
def Param.build (param : Param) : Except ParseError Parameter := do
  let kind ← param.type.valueKind
  return ⟨param.name.place, param.name.name, kind⟩

/-- The tokens of parameters. -/
def ParamList.tokens : ParamList → List Token
  | single param => param.tokens
  | more params comma last => params.tokens ++ comma.mark .comma :: last.tokens

/-- The type names of parameters. -/
def ParamList.typeUses : ParamList → List TypeUse
  | single param => [param.typeUse]
  | more params _ last => params.typeUses ++ [last.typeUse]

/-- Parameters in order. -/
def ParamList.build : ParamList → Except ParseError (List Parameter)
  | single param => do
    let last ← param.build
    return [last]
  | more params _ last => do
    let before ← params.build
    let last ← last.build
    return before ++ [last]

/-- The tokens between the parentheses of a function. -/
def Params.tokens : Params → List Token
  | list params => params.tokens
  | empty => []

/-- The type names between the parentheses of a function. -/
def Params.typeUses : Params → List TypeUse
  | list params => params.typeUses
  | empty => []

/-- The parameters of a function, if there are any. -/
def Params.build : Params → Except ParseError (List Parameter)
  | list params => params.build
  | empty => return []

/-- The tokens of a result type. -/
def ReturnType.tokens : ReturnType → List Token
  | arrow leaf type => [leaf.mark .arrow, type.token]
  | empty => []

/-- The type name of a result, which may be `void`. -/
def ReturnType.typeUses : ReturnType → List TypeUse
  | arrow _ type => [⟨type.name, true⟩]
  | empty => []

/-- Without a result type the result is `void`. -/
def ReturnType.build : ReturnType → Except ParseError ExactKind
  | arrow _ type => type.resultKind
  | empty => return .void

/-! Statements without other statements in them. -/

/--
Productions `variable_declaration : VAR IDENTIFIER COLON IDENTIFIER EQUAL expression SEMICOLON`
`| VAR IDENTIFIER EQUAL expression SEMICOLON`.
-/
inductive VariableDeclaration
  | typed (leaf : Leaf) (name : Word) (colon : Leaf) (type : Word) (equal : Leaf)
      (value : Expression) (semicolon : Leaf)
  | plain (leaf : Leaf) (name : Word) (equal : Leaf) (value : Expression) (semicolon : Leaf)

/-- Productions `return_statement : RETURN expression SEMICOLON | RETURN SEMICOLON`. -/
inductive ReturnStatement
  | value (leaf : Leaf) (result : Expression) (semicolon : Leaf)
  | plain (leaf : Leaf) (semicolon : Leaf)

/--
Productions `break_statement : BREAK SEMICOLON | BREAK IDENTIFIER SEMICOLON` and
`continue_statement : CONTINUE SEMICOLON | CONTINUE IDENTIFIER SEMICOLON`.
-/
inductive JumpStatement
  | plain (isBreak : Bool) (leaf : Leaf) (semicolon : Leaf)
  | labelled (isBreak : Bool) (leaf : Leaf) (label : Word) (semicolon : Leaf)

/-- Production `expression_statement : expression SEMICOLON`. -/
structure ExpressionStatement where
  value : Expression
  semicolon : Leaf

/-- The tokens of a variable's declaration. -/
def VariableDeclaration.tokens : VariableDeclaration → List Token
  | typed leaf name colon type equal value semicolon =>
    leaf.keyword .var :: name.token :: colon.mark .colon :: type.token :: equal.mark .equal ::
      value.tokens ++ [semicolon.mark .semicolon]
  | plain leaf name equal value semicolon =>
    leaf.keyword .var :: name.token :: equal.mark .equal :: value.tokens ++
      [semicolon.mark .semicolon]

/-- The type name of a variable, if there is one. -/
def VariableDeclaration.typeUses : VariableDeclaration → List TypeUse
  | typed _ _ _ type _ _ _ => [⟨type.name, false⟩]
  | plain .. => []

/-- Without a type name the kind of a variable is to be inferred. -/
def VariableDeclaration.build : VariableDeclaration → Except ParseError LoopLang.Statement
  | typed leaf name _ type _ value _ => do
    let kind ← type.valueKind
    return .declare leaf.place name.identifier (some kind) value.build
  | plain leaf name _ value _ => return .declare leaf.place name.identifier none value.build

/-- The tokens of the end of a function. -/
def ReturnStatement.tokens : ReturnStatement → List Token
  | value leaf result semicolon =>
    leaf.keyword .return :: result.tokens ++ [semicolon.mark .semicolon]
  | plain leaf semicolon => [leaf.keyword .return, semicolon.mark .semicolon]

/-- The end of a function, with a result if there is one. -/
def ReturnStatement.build : ReturnStatement → LoopLang.Statement
  | value leaf result _ => .return leaf.place (some result.build)
  | plain leaf _ => .return leaf.place none

/-- The reserved word of a jump. -/
def JumpStatement.reserved (isBreak : Bool) : Keyword := if isBreak then .break else .continue

/-- A jump as a statement. -/
def JumpStatement.statement (isBreak : Bool) (place : Location) (label : Option Identifier) :
    LoopLang.Statement :=
  if isBreak then .break place label else .continue place label

/-- The tokens of a jump. -/
def JumpStatement.tokens : JumpStatement → List Token
  | plain isBreak leaf semicolon => [leaf.keyword (reserved isBreak), semicolon.mark .semicolon]
  | labelled isBreak leaf label semicolon =>
    [leaf.keyword (reserved isBreak), label.token, semicolon.mark .semicolon]

/-- A jump, with a label if there is one. -/
def JumpStatement.build : JumpStatement → LoopLang.Statement
  | plain isBreak leaf _ => statement isBreak leaf.place none
  | labelled isBreak leaf label _ => statement isBreak leaf.place (some label.identifier)

/-- The tokens of an expression that stands for itself. -/
def ExpressionStatement.tokens (statement : ExpressionStatement) : List Token :=
  statement.value.tokens ++ [statement.semicolon.mark .semicolon]

/-- An expression that stands for itself. -/
def ExpressionStatement.build (statement : ExpressionStatement) : LoopLang.Statement :=
  .evaluate statement.value.build

/-! Statements. -/

mutual

/-- Productions `statements : statements statement | empty`. -/
inductive Statements
  | more (before : Statements) (last : Statement)
  | empty

/--
Productions `statement : function_declaration | variable_declaration | block | return_statement |
  if_statement`
`| loop_statement | break_statement | continue_statement | expression_statement`.
-/
inductive Statement
  | function (declaration : FunctionDeclaration)
  | variable (declaration : VariableDeclaration)
  | block (block : Block)
  | return (statement : ReturnStatement)
  | if (statement : IfStatement)
  | loop (statement : LoopStatement)
  | jump (statement : JumpStatement)
  | expression (statement : ExpressionStatement)

/-- Production `block : LBRACE statements RBRACE`. -/
inductive Block
  | braces (leftBrace : Leaf) (body : Statements) (rightBrace : Leaf)

/-- Production `function_declaration : FN IDENTIFIER LPAREN params RPAREN return_type block`. -/
inductive FunctionDeclaration
  | declare (leaf : Leaf) (name : Word) (leftParen : Leaf) (params : Params) (rightParen : Leaf)
      (result : ReturnType)
      (body : Block)

/-- Production `if_statement : IF LPAREN expression RPAREN block else_clause_opt`. -/
inductive IfStatement
  | choose (leaf leftParen : Leaf) (condition : Expression) (rightParen : Leaf) (body : Block)
      (alternative : ElseClause)

/-- Productions `else_clause_opt : ELSE block | ELSE if_statement | empty`. -/
inductive ElseClause
  | block (leaf : Leaf) (body : Block)
  | if (leaf : Leaf) (inner : IfStatement)
  | empty

/--
Productions `loop_statement : LOOP LPAREN expression RPAREN block`
`| IDENTIFIER COLON LOOP LPAREN expression RPAREN block`.
-/
inductive LoopStatement
  | plain (leaf leftParen : Leaf) (condition : Expression) (rightParen : Leaf) (body : Block)
  | labelled (label : Word) (colon leaf leftParen : Leaf) (condition : Expression)
      (rightParen : Leaf) (body : Block)

end

mutual

/-- The tokens of statements. -/
def Statements.tokens : Statements → List Token
  | .more before last => before.tokens ++ last.tokens
  | .empty => []

/-- The tokens of a statement. -/
def Statement.tokens : Statement → List Token
  | .function declaration => declaration.tokens
  | .variable declaration => declaration.tokens
  | .block block => block.tokens
  | .return statement => statement.tokens
  | .if statement => statement.tokens
  | .loop statement => statement.tokens
  | .jump statement => statement.tokens
  | .expression statement => statement.tokens

/-- The tokens of a block. -/
def Block.tokens : Block → List Token
  | .braces leftBrace body rightBrace =>
    leftBrace.mark .leftBrace :: body.tokens ++ [rightBrace.mark .rightBrace]

/-- The tokens of a function. -/
def FunctionDeclaration.tokens : FunctionDeclaration → List Token
  | .declare leaf name leftParen params rightParen result body =>
    leaf.keyword .function :: name.token :: leftParen.mark .leftParen :: params.tokens ++
      rightParen.mark .rightParen :: (result.tokens ++ body.tokens)

/-- The tokens of a condition with its arms. -/
def IfStatement.tokens : IfStatement → List Token
  | .choose leaf leftParen condition rightParen body alternative =>
    leaf.keyword .if :: leftParen.mark .leftParen :: condition.tokens ++
      rightParen.mark .rightParen :: (body.tokens ++ alternative.tokens)

/-- The tokens of an alternative. -/
def ElseClause.tokens : ElseClause → List Token
  | .block leaf body => leaf.keyword .else :: body.tokens
  | .if leaf inner => leaf.keyword .else :: inner.tokens
  | .empty => []

/-- The tokens of a loop. -/
def LoopStatement.tokens : LoopStatement → List Token
  | .plain leaf leftParen condition rightParen body =>
    leaf.keyword .loop :: leftParen.mark .leftParen :: condition.tokens ++
      rightParen.mark .rightParen :: body.tokens
  | .labelled label colon leaf leftParen condition rightParen body =>
    label.token :: colon.mark .colon :: leaf.keyword .loop :: leftParen.mark .leftParen ::
      condition.tokens ++ rightParen.mark .rightParen :: body.tokens

end

mutual

/-- The type names in statements. -/
def Statements.typeUses : Statements → List TypeUse
  | .more before last => before.typeUses ++ last.typeUses
  | .empty => []

/-- The type names in a statement. -/
def Statement.typeUses : Statement → List TypeUse
  | .function declaration => declaration.typeUses
  | .variable declaration => declaration.typeUses
  | .block block => block.typeUses
  | .if statement => statement.typeUses
  | .loop statement => statement.typeUses
  | .return _ | .jump _ | .expression _ => []

/-- The type names in a block. -/
def Block.typeUses : Block → List TypeUse
  | .braces _ body _ => body.typeUses

/-- The type names in a function; that of its result is looked at last. -/
def FunctionDeclaration.typeUses : FunctionDeclaration → List TypeUse
  | .declare _ _ _ params _ result body => params.typeUses ++ (body.typeUses ++ result.typeUses)

/-- The type names in the arms of a condition. -/
def IfStatement.typeUses : IfStatement → List TypeUse
  | .choose _ _ _ _ body alternative => body.typeUses ++ alternative.typeUses

/-- The type names in an alternative. -/
def ElseClause.typeUses : ElseClause → List TypeUse
  | .block _ body => body.typeUses
  | .if _ inner => inner.typeUses
  | .empty => []

/-- The type names in a loop. -/
def LoopStatement.typeUses : LoopStatement → List TypeUse
  | .plain _ _ _ _ body => body.typeUses
  | .labelled _ _ _ _ _ _ body => body.typeUses

end

mutual

/-- Statements in order. -/
def Statements.build : Statements → Except ParseError (List LoopLang.Statement)
  | .more before last => do
    let before ← before.build
    let last ← last.build
    return before ++ [last]
  | .empty => return []

/-- What a statement says. -/
def Statement.build : Statement → Except ParseError LoopLang.Statement
  | .function declaration => declaration.build
  | .variable declaration => declaration.build
  | .block block => do
    let (place, body) ← block.build
    return .block place body
  | .return statement => return statement.build
  | .if statement => statement.build
  | .loop statement => statement.build
  | .jump statement => return statement.build
  | .expression statement => return statement.build

/-- A block stands at its left brace. -/
def Block.build : Block → Except ParseError (Location × List LoopLang.Statement)
  | .braces leftBrace body _ => do
    let body ← body.build
    return (leftBrace.place, body)

/-- A function with its parameters and its body. -/
def FunctionDeclaration.build : FunctionDeclaration → Except ParseError LoopLang.Statement
  | .declare leaf name _ params _ result body => do
    let params ← params.build
    let (bodyPlace, body) ← body.build
    let result ← result.build
    return .function leaf.place name.identifier params bodyPlace body result

/-- A condition with the arms that it has. -/
def IfStatement.build : IfStatement → Except ParseError LoopLang.Statement
  | .choose leaf _ condition _ body alternative => do
    let (thenPlace, thenBody) ← body.build
    match ← alternative.build with
    | some (elsePlace, elseBody) =>
      return .choose leaf.place condition.build thenPlace thenBody elsePlace elseBody
    | none => return .when leaf.place condition.build thenPlace thenBody

/-- Another condition as an alternative is a block at the word in front of it, with nothing else in
it. -/
def ElseClause.build : ElseClause → Except ParseError (Option (Location × List LoopLang.Statement))
  | .block _ body => do
    let body ← body.build
    return some body
  | .if leaf inner => do
    let inner ← inner.build
    return some (leaf.place, [inner])
  | .empty => return none

/-- A loop stands at its label, if it has one. -/
def LoopStatement.build : LoopStatement → Except ParseError LoopLang.Statement
  | .plain leaf _ condition _ body => do
    let (bodyPlace, body) ← body.build
    return .loop leaf.place condition.build bodyPlace body none
  | .labelled label _ _ _ condition _ body => do
    let (bodyPlace, body) ← body.build
    return .loop label.place condition.build bodyPlace body (some label.identifier)

end

/-- What statements say as a whole program. -/
def Statements.program (statements : Statements) : Except ParseError Program := do
  let body ← statements.build
  return ⟨body⟩

end LoopLang.Grammar
