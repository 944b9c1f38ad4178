import LoopLang.Proofs.Grammar.FollowStatement

/-!
What a state of the parser stands for: tokens that can have led to it. What is complete in them is
written as trees of the grammar, and what is still open as the beginning of one.
-/

namespace LoopLang.Parser

open Grammar (Leaf Word SumSign ProductSign)

/-! Expressions. -/

/-- Open assignments, innermost first. -/
inductive ReadsTargets : List Identifier → List Token → Prop
  | none : ReadsTargets [] []
  | more {targets : List Identifier} {tokens : List Token} (outer : ReadsTargets targets tokens)
      (target : Word) (equal : Leaf) :
      ReadsTargets (target.identifier :: targets) (tokens ++ [target.token, equal.mark .equal])

/-- A sum that waits for its last term. -/
inductive ReadsSum : Option Operation → List Token → Prop
  | none : ReadsSum none []
  | waits (left : Grammar.Additive) (sign : SumSign) (leaf : Leaf) :
      ReadsSum (some ⟨leaf.place, sign.operator, left.build⟩) (left.tokens ++ [leaf.mark sign.mark])

/-- A product that waits for its last factor. -/
inductive ReadsProduct : Option Operation → List Token → Prop
  | none : ReadsProduct none []
  | waits (left : Grammar.Multiplicative) (sign : ProductSign) (leaf : Leaf) :
      ReadsProduct (some ⟨leaf.place, sign.operator, left.build⟩)
        (left.tokens ++ [leaf.mark sign.mark])

/-- What is open within one parenthesis. -/
inductive Pending.Reads : Pending → List Token → Prop
  | parts {targets : List Identifier} {sum product : Option Operation}
      {assigned added multiplied : List Token} (targets_read : ReadsTargets targets assigned)
      (sum_read : ReadsSum sum added) (product_read : ReadsProduct product multiplied) :
      Pending.Reads ⟨targets, sum, product⟩ (assigned ++ added ++ multiplied)

/-- An open parenthesis with what belongs to it. -/
inductive Bracket.Reads : Bracket → List Token → Prop
  | group (leftParen : Leaf) : Bracket.Reads .group [leftParen.mark .leftParen]
  | call (callee : Word) (leftParen : Leaf) :
      Bracket.Reads (.call callee.identifier []) [callee.token, leftParen.mark .leftParen]
  | more (callee : Word) (leftParen : Leaf) (items : Grammar.ArgList) (comma : Leaf) :
      Bracket.Reads (.call callee.identifier items.build)
        (callee.token :: leftParen.mark .leftParen :: items.tokens ++ [comma.mark .comma])

/-- The open parentheses, innermost first, with what is open around each. -/
inductive ReadsBrackets : List (Bracket × Pending) → List Token → Prop
  | none : ReadsBrackets [] []
  | more {brackets : List (Bracket × Pending)} {bracket : Bracket} {pending : Pending}
      {outside around own : List Token} (outer : ReadsBrackets brackets outside)
      (pending_read : pending.Reads around) (bracket_read : bracket.Reads own) :
      ReadsBrackets ((bracket, pending) :: brackets) (outside ++ around ++ own)

/-- An unfinished expression. -/
inductive OpenExpression.Reads : OpenExpression → List Token → Prop
  | parts {pending : Pending} {brackets : List (Bracket × Pending)} {outside inside : List Token}
      (brackets_read : ReadsBrackets brackets outside) (pending_read : pending.Reads inside) :
      OpenExpression.Reads ⟨pending, brackets⟩ (outside ++ inside)

/-! Statements. -/

/-- Conditions whose alternative is still open, innermost first. -/
inductive ReadsOuter : List OuterChoice → List Token → Prop
  | none : ReadsOuter [] []
  | more {outer : List OuterChoice} {outside : List Token} (outer_read : ReadsOuter outer outside)
      (leaf leftParen : Leaf) (condition : Grammar.Expression) (rightParen : Leaf)
      (arm : Grammar.Block) {place : Location} {body : List Statement}
      (built : arm.build = .ok (place, body)) (word : Leaf) :
      ReadsOuter (⟨leaf.place, condition.build, place, body, word.place⟩ :: outer)
        (outside ++ (leaf.keyword .if :: leftParen.mark .leftParen :: condition.tokens ++
          rightParen.mark .rightParen :: (arm.tokens ++ [word.keyword .else])))

/-- The words in front of a condition. -/
inductive Head.Reads : Head → List Token → Prop
  | choice {outer : List OuterChoice} {outside : List Token}
      (outer_read : ReadsOuter outer outside) (leaf : Leaf) :
      Head.Reads (.choice leaf.place outer) (outside ++ [leaf.keyword .if])
  | loop (leaf : Leaf) : Head.Reads (.loop leaf.place none) [leaf.keyword .loop]
  | labelled (label : Word) (colon leaf : Leaf) :
      Head.Reads (.loop label.place (some label.identifier))
        [label.token, colon.mark .colon, leaf.keyword .loop]

/-- What stands in front of an expression. -/
inductive Purpose.Reads : Purpose → List Token → Prop
  | evaluate : Purpose.Reads .evaluate []
  | plain (leaf : Leaf) (name : Word) (equal : Leaf) :
      Purpose.Reads (.declare leaf.place name.identifier none)
        [leaf.keyword .var, name.token, equal.mark .equal]
  | typed (leaf : Leaf) (name : Word) (colon : Leaf) (type : Word) (equal : Leaf) :
      Purpose.Reads (.declare leaf.place name.identifier (some ⟨type.place, type.name⟩))
        [leaf.keyword .var, name.token, colon.mark .colon, type.token, equal.mark .equal]
  | result (leaf : Leaf) : Purpose.Reads (.return leaf.place) [leaf.keyword .return]
  | condition {head : Head} {tokens : List Token} (head_read : head.Reads tokens)
      (leftParen : Leaf) :
      Purpose.Reads (.condition head) (tokens ++ [leftParen.mark .leftParen])

/-- What stands in front of a parameter. -/
inductive ReadsParams : FunctionHead → List Token → Prop
  | first (leaf : Leaf) (name : Word) (leftParen : Leaf) :
      ReadsParams ⟨leaf.place, name.identifier, []⟩
        [leaf.keyword .function, name.token, leftParen.mark .leftParen]
  | more (leaf : Leaf) (name : Word) (leftParen : Leaf) (params : Grammar.ParamList)
      {parameters : List Parameter} (built : params.build = .ok parameters) (comma : Leaf) :
      ReadsParams ⟨leaf.place, name.identifier, parameters⟩
        (leaf.keyword .function :: name.token :: leftParen.mark .leftParen :: params.tokens ++
          [comma.mark .comma])

/-- A function up to the parenthesis behind its parameters. -/
inductive FunctionHead.Reads : FunctionHead → List Token → Prop
  | parts (leaf : Leaf) (name : Word) (leftParen : Leaf) (params : Grammar.Params)
      {parameters : List Parameter} (built : params.build = .ok parameters) (rightParen : Leaf) :
      FunctionHead.Reads ⟨leaf.place, name.identifier, parameters⟩
        (leaf.keyword .function :: name.token :: leftParen.mark .leftParen :: params.tokens ++
          [rightParen.mark .rightParen])

/-- What stands in front of a block. -/
inductive Owner.Reads : Owner → List Token → Prop
  | plain : Owner.Reads .plain []
  | function {head : FunctionHead} {tokens : List Token} (head_read : head.Reads tokens) :
      Owner.Reads (.function head none) tokens
  | typed {head : FunctionHead} {tokens : List Token} (head_read : head.Reads tokens)
      (arrow : Leaf) (type : Word) :
      Owner.Reads (.function head (some ⟨type.place, type.name⟩))
        (tokens ++ [arrow.mark .arrow, type.token])
  | thenBranch {place : Location} {outer : List OuterChoice} {tokens : List Token}
      (head_read : (Head.choice place outer).Reads tokens) (leftParen : Leaf)
      (condition : Grammar.Expression) (rightParen : Leaf) :
      Owner.Reads (.thenBranch place outer condition.build)
        (tokens ++ (leftParen.mark .leftParen :: condition.tokens ++ [rightParen.mark .rightParen]))
  | elseBranch {choice : OuterChoice} {outer : List OuterChoice} {tokens : List Token}
      (outer_read : ReadsOuter (choice :: outer) tokens) :
      Owner.Reads (.elseBranch choice.place outer choice.condition choice.thenPlace choice.thenBody)
        tokens
  | loop {place : Location} {label : Option Identifier} {tokens : List Token}
      (head_read : (Head.loop place label).Reads tokens) (leftParen : Leaf)
      (condition : Grammar.Expression) (rightParen : Leaf) :
      Owner.Reads (.loop place label condition.build)
        (tokens ++ (leftParen.mark .leftParen :: condition.tokens ++ [rightParen.mark .rightParen]))

/-- The open blocks, innermost first, with the statements before each. -/
inductive ReadsBlocks : List OpenBlock → List Token → Prop
  | none : ReadsBlocks [] []
  | more {blocks : List OpenBlock} {owner : Owner} {outside own : List Token}
      (outer : ReadsBlocks blocks outside) (before : Grammar.Statements)
      {statements : List Statement} (built : before.build = .ok statements)
      (owner_read : owner.Reads own) (leftBrace : Leaf) :
      ReadsBlocks (⟨leftBrace.place, owner, statements⟩ :: blocks)
        (outside ++ before.tokens ++ own ++ [leftBrace.mark .leftBrace])

/-- What has been read of the statement that a position is in. -/
inductive Position.Reads : Position → List Token → Prop
  | blockStart : Position.Reads .blockStart []
  | ended (statement : Grammar.Statement) {ended : Ended}
      (built : statement.build = (endedStatement ended).mapError Refusal.error) :
      Position.Reads (.ended ended) statement.tokens
  | closed {owner : Owner} {own : List Token} (owner_read : owner.Reads own)
      (block : Grammar.Block) {place : Location} {body : List Statement}
      (built : block.build = .ok (place, body)) :
      Position.Reads (.closed place owner body) (own ++ block.tokens)
  | functionName (leaf : Leaf) : Position.Reads (.functionName leaf.place) [leaf.keyword .function]
  | functionOpen (leaf : Leaf) (name : Word) :
      Position.Reads (.functionOpen leaf.place name.identifier) [leaf.keyword .function, name.token]
  | parametersStart (leaf : Leaf) (name : Word) (leftParen : Leaf) :
      Position.Reads (.parametersStart ⟨leaf.place, name.identifier, []⟩)
        [leaf.keyword .function, name.token, leftParen.mark .leftParen]
  | parameterName {head : FunctionHead} {tokens : List Token}
      (params_read : ReadsParams head tokens) :
      Position.Reads (.parameterName head) tokens
  | parameterColon {head : FunctionHead} {tokens : List Token}
      (params_read : ReadsParams head tokens) (name : Word) :
      Position.Reads (.parameterColon head name.identifier) (tokens ++ [name.token])
  | parameterType {head : FunctionHead} {tokens : List Token}
      (params_read : ReadsParams head tokens) (name : Word) (colon : Leaf) :
      Position.Reads (.parameterType head name.identifier)
        (tokens ++ [name.token, colon.mark .colon])
  | parameterEnd {head : FunctionHead} {tokens : List Token}
      (params_read : ReadsParams head tokens) (param : Grammar.Param) :
      Position.Reads (.parameterEnd head param.name.identifier ⟨param.type.place, param.type.name⟩)
        (tokens ++ param.tokens)
  | resultStart {head : FunctionHead} {tokens : List Token} (head_read : head.Reads tokens) :
      Position.Reads (.resultStart head) tokens
  | resultType {head : FunctionHead} {tokens : List Token} (head_read : head.Reads tokens)
      (arrow : Leaf) :
      Position.Reads (.resultType head) (tokens ++ [arrow.mark .arrow])
  | functionBody {head : FunctionHead} {tokens : List Token} (head_read : head.Reads tokens)
      (arrow : Leaf) (type : Word) :
      Position.Reads (.functionBody head ⟨type.place, type.name⟩)
        (tokens ++ [arrow.mark .arrow, type.token])
  | variableName (leaf : Leaf) : Position.Reads (.variableName leaf.place) [leaf.keyword .var]
  | variableNext (leaf : Leaf) (name : Word) :
      Position.Reads (.variableNext leaf.place name.identifier) [leaf.keyword .var, name.token]
  | variableType (leaf : Leaf) (name : Word) (colon : Leaf) :
      Position.Reads (.variableType leaf.place name.identifier)
        [leaf.keyword .var, name.token, colon.mark .colon]
  | variableEqual (leaf : Leaf) (name : Word) (colon : Leaf) (type : Word) :
      Position.Reads (.variableEqual leaf.place name.identifier ⟨type.place, type.name⟩)
        [leaf.keyword .var, name.token, colon.mark .colon, type.token]
  | conditionOpen {head : Head} {tokens : List Token} (head_read : head.Reads tokens) :
      Position.Reads (.conditionOpen head) tokens
  | bodyOpen {head : Head} {tokens : List Token} (head_read : head.Reads tokens) (leftParen : Leaf)
      (condition : Grammar.Expression) (rightParen : Leaf) :
      Position.Reads (.bodyOpen head condition.build)
        (tokens ++ (leftParen.mark .leftParen :: condition.tokens ++ [rightParen.mark .rightParen]))
  | elseNext {choice : OuterChoice} {outer : List OuterChoice} {tokens : List Token}
      (outer_read : ReadsOuter (choice :: outer) tokens) :
      Position.Reads (.elseNext choice outer) tokens
  | labelNext (label : Word) (colon : Leaf) :
      Position.Reads (.labelNext label.identifier) [label.token, colon.mark .colon]
  | jumpNext (isBreak : Bool) (leaf : Leaf) :
      Position.Reads (.jumpNext isBreak leaf.place)
        [leaf.keyword (Grammar.JumpStatement.reserved isBreak)]
  | jumpEnd (isBreak : Bool) (leaf : Leaf) (label : Word) :
      Position.Reads (.jumpEnd isBreak leaf.place label.identifier)
        [leaf.keyword (Grammar.JumpStatement.reserved isBreak), label.token]
  /-- Where an expression starts, only assignments can be open. -/
  | expression {purpose : Purpose} {before outside assigned : List Token}
      (purpose_read : purpose.Reads before) {brackets : List (Bracket × Pending)}
      (brackets_read : ReadsBrackets brackets outside) {targets : List Identifier}
      (targets_read : ReadsTargets targets assigned) :
      Position.Reads (.expression .plain purpose ⟨⟨targets, none, none⟩, brackets⟩)
        (before ++ outside ++ assigned)
  | result (leaf : Leaf) :
      Position.Reads (.expression .result (.return leaf.place) .empty) [leaf.keyword .return]
  | argument {purpose : Purpose} {before outside around : List Token}
      (purpose_read : purpose.Reads before) {brackets : List (Bracket × Pending)}
      (brackets_read : ReadsBrackets brackets outside) {pending : Pending}
      (pending_read : pending.Reads around) (callee : Word) (leftParen : Leaf) :
      Position.Reads (.expression .argument purpose
        ⟨.empty, (.call callee.identifier [], pending) :: brackets⟩)
        (before ++ outside ++ around ++ [callee.token, leftParen.mark .leftParen])
  | operand {purpose : Purpose} {opened : OpenExpression} {before inside : List Token}
      (purpose_read : purpose.Reads before) (opened_read : opened.Reads inside) :
      Position.Reads (.operand purpose opened) (before ++ inside)
  | afterStatementName (name : Word) :
      Position.Reads (.afterName .statement name.identifier .evaluate .empty) [name.token]
  | afterExpressionName {purpose : Purpose} {before outside assigned : List Token}
      (purpose_read : purpose.Reads before) {brackets : List (Bracket × Pending)}
      (brackets_read : ReadsBrackets brackets outside) {targets : List Identifier}
      (targets_read : ReadsTargets targets assigned) (name : Word) :
      Position.Reads (.afterName .expression name.identifier purpose
        ⟨⟨targets, none, none⟩, brackets⟩) (before ++ outside ++ assigned ++ [name.token])
  | afterOperandName {purpose : Purpose} {opened : OpenExpression} {before inside : List Token}
      (purpose_read : purpose.Reads before) (opened_read : opened.Reads inside) (name : Word) :
      Position.Reads (.afterName .operand name.identifier purpose opened)
        (before ++ inside ++ [name.token])
  | afterOperand {purpose : Purpose} {opened : OpenExpression} {before inside : List Token}
      (purpose_read : purpose.Reads before) (opened_read : opened.Reads inside)
      (factor : Grammar.Primary) :
      Position.Reads (.afterOperand factor.build purpose opened) (before ++ inside ++ factor.tokens)

/-- What has been read: the open blocks, the complete statements of the innermost one, and the
beginning of another. -/
def State.Reads (state : State) (tokens : List Token) : Prop :=
  ∃ (outside inside : List Token) (complete : Grammar.Statements),
    ReadsBlocks state.blocks outside ∧
    complete.build = .ok state.statements ∧ state.position.Reads inside ∧
    tokens = outside ++ complete.tokens ++ inside

end LoopLang.Parser
