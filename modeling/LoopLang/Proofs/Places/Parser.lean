import LoopLang.Parser.Basic
import LoopLang.Proofs.Places.Tree

/-! Parsing without places: a text gives the same program or the same error wherever its tokens
stand. -/

namespace LoopLang

/-- A token without its place. -/
def Token.unplaced (token : Token) : Token := ⟨token.lexeme, 0, .unknown⟩

/-- A parse error without its place. -/
def ParseError.unplaced (error : ParseError) : ParseError := { error with place := .unknown }

namespace Parser

/-- A type name without its place. -/
def TypeName.unplaced (type : TypeName) : TypeName := { type with place := .unknown }

/-- An operation without its places. -/
def Operation.unplaced (operation : Operation) : Operation :=
  ⟨.unknown, operation.operator, operation.left.unplaced⟩

/-- What is open since the last parenthesis, without its places. -/
def Pending.unplaced (pending : Pending) : Pending :=
  ⟨pending.targets.map Identifier.unplaced, pending.sum.map Operation.unplaced,
    pending.product.map Operation.unplaced⟩

/-- An open parenthesis without its places. -/
def Bracket.unplaced : Bracket → Bracket
  | .group => .group
  | .call callee arguments => .call callee.unplaced (Expression.unplacedAll arguments)

/-- Open parentheses with what is open outside each, without their places. -/
def unplacedBrackets (brackets : List (Bracket × Pending)) : List (Bracket × Pending) :=
  brackets.map (Prod.map Bracket.unplaced Pending.unplaced)

/-- An unfinished expression without its places. -/
def OpenExpression.unplaced (opened : OpenExpression) : OpenExpression :=
  ⟨opened.pending.unplaced, unplacedBrackets opened.brackets⟩

/-- A condition whose alternative is another one, without its places. -/
def OuterChoice.unplaced (choice : OuterChoice) : OuterChoice :=
  ⟨.unknown, choice.condition.unplaced, .unknown, Statement.unplacedAll choice.thenBody, .unknown⟩

/-- The start of a statement with a condition, without its places. -/
def Head.unplaced : Head → Head
  | .choice _ outer => .choice .unknown (outer.map OuterChoice.unplaced)
  | .loop _ label => .loop .unknown (label.map Identifier.unplaced)

/-- What an expression is for, without places. -/
def Purpose.unplaced : Purpose → Purpose
  | .evaluate => .evaluate
  | .declare _ name type => .declare .unknown name.unplaced (type.map TypeName.unplaced)
  | .return _ => .return .unknown
  | .condition head => .condition head.unplaced

/-- A function whose body has not been read, without its places. -/
def FunctionHead.unplaced (head : FunctionHead) : FunctionHead :=
  ⟨.unknown, head.name.unplaced, head.parameters.map Parameter.unplaced⟩

/-- What an open block belongs to, without places. -/
def Owner.unplaced : Owner → Owner
  | .plain => .plain
  | .function head result => .function head.unplaced (result.map TypeName.unplaced)
  | .thenBranch _ outer condition =>
    .thenBranch .unknown (outer.map OuterChoice.unplaced) condition.unplaced
  | .elseBranch _ outer condition _ thenBody =>
    .elseBranch .unknown (outer.map OuterChoice.unplaced) condition.unplaced .unknown
      (Statement.unplacedAll thenBody)
  | .loop _ label condition => .loop .unknown (label.map Identifier.unplaced) condition.unplaced

/-- An open block without its places. -/
def OpenBlock.unplaced (block : OpenBlock) : OpenBlock :=
  ⟨.unknown, block.owner.unplaced, Statement.unplacedAll block.before⟩

/-- A statement that has ended, without its places. -/
def Ended.unplaced : Ended → Ended
  | .statement complete => .statement complete.unplaced
  | .declaration _ name type value =>
    .declaration .unknown name.unplaced type.unplaced value.unplaced

/-- The position of a parser without the places in it. -/
def Position.unplaced : Position → Position
  | .blockStart => .blockStart
  | .ended complete => .ended complete.unplaced
  -- The place of a block is forgotten, its statements lose theirs.
  | .closed _ owner body => .closed .unknown owner.unplaced (Statement.unplacedAll body)
  | .functionName _ => .functionName .unknown
  | .functionOpen _ name => .functionOpen .unknown name.unplaced
  | .parametersStart head => .parametersStart head.unplaced
  | .parameterName head => .parameterName head.unplaced
  | .parameterColon head name => .parameterColon head.unplaced name.unplaced
  | .parameterType head name => .parameterType head.unplaced name.unplaced
  | .parameterEnd head name type => .parameterEnd head.unplaced name.unplaced type.unplaced
  | .resultStart head => .resultStart head.unplaced
  | .resultType head => .resultType head.unplaced
  | .functionBody head result => .functionBody head.unplaced result.unplaced
  | .variableName _ => .variableName .unknown
  | .variableNext _ name => .variableNext .unknown name.unplaced
  | .variableType _ name => .variableType .unknown name.unplaced
  | .variableEqual _ name type => .variableEqual .unknown name.unplaced type.unplaced
  | .conditionOpen head => .conditionOpen head.unplaced
  | .bodyOpen head condition => .bodyOpen head.unplaced condition.unplaced
  | .elseNext choice outer => .elseNext choice.unplaced (outer.map OuterChoice.unplaced)
  | .labelNext label => .labelNext label.unplaced
  | .jumpNext isBreak _ => .jumpNext isBreak .unknown
  | .jumpEnd isBreak _ label => .jumpEnd isBreak .unknown label.unplaced
  | .expression start purpose opened => .expression start purpose.unplaced opened.unplaced
  | .operand purpose opened => .operand purpose.unplaced opened.unplaced
  | .afterName role name purpose opened =>
    .afterName role name.unplaced purpose.unplaced opened.unplaced
  | .afterOperand value purpose opened =>
    .afterOperand value.unplaced purpose.unplaced opened.unplaced

/-- The state of a parser without the places in it. -/
def State.unplaced (state : State) : State :=
  ⟨state.blocks.map OpenBlock.unplaced, Statement.unplacedAll state.statements,
    state.position.unplaced⟩

/-- A refusal without its place. -/
def Refusal.unplaced : Refusal → Refusal
  | .expected kinds => .expected kinds
  | .wrongType error _ => .wrongType error .unknown

/-- What is read or why nothing is, without places. -/
def unplacedReading {α : Type} (unplace : α → α) (reading : Except Refusal α) : Except Refusal α :=
  (reading.map unplace).mapError Refusal.unplaced

/-- What is read keeps its places apart. -/
@[simp] theorem unplacedReading_ok {α : Type} (unplace : α → α) (value : α) :
    unplacedReading unplace (.ok value) = .ok (unplace value) := rfl

/-- An annotation is wrong wherever it stands. -/
theorem annotated_unplaced {α : Type} (unplace : α → α) (keeps : ∀ value, unplace value = value)
    (place : Location) (reading : Except AnnotationError α) :
    annotated .unknown reading = unplacedReading unplace (annotated place reading) := by
  cases reading with
  | ok value => simp only [annotated, unplacedReading_ok, keeps]
  | error error => rfl

/-- What decides between readings knows no places. -/
theorem unplacedReading_ite {α : Type} {unplace : α → α} {condition : Prop} [Decidable condition]
    {first second other another : Except Refusal α}
    (holds : first = unplacedReading unplace second)
    (fails : other = unplacedReading unplace another) :
    (if condition then first else other) = unplacedReading unplace
      (if condition then second else another) := by
  by_cases decided : condition
  · simpa only [decided, if_true] using holds
  · simpa only [decided, if_false] using fails

/-- Readings one after the other. -/
theorem unplacedReading_bind {α β : Type} (first : α → α) (second : β → β)
    (reading : Except Refusal α) (next : α → Except Refusal β) (following : α → Except Refusal β)
    (same : ∀ value, following (first value) = unplacedReading second (next value)) :
    (unplacedReading first reading >>= following) = unplacedReading second (reading >>= next) := by
  cases reading with
  | ok value => exact same value
  | error refusal => rfl

namespace Pending

variable (pending : Pending) (operand : Expression)

/-- The product that an operand completes. -/
@[simp] theorem closeProduct_unplaced :
    pending.unplaced.closeProduct operand.unplaced = (pending.closeProduct operand).unplaced := by
  rcases pending with ⟨targets, sum, _ | product⟩ <;> rfl

/-- The sum that an operand completes. -/
@[simp] theorem closeSum_unplaced :
    pending.unplaced.closeSum operand.unplaced = (pending.closeSum operand).unplaced := by
  rcases pending with ⟨targets, _ | sum, product⟩
  · exact closeProduct_unplaced _ _
  · simp only [closeSum, Expression.unplaced, ← closeProduct_unplaced]
    rfl

/-- What an operand completes within its parenthesis. -/
@[simp] theorem close_unplaced :
    pending.unplaced.close operand.unplaced = (pending.close operand).unplaced := by
  -- The targets of assignments take the value one after another, the innermost one first.
  have wraps (targets : List Identifier) : ∀ value : Expression,
      (targets.map Identifier.unplaced).foldl
      (fun value target => .assign target.place target value) value.unplaced =
        (targets.foldl (fun value target => .assign target.place target value) value).unplaced := by
    induction targets with
    | nil => exact fun _ => rfl
    | cons target rest same => exact fun value => same (.assign target.place target value)
  simp only [close, closeSum_unplaced]
  exact wraps _ _

/-- A product that goes on. -/
@[simp] theorem multiply_unplaced (place : Location) (operator : Operator) :
    pending.unplaced.multiply .unknown operator operand.unplaced =
      (pending.multiply place operator operand).unplaced := by
  simp only [multiply, closeProduct_unplaced]
  rfl

/-- A sum that goes on. -/
@[simp] theorem add_unplaced (place : Location) (operator : Operator) :
    pending.unplaced.add .unknown operator operand.unplaced =
      (pending.add place operator operand).unplaced := by
  simp only [add, closeSum_unplaced]
  rfl

end Pending

/-- Conditions around a statement. -/
theorem nestChoices_unplaced (outer : List OuterChoice) (inner : Statement) :
    nestChoices (outer.map OuterChoice.unplaced) inner.unplaced =
      (nestChoices outer inner).unplaced := by
  -- The innermost branch is finished first, and becomes an arm of the next one.
  induction outer generalizing inner with
  | nil => rfl
  | cons choice rest same =>
    exact same (.choose choice.place choice.condition choice.thenPlace choice.thenBody
      choice.elsePlace [inner])

/-- A closed block completes the same statement. -/
theorem closedStatement_unplaced (place : Location) (body : List Statement) (owner : Owner) :
    closedStatement .unknown (Statement.unplacedAll body) owner.unplaced =
      unplacedReading Statement.unplaced (closedStatement place body owner) := by
  rcases owner with
    _ | ⟨head, _ | type⟩ | ⟨start, outer, condition⟩
      | ⟨start, outer, condition, thenPlace, thenBody⟩ | ⟨start, label, condition⟩
  -- Only a type of the result can be refused, and the refusal loses its place too.
  case function.some =>
    simp only [closedStatement, Owner.unplaced, Option.map_some, TypeName.unplaced]
    rw [annotated_unplaced id (fun _ => rfl) type.place]
    exact unplacedReading_bind _ _ _ _ _ fun result => rfl
  -- Choices around are completed without their places.
  case thenBranch =>
    exact congrArg Except.ok
      (nestChoices_unplaced outer (.when start condition place body))
  case elseBranch =>
    exact congrArg Except.ok
      (nestChoices_unplaced outer (.choose start condition thenPlace thenBody place body))
  all_goals rfl

/-- A statement that has ended is the same. -/
theorem endedStatement_unplaced (ended : Ended) :
    endedStatement ended.unplaced = unplacedReading Statement.unplaced (endedStatement ended) := by
  cases ended with
  | statement complete => rfl
  | declaration place name type value =>
    simp only [endedStatement, Ended.unplaced, TypeName.unplaced]
    -- The type name decides by its word, and its place is only that of an error.
    rw [annotated_unplaced id (fun _ => rfl) type.place]
    exact unplacedReading_bind _ _ _ _ _ fun kind => rfl

/-! One token read. -/

section Reading

variable (state : State) (token : Token) (purpose : Purpose) (opened : OpenExpression)

/-- Where the parser goes. -/
theorem goTo_unplaced (position : Position) :
    (state.goTo position).unplaced = state.unplaced.goTo position.unplaced :=
  rfl

/-- A complete statement behind the others. -/
theorem push_unplaced (statement : Statement) :
    (state.push statement).unplaced = state.unplaced.push statement.unplaced := by
  simp only [State.unplaced, State.push, Statement.unplacedAll_append]

/-- The first token of an operand. -/
theorem startOperand_unplaced (role : NameRole) (expected : List TokenKind) :
    startOperand role expected purpose.unplaced opened.unplaced state.unplaced token.unplaced =
      unplacedReading State.unplaced (startOperand role expected purpose opened state token) := by
  obtain ⟨lexeme, position, place⟩ := token
  -- The lexeme alone decides, and of a name or a literal it is all that is kept beside the place.
  rcases lexeme with _ | _ | ⟨⟨⟩⟩ | ⟨⟨⟩⟩ <;> rfl

/-- The token behind an expression. -/
theorem endExpression_unplaced (value : Expression) (brackets : List (Bracket × Pending)) :
    endExpression value.unplaced purpose.unplaced
      (unplacedBrackets brackets) state.unplaced token.unplaced =
      unplacedReading State.unplaced (endExpression value purpose brackets state token) := by
  obtain ⟨lexeme, position, place⟩ := token
  -- Whether a parenthesis is open decides first, and then what the expression is for.
  rcases brackets with _ | ⟨⟨_ | ⟨callee, arguments⟩, pending⟩, rest⟩
  · rcases purpose with _ | ⟨place, name, _ | type⟩ | place | head <;>
      rcases lexeme with _ | _ | ⟨⟨⟩⟩ | _ <;> rfl
  · rcases lexeme with _ | _ | ⟨⟨⟩⟩ | _ <;> rfl
  -- A call has one more argument now, or goes on to the next one.
  · have longer := Expression.unplacedAll_append arguments value
    rcases lexeme with _ | _ | ⟨⟨⟩⟩ | _
    case mark.rightParen | mark.comma =>
      simp only [endExpression, unplacedReading_ok, goTo_unplaced, Position.unplaced,
        OpenExpression.unplaced,
        Expression.unplaced, unplacedBrackets, List.map_cons, Prod.map, Bracket.unplaced, longer]
      rfl
    all_goals rfl

/-- The token behind an operand. -/
theorem followOperand_unplaced (expected : List TokenKind) (operand : Expression) :
    followOperand expected operand.unplaced purpose.unplaced opened.unplaced state.unplaced
      token.unplaced =
      unplacedReading State.unplaced
        (followOperand expected operand purpose opened state token) := by
  obtain ⟨lexeme, position, place⟩ := token
  have times (operator : Operator) := opened.pending.multiply_unplaced operand place operator
  have plus (operator : Operator) := opened.pending.add_unplaced operand place operator
  rcases lexeme with _ | _ | mark | _
  case mark =>
    cases mark
    case star | slash | plus | minus =>
      simp only [followOperand, Token.unplaced, unplacedReading_ok, goTo_unplaced,
        Position.unplaced, OpenExpression.unplaced, times, plus]
    case semicolon | rightParen | comma =>
      -- Whether the expression may end here is said by the kind of the token alone.
      have ends (lexeme : Lexeme) :=
        endExpression_unplaced state ⟨lexeme, position, place⟩ purpose
          (opened.pending.close operand) opened.brackets
      simp only [← Pending.close_unplaced] at ends
      exact unplacedReading_ite (ends _) rfl
    all_goals rfl
  all_goals rfl

/-- The token behind an identifier. -/
theorem followName_unplaced (role : NameRole) (name : Identifier) :
    followName role name.unplaced purpose.unplaced opened.unplaced state.unplaced token.unplaced =
      unplacedReading State.unplaced (followName role name purpose opened state token) := by
  have follows := followOperand_unplaced state token purpose opened (nameFollows role)
    (.identifier name.place name.name)
  obtain ⟨lexeme, position, place⟩ := token
  cases role <;> rcases lexeme with _ | _ | ⟨⟨⟩⟩ | _ <;> first | rfl | exact follows

/-- The first token where an expression may start. -/
theorem startExpression_unplaced (start : ExpressionStart) :
    startExpression start purpose.unplaced opened.unplaced state.unplaced token.unplaced =
      unplacedReading State.unplaced (startExpression start purpose opened state token) := by
  have starts := startOperand_unplaced state token purpose opened .expression (startExpected start)
  obtain ⟨lexeme, position, place⟩ := token
  cases start with
  | plain => exact starts
  | result =>
    -- A return may end here without a value.
    cases purpose with
    | «return» => rcases lexeme with _ | _ | ⟨⟨⟩⟩ | _ <;> first | rfl | exact starts
    | _ => exact starts
  | argument =>
    rcases opened with ⟨pending, _ | ⟨⟨_ | ⟨callee, arguments⟩, outer⟩, rest⟩⟩
    · exact starts
    · exact starts
    · rcases lexeme with _ | _ | ⟨⟨⟩⟩ | _ <;> first | rfl | exact starts

/-- The first token of a statement. -/
theorem startStatement_unplaced :
    startStatement state.unplaced token.unplaced = unplacedReading State.unplaced
      (startStatement state token) := by
  obtain ⟨lexeme, position, place⟩ := token
  -- A closing brace is read only if a block is open.
  obtain ⟨_ | ⟨block, outer⟩, statements, here⟩ := state <;>
    rcases lexeme with _ | _ | ⟨⟨⟩⟩ | ⟨⟨⟩⟩ <;> rfl

/-- The first token of a statement behind one that is read to its end. -/
theorem startBehind_unplaced (complete : Except Refusal Statement) :
    (do let statement ← unplacedReading Statement.unplaced complete
        startStatement (state.unplaced.push statement) token.unplaced) =
      unplacedReading State.unplaced
        (do let statement ← complete; startStatement (state.push statement) token) := by
  refine unplacedReading_bind _ _ _ _ _ fun statement => ?_
  rw [← push_unplaced, startStatement_unplaced]

/-- Reading a token does not depend on where it stands, nor on where what was read before stands. -/
theorem step_unplaced :
    step state.unplaced token.unplaced = unplacedReading State.unplaced (step state token) := by
  have kinds : token.unplaced.kind = token.kind := rfl
  have behind := startBehind_unplaced state token
  obtain ⟨blocks, statements, position⟩ := state
  -- One case for each position: the ones of expressions and of ended statements have lemmas above,
  -- and in most of
  -- the others the lexeme decides at once.
  cases position with
  | blockStart => exact startStatement_unplaced _ _
  | expression start purpose opened => exact startExpression_unplaced _ _ _ _ _
  | operand purpose opened => exact startOperand_unplaced _ _ _ _ _ _
  | afterName role name purpose opened => exact followName_unplaced _ _ _ _ _ _
  | afterOperand operand purpose opened => exact followOperand_unplaced _ _ _ _ _ _
  | ended complete =>
    simp only [step, State.unplaced, Position.unplaced, kinds, endedStatement_unplaced]
    exact unplacedReading_ite (behind _) rfl
  | closed place owner body =>
    -- An alternative may follow the first arm of a branch and nothing else.
    have follows :
        (if braceFollows.contains token.unplaced.kind then do
            let statement ← closedStatement .unknown (Statement.unplacedAll body) owner.unplaced
            startStatement ((State.unplaced ⟨blocks, statements, .closed place owner body⟩).push
              statement) token.unplaced
          else refuse braceFollows) =
        unplacedReading State.unplaced
          (if braceFollows.contains token.kind then do
            let statement ← closedStatement place body owner
            startStatement (State.push ⟨blocks, statements, .closed place owner body⟩ statement)
              token
          else refuse braceFollows) := by
      rw [closedStatement_unplaced place, kinds]
      exact unplacedReading_ite (behind _) rfl
    cases owner <;> rcases token with ⟨_ | _ | _ | ⟨⟨⟩⟩, _, _⟩ <;> first | rfl | exact follows
  | parameterEnd head name type =>
    obtain ⟨typePlace, word⟩ := type
    rcases token with ⟨_ | _ | mark | _, _, _⟩
    case mark =>
      cases mark
      case comma | rightParen =>
        -- The parameter is complete, if its annotation names a kind.
        cases named : ValueKind.ofWord word <;>
          simp only [step, State.unplaced, Position.unplaced, TypeName.unplaced, Token.unplaced,
            named, annotated]
        · rfl
        · show Except.ok _ = Except.ok _
          simp only [State.goTo, State.unplaced, Position.unplaced, FunctionHead.unplaced,
            List.map_append, List.map_cons, List.map_nil]
          rfl
      all_goals rfl
    all_goals rfl
  -- Here the head, or the word of the jump, has a part in the message.
  | bodyOpen head condition =>
    cases head <;> rcases token with ⟨_ | _ | ⟨⟨⟩⟩ | _, _, _⟩ <;> rfl
  | jumpNext isBreak place =>
    cases isBreak <;> rcases token with ⟨_ | _ | ⟨⟨⟩⟩ | _, _, _⟩ <;> rfl
  | jumpEnd isBreak place label =>
    cases isBreak <;> rcases token with ⟨_ | _ | ⟨⟨⟩⟩ | _, _, _⟩ <;> rfl
  -- At all other positions nothing but the lexeme counts.
  | _ => rcases token with ⟨_ | _ | ⟨⟨⟩⟩ | ⟨⟨⟩⟩, _, _⟩ <;> rfl

end Reading

/-- The statements at the end of a text. -/
theorem lastStatements_unplaced (state : State) :
    lastStatements state.unplaced =
      unplacedReading (Option.map Statement.unplacedAll) (lastStatements state) := by
  -- A statement that ends the text is added to those before, unless its type is refused.
  have ends (complete : Except Refusal Statement) :
      ((unplacedReading Statement.unplaced complete).map fun statement =>
          some (Statement.unplacedAll state.statements ++ [statement])) =
        unplacedReading (Option.map Statement.unplacedAll)
          (complete.map fun statement => some (state.statements ++ [statement])) := by
    cases complete with
    | ok statement => exact congrArg (Except.ok ∘ some) (Statement.unplacedAll_append _ _).symm
    | error refusal => rfl
  obtain ⟨blocks, statements, position⟩ := state
  cases position with
  | ended complete =>
    simp only [lastStatements, State.unplaced, Position.unplaced, endedStatement_unplaced]
    exact ends _
  | closed place owner body =>
    simp only [lastStatements, State.unplaced, Position.unplaced, closedStatement_unplaced place]
    exact ends _
  | _ => rfl

/-- The program at the end of a text, if no phrase is open. -/
theorem finish_unplaced (state : State) :
    finish state.unplaced = unplacedReading (Option.map Program.unplaced) (finish state) := by
  simp only [finish, lastStatements_unplaced]
  obtain ⟨blocks, statements, position⟩ := state
  cases lastStatements ⟨blocks, statements, position⟩ with
  | ok found => cases blocks <;> cases found <;> rfl
  | error refusal => rfl

/-- A parse result without places. -/
def unplacedResult (result : Except ParseError Program) : Except ParseError Program :=
  (result.map Program.unplaced).mapError ParseError.unplaced

/-- The end of a text that is scanned to its end. -/
theorem complete_unplaced (state : State) :
    complete state.unplaced .complete = unplacedResult (complete state .complete) := by
  simp only [complete, finish_unplaced]
  rcases finish state with (_ | _) | _ | _ <;> rfl

/-- The error for a refused token looks back at the word before it, yet not at where that stands. -/
theorem unexpected_unplaced (previous : Option Token) (token : Token) (expected : List TokenKind) :
    unexpected (previous.map Token.unplaced) token.unplaced expected =
      (unexpected previous token expected).unplaced := by
  rcases previous with _ | ⟨lexeme, position, place⟩
  · rfl
  -- Whether a word is misspelled depends on the word alone.
  · have same : misspelled? (some (Token.unplaced ⟨lexeme, position, place⟩)) =
        misspelled? (some ⟨lexeme, position, place⟩) := by
      cases lexeme <;> rfl
    simp only [unexpected, Option.map_some, same]
    rcases misspelled? (some ⟨lexeme, position, place⟩) with _ | ⟨name, keyword⟩ <;> rfl

/-- Reading a text to its end gives the same wherever its tokens stand. -/
theorem run_unplaced (tokens : List Token) (previous : Option Token) (state : State) :
    run (previous.map Token.unplaced) state.unplaced .complete (tokens.map Token.unplaced) =
      unplacedResult (run previous state .complete tokens) := by
  induction tokens generalizing previous state with
  | nil => exact complete_unplaced state
  | cons token rest same =>
    simp only [List.map_cons, run, step_unplaced]
    -- A token that is read leads on; the first one that is refused ends the run.
    rcases step state token with (kinds | ⟨error, place⟩) | next
    · exact congrArg Except.error (unexpected_unplaced previous token kinds)
    · rfl
    · exact same (some token) next

end Parser

end LoopLang
