import LoopLang.Proofs.Grammar.FollowStatement

/-! The type names that a parser holds, and those that it refuses, are identifiers that it has
read. -/

namespace LoopLang.Parser

variable {known : String → Prop}

/-- The word of a type name, if there is one, is known. -/
def Purpose.TypesIn (known : String → Prop) : Purpose → Prop
  | .declare _ _ (some type) => known type.word
  | _ => True

/-- So is that of a function's result. -/
def Owner.TypesIn (known : String → Prop) : Owner → Prop
  | .function _ (some type) => known type.word
  | _ => True

/-- So is that of a variable. -/
def Ended.TypesIn (known : String → Prop) : Ended → Prop
  | .declaration _ _ type _ => known type.word
  | .statement _ => True

/-- So is the one in an unfinished phrase. -/
def Position.TypesIn (known : String → Prop) : Position → Prop
  | .ended complete => complete.TypesIn known
  | .closed _ owner _ => owner.TypesIn known
  | .parameterEnd _ _ type | .functionBody _ type | .variableEqual _ _ type => known type.word
  | .expression _ purpose _ | .operand purpose _ | .afterName _ _ purpose _
  | .afterOperand _ purpose _ =>
    purpose.TypesIn known
  | _ => True

/-- All words of type names that a parser holds are known. -/
structure State.TypesIn (known : String → Prop) (state : State) : Prop where
  blocks : ∀ block ∈ state.blocks, block.owner.TypesIn known
  position : state.position.TypesIn known

/-- The words of a reading's type names are known, those that are held and the one that is
refused. -/
def ReadsTypes (known : String → Prop) : Except Refusal State → Prop
  | .ok next => next.TypesIn known
  | .error (.wrongType (.unknownType word) _) => known word
  | .error _ => True

namespace ReadsTypes

variable {state : State} {token : Token} {purpose : Purpose} {opened : OpenExpression}

/-- A parser that moves on in its innermost phrase. -/
theorem goTo (blocks : ∀ block ∈ state.blocks, block.owner.TypesIn known) {position : Position}
    (inside : position.TypesIn known) : ReadsTypes known (.ok (state.goTo position)) :=
  ⟨blocks, inside⟩

/-- A refused token reads no types. -/
theorem refuse (kinds : List TokenKind) : ReadsTypes known (Parser.refuse kinds) := trivial

/-- The start of an operand reads none. -/
theorem startOperand (blocks : ∀ block ∈ state.blocks, block.owner.TypesIn known)
    (inside : purpose.TypesIn known) (role : NameRole) (expected : List TokenKind) :
    ReadsTypes known (startOperand role expected purpose opened state token) := by
  unfold Parser.startOperand
  split
  case h_6 => exact .refuse _
  all_goals exact .goTo blocks inside

/-- At the end of an expression its purpose takes along the types that it knows. -/
theorem endExpression (blocks : ∀ block ∈ state.blocks, block.owner.TypesIn known)
    (inside : purpose.TypesIn known) (value : Expression) (brackets : List (Bracket × Pending)) :
    ReadsTypes known (endExpression value purpose brackets state token) := by
  unfold Parser.endExpression
  repeat' split
  all_goals first | exact .refuse _ | exact .goTo blocks inside

/-- Nor does what follows an operand read any. -/
theorem followOperand (blocks : ∀ block ∈ state.blocks, block.owner.TypesIn known)
    (inside : purpose.TypesIn known) (expected : List TokenKind) (operand : Expression) :
    ReadsTypes known (followOperand expected operand purpose opened state token) := by
  unfold Parser.followOperand
  dsimp only
  split
  -- Only the end of an expression can settle a type.
  case h_5 | h_6 | h_7 =>
    split
    · exact .endExpression blocks inside _ _
    · exact .refuse _
  case h_8 => exact .refuse _
  all_goals exact .goTo blocks inside

/-- Nor does what follows a name. -/
theorem followName (blocks : ∀ block ∈ state.blocks, block.owner.TypesIn known)
    (inside : purpose.TypesIn known) (role : NameRole) (name : Identifier) :
    ReadsTypes known (followName role name purpose opened state token) := by
  unfold Parser.followName
  split
  case h_5 => exact .followOperand blocks inside _ _
  -- An assignment or a label: the name has no type.
  case h_1 => exact .goTo blocks trivial
  all_goals exact .goTo blocks inside

/-- Nor does the start of an expression. -/
theorem startExpression (blocks : ∀ block ∈ state.blocks, block.owner.TypesIn known)
    (inside : purpose.TypesIn known) (start : ExpressionStart) :
    ReadsTypes known (startExpression start purpose opened state token) := by
  unfold Parser.startExpression
  split
  case h_3 => exact .startOperand blocks inside _ _
  case h_1 => exact .goTo blocks trivial
  all_goals exact .goTo blocks inside

/-- A block that is opened has the types of its owner. -/
theorem openBlock (blocks : ∀ block ∈ state.blocks, block.owner.TypesIn known) {owner : Owner}
    (inside : owner.TypesIn known) (place : Location) :
    ReadsTypes known (.ok (state.openBlock place owner)) :=
  ⟨List.forall_mem_cons.mpr ⟨inside, blocks⟩, trivial⟩

/-- The start of a statement reads no types. -/
theorem startStatement (blocks : ∀ block ∈ state.blocks, block.owner.TypesIn known) :
    ReadsTypes known (startStatement state token) := by
  unfold Parser.startStatement
  split
  case h_3 => exact @openBlock _ _ blocks .plain trivial _
  case h_4 block outer _ opened =>
    -- What follows the block is in the ones around it.
    rw [opened] at blocks
    obtain ⟨inside, around⟩ := List.forall_mem_cons.mp blocks
    exact ⟨around, inside⟩
  case h_10 | h_11 => exact @startOperand _ _ _ .evaluate _ blocks trivial _ _
  all_goals exact .goTo blocks trivial

/-- Where a type name is looked up, its word is known. -/
theorem annotated {α : Type} {read : Except AnnotationError α} {next : α → Except Refusal State}
    (type : TypeName) (refused : ∀ word, read = .error (.unknownType word) → known word)
    (reads : ∀ answer, ReadsTypes known (next answer)) :
    ReadsTypes known (Parser.annotated type.place read >>= next) := by
  -- A word of no meaning, one that does not fit here, or a type.
  rcases read with (_ | word) | answer
  · trivial
  · exact refused word rfl
  · exact reads answer

end ReadsTypes

/-- A word that names no kind is refused as it is. -/
theorem valueKind_unknown {word other : String}
    (refused : ValueKind.ofWord word = .error (.unknownType other)) :
    other = word := by
  unfold ValueKind.ofWord at refused
  repeat' split at refused
  all_goals cases refused
  rfl

/-- A word is unknown as a type name by itself. -/
theorem exactKind_unknown {word other : String}
    (refused : ExactKind.ofWord word = .error (.unknownType other)) :
    other = word := by
  unfold ExactKind.ofWord at refused
  split at refused
  all_goals cases refused
  rfl

/-- A statement that has ended is read with the word of its type name. -/
theorem Ended.readsTypes {ended : Ended} (inside : ended.TypesIn known)
    {next : Statement → Except Refusal State}
    (reads : ∀ statement, ReadsTypes known (next statement)) :
    ReadsTypes known (endedStatement ended >>= next) := by
  cases ended with
  | statement statement => exact reads statement
  -- Only a declaration has a type to be read when it ends.
  | declaration place name type value =>
    unfold endedStatement
    rw [bind_assoc]
    exact .annotated type (fun word refused => valueKind_unknown refused ▸ inside)
      fun kind => reads _

/-- So is one that a closed block completes. -/
theorem Owner.readsTypes {owner : Owner} (inside : owner.TypesIn known) (place : Location)
    (body : List Statement) {next : Statement → Except Refusal State}
    (reads : ∀ statement, ReadsTypes known (next statement)) :
    ReadsTypes known (closedStatement place body owner >>= next) := by
  rcases owner with _ | ⟨head, _ | type⟩ | _ | _ | _
  -- Only a function with a stated result has a type to be read when it closes.
  case function.some =>
    unfold closedStatement
    rw [bind_assoc]
    exact .annotated type (fun word refused => exactKind_unknown refused ▸ inside)
      fun kind => reads _
  all_goals exact reads _

/-- Each token that is read adds its own word at most. -/
theorem State.TypesIn.step {state : State} {token : Token} (inside : state.TypesIn known)
    (word_known : ∀ word, token.lexeme = .identifier word → known word) :
    ReadsTypes known (Parser.step state token) := by
  obtain ⟨blocks, statements, position⟩ := state
  obtain ⟨blocks_known, position_known⟩ := inside
  cases position with
  | blockStart => exact .startStatement blocks_known
  | ended complete =>
    unfold Parser.step
    dsimp only
    split
    · exact Ended.readsTypes position_known fun statement => .startStatement blocks_known
    · exact .refuse _
  | closed place owner body =>
    by_cases alternative : token.lexeme = .keyword .else
    -- In front of an alternative a condition is not complete, and nothing else can stand.
    · obtain ⟨lexeme, offset, here⟩ := token
      subst alternative
      cases owner with
      | thenBranch start outer condition => exact ⟨blocks_known, trivial⟩
      | _ => exact .refuse _
    · rw [show Parser.step ⟨blocks, statements, .closed place owner body⟩ token = _ from
        @Grammar.step_closed ⟨blocks, statements, .blockStart⟩ token place owner body alternative]
      split
      · exact Owner.readsTypes position_known place body fun statement =>
          .startStatement blocks_known
      · exact .refuse _
  | parameterEnd head name type =>
    -- The type name of a parameter is looked up at the separator behind it.
    have separated (isLast : Bool) (leaf : Grammar.Leaf) : ReadsTypes known
        (Parser.step ⟨blocks, statements, .parameterEnd head name type⟩
          (leaf.mark (Grammar.separator isLast))) := by
      rw [show Parser.step ⟨blocks, statements, .parameterEnd head name type⟩
        (leaf.mark (Grammar.separator isLast)) = _ from
        @Grammar.step_separator ⟨blocks, statements, .blockStart⟩ head name type isLast leaf]
      refine .annotated type (fun word refused => valueKind_unknown refused ▸ position_known)
        fun kind => ?_
      cases isLast <;> exact ⟨blocks_known, trivial⟩
    obtain ⟨lexeme, offset, here⟩ := token
    rcases lexeme with _ | _ | sign | _
    case mark =>
      cases sign
      case comma => exact separated false ⟨offset, here⟩
      case rightParen => exact separated true ⟨offset, here⟩
      all_goals exact .refuse _
    all_goals exact .refuse _
  | expression start purpose opened => exact .startExpression blocks_known position_known start
  | operand purpose opened => exact .startOperand blocks_known position_known _ _
  | afterName role name purpose opened => exact .followName blocks_known position_known role name
  | afterOperand operand purpose opened =>
    exact .followOperand blocks_known position_known _ operand
  | bodyOpen head condition =>
    obtain ⟨lexeme, offset, here⟩ := token
    rcases lexeme with _ | _ | sign | _
    case mark =>
      cases sign <;> cases head <;>
        first | exact .refuse _ | exact .openBlock blocks_known (by trivial) _
    all_goals cases head <;> exact .refuse _
  | _ =>
    obtain ⟨lexeme, offset, here⟩ := token
    rcases lexeme with word | _ | sign | reserved
    · first | exact .refuse _ | exact ⟨blocks_known, trivial⟩ | exact ⟨blocks_known,
        word_known word rfl⟩
    · exact .refuse _
    · cases sign <;> first
        | exact .refuse _
        | exact ⟨blocks_known, trivial⟩
        | exact ⟨blocks_known, position_known⟩
        | exact .openBlock blocks_known position_known _
        | exact .openBlock blocks_known (by trivial) _
    · cases reserved <;> first | exact .refuse _ | exact ⟨blocks_known, trivial⟩

/-- What is refused for its kind refuses a word of a statement that has ended, which is known. -/
theorem Ended.refuses {ended : Ended} (inside : ended.TypesIn known) {word : String}
    {place : Location}
    (refused : endedStatement ended = .error (.wrongType (.unknownType word) place)) :
    known word := by
  have reads : ReadsTypes known (endedStatement ended >>= fun _ => .error (.expected [])) :=
    Ended.readsTypes inside fun _ => trivial
  rwa [refused] at reads

/-- So does a closed block. -/
theorem Owner.refuses {owner : Owner} (inside : owner.TypesIn known) {place : Location}
    {body : List Statement} {word : String} {here : Location}
    (refused : closedStatement place body owner = .error (.wrongType (.unknownType word) here)) :
    known word := by
  -- What is done with the statement does not matter, as there is none.
  have reads : ReadsTypes known
      (closedStatement place body owner >>= fun _ => .error (.expected [])) :=
    Owner.readsTypes inside place body fun _ => trivial
  rwa [refused] at reads

/-- A type name that is refused at the end of a text has a known word. -/
theorem State.TypesIn.last {state : State} (inside : state.TypesIn known) {word : String}
    {place : Location}
    (refused : lastStatements state = .error (.wrongType (.unknownType word) place)) :
    known word := by
  have position_known := inside.position
  unfold lastStatements at refused
  -- The last statement has ended with its sign or with its block, and either may have a type to be
  -- settled.
  split at refused
  · cases refused
  · rename_i ended here
    rw [here] at position_known
    cases read : endedStatement ended with
    | ok statement =>
      rw [read] at refused
      cases refused
    | error refusal =>
      rw [read] at refused
      cases refused
      exact Ended.refuses position_known read
  · rename_i here owner body at_block
    rw [at_block] at position_known
    cases read : closedStatement here body owner with
    | ok statement =>
      rw [read] at refused
      cases refused
    | error refusal =>
      rw [read] at refused
      cases refused
      exact Owner.refuses position_known read
  · cases refused

end LoopLang.Parser
