import LoopLang.Proofs.Grammar.Reads

/-! One token more: every step of the parser leads to a state that stands for the tokens so far with
the new one. -/

namespace LoopLang.Parser

open Grammar (Leaf Word SumSign ProductSign assignAll)

variable {tokens before inside outside : List Token}

/-! What an operand completes. -/

/-- The product that a factor completes. -/
theorem ReadsProduct.close {product : Option Operation} (reads : ReadsProduct product tokens)
    (factor : Grammar.Primary) (targets : List Identifier) (sum : Option Operation) :
    ∃ term : Grammar.Multiplicative,
      term.tokens = tokens ++ factor.tokens ∧ term.build = Pending.closeProduct
        ⟨targets, sum, product⟩ factor.build := by
  cases reads with
  | none => exact ⟨.primary factor, rfl, rfl⟩
  | waits left sign leaf =>
    exact ⟨.product left sign leaf factor, by simp [Grammar.Multiplicative.tokens], rfl⟩

/-- The sum that a term completes. -/
theorem ReadsSum.close {sum : Option Operation} (reads : ReadsSum sum tokens)
    (term : Grammar.Multiplicative) (targets : List Identifier) : ∃ value : Grammar.Additive,
      value.tokens = tokens ++ term.tokens ∧ value.build = Pending.closeSum
        ⟨targets, sum, .none⟩ term.build := by
  cases reads with
  | none => exact ⟨.multiplicative term, rfl, rfl⟩
  | waits left sign leaf => exact ⟨.sum left sign leaf term, by simp [Grammar.Additive.tokens], rfl⟩

/-- The assignments that an expression completes. -/
theorem ReadsTargets.close {targets : List Identifier} (reads : ReadsTargets targets tokens)
    (value : Grammar.Expression) : ∃ whole : Grammar.Expression,
      whole.tokens = tokens ++ value.tokens ∧ whole.build = assignAll targets value.build := by
  -- The last target takes the value first, so that assignments nest to the right.
  induction reads generalizing value with
  | none => exact ⟨value, rfl, rfl⟩
  | more outer target equal ih =>
    obtain ⟨whole, read, built⟩ := ih (.assign target equal value)
    exact ⟨whole, by simp [read, Grammar.Expression.tokens], built⟩

namespace Pending.Reads

variable {pending : Pending}

/-- The sum that an operand completes, behind the assignments that stay open. -/
theorem closeSum (reads : pending.Reads tokens) (factor : Grammar.Primary) :
    ∃ (assigned : List Token) (value : Grammar.Additive), ReadsTargets pending.targets assigned ∧
      assigned ++ value.tokens = tokens ++ factor.tokens ∧
      value.build = pending.closeSum factor.build := by
  obtain ⟨targets_read, sum_read, product_read⟩ := reads
  rename_i targets sum product assigned added multiplied
  -- The waiting product takes the factor, and the waiting sum takes the product.
  obtain ⟨term, term_tokens, term_built⟩ := product_read.close factor targets sum
  obtain ⟨value, value_tokens, value_built⟩ := sum_read.close term targets
  refine ⟨assigned, value, targets_read, by simp [value_tokens, term_tokens], ?_⟩
  rw [value_built, term_built]
  cases sum <;> rfl

/-- The expression that an operand completes. -/
theorem close (reads : pending.Reads tokens) (factor : Grammar.Primary) :
    ∃ value : Grammar.Expression,
    value.tokens = tokens ++ factor.tokens ∧ value.build = pending.close factor.build := by
  obtain ⟨assigned, sum, targets_read, sum_tokens, sum_built⟩ := reads.closeSum factor
  obtain ⟨whole, whole_tokens, whole_built⟩ := targets_read.close (.additive sum)
  refine ⟨whole, whole_tokens.trans sum_tokens, whole_built.trans ?_⟩
  rw [Grammar.Expression.build, sum_built]
  rfl

/-- Nothing is open where no token has been read. -/
theorem empty : Pending.empty.Reads [] := .parts .none .none .none

/-- Only assignments are open. -/
theorem ofTargets {targets : List Identifier} (reads : ReadsTargets targets tokens) :
    Pending.Reads ⟨targets, none, none⟩ tokens := by
  simpa using Pending.Reads.parts reads .none .none

/-- Behind a sign of a product, another factor is waited for. -/
theorem multiply (reads : pending.Reads tokens) (factor : Grammar.Primary) (sign : ProductSign)
    (leaf : Leaf) :
    (pending.multiply leaf.place sign.operator factor.build).Reads
      (tokens ++ factor.tokens ++ [leaf.mark sign.mark]) := by
  obtain ⟨targets_read, sum_read, product_read⟩ := reads
  rename_i targets sum product assigned added multiplied
  obtain ⟨term, term_tokens, term_built⟩ := product_read.close factor targets sum
  -- The product so far is the left operand of the new sign.
  have parts := Pending.Reads.parts targets_read sum_read (.waits term sign leaf)
  rw [term_tokens, term_built] at parts
  simpa [Pending.multiply] using parts

/-- Behind a sign of a sum, another term is waited for. -/
theorem add (reads : pending.Reads tokens) (factor : Grammar.Primary) (sign : SumSign)
    (leaf : Leaf) :
    (pending.add leaf.place sign.operator factor.build).Reads
      (tokens ++ factor.tokens ++ [leaf.mark sign.mark]) := by
  obtain ⟨assigned, sum, targets_read, sum_tokens, sum_built⟩ := reads.closeSum factor
  -- The sum so far is the left operand of the new sign, and no product waits any more.
  have parts := Pending.Reads.parts targets_read (.waits sum sign leaf) .none
  rw [sum_built, List.append_nil, ← List.append_assoc, sum_tokens] at parts
  exact parts

end Pending.Reads

namespace OpenExpression.Reads

/-- Nothing is open where no token has been read. -/
theorem empty : OpenExpression.empty.Reads [] := .parts .none .empty

end OpenExpression.Reads

/-! One step. -/

/-- A step leads, if anywhere, to a position that stands for given tokens, and changes nothing
else. -/
def Leads (result : Except Refusal State) (state : State) (tokens : List Token) : Prop :=
  ∀ next, result = .ok next → ∃ position : Position,
    next = state.goTo position ∧ position.Reads tokens

namespace Leads

variable {state : State} {result : Except Refusal State} {more : List Token}

/-- A refused token leads nowhere. -/
theorem refuse (kinds : List TokenKind) : Leads (Parser.refuse kinds) state tokens := by
  intro next refused
  cases refused

/-- A token that only changes the position leads to what the new position stands for. -/
theorem goTo {position : Position} (reads : position.Reads more) (same : more = tokens) :
    Leads (.ok (state.goTo position)) state tokens := by
  rintro _ ⟨⟩
  exact ⟨position, rfl, same ▸ reads⟩

end Leads

variable {state : State} {purpose : Purpose} {token : Token}

/-- The first token of an operand, behind the position that the given role has. -/
theorem startOperand_leads (state : State) (token : Token) {role : NameRole}
    {opened : OpenExpression} (expected : List TokenKind) (purpose_read : purpose.Reads before)
    (opened_read : opened.Reads inside)
    (named : ∀ name : Word, (Position.afterName role name.identifier purpose opened).Reads
      (before ++ inside ++ [name.token])) :
    Leads (startOperand role expected purpose opened state token) state
      (before ++ inside ++ [token]) := by
  obtain ⟨lexeme, offset, place⟩ := token
  unfold startOperand
  -- An operand begins with a number, a truth value, a name or a bracket.
  split
  · rename_i value same
    cases same
    exact .goTo (.afterOperand purpose_read opened_read (.number ⟨offset, place⟩ value)) rfl
  · rename_i same
    cases same
    exact .goTo (.afterOperand purpose_read opened_read (.boolean ⟨offset, place⟩ true)) rfl
  · rename_i same
    cases same
    exact .goTo (.afterOperand purpose_read opened_read (.boolean ⟨offset, place⟩ false)) rfl
  · rename_i name same
    cases same
    exact .goTo (named ⟨⟨offset, place⟩, name⟩) rfl
  · rename_i same
    cases same
    obtain ⟨brackets_read, pending_read⟩ := opened_read
    -- The bracket keeps what is pending outside, and begins anew inside.
    refine .goTo (.expression purpose_read
      (.more brackets_read pending_read (.group ⟨offset, place⟩)) .none) ?_
    simp [Leaf.mark]
  · exact .refuse _

/-- The token behind an expression in parentheses. -/
theorem endExpression_inner (value : Grammar.Expression) {brackets : List (Bracket × Pending)}
    {bracket : Bracket} {pending : Pending} {around own : List Token}
    (purpose_read : purpose.Reads before) (outer : ReadsBrackets brackets outside)
    (pending_read : pending.Reads around) (bracket_read : bracket.Reads own) :
    Leads (endExpression value.build purpose ((bracket, pending) :: brackets) state token) state
      (before ++ (outside ++ around ++ own) ++ value.tokens ++ [token]) := by
  obtain ⟨lexeme, offset, place⟩ := token
  -- What a right parenthesis completes is an operand of what is open around it.
  have operand : ∀ factor : Grammar.Primary,
      factor.tokens = own ++ value.tokens ++ [(⟨offset, place⟩ : Leaf).mark .rightParen] →
      Leads (.ok (state.goTo (.afterOperand factor.build purpose ⟨pending, brackets⟩))) state
        (before ++ (outside ++ around ++ own) ++ value.tokens ++
          [(⟨offset, place⟩ : Leaf).mark .rightParen]) :=
    fun factor written => .goTo (.afterOperand purpose_read (.parts outer pending_read) factor)
      (by simp [written])
  -- Behind a comma there is another argument to come.
  have argument : ∀ {arguments : Bracket} {more : List Token}, arguments.Reads more →
      more = own ++ value.tokens ++ [(⟨offset, place⟩ : Leaf).mark .comma] →
      Leads (.ok (state.goTo
        (.expression .plain purpose ⟨.empty, (arguments, pending) :: brackets⟩))) state
        (before ++ (outside ++ around ++ own) ++ value.tokens ++
          [(⟨offset, place⟩ : Leaf).mark .comma]) :=
    fun arguments_read written =>
      .goTo (.expression purpose_read (.more outer pending_read arguments_read) .none)
        (by simp [written])
  cases bracket_read with
  | group leftParen =>
    cases lexeme with
    | mark sign =>
      cases sign with
      | rightParen =>
        exact operand (.group leftParen value ⟨offset, place⟩) (by simp [Grammar.Primary.tokens])
      | _ => exact .refuse _
    | _ => exact .refuse _
  | call callee leftParen =>
    cases lexeme with
    | mark sign =>
      cases sign with
      | rightParen =>
        exact operand (.call callee leftParen (.list (.single value)) ⟨offset, place⟩)
          (by simp [Grammar.Primary.tokens, Grammar.Args.tokens, Grammar.ArgList.tokens])
      | comma =>
        exact argument (.more callee leftParen (.single value) ⟨offset, place⟩)
          (by simp [Grammar.ArgList.tokens])
      | _ => exact .refuse _
    | _ => exact .refuse _
  | more callee leftParen items comma =>
    cases lexeme with
    | mark sign =>
      cases sign with
      | rightParen =>
        exact operand (.call callee leftParen (.list (.more items comma value)) ⟨offset, place⟩)
          (by simp [Grammar.Primary.tokens, Grammar.Args.tokens, Grammar.ArgList.tokens])
      | comma =>
        exact argument (.more callee leftParen (.more items comma value) ⟨offset, place⟩)
          (by simp [Grammar.ArgList.tokens])
      | _ => exact .refuse _
    | _ => exact .refuse _

/-- The mark that ends an expression with a purpose. -/
def Purpose.closing : Purpose → Mark
  | .condition _ => .rightParen
  | _ => .semicolon

/-- Every other token is refused there. -/
theorem endExpression_other {value : Expression} (other : token.lexeme ≠ .mark purpose.closing) :
    ∃ kinds, endExpression value purpose [] state token = refuse kinds := by
  obtain ⟨lexeme, offset, place⟩ := token
  rcases purpose with _ | ⟨_, _, _ | _⟩ | _ | _ <;> cases lexeme with
  | mark sign => cases sign <;> first | exact ⟨_, rfl⟩ | exact absurd rfl other
  | _ => exact ⟨_, rfl⟩

/-- The token behind a whole expression. -/
theorem endExpression_outer (value : Grammar.Expression) (purpose_read : purpose.Reads before) :
    Leads (endExpression value.build purpose [] state token) state
      (before ++ value.tokens ++ [token]) := by
  -- Without brackets, the one sign that ends the expression is that of its purpose.
  by_cases closes : token.lexeme = .mark purpose.closing
  · obtain ⟨lexeme, offset, place⟩ := token
    subst closes
    cases purpose_read with
    | evaluate => exact .goTo (.ended (.expression ⟨value, ⟨offset, place⟩⟩) rfl) rfl
    | plain leaf name equal =>
      exact .goTo (.ended (.variable (.plain leaf name equal value ⟨offset, place⟩)) rfl) rfl
    | typed leaf name colon type equal =>
      exact .goTo (.ended (.variable (.typed leaf name colon type equal value ⟨offset, place⟩))
        (Grammar.VariableDeclaration.build_typed leaf name colon type equal value ⟨offset, place⟩))
          rfl
    | result leaf => exact .goTo (.ended (.return (.value leaf value ⟨offset, place⟩)) rfl) rfl
    | condition head_read leftParen =>
      exact .goTo (.bodyOpen head_read leftParen value ⟨offset, place⟩)
        (by simp [Leaf.mark, Purpose.closing])
  · obtain ⟨kinds, refused⟩ := endExpression_other closes
    rw [refused]
    exact .refuse kinds

/-- The token behind an expression, in front of which its purpose and the open parentheses stand. -/
theorem endExpression_leads (state : State) (token : Token) (value : Grammar.Expression)
    {brackets : List (Bracket × Pending)}
    (purpose_read : purpose.Reads before) (brackets_read : ReadsBrackets brackets outside) :
    Leads (endExpression value.build purpose brackets state token) state
      (before ++ outside ++ value.tokens ++ [token]) := by
  -- Outside of all brackets a semicolon may end the expression, inside only the bracket or a comma.
  cases brackets_read with
  | none => simpa using endExpression_outer value purpose_read
  | more outer pending_read bracket_read =>
    exact endExpression_inner value purpose_read outer pending_read bracket_read

/-- The token behind an operand. -/
theorem followOperand_leads (state : State) (token : Token) (expected : List TokenKind)
    {opened : OpenExpression} (factor : Grammar.Primary) (purpose_read : purpose.Reads before)
    (opened_read : opened.Reads inside) :
    Leads (followOperand expected factor.build purpose opened state token) state
      (before ++ inside ++ factor.tokens ++ [token]) := by
  obtain ⟨brackets_read, pending_read⟩ := opened_read
  rename_i pending brackets outside inside
  -- A product binds the operand first, a sum takes the product before it.
  have times : ∀ (sign : ProductSign) (leaf : Leaf), Leads (.ok (state.goTo (.operand purpose
      ⟨pending.multiply leaf.place sign.operator factor.build, brackets⟩))) state
        (before ++ (outside ++ inside) ++ factor.tokens ++ [leaf.mark sign.mark]) :=
          fun sign leaf =>
    .goTo (.operand purpose_read (.parts brackets_read (pending_read.multiply factor sign leaf)))
      (by simp)
  have plus : ∀ (sign : SumSign) (leaf : Leaf), Leads (.ok (state.goTo (.operand purpose
      ⟨pending.add leaf.place sign.operator factor.build, brackets⟩))) state
        (before ++ (outside ++ inside) ++ factor.tokens ++ [leaf.mark sign.mark]) :=
          fun sign leaf =>
    .goTo (.operand purpose_read (.parts brackets_read (pending_read.add factor sign leaf)))
      (by simp)
  -- Other signs end the expression, with everything that was pending in it.
  have ends : Leads (endExpression (pending.close factor.build) purpose brackets state token) state
      (before ++ (outside ++ inside) ++ factor.tokens ++ [token]) := by
    obtain ⟨value, value_tokens, value_built⟩ := pending_read.close factor
    have leads := endExpression_leads state token value purpose_read brackets_read
    rw [value_built, value_tokens] at leads
    simpa using leads
  obtain ⟨lexeme, offset, place⟩ := token
  cases lexeme with
  | mark sign =>
    cases sign with
    | star => exact times .times ⟨offset, place⟩
    | slash => exact times .per ⟨offset, place⟩
    | plus => exact plus .plus ⟨offset, place⟩
    | minus => exact plus .minus ⟨offset, place⟩
    | semicolon | rightParen | comma =>
      unfold followOperand
      dsimp only
      split
      · exact ends
      · exact .refuse _
    | _ => exact .refuse _
  | _ => exact .refuse _

/-- The token behind an identifier, which may be a label or the target of an assignment, depending
on its role. -/
theorem followName_leads {role : NameRole} {opened : OpenExpression} (name : Word)
    (purpose_read : purpose.Reads before)
    (opened_read : opened.Reads inside) (label : role = .statement → before ++ inside = [])
    (target : role ≠ .operand → ∀ leaf : Leaf,
      (Position.expression .plain purpose
        { opened with pending := opened.pending.assign name.identifier }).Reads
        (before ++ inside ++ [name.token, leaf.mark .equal])) :
    Leads (followName role name.identifier purpose opened state token) state
      (before ++ inside ++ [name.token] ++ [token]) := by
  have operand := followOperand_leads state token (nameFollows role) (.identifier name) purpose_read
    opened_read
  obtain ⟨lexeme, offset, place⟩ := token
  unfold followName
  -- A colon makes a label of the name, an equals sign a target, and a bracket a callee.
  split
  · rename_i same
    cases same
    rw [label rfl]
    exact .goTo (.labelNext name ⟨offset, place⟩) rfl
  · rename_i same
    cases same
    exact .goTo (target (by decide) ⟨offset, place⟩) (by simp [Leaf.mark])
  · rename_i same
    cases same
    exact .goTo (target (by decide) ⟨offset, place⟩) (by simp [Leaf.mark])
  · rename_i same
    cases same
    obtain ⟨brackets_read, pending_read⟩ := opened_read
    exact .goTo (.argument purpose_read brackets_read pending_read name ⟨offset, place⟩)
      (by simp [Leaf.mark])
  -- Else the name is an operand like any other.
  · exact operand

/-! Statements that are complete. -/

/-- A condition that is the alternative of others, with those around it. -/
theorem ReadsOuter.nest {outer : List OuterChoice} (reads : ReadsOuter outer outside)
    (inner : Grammar.IfStatement) :
    ∃ whole : Grammar.IfStatement, whole.tokens = outside ++ inner.tokens ∧
      ∀ {statement : Statement},
        inner.build = .ok statement → whole.build = .ok (nestChoices outer statement) := by
  -- Each choice takes the one inside as its second arm, until the outermost one is reached.
  induction reads generalizing inner with
  | none => exact ⟨inner, rfl, id⟩
  | more outer_read leaf leftParen condition rightParen arm arm_built word ih =>
    obtain ⟨whole, written, builds⟩ :=
      ih (.choose leaf leftParen condition rightParen arm (.if word inner))
    refine ⟨whole, by simp [written, Grammar.IfStatement.tokens,
      Grammar.ElseClause.tokens], fun built => builds ?_⟩
    rw [Grammar.IfStatement.build, arm_built, Grammar.ElseClause.build, built]
    rfl

/-- The function that a block completes, unless its result is misnamed. -/
theorem FunctionHead.Reads.close {head : FunctionHead} (reads : head.Reads tokens)
    (result : Grammar.ReturnType) (block : Grammar.Block) :
    ∃ whole : Grammar.Statement, whole.tokens = tokens ++ result.tokens ++ block.tokens ∧
      ∀ {place : Location} {body : List Statement}, block.build = .ok (place, body) →
        whole.build = (closedStatement place body (.function head result.typeName?)).mapError
          Refusal.error := by
  cases reads with
  | parts leaf name leftParen params params_built rightParen =>
    refine ⟨.function (.declare leaf name leftParen params rightParen result block),
      by simp [Grammar.Statement.tokens, Grammar.FunctionDeclaration.tokens], fun built => ?_⟩
    -- The type of the result is looked at where the block is closed.
    rw [Grammar.closedStatement_function, Grammar.Statement.build,
      Grammar.FunctionDeclaration.build, params_built, built]
    rfl

/-- The statement that a block completes, unless a kind is misnamed in it. -/
theorem Owner.Reads.close {owner : Owner} (reads : owner.Reads tokens) (block : Grammar.Block) :
    ∃ whole : Grammar.Statement, whole.tokens = tokens ++ block.tokens ∧
      ∀ {place : Location} {body : List Statement}, block.build = .ok (place, body) →
        whole.build = (closedStatement place body owner).mapError Refusal.error := by
  cases reads with
  | plain => exact ⟨.block block, rfl, fun built => by rw [Grammar.Statement.build, built]; rfl⟩
  -- A function without a type is one with an empty result.
  | function head_read =>
    simpa [Grammar.ReturnType.tokens, Grammar.ReturnType.typeName?] using head_read.close
      .empty block
  | typed head_read arrow type => exact head_read.close (.arrow arrow type) block
  -- The choice may be the second arm of others, which are completed around it.
  | thenBranch head_read leftParen condition rightParen =>
    obtain ⟨outer_read, leaf⟩ := head_read
    obtain ⟨whole, written, builds⟩ :=
      outer_read.nest (.choose leaf leftParen condition rightParen block .empty)
    refine ⟨.if whole, by simp [Grammar.Statement.tokens, written, Grammar.IfStatement.tokens,
      Grammar.ElseClause.tokens], fun built => builds ?_⟩
    rw [Grammar.IfStatement.build, built, Grammar.ElseClause.build]
    rfl
  -- The block belongs to the innermost of the choices that are still open.
  | elseBranch outer_read =>
    cases outer_read with
    | more outer_read leaf leftParen condition rightParen arm arm_built word =>
      obtain ⟨whole, written, builds⟩ :=
        outer_read.nest (.choose leaf leftParen condition rightParen arm (.block word block))
      refine ⟨.if whole, by simp [Grammar.Statement.tokens, written, Grammar.IfStatement.tokens,
        Grammar.ElseClause.tokens], fun built => builds ?_⟩
      rw [Grammar.IfStatement.build, arm_built, Grammar.ElseClause.build, built]
      rfl
  | loop head_read leftParen condition rightParen =>
    cases head_read with
    | loop leaf =>
      exact ⟨.loop (.plain leaf leftParen condition rightParen block),
        by simp [Grammar.Statement.tokens, Grammar.LoopStatement.tokens],
        fun built => by rw [Grammar.Statement.build, Grammar.LoopStatement.build, built]; rfl⟩
    | labelled label colon leaf =>
      exact ⟨.loop (.labelled label colon leaf leftParen condition rightParen block),
        by simp [Grammar.Statement.tokens, Grammar.LoopStatement.tokens],
        fun built => by rw [Grammar.Statement.build, Grammar.LoopStatement.build, built]; rfl⟩

/-! Steps between statements. -/

namespace State

variable {state next : State}

/-- A position that stands for one token more, with everything else as it was. -/
theorem Reads.goTo {position : Position} {own : List Token}
    (blocks_read : ReadsBlocks state.blocks outside) {complete : Grammar.Statements}
    (built : complete.build = .ok state.statements) (position_read : position.Reads own) :
    (state.goTo position).Reads (outside ++ complete.tokens ++ own) :=
  ⟨outside, own, complete, blocks_read, built, position_read, rfl⟩

/-- What a step leads to stands for the token that it has read, too. -/
theorem Reads.of_leads (state : State) {result : Except Refusal State} {own : List Token}
    (blocks_read : ReadsBlocks state.blocks outside) {complete : Grammar.Statements}
    (built : complete.build = .ok state.statements) (leads : Leads result state own)
    (stepped : result = .ok next) : next.Reads (outside ++ complete.tokens ++ own) := by
  obtain ⟨position, rfl, reads⟩ := leads next stepped
  exact .goTo blocks_read built reads

/-- A brace opens a block behind what stands in front of it. -/
theorem Reads.openBlock (state : State) {owner : Owner} {own : List Token}
    (blocks_read : ReadsBlocks state.blocks outside) {complete : Grammar.Statements}
    (built : complete.build = .ok state.statements) (owner_read : owner.Reads own)
    (leftBrace : Leaf) :
    (state.openBlock leftBrace.place owner).Reads
      (outside ++ complete.tokens ++ (own ++ [leftBrace.mark .leftBrace])) :=
  ⟨_, [], .empty, .more blocks_read complete built owner_read leftBrace, rfl, .blockStart,
    by simp [Grammar.Statements.tokens]⟩

/-- The first token of a statement, or the brace that closes a block. -/
theorem Reads.startStatement (state : State) (blocks_read : ReadsBlocks state.blocks outside)
    {complete : Grammar.Statements} (built : complete.build = .ok state.statements)
    (stepped : Parser.startStatement state token = .ok next) :
    next.Reads (outside ++ complete.tokens ++ [token]) := by
  -- Statements without a word in front are expressions.
  have operand : ∀ expected,
      Leads (startOperand .statement expected .evaluate .empty state token) state [token] :=
    fun expected =>
      @startOperand_leads [] [] _ state token _ _ expected .evaluate .empty .afterStatementName
  obtain ⟨lexeme, offset, place⟩ := token
  unfold Parser.startStatement at stepped
  -- One token tells the statements apart, or closes the block around them.
  split at stepped
  · rename_i same
    cases same
    cases stepped
    exact .goTo blocks_read built (.functionName ⟨offset, place⟩)
  · rename_i same
    cases same
    cases stepped
    exact .goTo blocks_read built (.variableName ⟨offset, place⟩)
  · rename_i same
    cases same
    cases stepped
    exact .openBlock state blocks_read built .plain ⟨offset, place⟩
  · rename_i block outer same opened
    cases same
    cases stepped
    rw [opened] at blocks_read
    cases blocks_read with
    | more outer_read before before_built owner_read leftBrace =>
      -- The statements read so far become the body, and those before the block are taken up again.
      refine ⟨_, _, before, outer_read, before_built,
        .closed owner_read (.braces leftBrace complete ⟨offset, place⟩)
        (by rw [Grammar.Block.build, built]; rfl), ?_⟩
      simp [Grammar.Block.tokens, Leaf.mark]
  · rename_i same
    cases same
    cases stepped
    exact .goTo blocks_read built (.result ⟨offset, place⟩)
  · rename_i same
    cases same
    cases stepped
    exact .goTo blocks_read built (.conditionOpen (.choice .none ⟨offset, place⟩))
  · rename_i same
    cases same
    cases stepped
    exact .goTo blocks_read built (.conditionOpen (.loop ⟨offset, place⟩))
  · rename_i same
    cases same
    cases stepped
    exact .goTo blocks_read built (.jumpNext true ⟨offset, place⟩)
  · rename_i same
    cases same
    cases stepped
    exact .goTo blocks_read built (.jumpNext false ⟨offset, place⟩)
  · exact .of_leads state blocks_read built (operand _) stepped
  · exact .of_leads state blocks_read built (operand _) stepped

end State

namespace State

variable {state next : State} {blocks : List OpenBlock} {statements : List Statement}
  {complete : Grammar.Statements}

/-- The token behind a statement that has ended. -/
theorem Reads.step_ended (blocks_read : ReadsBlocks blocks outside)
    (built : complete.build = .ok statements) (statement : Grammar.Statement) {ended : Ended}
    (ended_built : statement.build = (endedStatement ended).mapError Refusal.error)
    (stepped : Parser.step ⟨blocks, statements, .ended ended⟩ token = .ok next) :
    next.Reads (outside ++ complete.tokens ++ statement.tokens ++ [token]) := by
  unfold Parser.step at stepped
  dsimp only at stepped
  split at stepped
  -- A token that may follow makes the statement the last one, and begins the next.
  · cases settled : endedStatement ended with
    | ok last =>
      rw [settled] at stepped ended_built
      have whole : (Grammar.Statements.more complete statement).build = .ok
          (statements ++ [last]) := by
        rw [Grammar.Statements.build, built, ended_built]
        rfl
      have reads := Reads.startStatement
        (State.push ⟨blocks, statements, .ended ended⟩ last) blocks_read whole stepped
      simpa [Grammar.Statements.tokens] using reads
    | error refusal =>
      rw [settled] at stepped
      cases stepped
  · cases stepped

/-- The token behind a block that is closed, which may be the start of an alternative. -/
theorem Reads.step_closed (blocks_read : ReadsBlocks blocks outside)
    (built : complete.build = .ok statements) {owner : Owner} {own : List Token}
    (owner_read : owner.Reads own) (block : Grammar.Block) {place : Location}
    {body : List Statement} (block_built : block.build = .ok (place, body))
    (stepped : Parser.step ⟨blocks, statements, .closed place owner body⟩ token = .ok next) :
    next.Reads (outside ++ complete.tokens ++ (own ++ block.tokens) ++ [token]) := by
  -- A second arm may follow the first one; anything else follows the whole statement.
  by_cases alternative : token.lexeme = .keyword .else
  · obtain ⟨lexeme, offset, place⟩ := token
    subst alternative
    cases owner_read with
    | thenBranch head_read leftParen condition rightParen =>
      cases stepped
      cases head_read with
      | choice outer_read leaf =>
        refine ⟨_, _, complete, blocks_read, built,
          .elseNext (.more outer_read leaf leftParen condition rightParen block block_built
            ⟨offset, place⟩), ?_⟩
        simp [Leaf.keyword]
    | _ => cases stepped
  -- The block completes the statement of its owner.
  · have settles := @Grammar.step_closed
      ⟨blocks, statements, .closed place owner body⟩ token place owner body alternative
    replace stepped := settles.symm.trans stepped
    split at stepped
    · cases closed : closedStatement place body owner with
      | ok last =>
        rw [closed] at stepped
        obtain ⟨statement, written, builds⟩ := owner_read.close block
        have statement_built : statement.build = .ok last := by rw [builds block_built, closed]; rfl
        have whole : (Grammar.Statements.more complete statement).build = .ok
            (statements ++ [last]) := by
          rw [Grammar.Statements.build, built, statement_built]
          rfl
        have reads := Reads.startStatement
          (State.push ⟨blocks, statements, .closed place owner body⟩ last) blocks_read whole stepped
        simpa [Grammar.Statements.tokens, written] using reads
      | error refusal =>
        rw [closed] at stepped
        cases stepped
    · cases stepped

end State

/-! Steps within statements. -/

/-- The parameters up to one that is complete. -/
theorem ReadsParams.close {head : FunctionHead} (reads : ReadsParams head tokens)
    (param : Grammar.Param) :
    ∃ (leaf : Leaf) (name : Word) (leftParen : Leaf) (params : Grammar.ParamList),
      leaf.place = head.place ∧ name.identifier = head.name ∧
      tokens ++ param.tokens = leaf.keyword .function :: name.token :: leftParen.mark .leftParen ::
        params.tokens ∧
      ∀ {parameter : Parameter},
        param.build = .ok parameter → params.build = .ok (head.parameters ++ [parameter]) := by
  -- The parameter is the first one, or stands behind a comma.
  cases reads with
  | first leaf name leftParen =>
    exact ⟨leaf, name, leftParen, .single param, rfl, rfl, rfl,
      fun built => by rw [Grammar.ParamList.build, built]; rfl⟩
  | more leaf name leftParen params params_built comma =>
    exact ⟨leaf, name, leftParen, .more params comma param, rfl,
      rfl, by simp [Grammar.ParamList.tokens],
      fun built => by rw [Grammar.ParamList.build, params_built, built]; rfl⟩

/-- The separator behind a parameter. -/
theorem separator_leads {head : FunctionHead} (params_read : ReadsParams head before)
    (param : Grammar.Param) (isLast : Bool) (leaf : Leaf) :
    Leads (step (state.goTo
      (.parameterEnd head param.name.identifier ⟨param.type.place, param.type.name⟩))
      (leaf.mark (Grammar.separator isLast))) state
        (before ++ param.tokens ++ [leaf.mark (Grammar.separator isLast)]) := by
  rw [Grammar.step_separator]
  -- The type of the parameter is settled here, as soon as the sign behind it is read.
  cases named : ValueKind.ofWord param.type.name with
  | error error =>
    intro next refused
    cases refused
  | ok kind =>
    have built : param.build = .ok ⟨param.name.place, param.name.name, kind⟩ := by
      rw [Grammar.Param.build, Word.valueKind, named]
      rfl
    obtain ⟨first, name, leftParen, params, place_same, name_same, written, builds⟩ :=
      params_read.close param
    have params_built := builds built
    obtain ⟨place, callee, parameters⟩ := head
    subst place_same name_same
    rw [written]
    -- A comma waits for one more name, a bracket closes the parameters.
    cases isLast with
    | false =>
      exact .goTo (.parameterName (.more first name leftParen params params_built leaf)) rfl
    | true =>
      exact .goTo (.resultStart (.parts first name leftParen (.list params) params_built leaf)) rfl

/-- What stands behind a parameter. -/
theorem parameterEnd_leads {head : FunctionHead} (params_read : ReadsParams head before)
    (param : Grammar.Param) :
    Leads (step (state.goTo
      (.parameterEnd head param.name.identifier ⟨param.type.place, param.type.name⟩)) token) state
      (before ++ param.tokens ++ [token]) := by
  obtain ⟨lexeme, offset, place⟩ := token
  cases lexeme with
  | mark sign =>
    cases sign with
    -- Only these two signs may stand here.
    | comma => exact separator_leads params_read param false ⟨offset, place⟩
    | rightParen => exact separator_leads params_read param true ⟨offset, place⟩
    | _ => exact .refuse _
  | _ => exact .refuse _

/-- What stands where an expression starts. -/
theorem expression_leads {start : ExpressionStart} {opened : OpenExpression}
    (reads : (Position.expression start purpose opened).Reads before) :
    Leads (startExpression start purpose opened state token) state (before ++ [token]) := by
  obtain ⟨lexeme, offset, place⟩ := token
  unfold startExpression
  cases reads with
  -- Targets read so far stay pending in front of the operand.
  | expression purpose_read brackets_read targets_read =>
    have leads := startOperand_leads state ⟨lexeme, offset, place⟩
      (startExpected .plain) purpose_read
      (.parts brackets_read (.ofTargets targets_read)) fun name => by
        simpa using Position.Reads.afterExpressionName purpose_read brackets_read targets_read name
    simpa using leads
  | result leaf =>
    have leads := startOperand_leads state ⟨lexeme, offset, place⟩ (startExpected .result)
      (.result leaf) .empty (.afterExpressionName (.result leaf) .none .none)
    by_cases ends : lexeme = .mark .semicolon
    -- Without a result, the end of a function ends at once.
    · subst ends
      exact .goTo (.ended (.return (.plain leaf ⟨offset, place⟩)) rfl) rfl
    · split
      · exact absurd ‹_› ends
      · cases ‹ExpressionStart.result = .argument›
      · exact leads
  | argument purpose_read brackets_read pending_read callee leftParen =>
    have leads := startOperand_leads state ⟨lexeme, offset, place⟩ (startExpected .argument)
      purpose_read (.parts (.more brackets_read pending_read (.call callee leftParen)) .empty)
      fun name => by
        simpa [Pending.empty] using Position.Reads.afterExpressionName purpose_read
          (.more brackets_read pending_read (.call callee leftParen)) .none name
    by_cases ends : lexeme = .mark .rightParen
    -- Without arguments, a call ends at once.
    · subst ends
      refine .goTo (.afterOperand purpose_read (.parts brackets_read pending_read)
        (.call callee leftParen .empty ⟨offset, place⟩)) ?_
      simp [Grammar.Primary.tokens, Grammar.Args.tokens, Leaf.mark]
    · split
      · cases ‹ExpressionStart.argument = .result›
      · exact absurd ‹_› ends
      · simpa using leads

/-! Steps at positions behind which few tokens can stand. -/

section Steps

variable (state : State) (token : Token)

/-- The name of a function. -/
theorem functionName_leads (leaf : Leaf) :
    Leads (step (state.goTo (.functionName leaf.place)) token) state
      [leaf.keyword .function, token] := by
  obtain ⟨lexeme, offset, place⟩ := token
  cases lexeme with
  | identifier name => exact .goTo (.functionOpen leaf ⟨⟨offset, place⟩, name⟩) rfl
  | _ => exact .refuse _

/-- The parenthesis in front of the parameters. -/
theorem functionOpen_leads (leaf : Leaf) (name : Word) :
    Leads (step (state.goTo (.functionOpen leaf.place name.identifier)) token) state
      [leaf.keyword .function, name.token, token] := by
  obtain ⟨lexeme, offset, place⟩ := token
  -- Only a bracket may follow the name.
  cases lexeme with
  | mark sign =>
    cases sign with
    | leftParen => exact .goTo (.parametersStart leaf name ⟨offset, place⟩) rfl
    | _ => exact .refuse _
  | _ => exact .refuse _

/-- The first parameter, or the parenthesis behind none. -/
theorem parametersStart_leads (leaf : Leaf) (name : Word) (leftParen : Leaf) :
    Leads (step (state.goTo (.parametersStart ⟨leaf.place, name.identifier, []⟩)) token) state
      [leaf.keyword .function, name.token, leftParen.mark .leftParen, token] := by
  obtain ⟨lexeme, offset, place⟩ := token
  cases lexeme with
  | mark sign =>
    cases sign with
    -- There may be no parameters at all.
    | rightParen =>
      exact .goTo (.resultStart (.parts leaf name leftParen .empty rfl ⟨offset, place⟩)) rfl
    | _ => exact .refuse _
  | identifier word =>
    exact .goTo (.parameterColon (.first leaf name leftParen) ⟨⟨offset, place⟩, word⟩) rfl
  | _ => exact .refuse _

section Parameters

variable {head : FunctionHead} (params_read : ReadsParams head before)

include params_read

/-- The name of a further parameter. -/
theorem parameterName_leads :
    Leads (step (state.goTo (.parameterName head)) token) state (before ++ [token]) := by
  obtain ⟨lexeme, offset, place⟩ := token
  cases lexeme with
  | identifier word => exact .goTo (.parameterColon params_read ⟨⟨offset, place⟩, word⟩) rfl
  | _ => exact .refuse _

/-- The colon behind the name of a parameter. -/
theorem parameterColon_leads (name : Word) :
    Leads (step (state.goTo (.parameterColon head name.identifier)) token) state
      (before ++ [name.token] ++ [token]) := by
  obtain ⟨lexeme, offset, place⟩ := token
  cases lexeme with
  | mark sign =>
    cases sign with
    | colon => exact .goTo (.parameterType params_read name ⟨offset, place⟩) (by simp [Leaf.mark])
    | _ => exact .refuse _
  | _ => exact .refuse _

/-- The type of a parameter. -/
theorem parameterType_leads (name : Word) (colon : Leaf) :
    Leads (step (state.goTo (.parameterType head name.identifier)) token) state
      (before ++ [name.token, colon.mark .colon] ++ [token]) := by
  obtain ⟨lexeme, offset, place⟩ := token
  cases lexeme with
  | identifier word =>
    exact .goTo (.parameterEnd params_read ⟨name, colon, ⟨⟨offset, place⟩, word⟩⟩)
      (by simp [Grammar.Param.tokens, Word.token])
  | _ => exact .refuse _

end Parameters

/-- The type of a result. -/
theorem resultType_leads {head : FunctionHead} (head_read : head.Reads before) (arrow : Leaf) :
    Leads (step (state.goTo (.resultType head)) token) state
      (before ++ [arrow.mark .arrow] ++ [token]) := by
  obtain ⟨lexeme, offset, place⟩ := token
  cases lexeme with
  | identifier word =>
    exact .goTo (.functionBody head_read arrow ⟨⟨offset, place⟩, word⟩) (by simp [Word.token])
  | _ => exact .refuse _

/-- The name of a variable. -/
theorem variableName_leads (leaf : Leaf) :
    Leads (step (state.goTo (.variableName leaf.place)) token) state
      [leaf.keyword .var, token] := by
  obtain ⟨lexeme, offset, place⟩ := token
  cases lexeme with
  | identifier word => exact .goTo (.variableNext leaf ⟨⟨offset, place⟩, word⟩) rfl
  | _ => exact .refuse _

/-- The type of a variable follows, or its value at once. -/
theorem variableNext_leads (leaf : Leaf) (name : Word) :
    Leads (step (state.goTo (.variableNext leaf.place name.identifier)) token) state
      [leaf.keyword .var, name.token, token] := by
  obtain ⟨lexeme, offset, place⟩ := token
  cases lexeme with
  | mark sign =>
    cases sign with
    -- A type may be stated, or be left to the value.
    | colon => exact .goTo (.variableType leaf name ⟨offset, place⟩) rfl
    | equal => exact .goTo (.expression (.plain leaf name ⟨offset, place⟩) .none .none) rfl
    | _ => exact .refuse _
  | _ => exact .refuse _

/-- The type of a variable. -/
theorem variableType_leads (leaf : Leaf) (name : Word) (colon : Leaf) :
    Leads (step (state.goTo (.variableType leaf.place name.identifier)) token) state
      [leaf.keyword .var, name.token, colon.mark .colon, token] := by
  obtain ⟨lexeme, offset, place⟩ := token
  cases lexeme with
  | identifier word => exact .goTo (.variableEqual leaf name colon ⟨⟨offset, place⟩, word⟩) rfl
  | _ => exact .refuse _

/-- The value of a variable with a type. -/
theorem variableEqual_leads (leaf : Leaf) (name : Word) (colon : Leaf) (type : Word) :
    Leads (step (state.goTo (.variableEqual leaf.place name.identifier ⟨type.place, type.name⟩))
      token) state [leaf.keyword .var, name.token, colon.mark .colon, type.token, token] := by
  obtain ⟨lexeme, offset, place⟩ := token
  cases lexeme with
  | mark sign =>
    cases sign with
    | equal =>
      exact .goTo (.expression (.typed leaf name colon type ⟨offset, place⟩) .none .none) rfl
    | _ => exact .refuse _
  | _ => exact .refuse _

/-- The parenthesis in front of a condition. -/
theorem conditionOpen_leads {head : Head} (head_read : head.Reads before) :
    Leads (step (state.goTo (.conditionOpen head)) token) state (before ++ [token]) := by
  obtain ⟨lexeme, offset, place⟩ := token
  cases lexeme with
  | mark sign =>
    cases sign with
    | leftParen =>
      exact .goTo (.expression (.condition head_read ⟨offset, place⟩) .none .none)
        (by simp [Leaf.mark])
    | _ => exact .refuse _
  | _ => exact .refuse _

/-- The loop behind its label. -/
theorem labelNext_leads (label : Word) (colon : Leaf) :
    Leads (step (state.goTo (.labelNext label.identifier)) token) state
      [label.token, colon.mark .colon, token] := by
  obtain ⟨lexeme, offset, place⟩ := token
  cases lexeme with
  | keyword reserved =>
    cases reserved with
    | loop => exact .goTo (.conditionOpen (.labelled label colon ⟨offset, place⟩)) rfl
    | _ => exact .refuse _
  | _ => exact .refuse _

/-- A jump ends, or the label that it goes to follows. -/
theorem jumpNext_leads (isBreak : Bool) (leaf : Leaf) :
    Leads (step (state.goTo (.jumpNext isBreak leaf.place)) token) state
      [leaf.keyword (Grammar.JumpStatement.reserved isBreak), token] := by
  obtain ⟨lexeme, offset, place⟩ := token
  cases lexeme with
  | mark sign =>
    cases sign with
    -- Without a label the jump ends here.
    | semicolon =>
      refine .goTo (.ended (.jump (.plain isBreak leaf ⟨offset, place⟩)) ?_) rfl
      cases isBreak <;> rfl
    | _ => exact .refuse _
  | identifier word => exact .goTo (.jumpEnd isBreak leaf ⟨⟨offset, place⟩, word⟩) rfl
  | _ => exact .refuse _

/-- A jump ends behind the label that it goes to. -/
theorem jumpEnd_leads (isBreak : Bool) (leaf : Leaf) (label : Word) :
    Leads (step (state.goTo (.jumpEnd isBreak leaf.place label.identifier)) token) state
      [leaf.keyword (Grammar.JumpStatement.reserved isBreak), label.token, token] := by
  obtain ⟨lexeme, offset, place⟩ := token
  cases lexeme with
  | mark sign =>
    cases sign with
    -- Behind the label nothing else may stand.
    | semicolon =>
      refine .goTo (.ended (.jump (.labelled isBreak leaf label ⟨offset, place⟩)) ?_) rfl
      cases isBreak <;> rfl
    | _ => exact .refuse _
  | _ => exact .refuse _

end Steps

/-! Steps at positions behind which a block may be opened. -/

/-- A step opens a block, if it goes anywhere, with the brace behind what owns that block. -/
def OpensBlock (result : Except Refusal State) (state : State) (own : List Token) (token : Token) :
    Prop :=
  ∀ next, result = .ok next → ∃ (owner : Owner) (leaf : Leaf),
    owner.Reads own ∧ token = leaf.mark .leftBrace ∧ next = state.openBlock leaf.place owner

namespace OpensBlock

variable {state : State} {own : List Token} {token : Token}

/-- A refusal opens no block. -/
theorem refuse (kinds : List TokenKind) : OpensBlock (Parser.refuse kinds) state own token := by
  intro next refused
  cases refused

/-- A brace opens the block of its owner. -/
theorem brace {owner : Owner} (owner_read : owner.Reads own) (leaf : Leaf) :
    OpensBlock (.ok (state.openBlock leaf.place owner)) state own (leaf.mark .leftBrace) := by
  rintro _ ⟨⟩
  exact ⟨owner, leaf, owner_read, rfl, rfl⟩

end OpensBlock

section Blocks

variable (state : State) (token : Token)

/-- The type of a result follows, or the body at once. -/
theorem resultStart_leads {head : FunctionHead} (head_read : head.Reads before) :
    Leads (step (state.goTo (.resultStart head)) token) state (before ++ [token]) ∨
      OpensBlock (step (state.goTo (.resultStart head)) token) state before token := by
  obtain ⟨lexeme, offset, place⟩ := token
  cases lexeme with
  | mark sign =>
    cases sign with
    -- An arrow announces a type, a brace opens the body of a void function.
    | arrow => exact .inl (.goTo (.resultType head_read ⟨offset, place⟩) rfl)
    | leftBrace => exact .inr (.brace (.function head_read) ⟨offset, place⟩)
    | _ => exact .inl (.refuse _)
  | _ => exact .inl (.refuse _)

/-- The body of a function whose result has a type. -/
theorem functionBody_opens {head : FunctionHead} (head_read : head.Reads before) (arrow : Leaf)
    (type : Word) :
    OpensBlock (step (state.goTo (.functionBody head ⟨type.place, type.name⟩)) token) state
      (before ++ [arrow.mark .arrow, type.token]) token := by
  obtain ⟨lexeme, offset, place⟩ := token
  cases lexeme with
  | mark sign =>
    cases sign with
    | leftBrace => exact .brace (.typed head_read arrow type) ⟨offset, place⟩
    | _ => exact .refuse _
  | _ => exact .refuse _

/-- The body behind a condition. -/
theorem bodyOpen_opens {head : Head} (head_read : head.Reads before) (leftParen : Leaf)
    (condition : Grammar.Expression) (rightParen : Leaf) :
    OpensBlock (step (state.goTo (.bodyOpen head condition.build)) token) state
      (before ++ (leftParen.mark .leftParen :: condition.tokens ++ [rightParen.mark .rightParen]))
        token := by
  obtain ⟨lexeme, offset, place⟩ := token
  cases lexeme with
  | mark sign =>
    cases sign with
    | leftBrace =>
      -- The head decides on the owner of the block.
      cases head_read with
      | choice outer_read leaf =>
        exact .brace (.thenBranch (.choice outer_read leaf) leftParen condition rightParen)
          ⟨offset, place⟩
      | loop leaf =>
        exact .brace (.loop (.loop leaf) leftParen condition rightParen) ⟨offset, place⟩
      | labelled label colon leaf =>
        exact .brace (.loop (.labelled label colon leaf) leftParen condition rightParen)
          ⟨offset, place⟩
    | _ => cases head_read <;> exact .refuse _
  | _ => cases head_read <;> exact .refuse _

/-- Another branch, or the block that is left if none is taken. -/
theorem elseNext_leads {choice : OuterChoice} {outer : List OuterChoice}
    (outer_read : ReadsOuter (choice :: outer) before) :
    Leads (step (state.goTo (.elseNext choice outer)) token) state (before ++ [token]) ∨
      OpensBlock (step (state.goTo (.elseNext choice outer)) token) state before token := by
  obtain ⟨lexeme, offset, place⟩ := token
  cases lexeme with
  | mark sign =>
    cases sign with
    -- A brace opens the second arm, while another choice takes its place.
    | leftBrace => exact .inr (.brace (.elseBranch outer_read) ⟨offset, place⟩)
    | _ => exact .inl (.refuse _)
  | keyword reserved =>
    cases reserved with
    | «if» => exact .inl (.goTo (.conditionOpen (.choice outer_read ⟨offset, place⟩)) rfl)
    | _ => exact .inl (.refuse _)
  | _ => exact .inl (.refuse _)

end Blocks

namespace State

variable {state next : State} {blocks : List OpenBlock} {statements : List Statement}
  {complete : Grammar.Statements}

/-- Whatever state a parser is in, a step leads to one that stands for the token that it has read,
too. -/
theorem Reads.step (reads : state.Reads tokens) (stepped : Parser.step state token = .ok next) :
    next.Reads (tokens ++ [token]) := by
  obtain ⟨outside, inside, complete, blocks_read, built, position_read, rfl⟩ := reads
  -- Most steps only go on to another position, which stands for one token more.
  have follow {own : List Token} (leads : Leads (Parser.step state token) state own)
    (same : own = inside ++ [token]) :
      next.Reads (outside ++ complete.tokens ++ inside ++ [token]) := by
    subst same
    simpa using Reads.of_leads state blocks_read built leads stepped
  -- The other ones open a block.
  have enter {own : List Token} (opens : OpensBlock (Parser.step state token) state own token)
    (same : own = inside) :
      next.Reads (outside ++ complete.tokens ++ inside ++ [token]) := by
    obtain ⟨owner, leaf, owner_read, rfl, rfl⟩ := opens next stepped
    subst same
    simpa using Reads.openBlock state blocks_read built owner_read leaf
  obtain ⟨blocks, statements, position⟩ := state
  let state : State := ⟨blocks, statements, .blockStart⟩
  cases position_read with
  | blockStart =>
    simpa using Reads.startStatement ⟨blocks, statements, .blockStart⟩ blocks_read built stepped
  | ended statement ended_built => exact .step_ended blocks_read built statement ended_built stepped
  | closed owner_read block block_built =>
    exact .step_closed blocks_read built owner_read block block_built stepped
  | functionName leaf => exact follow (functionName_leads state token leaf) rfl
  | functionOpen leaf name => exact follow (functionOpen_leads state token leaf name) rfl
  | parametersStart leaf name leftParen =>
    exact follow (parametersStart_leads state token leaf name leftParen) rfl
  | parameterName params_read => exact follow (parameterName_leads state token params_read) rfl
  | parameterColon params_read name =>
    exact follow (parameterColon_leads state token params_read name) rfl
  | parameterType params_read name colon =>
    exact follow (parameterType_leads state token params_read name colon) rfl
  | parameterEnd params_read param =>
    exact follow (@parameterEnd_leads _ state _ _ params_read param) rfl
  | resultStart head_read =>
    rcases resultStart_leads state token head_read with leads | opens
    · exact follow leads rfl
    · exact enter opens rfl
  | resultType head_read arrow => exact follow (resultType_leads state token head_read arrow) rfl
  | functionBody head_read arrow type =>
    exact enter (functionBody_opens state token head_read arrow type) rfl
  | variableName leaf => exact follow (variableName_leads state token leaf) rfl
  | variableNext leaf name => exact follow (variableNext_leads state token leaf name) rfl
  | variableType leaf name colon =>
    exact follow (variableType_leads state token leaf name colon) rfl
  | variableEqual leaf name colon type =>
    exact follow (variableEqual_leads state token leaf name colon type) rfl
  | conditionOpen head_read => exact follow (conditionOpen_leads state token head_read) rfl
  | bodyOpen head_read leftParen condition rightParen =>
    exact enter (bodyOpen_opens state token head_read leftParen condition rightParen) rfl
  | elseNext outer_read =>
    rcases elseNext_leads state token outer_read with leads | opens
    · exact follow leads rfl
    · exact enter opens rfl
  | labelNext label colon => exact follow (labelNext_leads state token label colon) rfl
  | jumpNext isBreak leaf => exact follow (jumpNext_leads state token isBreak leaf) rfl
  | jumpEnd isBreak leaf label => exact follow (jumpEnd_leads state token isBreak leaf label) rfl
  | expression purpose_read brackets_read targets_read =>
    exact follow (expression_leads (.expression purpose_read brackets_read targets_read)) rfl
  | result leaf => exact follow (expression_leads (.result leaf)) rfl
  | argument purpose_read brackets_read pending_read callee leftParen =>
    exact follow (expression_leads
      (.argument purpose_read brackets_read pending_read callee leftParen)) rfl
  | operand purpose_read opened_read =>
    exact follow (startOperand_leads _ _ _ purpose_read opened_read
      (.afterOperandName purpose_read opened_read)) rfl
  | afterStatementName name =>
    refine follow (@followName_leads [] [] _ _ _ _ _ name .evaluate .empty (fun _ => rfl)
      fun _ leaf => ?_) rfl
    exact .expression .evaluate .none (.more .none name leaf)
  | afterExpressionName purpose_read brackets_read targets_read name =>
    refine follow (followName_leads name purpose_read
      (.parts brackets_read (.ofTargets targets_read)) nofun fun _ leaf => ?_) ?_
    · simpa [Pending.assign] using
        Position.Reads.expression purpose_read brackets_read (.more targets_read name leaf)
    · simp
  | afterOperandName purpose_read opened_read name =>
    exact follow (followName_leads name purpose_read opened_read nofun fun operand =>
      absurd rfl operand) rfl
  | afterOperand purpose_read opened_read factor =>
    exact follow (followOperand_leads _ _ _ factor purpose_read opened_read) rfl

end State

end LoopLang.Parser
