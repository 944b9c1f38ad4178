import LoopLang.Proofs.Grammar.Tree

/-! The parser follows the grammar: wherever a phrase may stand, reading its tokens comes to what is
built from it. -/

namespace LoopLang

open LoopLang.Parser

/-- What comes of a refused token, leaving open which tokens were expected in its place. -/
def Parser.Refusal.error : Refusal → ParseError
  | .expected _ => ⟨.unexpectedEnd, .unknown⟩
  | .wrongType error place => ⟨.wrongType error, place⟩

/-- What comes of tokens behind a state, up to what is said of a token that was not expected. -/
def Parser.follow (state : State) : List Token → Except ParseError Program
  | [] => complete state .complete
  | token :: rest =>
    match step state token with
    | .ok next => follow next rest
    | .error refusal => .error refusal.error

/-- What comes of tokens behind the state that a step leads to, if it leads to one. -/
def Parser.proceed (result : Except Refusal State) (tokens : List Token) :
    Except ParseError Program :=
  match result with
  | .ok state => follow state tokens
  | .error refusal => .error refusal.error

namespace Parser

/-- A token is read by one step. -/
theorem follow_cons (state : State) (token : Token) (rest : List Token) :
    follow state (token :: rest) = proceed (step state token) rest := rfl

/-- Where a step leads to a state, reading goes on there. -/
@[simp] theorem proceed_ok (state : State) (tokens : List Token) :
    proceed (.ok state) tokens = follow state tokens :=
  rfl

/-- A state that is left at once for another one does not matter. -/
@[simp] theorem goTo_goTo (state : State) (first second : Position) :
    (state.goTo first).goTo second = state.goTo second :=
  rfl

end Parser

namespace Grammar

variable {state entry : State} {role : NameRole} {purpose : Purpose} {opened : OpenExpression}
  {token : Token}

/-- Which other tokens were expected does not matter to a token that starts an operand. -/
theorem startOperand_expected (starts : token.kind ∈ operandStarts) (expected : List TokenKind) :
    startOperand role expected purpose opened state token = startOperand role
      [] purpose opened state token := by
  obtain ⟨lexeme, position, place⟩ := token
  -- The list is used only where the token cannot start an operand.
  cases lexeme with
  | identifier | number => rfl
  | mark sign =>
    cases sign <;> first | rfl | simp [operandStarts, Token.kind, Lexeme.kind] at starts
  | keyword reserved =>
    cases reserved <;> first | rfl | simp [operandStarts, Token.kind, Lexeme.kind] at starts

/--
An operand may start where a parser is: the tokens that can start one lead into the expression that
is open. The expression that a statement starts with is not in any parentheses.
-/
structure Opens (entry : State) (role : NameRole) (purpose : Purpose) (opened : OpenExpression)
    (state : State) : Prop where
  starts : ∀ token : Token, token.kind ∈ operandStarts → step entry token = startOperand role
    [] purpose opened state token
  outermost : role = .statement → purpose = .evaluate ∧ opened.brackets = []

/-- An operand may start where one is expected. -/
theorem Opens.operand :
    Opens (state.goTo (.operand purpose opened)) .operand purpose opened state where
  starts _ starts := startOperand_expected starts _
  outermost := nofun

/-- An expression may start with one. -/
theorem Opens.expression (state : State) (start : ExpressionStart) (purpose : Purpose)
    (opened : OpenExpression) :
    Opens (state.goTo (.expression start purpose opened)) .expression purpose opened state where
  starts token starts := by
    show startExpression start purpose opened _ token = _
    unfold startExpression
    split
    · simp_all [operandStarts, Token.kind, Lexeme.kind]
    · simp_all [operandStarts, Token.kind, Lexeme.kind]
    · exact startOperand_expected starts _
  outermost := nofun

/-- So may a statement that is an expression. -/
theorem Opens.statement (state : State) :
    Opens (state.goTo .blockStart) .statement .evaluate .empty state where
  starts token starts := by
    show startStatement _ token = _
    unfold startStatement
    -- A token that starts an operand starts an expression here, and no other statement.
    split <;> first | exact startOperand_expected starts _ | simp_all
      [operandStarts, Token.kind, Lexeme.kind]
  outermost _ := ⟨rfl, rfl⟩

/-- An identifier that no parenthesis, colon or equal sign follows is an operand. -/
theorem proceed_followName
    (outermost : role = .statement → purpose = .evaluate ∧ opened.brackets = [])
    (follows : token.kind ∈ operandFollows) (name : Identifier) (rest : List Token) :
    proceed (followName role name purpose opened state token) rest =
      proceed (followOperand operandFollows
        (.identifier name.place name.name) purpose opened state token) rest := by
  obtain ⟨lexeme, position, place⟩ := token
  cases lexeme with
  | identifier | number | keyword => simp [operandFollows, Token.kind, Lexeme.kind] at follows
  | mark sign =>
    cases role with
    | statement =>
      obtain ⟨rfl, closed⟩ := outermost rfl
      cases sign <;> first | rfl | simp [operandFollows, Token.kind, Lexeme.kind] at follows
      -- Behind the first word of a statement a parenthesis or comma is refused in any case.
      all_goals
        obtain ⟨pending, brackets⟩ := opened
        cases closed
        rfl
    | expression | operand =>
      cases sign <;> first | rfl | simp [operandFollows, Token.kind, Lexeme.kind] at follows

/-- A factor that follows a sign completes the product, whatever comes behind it. -/
theorem followOperand_multiply (open_product : opened.pending.product = none) (leaf : Leaf)
    (sign : ProductSign) (left right : LoopLang.Expression) (expected : List TokenKind) :
    followOperand expected right purpose
        { opened with pending := opened.pending.multiply leaf.place sign.operator left }
          state token =
      followOperand expected (.binary leaf.place sign.operator left right) purpose opened state
        token := by
  obtain ⟨⟨targets, sum, product⟩, brackets⟩ := opened
  cases open_product
  rfl

/-- A term that follows a sign completes the sum, unless a factor comes behind it. -/
theorem followOperand_add (open_product : opened.pending.product = none)
    (open_sum : opened.pending.sum = none) (leaf : Leaf) (sign : SumSign)
    (left right : LoopLang.Expression) (expected : List TokenKind)
    (ends : token.lexeme ≠ .mark .star ∧ token.lexeme ≠ .mark .slash) :
    followOperand expected right purpose
        { opened with pending := opened.pending.add leaf.place sign.operator left } state token =
      followOperand expected (.binary leaf.place sign.operator left right) purpose opened state
        token := by
  obtain ⟨⟨targets, sum, product⟩, brackets⟩ := opened
  -- With nothing else pending, the sum is the whole value so far.
  cases open_product
  cases open_sum
  unfold followOperand
  split <;> first | rfl | simp_all

/-- Only what is open around an expression matters to the token behind it, and not where the parser
has been. -/
theorem endExpression_goTo (value : LoopLang.Expression) (brackets : List (Bracket × Pending))
    (position : Position) :
    endExpression value purpose brackets
      (state.goTo position) token = endExpression value purpose brackets state token := by
  unfold endExpression
  split <;> rfl

/-- What follows an operand does not depend on the position of the parser. -/
theorem followOperand_goTo (expected : List TokenKind) (operand : LoopLang.Expression)
    (position : Position) :
    followOperand expected operand purpose opened (state.goTo position) token =
      followOperand expected operand purpose opened state token := by
  unfold followOperand
  simp only [endExpression_goTo, goTo_goTo]

/-- Nor does what follows a name. -/
theorem followName_goTo (name : Identifier) (position : Position) :
    followName role name purpose opened
      (state.goTo position) token = followName role name purpose opened state token := by
  unfold followName
  simp only [followOperand_goTo, goTo_goTo]

/-- The token behind a whole operand. -/
theorem follow_afterOperand (operand : LoopLang.Expression) (rest : List Token) :
    follow (state.goTo (.afterOperand operand purpose opened)) (token :: rest) =
      proceed (followOperand operandFollows operand purpose opened state token) rest := by
  rw [follow_cons, ← followOperand_goTo operandFollows operand
    (.afterOperand operand purpose opened)]
  rfl

/-- The token behind an identifier. -/
theorem follow_afterName (name : Identifier) (rest : List Token) :
    follow (state.goTo (.afterName role name purpose opened)) (token :: rest) =
      proceed (followName role name purpose opened state token) rest := by
  rw [follow_cons, ← followName_goTo name (.afterName role name purpose opened)]
  rfl

/-- What may follow a term of a sum. -/
def termFollows : List TokenKind :=
  [.mark .plus, .mark .minus, .mark .semicolon, .mark .rightParen, .mark .comma]

/-- What may follow an expression. -/
def expressionFollows : List TokenKind := [.mark .semicolon, .mark .rightParen, .mark .comma]

/-- What may follow an argument of a call. -/
def argumentFollows : List TokenKind := [.mark .comma, .mark .rightParen]

/-- A parenthesis can follow an expression. -/
theorem rightParen_ends (leaf : Leaf) : (leaf.mark .rightParen).kind ∈ expressionFollows :=
  (by decide : TokenKind.mark .rightParen ∈ expressionFollows)

/-- So can a semicolon. -/
theorem semicolon_ends (leaf : Leaf) : (leaf.mark .semicolon).kind ∈ expressionFollows :=
  (by decide : TokenKind.mark .semicolon ∈ expressionFollows)

/-- What may follow an argument may follow any expression. -/
theorem argumentFollows_subset : argumentFollows ⊆ expressionFollows := by
  simp [argumentFollows, expressionFollows]

/-- What may follow a term may follow any operand. -/
theorem termFollows_subset : termFollows ⊆ operandFollows := by simp [termFollows, operandFollows]

/-- What may follow an expression may follow its last term. -/
theorem expressionFollows_subset : expressionFollows ⊆ termFollows := by
  simp [termFollows, expressionFollows]

/-- A sign of a product can follow any operand. -/
theorem ProductSign.mem_operandFollows (sign : ProductSign) (leaf : Leaf) :
    (leaf.mark sign.mark).kind ∈ operandFollows := by
  cases sign
  · exact (by decide : TokenKind.mark .star ∈ operandFollows)
  · exact (by decide : TokenKind.mark .slash ∈ operandFollows)

/-- A sign of a sum can follow any term. -/
theorem SumSign.mem_termFollows (sign : SumSign) (leaf : Leaf) :
    (leaf.mark sign.mark).kind ∈ termFollows := by
  cases sign
  · exact (by decide : TokenKind.mark .plus ∈ termFollows)
  · exact (by decide : TokenKind.mark .minus ∈ termFollows)

/-- Nothing that can follow a term is the sign of a product. -/
theorem not_product_of_term (follows : token.kind ∈ termFollows) :
    token.lexeme ≠ .mark .star ∧ token.lexeme ≠ .mark .slash := by
  constructor <;> intro same <;> simp [Token.kind, same, Lexeme.kind, termFollows] at follows

/-- At the end of an expression everything that waits for it is completed. -/
theorem followOperand_end (follows : token.kind ∈ expressionFollows)
    (operand : LoopLang.Expression) :
    followOperand operandFollows operand purpose opened state token =
      endExpression (opened.pending.close operand) purpose opened.brackets state token := by
  obtain ⟨lexeme, position, place⟩ := token
  -- What may follow an expression is a mark, and each of them closes the operand.
  cases lexeme with
  | identifier | number | keyword => simp [expressionFollows, Token.kind, Lexeme.kind] at follows
  | mark sign =>
    cases sign <;> first | rfl | simp [expressionFollows, Token.kind, Lexeme.kind] at follows

/-- An expression that waits only to be assigned is assigned to the innermost target first. -/
def assignAll (targets : List Identifier) (value : LoopLang.Expression) : LoopLang.Expression :=
  targets.foldl (fun value target => .assign target.place target value) value

mutual

/-- The token behind an operand finds it as it is built. -/
theorem follow_primary :
    ∀ (factor : Primary) {entry state : State} {role : NameRole} {purpose : Purpose}
    {opened : OpenExpression}, Opens entry role purpose opened state → ∀ {token : Token},
    token.kind ∈ operandFollows → ∀ rest, follow entry (factor.tokens ++ token :: rest) =
      proceed (followOperand operandFollows factor.build purpose opened state token) rest
  -- A constant is an operand at once.
  | .number leaf value, _, _, _, _, _, opens, _, _, rest => by
    rw [Primary.tokens, List.singleton_append, follow_cons,
      opens.starts ⟨.number value, leaf.position, leaf.place⟩
      (by decide : TokenKind.number ∈ operandStarts)]
    exact follow_afterOperand _ rest
  | .boolean leaf value, _, _, _, _, _, opens, _, _, rest => by
    cases value with
    | false =>
      refine (congrArg (proceed · _)
        (opens.starts (leaf.keyword .false)
          (by decide : TokenKind.keyword .false ∈ operandStarts))).trans ?_
      exact follow_afterOperand _ rest
    | true =>
      refine (congrArg (proceed · _)
        (opens.starts (leaf.keyword .true)
          (by decide : TokenKind.keyword .true ∈ operandStarts))).trans ?_
      exact follow_afterOperand _ rest
  -- Behind a name it is open whether that is a callee, a target or an operand.
  | .identifier word, _, _, _, _, _, opens, _, follows, rest => by
    rw [Primary.tokens, List.singleton_append, follow_cons,
      opens.starts word.token (by decide : TokenKind.identifier ∈ operandStarts)]
    exact (follow_afterName _ _).trans (proceed_followName opens.outermost follows _ rest)
  -- The arguments are read in an expression of their own, with the call as its bracket.
  | .call callee leftParen args rightParen, entry, state, role, purpose, opened, opens, token,
      _, rest => by
    have called : follow entry
        (callee.token :: leftParen.mark .leftParen :: (args.tokens ++ rightParen.mark .rightParen ::
        token :: rest)) = follow (state.goTo (.expression .argument purpose
          ⟨.empty, (.call callee.identifier [], opened.pending) :: opened.brackets⟩))
            (args.tokens ++ rightParen.mark .rightParen :: token :: rest) := by
      rw [follow_cons, opens.starts callee.token (by decide : TokenKind.identifier ∈ operandStarts)]
      refine (follow_afterName _ _).trans ?_
      cases role <;> rfl
    simp only [Primary.tokens, List.cons_append, List.append_assoc, List.nil_append]
    rw [called]
    cases args with
    -- A bracket may be closed at once, or behind the last argument.
    | empty => exact follow_afterOperand _ rest
    | list items =>
      obtain ⟨before, last, built, follow_items⟩ :=
        follow_argList items (.expression _ .argument _ _)
      rw [Args.tokens, follow_items (rightParen.mark .rightParen)
        (by decide : TokenKind.mark .rightParen ∈ argumentFollows)]
      rw [Primary.build, Args.build, built]
      exact follow_afterOperand _ rest
  -- What stands in brackets begins anew, with nothing pending.
  | .group leftParen inner rightParen, _, _, _, _, _, opens, _, _, rest => by
    simp only [Primary.tokens, List.cons_append, List.append_assoc, List.nil_append]
    rw [follow_cons, opens.starts (leftParen.mark .leftParen)
      (by decide : TokenKind.mark .leftParen ∈ operandStarts)]
    refine (follow_expression inner (.expression _ .plain _ _) nofun rfl rfl
      (rightParen_ends rightParen) _).trans ?_
    exact follow_afterOperand _ rest

/-- So does the token behind a product, if no product waits for it. -/
theorem follow_multiplicative :
    ∀ (term : Multiplicative) {entry state : State} {role : NameRole} {purpose : Purpose}
    {opened : OpenExpression}, Opens entry role purpose opened state →
    opened.pending.product = none →
    ∀ {token : Token}, token.kind ∈ operandFollows → ∀ rest,
      follow entry (term.tokens ++ token :: rest) =
      proceed (followOperand operandFollows term.build purpose opened state token) rest
  | .primary factor, _, _, _, _, _, opens, _, _, follows, rest =>
    follow_primary factor opens follows rest
  | .product left sign leaf right, _, state, _, purpose, opened, opens, alone, _,
      follows, rest => by
    rw [Multiplicative.tokens, List.append_assoc, List.cons_append,
      follow_multiplicative left opens alone (sign.mem_operandFollows leaf), Multiplicative.build,
      ← followOperand_multiply alone leaf sign left.build right.build]
    -- The sign leads to where the factor behind it may start.
    have signed : followOperand operandFollows left.build purpose opened state
        (leaf.mark sign.mark) = .ok (state.goTo (.operand purpose
          { opened with pending :=
            opened.pending.multiply leaf.place sign.operator left.build })) := by
      cases sign <;> rfl
    rw [signed]
    exact follow_primary right .operand follows rest

/-- So does the token behind a sum, if neither a product nor a sum waits for it. -/
theorem follow_additive :
    ∀ (value : Additive) {entry state : State} {role : NameRole} {purpose : Purpose}
    {opened : OpenExpression}, Opens entry role purpose opened state →
    opened.pending.product = none →
    opened.pending.sum = none → ∀ {token : Token}, token.kind ∈ termFollows → ∀ rest,
      follow entry (value.tokens ++ token :: rest) =
        proceed (followOperand operandFollows value.build purpose opened state token) rest
  | .multiplicative term, _, _, _, _, _, opens, alone, _, _, follows, rest =>
    follow_multiplicative term opens alone (termFollows_subset follows) rest
  | .sum left sign leaf right, _, state, _, purpose, opened, opens, alone, single, _,
      follows, rest => by
    rw [Additive.tokens, List.append_assoc, List.cons_append,
      follow_additive left opens alone single (sign.mem_termFollows leaf), Additive.build,
      ← followOperand_add alone single leaf sign left.build right.build _
      (not_product_of_term follows)]
    -- The sign makes the left side pending, and the right side is read as a product.
    have signed : followOperand operandFollows left.build purpose opened state
        (leaf.mark sign.mark) = .ok (state.goTo (.operand purpose
          { opened with pending := opened.pending.add leaf.place sign.operator left.build })) := by
      cases sign <;> rfl
    rw [signed]
    exact follow_multiplicative right .operand rfl (termFollows_subset follows) rest

/-- The token behind an expression ends it, with all that waits to be assigned. -/
theorem follow_expression :
    ∀ (value : Expression) {entry state : State} {role : NameRole} {purpose : Purpose}
    {opened : OpenExpression}, Opens entry role purpose opened state → role ≠ .operand →
    opened.pending.product = none → opened.pending.sum = none → ∀ {token : Token},
      token.kind ∈ expressionFollows →
    ∀ rest, follow entry (value.tokens ++ token :: rest) =
      proceed (endExpression (assignAll opened.pending.targets value.build) purpose opened.brackets
        state token) rest
  | .assign target equal value, _, state, role, purpose, opened, opens, whole, alone, single, _,
      follows, rest => by
    rw [Expression.tokens, List.cons_append, List.cons_append, follow_cons,
      opens.starts target.token (by decide : TokenKind.identifier ∈ operandStarts)]
    refine (follow_afterName _ _).trans ?_
    -- The target is kept until the value is complete, since assignments group to the right.
    have assigned : followName role target.identifier purpose opened state (equal.mark .equal) =
        .ok (state.goTo (.expression .plain purpose
          { opened with pending := opened.pending.assign target.identifier })) := by
      cases role <;> first | rfl | exact absurd rfl whole
    refine (congrArg (proceed · _) assigned).trans ?_
    exact follow_expression value
      (.expression state .plain purpose
        { opened with pending := opened.pending.assign target.identifier })
      nofun alone single follows rest
  -- Nothing waits but the targets, which take the value one by one.
  | .additive value, _, _, _, _, ⟨⟨targets, sum, product⟩, brackets⟩, opens, _, alone, single, _,
      follows, rest => by
    rw [Expression.tokens, follow_additive value opens alone single
      (expressionFollows_subset follows), followOperand_end follows]
    cases alone
    cases single
    rfl

/-- The token behind arguments ends the last of them, with the others in front of it. -/
theorem follow_argList :
    ∀ (items : ArgList) {entry state : State} {purpose : Purpose} {callee : Identifier}
    {pending : Pending} {brackets : List (Bracket × Pending)},
    Opens entry .expression purpose ⟨.empty, (.call callee [], pending) :: brackets⟩ state →
    ∃ before last, items.build = before ++ [last] ∧ ∀ token : Token,
      token.kind ∈ argumentFollows → ∀ rest, follow entry (items.tokens ++ token :: rest) =
        proceed (endExpression last purpose
          ((.call callee before, pending) :: brackets) state token) rest
  -- The last argument is left to what follows it: a comma or the bracket.
  | .single item, _, _, _, _, _, _, opens => by
    refine ⟨[], item.build, rfl, fun token follows rest => ?_⟩
    exact follow_expression item opens nofun rfl rfl (argumentFollows_subset follows) rest
  | .more items comma last, _, _, _, _, _, _, opens => by
    obtain ⟨before, item, built, follow_items⟩ := follow_argList items opens
    refine ⟨items.build, last.build, rfl, fun token follows rest => ?_⟩
    rw [ArgList.tokens, List.append_assoc, List.cons_append,
      follow_items (comma.mark .comma) (by decide : TokenKind.mark .comma ∈ argumentFollows), built]
    exact follow_expression last (.expression _ .plain _ _) nofun rfl rfl
      (argumentFollows_subset follows) rest

end

end Grammar

end LoopLang
