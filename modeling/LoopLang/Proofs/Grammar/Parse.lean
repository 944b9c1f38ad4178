import LoopLang.Proofs.Grammar.Step

/-! Parsing decides the grammar: a text is a program exactly if it is derived, and there is one
program that it writes. -/

namespace LoopLang

open LoopLang.Parser

namespace Grammar

/-! Type names: what is built is refused exactly if one of them is not legal. -/

section Settles

variable {α β : Type} {result : Except ParseError α} {typeUses more : List TypeUse}

/-- What is built from a phrase is there if the type names in the phrase are legal; else one of them
is to blame. -/
def Settles (result : Except ParseError α) (typeUses : List TypeUse) : Prop :=
  match result with
  | .ok _ => ∀ typeUse ∈ typeUses, typeUse.IsLegal
  | .error error =>
    (∃ cause, error.cause = .wrongType cause) ∧ ∃ typeUse ∈ typeUses, ¬ typeUse.IsLegal

namespace Settles

/-- An answer settles nothing. -/
theorem pure (answer : α) : Settles (Pure.pure answer) [] := nofun

/-- The type names of the parts of a phrase are those of the phrase. -/
theorem bind {next : α → Except ParseError β} (first : Settles result typeUses)
    (second : ∀ answer, Settles (next answer) more) :
    Settles (result >>= next) (typeUses ++ more) := by
  -- An error of the first part stands, and one of the second part comes behind the types of the
  -- first.
  cases result with
  | error error =>
    exact ⟨first.1, first.2.imp fun _ held => ⟨List.mem_append_left more held.1, held.2⟩⟩
  | ok answer =>
    have rest := second answer
    show Settles (next answer) _
    unfold Settles at rest ⊢
    split
    · rename_i same
      rw [same] at rest
      exact fun typeUse member => (List.mem_append.mp member).elim (first typeUse) (rest typeUse)
    · rename_i same
      rw [same] at rest
      exact ⟨rest.1, rest.2.imp fun _ held => ⟨List.mem_append_right typeUses held.1, held.2⟩⟩

/-- What is done with what has been built names no other types. -/
theorem map {next : α → Except ParseError β} (first : Settles result typeUses)
    (plain : ∀ answer, ∃ built, next answer = .ok built) : Settles (result >>= next) typeUses := by
  -- The second part reads no types and does not fail.
  have second : ∀ answer, Settles (next answer) [] := fun answer => by
    obtain ⟨built, same⟩ := plain answer
    rw [same]
    exact Settles.pure built
  have whole := first.bind second
  rwa [List.append_nil] at whole

/-- What is built is there exactly if the type names are legal. -/
theorem isOk (settles : Settles result typeUses) :
    (∃ answer, result = .ok answer) ↔ ∀ typeUse ∈ typeUses, typeUse.IsLegal := by
  cases result with
  | ok answer => exact ⟨fun _ => settles, fun _ => ⟨answer, rfl⟩⟩
  | error error =>
    obtain ⟨_, typeUse, member, illegal⟩ := settles
    exact ⟨fun ⟨_, same⟩ => (nomatch same), fun legal => absurd (legal typeUse member) illegal⟩

/-- A type name that is read on its own is settled by whether it can be read. -/
theorem ofRead {read : Except AnnotationError α} {typeUse : TypeUse}
    (legal : read.isOk = true ↔ typeUse.IsLegal) (place : Location) :
    Settles (read.mapError fun error => ⟨.wrongType error, place⟩) [typeUse] := by
  cases read with
  | ok answer => exact List.forall_mem_singleton.mpr (legal.mp rfl)
  | error error =>
    exact ⟨⟨error, rfl⟩, typeUse, List.mem_singleton_self _, fun held => nomatch legal.mpr held⟩

end Settles

end Settles

/-- The kinds are known by three words. -/
theorem ofWord?_eq (word : String) : ExactKind.ofWord? word =
    if word = "num" then some .num else if word = "bool" then some .bool else if word = "void"
      then some .void else none := by
  simp only [ExactKind.ofWord?, ExactKind.all, List.find?_cons, List.find?_nil, ExactKind.word,
    eq_comm (b := word)]
  by_cases num : word = "num" <;> by_cases bool : word = "bool" <;>
    by_cases void : word = "void" <;> simp [*]

/-- A type name of values is one of two words. -/
theorem Word.valueKind_settles (type : Word) : Settles type.valueKind [⟨type.name, false⟩] := by
  refine .ofRead ?_ type.place
  unfold ValueKind.ofWord
  rw [ofWord?_eq]
  -- Legal are the words for numbers and truth values, but not the one for nothing.
  by_cases num : type.name = "num"
  · simp [TypeUse.IsLegal, num, ExactKind.value?, Except.isOk, Except.toBool]
  by_cases bool : type.name = "bool"
  · simp [TypeUse.IsLegal, bool, ExactKind.value?, Except.isOk, Except.toBool]
  by_cases void : type.name = "void" <;>
    simp [TypeUse.IsLegal, num, bool, void, ExactKind.value?, Except.isOk, Except.toBool]

/-- A type name of results may also be `void`. -/
theorem Word.resultKind_settles (type : Word) : Settles type.resultKind [⟨type.name, true⟩] := by
  refine .ofRead ?_ type.place
  unfold ExactKind.ofWord
  rw [ofWord?_eq]
  -- All three words are legal for a result.
  by_cases num : type.name = "num"
  · simp [TypeUse.IsLegal, num, Except.isOk, Except.toBool]
  by_cases bool : type.name = "bool"
  · simp [TypeUse.IsLegal, bool, Except.isOk, Except.toBool]
  by_cases void : type.name = "void" <;>
    simp [TypeUse.IsLegal, num, bool, void, Except.isOk, Except.toBool]

/-- A parameter settles its type name. -/
theorem Param.settles (param : Param) : Settles param.build [param.typeUse] :=
  param.type.valueKind_settles.map fun _ => ⟨_, rfl⟩

/-- Parameters settle theirs in order. -/
theorem ParamList.settles : ∀ params : ParamList, Settles params.build params.typeUses
  | .single param => param.settles.map fun _ => ⟨_, rfl⟩
  | .more params _ last => params.settles.bind fun _ => last.settles.map fun _ => ⟨_, rfl⟩

/-- So do the parameters of a function, if it has any. -/
theorem Params.settles : ∀ params : Params, Settles params.build params.typeUses
  | .list params => params.settles
  | .empty => .pure _

/-- So does a result type, if there is one. -/
theorem ReturnType.settles : ∀ result : ReturnType, Settles result.build result.typeUses
  | .arrow _ type => type.resultKind_settles
  | .empty => .pure _

/-- So does a declaration with a type name. -/
theorem VariableDeclaration.settles :
    ∀ declaration : VariableDeclaration, Settles declaration.build declaration.typeUses
  | .typed _ _ _ type _ _ _ => type.valueKind_settles.map fun _ => ⟨_, rfl⟩
  | .plain .. => .pure _

mutual

/-- What is built from statements is there exactly if the type names in them are legal. -/
theorem Statements.settles : ∀ statements : Statements, Settles statements.build statements.typeUses
  | .more before last => before.settles.bind fun _ => last.settles.map fun _ => ⟨_, rfl⟩
  | .empty => .pure _

/-- A statement settles the type names in it. -/
theorem Statement.settles : ∀ statement : Statement, Settles statement.build statement.typeUses
  | .function declaration => declaration.settles
  | .variable declaration => declaration.settles
  | .block block => block.settles.map fun _ => ⟨_, rfl⟩
  | .if statement => statement.settles
  | .loop statement => statement.settles
  | .return _ | .jump _ | .expression _ => .pure _

/-- So does a block. -/
theorem Block.settles : ∀ block : Block, Settles block.build block.typeUses
  | .braces _ body _ => body.settles.map fun _ => ⟨_, rfl⟩

/-- The type names of a function come in front of those in its body. -/
theorem FunctionDeclaration.settles :
    ∀ declaration : FunctionDeclaration, Settles declaration.build declaration.typeUses
  | .declare _ _ _ params _ result body =>
    params.settles.bind fun _ => body.settles.bind fun _ => result.settles.map fun _ => ⟨_, rfl⟩

/-- Those of a branch are in its arms. -/
theorem IfStatement.settles : ∀ statement : IfStatement, Settles statement.build statement.typeUses
  | .choose _ _ _ _ body alternative =>
    body.settles.bind fun _ => alternative.settles.map fun arm => by
      rcases arm with _ | ⟨_, _⟩ <;> exact ⟨_, rfl⟩

/-- Those of an alternative are in its block or its branch. -/
theorem ElseClause.settles :
    ∀ alternative : ElseClause, Settles alternative.build alternative.typeUses
  | .block _ body => body.settles.map fun _ => ⟨_, rfl⟩
  | .if _ inner => inner.settles.map fun _ => ⟨_, rfl⟩
  | .empty => .pure _

/-- Those of a loop are in its body. -/
theorem LoopStatement.settles :
    ∀ statement : LoopStatement, Settles statement.build statement.typeUses
  | .plain _ _ _ _ body => body.settles.map fun _ => ⟨_, rfl⟩
  | .labelled _ _ _ _ _ _ body => body.settles.map fun _ => ⟨_, rfl⟩

end

/-- A program is built exactly if the type names in it are legal. -/
theorem Statements.program_settles (statements : Statements) :
    Settles statements.program statements.typeUses :=
  statements.settles.map fun _ => ⟨_, rfl⟩

end Grammar

/-! Whatever a parser accepts is derived. -/

namespace Parser

variable {state next : State} {tokens rest : List Token} {program : Program}

/-- A text ends where no block is open. -/
theorem finish_ok (finished : finish state = .ok (some program)) :
    state.blocks = [] ∧ lastStatements state = .ok (some program.body) := by
  unfold finish at finished
  cases ends : lastStatements state with
  | error refusal =>
    rw [ends] at finished
    cases finished
  | ok statements =>
    rw [ends, Except.map] at finished
    obtain ⟨blocks, before, position⟩ := state
    -- With a block still open there is no program.
    cases blocks with
    | cons => simp at finished
    | nil =>
      cases statements with
      | none => simp at finished
      | some statements => cases finished; exact ⟨rfl, rfl⟩

/-- A text is accepted if it ends where it may. -/
theorem complete_ok (completed : complete state .complete = .ok program) :
    finish state = .ok (some program) := by
  unfold complete at completed
  dsimp only at completed
  -- Only a finished program is an answer, all else is an error.
  split at completed
  · rename_i finished
    cases completed
    exact finished
  all_goals cases completed

/-- The last statement of a text comes behind the complete ones. -/
theorem lastStatements_ok {settled : Except Refusal Statement} {body : List Statement}
    (ends : (settled.map fun statement => some (state.statements ++ [statement])) = .ok
      (some body)) :
    ∃ statement, settled = .ok statement ∧ body = state.statements ++ [statement] := by
  cases settled with
  | error refusal => cases ends
  | ok statement => cases ends; exact ⟨statement, rfl, rfl⟩

/-- What has been read when a text may end is a program. -/
theorem State.Reads.finish (reads : state.Reads tokens)
    (finished : Parser.finish state = .ok (some program)) :
    ∃ statements : Grammar.Statements,
      statements.tokens = tokens ∧ statements.program = .ok program := by
  obtain ⟨closed, ends⟩ := finish_ok finished
  obtain ⟨outside, inside, complete, blocks_read, built, position_read, rfl⟩ := reads
  obtain ⟨blocks, statements, position⟩ := state
  -- Where no block is open, what has been read is the complete statements and one more.
  cases closed
  cases blocks_read
  obtain ⟨body⟩ := program
  -- The statement that the text ends with comes behind those that were complete before.
  have more : ∀ (last : Grammar.Statement) {statement : Statement}, last.build = .ok statement →
      body = statements ++ [statement] → (Grammar.Statements.more complete last).program = .ok
      ⟨body⟩ := by
    rintro last statement last_built rfl
    simp only [Grammar.Statements.program, Grammar.Statements.build, built, last_built]
    rfl
  -- A text can end between statements, behind one, or behind its block.
  cases position_read with
  | blockStart =>
    cases ends
    refine ⟨complete, by simp, ?_⟩
    simp only [Grammar.Statements.program, built]
    rfl
  | ended last last_built =>
    obtain ⟨statement, settled, rfl⟩ := lastStatements_ok ends
    rw [settled] at last_built
    exact ⟨.more complete last, rfl, more last last_built rfl⟩
  | closed owner_read block block_built =>
    obtain ⟨statement, settled, rfl⟩ := lastStatements_ok ends
    obtain ⟨last, last_tokens, builds⟩ := owner_read.close block
    have last_built : last.build = .ok statement := by rw [builds block_built, settled]; rfl
    exact ⟨.more complete
      last, by simp [Grammar.Statements.tokens, last_tokens], more last last_built rfl⟩
  | _ => cases ends

/-- Tokens that lead from what has been read to a program complete it. -/
theorem State.Reads.follow (reads : state.Reads tokens)
    (accepted : Parser.follow state rest = .ok program) :
    ∃ statements : Grammar.Statements,
      statements.tokens = tokens ++ rest ∧ statements.program = .ok program := by
  -- Every state on the way has read the tokens so far, the last one all of them.
  induction rest generalizing state tokens with
  | nil =>
    rw [List.append_nil]
    exact reads.finish (complete_ok accepted)
  | cons token rest ih =>
    rw [follow_cons] at accepted
    cases stepped : Parser.step state token with
    | error refusal =>
      rw [stepped] at accepted
      cases accepted
    | ok next =>
      rw [stepped] at accepted
      obtain ⟨statements, same, built⟩ := ih (reads.step stepped) accepted
      exact ⟨statements, by simpa using same, built⟩

/-- At the start nothing has been read. -/
theorem State.Reads.start : State.start.Reads [] := ⟨[], [], .empty, .none, rfl, .blockStart, rfl⟩

/-- What is said of a token that was not expected does not matter to what a parser accepts. -/
theorem run_ok (previous : Option Token) :
    run previous state .complete tokens = .ok program ↔ follow state tokens = .ok program := by
  -- Only the wording of errors looks at the token before.
  induction tokens generalizing previous state with
  | nil => rfl
  | cons token rest ih =>
    unfold run follow
    split
    · rename_i stepped
      rw [stepped]
      exact ih (some token)
    · simp [*]
    · simp [*]

/-- Nor does it matter to the wrong type names that it finds. -/
theorem run_wrongType {error : ParseError} {cause : AnnotationError}
    (wrong : error.cause = .wrongType cause) (previous : Option Token)
    (found : follow state tokens = .error error) :
    run previous state .complete tokens = .error error := by
  induction tokens generalizing previous state with
  | nil => exact found
  | cons token rest ih =>
    unfold run
    unfold follow at found
    split
    · rename_i stepped
      rw [stepped] at found
      exact ih (some token) found
    -- A refused token is not what was found.
    · rename_i stepped
      rw [stepped] at found
      cases found
      cases wrong
    · rename_i stepped
      rw [stepped] at found
      exact found

end Parser

/-! However tokens are derived, the same is built from them. -/

namespace Grammar

/-- Statements of the same tokens are one program. -/
theorem Statements.program_unique {one other : Statements} (same : one.tokens = other.tokens) :
    one.program = other.program := by
  rw [← follow_program one, same, follow_program other]

/-- Statements of the same tokens say the same. -/
theorem Statement.build_unique {one : Statement} (other : Statement)
    (same : one.tokens = other.tokens) : one.build = other.build := by
  have whole : (Statements.more .empty one).program = (Statements.more .empty other).program :=
    Statements.program_unique (by rw [Statements.tokens, Statements.tokens, same])
  simp only [Statements.program, Statements.build] at whole
  cases built : one.build <;> cases other_built : other.build <;>
    rw [built, other_built] at whole <;> cases whole <;> rfl

/-- Expressions of the same tokens are one expression. -/
theorem Expression.build_unique {one : Expression} (other : Expression)
    (same : one.tokens = other.tokens) : one.build = other.build := by
  have whole : (Statement.expression ⟨one, ⟨0, .start⟩⟩).build =
      (Statement.expression ⟨other, ⟨0, .start⟩⟩).build :=
    Statement.build_unique _ (by simp only [Statement.tokens, ExpressionStatement.tokens, same])
  -- A semicolon makes statements of both.
  simpa only [Statement.build, ExpressionStatement.build, pure, Except.pure, Except.ok.injEq,
    LoopLang.Statement.evaluate.injEq] using whole

/-- An operand behind a sign is not assigned to. -/
theorem Expression.not_assigned (whole : Expression) {before : List Token} {purpose : Purpose}
    {pending : Pending} (target : Word) (equal : Leaf) (rest : List Token)
    (operand : ∀ rest, follow .start (before ++ rest) = follow
      (State.start.goTo (.operand purpose ⟨pending, []⟩)) rest) :
    whole.tokens ≠ before ++ target.token :: equal.mark .equal :: rest := by
  intro same
  -- Were it an expression, then the parser would read it in front of a semicolon.
  have accepted := follow_program (.more .empty (.expression ⟨whole, ⟨0, .start⟩⟩))
  have written : (Statements.more .empty (.expression ⟨whole, ⟨0, .start⟩⟩)).tokens =
      before ++ (target.token :: equal.mark .equal ::
        (rest ++ [Leaf.mark ⟨0, .start⟩ .semicolon])) := by
    simp [Statements.tokens, Statement.tokens, ExpressionStatement.tokens, same]
  -- But behind the operand the parser stops at the sign.
  rw [written, operand] at accepted
  cases accepted

/-- How the operations and the statements of a program are grouped, however its tokens are
derived. -/
structure Conventions : Prop where
  /-- Sums are grouped from the left. -/
  sums : ∀ (whole : Expression) (x : Additive) (first second : SumSign) (leaf next : Leaf)
      (y z : Multiplicative),
    whole.tokens =
      x.tokens ++ leaf.mark first.mark :: (y.tokens ++ next.mark second.mark :: z.tokens) →
    whole.build = .binary next.place second.operator
      (.binary leaf.place first.operator x.build y.build) z.build
  /-- Products are grouped from the left. -/
  products : ∀ (whole : Expression) (x : Multiplicative) (first second : ProductSign)
      (leaf next : Leaf) (y z : Primary),
    whole.tokens =
      x.tokens ++ leaf.mark first.mark :: (y.tokens ++ next.mark second.mark :: z.tokens) →
    whole.build = .binary next.place second.operator
      (.binary leaf.place first.operator x.build y.build) z.build
  /-- A product in front of the sign of a sum is grouped first. -/
  product_first : ∀ (whole : Expression) (x : Multiplicative) (first : ProductSign)
      (second : SumSign) (leaf next : Leaf) (y : Primary) (z : Multiplicative),
    whole.tokens =
      x.tokens ++ leaf.mark first.mark :: (y.tokens ++ next.mark second.mark :: z.tokens) →
    whole.build = .binary next.place second.operator
      (.binary leaf.place first.operator x.build y.build) z.build
  /-- So is a product behind the sign of a sum. -/
  product_last : ∀ (whole : Expression) (x : Additive) (first : SumSign) (second : ProductSign)
      (leaf next : Leaf) (y : Multiplicative) (z : Primary),
    whole.tokens =
      x.tokens ++ leaf.mark first.mark :: (y.tokens ++ next.mark second.mark :: z.tokens) →
    whole.build = .binary leaf.place first.operator x.build
      (.binary next.place second.operator y.build z.build)
  /-- An identifier is assigned all that stands behind the sign, which may be another assignment. -/
  assignments : ∀ (whole value : Expression) (target : Word) (equal : Leaf),
    whole.tokens = target.token :: equal.mark .equal :: value.tokens →
    whole.build = .assign target.place target.identifier value.build
  /-- The last term of a sum is not assigned to. -/
  term_not_assigned : ∀ (whole : Expression) (left : Additive) (sign : SumSign)
      (leaf equal : Leaf) (target : Word) (rest : List Token),
    whole.tokens ≠ left.tokens ++ leaf.mark sign.mark :: target.token :: equal.mark .equal :: rest
  /-- Nor is the last factor of a product. -/
  factor_not_assigned : ∀ (whole : Expression) (left : Multiplicative) (sign : ProductSign)
      (leaf equal : Leaf) (target : Word) (rest : List Token),
    whole.tokens ≠ left.tokens ++ leaf.mark sign.mark :: target.token :: equal.mark .equal :: rest
  /-- Parentheses leave nothing behind. -/
  parentheses : ∀ (whole inner : Expression) (leftParen rightParen : Leaf),
    whole.tokens = leftParen.mark .leftParen :: inner.tokens ++ [rightParen.mark .rightParen] →
    whole.build = inner.build
  /-- A condition behind `else` becomes a block that holds it and nothing else. -/
  alternatives : ∀ (whole : Statement) (leaf leftParen rightParen word : Leaf)
      (condition : Expression) (arm : Block) (inner : IfStatement) (place : Location)
      (body : List LoopLang.Statement) (statement : LoopLang.Statement),
    whole.tokens = leaf.keyword .if :: leftParen.mark .leftParen :: condition.tokens ++
      rightParen.mark .rightParen :: (arm.tokens ++ word.keyword .else :: inner.tokens) →
    arm.build = .ok (place, body) → inner.build = .ok statement →
    whole.build = .ok (.choose leaf.place condition.build place body word.place [statement])
  /-- A function without a result type returns nothing. -/
  results : ∀ (whole : Statement) (leaf leftParen rightParen : Leaf) (name : Word)
      (params : Params) (block : Block) (parameters : List Parameter) (place : Location)
      (body : List LoopLang.Statement),
    whole.tokens =
      leaf.keyword .function :: name.token :: leftParen.mark .leftParen :: params.tokens ++
        rightParen.mark .rightParen :: block.tokens →
    params.build = .ok parameters → block.build = .ok (place, body) →
    whole.build = .ok (.function leaf.place name.identifier parameters place body .void)
  /-- The kind of a variable without a type name is inferred. -/
  declarations : ∀ (whole : Statement) (leaf equal semicolon : Leaf) (name : Word)
      (value : Expression),
    whole.tokens = leaf.keyword .var :: name.token :: equal.mark .equal :: value.tokens ++
      [semicolon.mark .semicolon] →
    whole.build = .ok (.declare leaf.place name.identifier none value.build)

/-- The grammar groups operations and statements by these rules. -/
theorem conventions : Conventions where
  -- Derivations are unique, so one that groups in this way is the one that the text has.
  sums whole x first second leaf next y z same :=
    Expression.build_unique (.additive (.sum (.sum x first leaf y) second next z))
      (by simp [same, Expression.tokens, Additive.tokens])
  products whole x first second leaf next y z same :=
    Expression.build_unique
      (.additive (.multiplicative (.product (.product x first leaf y) second next z)))
      (by simp [same, Expression.tokens, Additive.tokens, Multiplicative.tokens])
  product_first whole x first second leaf next y z same :=
    Expression.build_unique
      (.additive (.sum (.multiplicative (.product x first leaf y)) second next z))
      (by simp [same, Expression.tokens, Additive.tokens, Multiplicative.tokens])
  product_last whole x first second leaf next y z same :=
    Expression.build_unique (.additive (.sum x first leaf (.product y second next z)))
      (by simp [same, Expression.tokens, Additive.tokens, Multiplicative.tokens])
  assignments whole value target equal same :=
    Expression.build_unique (.assign target equal value) same
  -- A sum is no target: behind its sign the parser waits for an operand.
  term_not_assigned whole left sign leaf equal target rest same := by
    have signed : ∀ tokens, follow .start (left.tokens ++ [leaf.mark sign.mark] ++ tokens) = follow
        (State.start.goTo (.operand .evaluate
          ⟨Pending.empty.add leaf.place sign.operator left.build, []⟩)) tokens := by
      intro tokens
      rw [List.append_assoc]
      refine (follow_additive left (.statement .start) rfl rfl
        (sign.mem_termFollows leaf) tokens).trans ?_
      cases sign <;> rfl
    exact whole.not_assigned target equal rest signed (same.trans (by simp))
  factor_not_assigned whole left sign leaf equal target rest same := by
    have signed : ∀ tokens, follow .start (left.tokens ++ [leaf.mark sign.mark] ++ tokens) = follow
        (State.start.goTo (.operand .evaluate
          ⟨Pending.empty.multiply leaf.place sign.operator left.build, []⟩)) tokens := by
      intro tokens
      rw [List.append_assoc]
      refine (follow_multiplicative left (.statement .start) rfl
        (sign.mem_operandFollows leaf) tokens).trans ?_
      cases sign <;> rfl
    exact whole.not_assigned target equal rest signed (same.trans (by simp))
  -- The group builds what is inside of it.
  parentheses whole inner leftParen rightParen same :=
    Expression.build_unique
      (.additive (.multiplicative (.primary (.group leftParen inner rightParen)))) same
  -- The block around a choice in the second arm is located at the word in front of it.
  alternatives whole leaf leftParen rightParen word condition arm inner place body statement same
    arm_built inner_built := by
      rw [Statement.build_unique
        (.if (.choose leaf leftParen condition rightParen arm (.if word inner))) same]
      simp only [Statement.build, IfStatement.build, ElseClause.build, arm_built, inner_built]
      rfl
  results whole leaf leftParen rightParen name params block parameters place body same params_built
    body_built := by
      rw [Statement.build_unique
        (.function (.declare leaf name leftParen params rightParen .empty block)) same]
      simp only [Statement.build, FunctionDeclaration.build, params_built, body_built]
      rfl
  declarations whole leaf equal semicolon name value same :=
    Statement.build_unique (.variable (.plain leaf name equal value semicolon)) same

end Grammar

/-- What is made of a text is what the grammar says. -/
structure Program.ParsesByGrammar (text : String) : Prop where
  /-- A text is a program exactly if its tokens can be derived with a legal name wherever a type is
  named. -/
  accepts : (∃ program, Program.parse text = .ok program) ↔
    ∃ tree : Grammar.Statements, tree.tokens = (scan text).tokens ∧ ∀ typeUse ∈ tree.typeUses,
    typeUse.IsLegal
  /-- However the tokens are derived, what is built from them is the answer, or names the type that
  is not legal. -/
  unique : ∀ tree : Grammar.Statements, tree.tokens = (scan text).tokens →
    Program.parse text = tree.program

/-- Tokens that are derived are read as the program that is built from them, or as the first wrong
type name in it. -/
theorem Program.parse_derived {text : String} (lexed : (scan text).ending = .complete)
    (tree : Grammar.Statements) (derived : tree.tokens = (scan text).tokens) :
    Program.parse text = tree.program := by
  show run none .start (scan text).ending (scan text).tokens = _
  have followed := Grammar.follow_program tree
  rw [lexed, ← derived]
  -- A derivation settles the outcome, be it a program or a type that does not exist.
  cases built : tree.program with
  | ok program => exact (run_ok none).mpr (followed.trans built)
  | error error =>
    have settles := tree.program_settles
    rw [built] at settles
    obtain ⟨⟨cause, wrong⟩, -⟩ := settles
    exact run_wrongType wrong none (followed.trans built)

/-- A text that lexes is read by the grammar, which groups its tokens in one way. -/
theorem Program.parse_byGrammar (text : String) (lexed : (scan text).ending = .complete) :
    Program.ParsesByGrammar text ∧ Grammar.Conventions := by
  refine ⟨⟨⟨fun ⟨program, parsed⟩ => ?_, fun ⟨tree, derived, legal⟩ => ?_⟩, parse_derived lexed⟩,
    Grammar.conventions⟩
  -- The text has been scanned to its end, so only the tokens count.
  · have accepted : run none .start (scan text).ending (scan text).tokens = .ok program := parsed
    rw [lexed] at accepted
    obtain ⟨tree, derived, built⟩ := State.Reads.start.follow ((run_ok none).mp accepted)
    exact ⟨tree, derived, tree.program_settles.isOk.mp ⟨program, built⟩⟩
  -- A legal derivation builds a program, and the parser finds it.
  · obtain ⟨program, built⟩ := tree.program_settles.isOk.mpr legal
    exact ⟨program, (parse_derived lexed tree derived).trans built⟩

/-- A text with operations of both kinds, and a condition as an alternative. -/
theorem Program.sample_byGrammar :
    (scan "a = b + c * d; if (a) \x7b\x7d else if (b) \x7b\x7d").ending = .complete ∧
    Program.ParsesByGrammar "a = b + c * d; if (a) \x7b\x7d else if (b) \x7b\x7d" ∧
    Grammar.Conventions := by
  have lexed : (scan "a = b + c * d; if (a) \x7b\x7d else if (b) \x7b\x7d").ending = .complete := by
    decide +kernel
  exact ⟨lexed, Program.parse_byGrammar _ lexed⟩

end LoopLang
