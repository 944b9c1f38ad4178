import LoopLang.Proofs.Blame.Tree
import LoopLang.Proofs.Grammar.Tree

/-! What is built from a phrase stands where its tokens do, and so does the type name that is
refused in it. -/

namespace LoopLang.Grammar

variable {α β : Type} {known : Location → Prop}

/-- Tokens that all stand at known places. -/
def Known (known : Location → Prop) (tokens : List Token) : Prop :=
  ∀ token ∈ tokens, known token.place

section Known

variable {token : Token} {tokens more : List Token}

/-- All of no tokens are known. -/
@[simp] theorem known_nil : Known known [] := nofun

/-- Tokens are known one by one. -/
@[simp] theorem known_cons :
    Known known (token :: tokens) ↔ known token.place ∧ Known known tokens :=
  List.forall_mem_cons

/-- Two stretches of tokens are known if both are. -/
@[simp] theorem known_append :
    Known known (tokens ++ more) ↔ Known known tokens ∧ Known known more :=
  List.forall_mem_append

end Known

mutual

/-- An expression stands where its tokens do. -/
theorem Expression.build_stands :
    ∀ value : Expression, Known known value.tokens → value.build.StandsAt known
  | .assign target equal value, tokens_known => by
    simp only [Expression.tokens, known_cons] at tokens_known
    exact ⟨tokens_known.1, tokens_known.1, value.build_stands tokens_known.2.2⟩
  | .additive value, tokens_known => value.build_stands tokens_known

/-- A sum stands where its tokens do. -/
theorem Additive.build_stands :
    ∀ value : Additive, Known known value.tokens → value.build.StandsAt known
  | .multiplicative term, tokens_known => term.build_stands tokens_known
  | .sum left sign leaf right, tokens_known => by
    simp only [Additive.tokens, known_append, known_cons] at tokens_known
    exact ⟨tokens_known.2.1, left.build_stands tokens_known.1, right.build_stands tokens_known.2.2⟩

/-- So does a product. -/
theorem Multiplicative.build_stands :
    ∀ term : Multiplicative, Known known term.tokens → term.build.StandsAt known
  | .primary factor, tokens_known => factor.build_stands tokens_known
  | .product left sign leaf right, tokens_known => by
    simp only [Multiplicative.tokens, known_append, known_cons] at tokens_known
    exact ⟨tokens_known.2.1, left.build_stands tokens_known.1, right.build_stands tokens_known.2.2⟩

/-- A single token and a call stand where they begin, and a group where its inside does. -/
theorem Primary.build_stands :
    ∀ factor : Primary, Known known factor.tokens → factor.build.StandsAt known
  | .number leaf value, tokens_known => tokens_known _ List.mem_cons_self
  | .boolean leaf value, tokens_known => tokens_known _ List.mem_cons_self
  | .identifier word, tokens_known => tokens_known _ List.mem_cons_self
  | .call callee leftParen args rightParen, tokens_known => by
    simp only [Primary.tokens, known_append, known_cons] at tokens_known
    exact ⟨tokens_known.1.1, tokens_known.1.1, args.build_stands tokens_known.1.2.2⟩
  -- The brackets leave no trace in the tree.
  | .group leftParen inner rightParen, tokens_known => by
    simp only [Primary.tokens, known_append, known_cons] at tokens_known
    exact inner.build_stands tokens_known.1.2

/-- Arguments stand among their tokens, if there are any. -/
theorem Args.build_stands :
    ∀ args : Args, Known known args.tokens → LoopLang.Expression.AllStand known args.build
  | .list items, tokens_known => items.build_stands tokens_known
  | .empty, _ => trivial

/-- Each of several arguments does. -/
theorem ArgList.build_stands :
    ∀ items : ArgList, Known known items.tokens → LoopLang.Expression.AllStand known items.build
  | .single item, tokens_known => ⟨item.build_stands tokens_known, trivial⟩
  | .more items comma last, tokens_known => by
    simp only [ArgList.tokens, known_append, known_cons] at tokens_known
    exact (items.build_stands tokens_known.1).append (last.build_stands tokens_known.2.2)

end

/-- What is built holds what it should, or there is an error at a known place. -/
def Builds (known : Location → Prop) (holds : α → Prop) (result : Except ParseError α) : Prop :=
  match result with
  | .ok answer => holds answer
  | .error error => known error.place

namespace Builds

variable {result : Except ParseError α} {holds : α → Prop} {next : α → Except ParseError β}
  {done : β → Prop}

/-- A part of a phrase, and what is built from it and the rest. -/
theorem bind (first : Builds known holds result)
    (second : ∀ answer, holds answer → Builds known done (next answer)) :
    Builds known done (result >>= next) := by
  cases result with
  | ok answer => exact second answer first
  | error error => exact first

end Builds

/-- A kind of values is refused at its name. -/
theorem Word.valueKind_builds {word : Word} (word_known : known word.place) :
    Builds known (fun _ => True) word.valueKind := by
  unfold Word.valueKind
  cases ValueKind.ofWord word.name with
  | ok kind => exact trivial
  | error error => exact word_known

/-- A kind of results is refused at its name. -/
theorem Word.resultKind_builds {word : Word} (word_known : known word.place) :
    Builds known (fun _ => True) word.resultKind := by
  unfold Word.resultKind
  cases ExactKind.ofWord word.name with
  | ok kind => exact trivial
  | error error => exact word_known

/-- A parameter stands at its name. -/
theorem Param.builds {param : Param} (tokens_known : Known known param.tokens) :
    Builds known (fun parameter => known parameter.place) param.build := by
  simp only [Param.tokens, known_cons] at tokens_known
  exact .bind (Word.valueKind_builds tokens_known.2.2.1) fun _ _ => tokens_known.1

/-- Parameters stand where their names do; a type name that is none is blamed on itself. -/
theorem ParamList.builds :
    ∀ params : ParamList, Known known params.tokens →
    Builds known (Parameter.AllStand known) params.build
  | .single param, tokens_known =>
    .bind (Param.builds tokens_known) fun _ stands => List.forall_mem_singleton.mpr stands
  | .more params comma last, tokens_known => by
    simp only [ParamList.tokens, known_append, known_cons] at tokens_known
    exact .bind (params.builds tokens_known.1) fun _ all => .bind (Param.builds tokens_known.2.2)
      fun _ stands =>
        List.forall_mem_append.mpr ⟨all, List.forall_mem_singleton.mpr stands⟩

/-- So it is with the parameters of a function. -/
theorem Params.builds :
    ∀ params : Params, Known known params.tokens →
    Builds known (Parameter.AllStand known) params.build
  | .list params, tokens_known => params.builds tokens_known
  | .empty, _ => nofun

/-- A result type is blamed on its own token. -/
theorem ReturnType.builds :
    ∀ result : ReturnType, Known known result.tokens → Builds known (fun _ => True) result.build
  | .arrow leaf type, tokens_known => by
    simp only [ReturnType.tokens, known_cons] at tokens_known
    exact Word.resultKind_builds tokens_known.2.1
  | .empty, _ => trivial

/-- A declaration stands where it begins; its type name is blamed on itself. -/
theorem VariableDeclaration.builds :
    ∀ declaration : VariableDeclaration, Known known declaration.tokens →
      Builds known (LoopLang.Statement.StandsAt known) declaration.build
  | .typed leaf name colon type equal value semicolon, tokens_known => by
    simp only [VariableDeclaration.tokens, known_append, known_cons] at tokens_known
    obtain ⟨⟨leaf_known, name_known, -, type_known, -, value_known⟩, -⟩ := tokens_known
    -- The type name is the only thing that can be refused.
    exact .bind (Word.valueKind_builds type_known) fun _ _ =>
      ⟨leaf_known, name_known, value.build_stands value_known⟩
  | .plain leaf name equal value semicolon, tokens_known => by
    simp only [VariableDeclaration.tokens, known_append, known_cons] at tokens_known
    obtain ⟨⟨leaf_known, name_known, -, value_known⟩, -⟩ := tokens_known
    exact ⟨leaf_known, name_known, value.build_stands value_known⟩

/-- The end of a function stands at its word. -/
theorem ReturnStatement.build_stands :
    ∀ statement : ReturnStatement, Known known statement.tokens → statement.build.StandsAt known
  | .value leaf result semicolon, tokens_known => by
    simp only [ReturnStatement.tokens, known_append, known_cons] at tokens_known
    exact ⟨tokens_known.1.1, result.build_stands tokens_known.1.2⟩
  | .plain leaf semicolon, tokens_known => tokens_known _ List.mem_cons_self

/-- A jump stands at its word. -/
theorem JumpStatement.build_stands :
    ∀ statement : JumpStatement, Known known statement.tokens → statement.build.StandsAt known
  | .plain isBreak leaf semicolon, tokens_known => by
    have leaf_known : known leaf.place := tokens_known _ List.mem_cons_self
    cases isBreak <;> exact ⟨leaf_known, nofun⟩
  | .labelled isBreak leaf label semicolon, tokens_known => by
    simp only [JumpStatement.tokens, known_cons] at tokens_known
    -- The label is a token of its own, and its place is kept.
    have label_known : Identifier.LabelStands known (some label.identifier) := by
      rintro _ ⟨⟩
      exact tokens_known.2.1
    cases isBreak <;> exact ⟨tokens_known.1, label_known⟩

mutual

/-- Statements stand where their tokens do, and an error in them does, too. -/
theorem Statements.builds : ∀ statements : Statements, Known known statements.tokens →
    Builds known (LoopLang.Statement.AllStand known) statements.build
  | .more before last, tokens_known => by
    simp only [Statements.tokens, known_append] at tokens_known
    exact .bind (before.builds tokens_known.1) fun _ all => .bind (last.builds tokens_known.2)
      fun _ stands =>
        all.append stands
  | .empty, _ => trivial

/-- Every sort of statement stands where one of its tokens does. -/
theorem Statement.builds : ∀ statement : Statement, Known known statement.tokens →
    Builds known (LoopLang.Statement.StandsAt known) statement.build
  | .function declaration, tokens_known => declaration.builds tokens_known
  | .variable declaration, tokens_known => declaration.builds tokens_known
  | .block block, tokens_known => .bind (block.builds tokens_known) fun _ stands => stands
  | .return statement, tokens_known => statement.build_stands tokens_known
  | .if statement, tokens_known => statement.builds tokens_known
  | .loop statement, tokens_known => statement.builds tokens_known
  | .jump statement, tokens_known => statement.build_stands tokens_known
  | .expression statement, tokens_known => by
    -- The semicolon is no part of the expression.
    simp only [Statement.tokens, ExpressionStatement.tokens, known_append] at tokens_known
    exact statement.value.build_stands tokens_known.1

/-- A block stands at its left brace. -/
theorem Block.builds : ∀ block : Block, Known known block.tokens →
    Builds known (fun built => known built.1 ∧ LoopLang.Statement.AllStand known built.2)
      block.build
  | .braces leftBrace body rightBrace, tokens_known => by
    simp only [Block.tokens, known_append, known_cons] at tokens_known
    exact .bind (body.builds tokens_known.1.2) fun _ all => ⟨tokens_known.1.1, all⟩

/-- A function is built from its parameters, its result type and its body. -/
theorem FunctionDeclaration.builds :
    ∀ declaration : FunctionDeclaration, Known known declaration.tokens →
    Builds known (LoopLang.Statement.StandsAt known) declaration.build
  | .declare leaf name leftParen params rightParen result body, tokens_known => by
    simp only [FunctionDeclaration.tokens, known_append, known_cons] at tokens_known
    obtain ⟨⟨leaf_known, name_known, -, params_known⟩, -, result_known, body_known⟩ := tokens_known
    exact .bind (params.builds params_known) fun _ parameters => .bind (body.builds body_known)
      fun _ block =>
        .bind (result.builds result_known) fun _ _ =>
          ⟨leaf_known, name_known, parameters, block.1, block.2⟩

/-- A branch is built from its arms. -/
theorem IfStatement.builds : ∀ statement : IfStatement, Known known statement.tokens →
    Builds known (LoopLang.Statement.StandsAt known) statement.build
  | .choose leaf leftParen condition rightParen body alternative, tokens_known => by
    simp only [IfStatement.tokens, known_append, known_cons] at tokens_known
    obtain ⟨⟨leaf_known, -, condition_known⟩, -, body_known, alternative_known⟩ := tokens_known
    have stands := condition.build_stands condition_known
    refine .bind (body.builds body_known) fun _ arm => .bind (alternative.builds alternative_known)
      fun other held => ?_
    rcases other with _ | ⟨place, statements⟩
    · exact ⟨leaf_known, stands, arm.1, arm.2⟩
    · exact ⟨leaf_known, stands, arm.1, arm.2, held _ rfl⟩

/-- An alternative is a block, or a branch within a block that stands at `else`. -/
theorem ElseClause.builds : ∀ alternative : ElseClause, Known known alternative.tokens →
    Builds known (fun built => ∀ arm ∈ built, known arm.1 ∧ LoopLang.Statement.AllStand known arm.2)
      alternative.build
  | .block leaf body, tokens_known => by
    simp only [ElseClause.tokens, known_cons] at tokens_known
    refine .bind (body.builds tokens_known.2) fun _ arm => ?_
    rintro _ ⟨⟩
    exact arm
  | .if leaf inner, tokens_known => by
    simp only [ElseClause.tokens, known_cons] at tokens_known
    refine .bind (inner.builds tokens_known.2) fun _ stands => ?_
    rintro _ ⟨⟩
    -- The block around the branch stands at `else`.
    exact ⟨tokens_known.1, stands, trivial⟩
  | .empty, _ => nofun

/-- A loop stands at its label or at its keyword. -/
theorem LoopStatement.builds : ∀ statement : LoopStatement, Known known statement.tokens →
    Builds known (LoopLang.Statement.StandsAt known) statement.build
  | .plain leaf leftParen condition rightParen body, tokens_known => by
    simp only [LoopStatement.tokens, known_append, known_cons] at tokens_known
    obtain ⟨⟨leaf_known, -, condition_known⟩, -, body_known⟩ := tokens_known
    exact .bind (body.builds body_known) fun _ block =>
      ⟨leaf_known, condition.build_stands condition_known, block.1, block.2, nofun⟩
  | .labelled label colon leaf leftParen condition rightParen body, tokens_known => by
    simp only [LoopStatement.tokens, known_append, known_cons] at tokens_known
    obtain ⟨⟨label_known, -, -, -, condition_known⟩, -, body_known⟩ := tokens_known
    refine .bind (body.builds body_known) fun _ block =>
      ⟨label_known, condition.build_stands condition_known, block.1, block.2, ?_⟩
    -- The label is the only one.
    rintro _ ⟨⟩
    exact label_known

end

/-- The places in a program are those of its tokens, and an error in it stands at one of them,
too. -/
theorem Statements.program_builds (statements : Statements)
    (tokens_known : Known known statements.tokens) :
    Builds known (fun program => LoopLang.Statement.AllStand known program.body)
      statements.program :=
  .bind (statements.builds tokens_known) fun _ all => all

end LoopLang.Grammar
