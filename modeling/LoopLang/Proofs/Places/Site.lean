import LoopLang.Proofs.Grammar.Tree
import LoopLang.Tree.Walk

/-!
Where the nodes of a program stand: the tokens that each of them is built from, among those of the
text, and the one of these tokens whose place it is given. All of them are listed in pre-order,
phrase by phrase.
-/

namespace LoopLang

namespace Tree

/-- The nodes among some items come before those among the items behind them. -/
theorem preorderItems_append (items more : List Tree) :
    preorderItems (items ++ more) = preorderItems items ++ preorderItems more := by
  induction items with
  | nil => simp [preorderItems]
  | cons item rest ih => simp [preorderItems, ih]

end Tree

/-- One more expression is one more tree. -/
theorem Expression.toTrees_append (before : List Expression) (last : Expression) :
    Expression.toTrees (before ++ [last]) = Expression.toTrees before ++ [last.toTree] := by
  induction before with
  | nil => rfl
  | cons expression rest ih => simp [Expression.toTrees, ih]

/-- One more statement is one more tree. -/
theorem Statement.toTrees_append (before : List Statement) (last : Statement) :
    Statement.toTrees (before ++ [last]) = Statement.toTrees before ++ [last.toTree] := by
  induction before with
  | nil => rfl
  | cons statement rest ih => simp [Statement.toTrees, ih]

/-- An expression that is an item holds its nodes. -/
theorem Expression.preorderItems_toTree (expression : Expression) :
    Tree.preorderItems [expression.toTree] = expression.toTree.preorder := by
  cases expression <;> exact List.append_nil _

/-- A statement that is an item holds its nodes. -/
theorem Statement.preorderItems_toTree (statement : Statement) :
    Tree.preorderItems [statement.toTree] = statement.toTree.preorder := by
  rcases statement with _ | _ | _ | ⟨_, _ | _⟩ | _ | _ | _ | _ | _ | _ <;> exact List.append_nil _

namespace Grammar

/-- Tokens that follow each other in a text, with all those in front of them. -/
structure Stretch where
  before : List Token
  tokens : List Token

namespace Stretch

/-- How many tokens stand in front of a stretch. -/
def start (stretch : Stretch) : Nat := stretch.before.length

/-- How many tokens there are up to the end of a stretch. -/
def stop (stretch : Stretch) : Nat := stretch.before.length + stretch.tokens.length

/-- A stretch is a part of another one. -/
def Within (inner outer : Stretch) : Prop :=
  ∃ front back, inner.before = outer.before ++ front ∧ outer.tokens = front ++ inner.tokens ++ back

/-- One of two stretches ends before the other one starts. -/
def Apart (stretch other : Stretch) : Prop :=
  stretch.stop ≤ other.start ∨ other.stop ≤ stretch.start

variable {inner stretch outer other : Stretch}

/-- Every stretch is a part of itself. -/
theorem Within.refl (stretch : Stretch) : stretch.Within stretch := ⟨[], [], by simp, by simp⟩

/-- A part of a part is a part of the whole. -/
theorem Within.trans (inside : inner.Within stretch) (within : stretch.Within outer) :
    inner.Within outer := by
  obtain ⟨front, back, before, tokens⟩ := inside
  obtain ⟨first, last, outside, whole⟩ := within
  refine ⟨first ++ front, back ++ last, ?_, ?_⟩
  · rw [before, outside, List.append_assoc]
  · rw [whole, tokens]
    simp only [List.append_assoc]

/-- A part neither starts earlier nor stops later than the whole. -/
theorem Within.bounds (within : inner.Within outer) :
    outer.start ≤ inner.start ∧ inner.stop ≤ outer.stop := by
  obtain ⟨front, back, before, tokens⟩ := within
  simp only [start, stop, before, tokens, List.length_append]
  omega

/-- The tokens of a part are tokens of the whole. -/
theorem Within.infix (within : inner.Within outer) : inner.tokens <:+: outer.tokens := by
  obtain ⟨front, back, -, tokens⟩ := within
  exact ⟨front, back, tokens.symm⟩

/-- Parts of stretches that are apart are apart. -/
theorem Apart.within (apart : stretch.Apart other) {part piece : Stretch}
    (inside : part.Within stretch) (within : piece.Within other) : part.Apart piece := by
  have first := inside.bounds
  have second := within.bounds
  unfold Apart at apart ⊢
  omega

end Stretch

/-- The tokens that a node is built from, and the one of them that it stands at. -/
structure Site extends Stretch where
  anchor : Token

/-! The sites of the nodes that are built from a phrase, given the tokens in front of the phrase. -/

/-- The site of a name. -/
def Word.site (before : List Token) (word : Word) : Site := ⟨⟨before, [word.token]⟩, word.token⟩

mutual

/-- An assignment stands at its target. -/
def Expression.anchor : Expression → Token
  | .assign target _ _ => target.token
  | .additive value => value.anchor

/-- A sum stands at the last sign outside of its terms. -/
def Additive.anchor : Additive → Token
  | .multiplicative term => term.anchor
  | .sum _ sign leaf _ => leaf.mark sign.mark

/-- A product stands at the last sign outside of its factors. -/
def Multiplicative.anchor : Multiplicative → Token
  | .primary factor => factor.anchor
  | .product _ sign leaf _ => leaf.mark sign.mark

/-- A call stands at the name in front of it, and parentheses count for nothing. -/
def Primary.anchor : Primary → Token
  | .number leaf value => ⟨.number value, leaf.position, leaf.place⟩
  | .boolean leaf value => leaf.keyword (if value then .true else .false)
  | .identifier word => word.token
  | .call callee _ _ _ => callee.token
  | .group _ inner _ => inner.anchor

end

mutual

/-- The target of an assignment comes before its value. -/
def Expression.sites (before : List Token) : Expression → List Site
  | .assign target equal value =>
    ⟨⟨before, (Expression.assign target equal value).tokens⟩, target.token⟩ :: target.site before ::
      value.sites (before ++ [target.token, equal.mark .equal])
  | .additive value => value.sites before

/-- The terms of a sum come from left to right. -/
def Additive.sites (before : List Token) : Additive → List Site
  | .multiplicative term => term.sites before
  | .sum left sign leaf right =>
    ⟨⟨before, (Additive.sum left sign leaf right).tokens⟩, leaf.mark sign.mark⟩ ::
      (left.sites before ++ right.sites (before ++ left.tokens ++ [leaf.mark sign.mark]))

/-- So do the factors of a product. -/
def Multiplicative.sites (before : List Token) : Multiplicative → List Site
  | .primary factor => factor.sites before
  | .product left sign leaf right =>
    ⟨⟨before, (Multiplicative.product left sign leaf right).tokens⟩, leaf.mark sign.mark⟩ ::
      (left.sites before ++ right.sites (before ++ left.tokens ++ [leaf.mark sign.mark]))

/-- Nothing is built from parentheses themselves. -/
def Primary.sites (before : List Token) : Primary → List Site
  | .number leaf value =>
    [⟨⟨before, (Primary.number leaf value).tokens⟩, (Primary.number leaf value).anchor⟩]
  | .boolean leaf value =>
    [⟨⟨before, (Primary.boolean leaf value).tokens⟩, (Primary.boolean leaf value).anchor⟩]
  | .identifier word => [word.site before]
  | .call callee leftParen args rightParen =>
    ⟨⟨before, (Primary.call callee leftParen args rightParen).tokens⟩, callee.token⟩ ::
      callee.site before ::
      args.sites (before ++ [callee.token, leftParen.mark .leftParen])
  | .group leftParen inner _ => inner.sites (before ++ [leftParen.mark .leftParen])

/-- The arguments of a call, if there are any. -/
def Args.sites (before : List Token) : Args → List Site
  | .list items => items.sites before
  | .empty => []

/-- Arguments from left to right. -/
def ArgList.sites (before : List Token) : ArgList → List Site
  | .single item => item.sites before
  | .more items comma last =>
    items.sites before ++ last.sites (before ++ items.tokens ++ [comma.mark .comma])

end

/-- A parameter stands at its name, and its type is no node. -/
def Param.site (before : List Token) (param : Param) : Site :=
  ⟨⟨before, param.tokens⟩, param.name.token⟩

/-- Parameters from left to right. -/
def ParamList.sites (before : List Token) : ParamList → List Site
  | single param => [param.site before]
  | more params comma last =>
    params.sites before ++ [last.site (before ++ params.tokens ++ [comma.mark .comma])]

/-- The parameters of a function, if there are any. -/
def Params.sites (before : List Token) : Params → List Site
  | list params => params.sites before
  | empty => []

/-- A variable stands at the word in front of it; its name comes before its value. -/
def VariableDeclaration.sites (before : List Token) : VariableDeclaration → List Site
  | typed leaf name colon type equal value semicolon =>
    ⟨⟨before, (typed leaf name colon type equal value semicolon).tokens⟩, leaf.keyword .var⟩ ::
      name.site (before ++ [leaf.keyword .var]) ::
        value.sites (before ++
          [leaf.keyword .var, name.token, colon.mark .colon, type.token, equal.mark .equal])
  | plain leaf name equal value semicolon =>
    ⟨⟨before, (plain leaf name equal value semicolon).tokens⟩, leaf.keyword .var⟩ ::
      name.site (before ++ [leaf.keyword .var]) ::
        value.sites (before ++ [leaf.keyword .var, name.token, equal.mark .equal])

/-- The end of a function stands at its word. -/
def ReturnStatement.sites (before : List Token) : ReturnStatement → List Site
  | value leaf result semicolon =>
    ⟨⟨before, (value leaf result semicolon).tokens⟩, leaf.keyword .return⟩ ::
      result.sites (before ++ [leaf.keyword .return])
  | plain leaf semicolon => [⟨⟨before, (plain leaf semicolon).tokens⟩, leaf.keyword .return⟩]

/-- A jump stands at its word, and its label behind it. -/
def JumpStatement.sites (before : List Token) : JumpStatement → List Site
  | plain isBreak leaf semicolon =>
    [⟨⟨before, (plain isBreak leaf semicolon).tokens⟩, leaf.keyword (reserved isBreak)⟩]
  | labelled isBreak leaf label semicolon =>
    [⟨⟨before, (labelled isBreak leaf label semicolon).tokens⟩, leaf.keyword (reserved isBreak)⟩,
      label.site (before ++ [leaf.keyword (reserved isBreak)])]

/-- An expression that stands for itself stands where the expression does. -/
def ExpressionStatement.sites (before : List Token) (statement : ExpressionStatement) : List Site :=
  ⟨⟨before, statement.tokens⟩, statement.value.anchor⟩ :: statement.value.sites before

mutual

/-- Statements in order. -/
def Statements.sites (front : List Token) : Statements → List Site
  | .more before last => before.sites front ++ last.sites (front ++ before.tokens)
  | .empty => []

/-- The sites of a statement are those of what it is. -/
def Statement.sites (before : List Token) : Statement → List Site
  | .function declaration => declaration.sites before
  | .variable declaration => declaration.sites before
  | .block block => block.sites before
  | .return statement => statement.sites before
  | .if statement => statement.sites before
  | .loop statement => statement.sites before
  | .jump statement => statement.sites before
  | .expression statement => statement.sites before

/-- A block stands at its left brace. -/
def Block.sites (before : List Token) : Block → List Site
  | .braces leftBrace body rightBrace =>
    ⟨⟨before, (Block.braces leftBrace body rightBrace).tokens⟩, leftBrace.mark .leftBrace⟩ ::
      body.sites (before ++ [leftBrace.mark .leftBrace])

/-- A function stands at the word in front of it; its name comes first, then the parameters and the
body. -/
def FunctionDeclaration.sites (before : List Token) : FunctionDeclaration → List Site
  | .declare leaf name leftParen params rightParen result body =>
    ⟨⟨before, (FunctionDeclaration.declare leaf name leftParen params rightParen result
      body).tokens⟩,
        leaf.keyword .function⟩ ::
      name.site (before ++ [leaf.keyword .function]) ::
        (params.sites (before ++ [leaf.keyword .function, name.token, leftParen.mark .leftParen]) ++
          body.sites (before ++
            (leaf.keyword .function :: name.token :: leftParen.mark .leftParen ::
            params.tokens ++ rightParen.mark .rightParen :: result.tokens)))

/-- A condition stands at the word in front of it; its arms come behind it. -/
def IfStatement.sites (before : List Token) : IfStatement → List Site
  | .choose leaf leftParen condition rightParen body alternative =>
    ⟨⟨before, (IfStatement.choose leaf leftParen condition rightParen body alternative).tokens⟩,
        leaf.keyword .if⟩ ::
      (condition.sites (before ++ [leaf.keyword .if, leftParen.mark .leftParen]) ++
        (body.sites (before ++ (leaf.keyword .if :: leftParen.mark .leftParen :: condition.tokens ++
          [rightParen.mark .rightParen])) ++
        alternative.sites
          (before ++ (leaf.keyword .if :: leftParen.mark .leftParen :: condition.tokens ++
          rightParen.mark .rightParen :: body.tokens))))

/-- Another condition as an alternative is in a block that stands at the word `else`. -/
def ElseClause.sites (before : List Token) : ElseClause → List Site
  | .block leaf body => body.sites (before ++ [leaf.keyword .else])
  | .if leaf inner =>
    ⟨⟨before, (ElseClause.if leaf inner).tokens⟩, leaf.keyword .else⟩ ::
      inner.sites (before ++ [leaf.keyword .else])
  | .empty => []

/-- A loop stands at its first word, which is its label if it has one; as a node the label comes
last. -/
def LoopStatement.sites (before : List Token) : LoopStatement → List Site
  | .plain leaf leftParen condition rightParen body =>
    ⟨⟨before, (LoopStatement.plain leaf leftParen condition rightParen body).tokens⟩,
      leaf.keyword .loop⟩ ::
      (condition.sites (before ++ [leaf.keyword .loop, leftParen.mark .leftParen]) ++
        body.sites (before ++
          (leaf.keyword .loop :: leftParen.mark .leftParen :: condition.tokens ++
          [rightParen.mark .rightParen])))
  -- The loop stands at its label, whose own node is visited last.
  | .labelled label colon leaf leftParen condition rightParen body =>
    ⟨⟨before, (LoopStatement.labelled label colon leaf leftParen condition rightParen body).tokens⟩,
        label.token⟩ ::
      (condition.sites (before ++
          [label.token, colon.mark .colon, leaf.keyword .loop, leftParen.mark .leftParen]) ++
        (body.sites (before ++ (label.token :: colon.mark .colon :: leaf.keyword .loop ::
          leftParen.mark .leftParen :: condition.tokens ++ [rightParen.mark .rightParen])) ++
        [label.site before]))

end

end Grammar

end LoopLang
