import LoopLang.Proofs.Blame.Session
import LoopLang.Proofs.Places.Site

/-! Every node of a parsed text stands at one token of the text, inside the phrase that it is built
from. -/

namespace LoopLang

namespace Grammar

/-- A block that has been built, as a tree. -/
def blockTree (built : Location × List LoopLang.Statement) : Tree :=
  .blockStatement built.1 (.list (LoopLang.Statement.toTrees built.2))

/-- An alternative that has been built, as a tree. -/
def alternateTree : Option (Location × List LoopLang.Statement) → Tree
  | some built => blockTree built
  | none => .null

/-! The productions whose nodes stand at a token of their own. -/

/-- The tokens of a production and the node that is built from them, for nodes that stand at the
first token. -/
inductive Begins : List Token → Tree → Prop
  /-- A name that is declared, assigned to, called or read, and a label. -/
  | name (word : Word) (kind : Kind) : Begins [word.token] (word.identifier.toTree kind)
  | parameter {param : Param} {built : Parameter} :
      param.build = .ok built → Begins param.tokens built.toTree
  | number (leaf : Leaf) (value : Float) :
    Begins (Primary.number leaf value).tokens (Primary.number leaf value).build.toTree
  | boolean (leaf : Leaf) (value : Bool) :
    Begins (Primary.boolean leaf value).tokens (Primary.boolean leaf value).build.toTree
  | call (callee : Word) (leftParen : Leaf) (args : Args) (rightParen : Leaf) :
    Begins (Primary.call callee leftParen args rightParen).tokens
      (Primary.call callee leftParen args rightParen).build.toTree
  | assign (target : Word) (equal : Leaf) (value : Expression) :
    Begins (Expression.assign target equal value).tokens
      (Expression.assign target equal value).build.toTree
  | declare {declaration : VariableDeclaration} {built : LoopLang.Statement} :
    declaration.build = .ok built → Begins declaration.tokens built.toTree
  | function {declaration : FunctionDeclaration} {built : LoopLang.Statement} :
    declaration.build = .ok built → Begins declaration.tokens built.toTree
  /-- A block between braces, whether it is a statement, the body of a function or a loop, or an
  arm. -/
  | block {block : Block} {built : Location × List LoopLang.Statement} :
    block.build = .ok built → Begins block.tokens (blockTree built)
  /-- The block that stands for another condition as an alternative, whose first token is `else`. -/
  | alternative {leaf : Leaf} {inner : IfStatement} {built : Location × List LoopLang.Statement} :
    (ElseClause.if leaf inner).build = .ok (some built) → Begins (ElseClause.if leaf inner).tokens
      (blockTree built)
  | finish (statement : ReturnStatement) : Begins statement.tokens statement.build.toTree
  | choose {statement : IfStatement} {built : LoopLang.Statement} :
    statement.build = .ok built → Begins statement.tokens built.toTree
  /-- A loop, whose first token is its label if it has one. -/
  | loop {statement : LoopStatement} {built : LoopLang.Statement} :
    statement.build = .ok built → Begins statement.tokens built.toTree
  | jump (statement : JumpStatement) : Begins statement.tokens statement.build.toTree

/-- The tokens of a production, the node that is built from them, and the one token that the node
stands at. -/
inductive Anchored : List Token → Tree → Token → Prop
  | first {span : List Token} {node : Tree} {anchor : Token} :
    Begins span node → span.head? = some anchor → Anchored span node anchor
  /-- A sum stands at its sign, which is the last one outside of its terms. -/
  | sum (left : Additive) (sign : SumSign) (leaf : Leaf) (right : Multiplicative) :
    Anchored (left.tokens ++ leaf.mark sign.mark :: right.tokens)
      (Additive.sum left sign leaf right).build.toTree
      (leaf.mark sign.mark)
  /-- A product stands at its sign, which is the last one outside of its factors. -/
  | product (left : Multiplicative) (sign : ProductSign) (leaf : Leaf) (right : Primary) :
    Anchored (left.tokens ++ leaf.mark sign.mark :: right.tokens)
      (Multiplicative.product left sign leaf right).build.toTree (leaf.mark sign.mark)
  /-- An expression as a statement stands where the expression does, whose own tokens come without
  parentheses. -/
  | expression {inner : List Token} {anchor : Token} (statement : ExpressionStatement) :
    inner <:+: statement.value.tokens → Anchored inner statement.value.build.toTree anchor →
      Anchored statement.tokens statement.build.toTree anchor

/--
Which of its tokens a node stands at, by its sort: an operation at the sign between its operands,
each of which is built from the tokens on its side, an expression as a statement where the
expression stands, and every other node at the first token.
-/
def StandsAt (span : List Token) (anchor : Token) : Tree → Prop
  | .binaryExpression _ left right operator =>
    ∃ before sign after, span = before ++ anchor :: after ∧ anchor.lexeme = .mark sign ∧
      operator = .text sign.text ∧
      (∃ first : Additive, first.tokens = before ∧ first.build.toTree = left) ∧
        ∃ second : Multiplicative, second.tokens = after ∧ second.build.toTree = right
  | .expressionStatement place expression => place = expression.place
  | _ => span.head? = some anchor

section Build

variable {ε α β : Type}

/-- What is built in the end is built from the part that is built first. -/
theorem exists_of_bind_ok {first : Except ε α} {next : α → Except ε β} {built : β}
    (done : first >>= next = .ok built) :
    ∃ part, first = .ok part ∧ next part = .ok built := by
  cases first with
  | ok part => exact ⟨part, rfl, done⟩
  | error error => cases done

variable {built : LoopLang.Statement} {leaf leftParen rightParen : Leaf} {name : Word}
  {condition : Expression}
  {body : Block}

/-- A parameter is a name with a kind. -/
theorem Param.exists_of_build {param : Param} {parameter : Parameter}
    (done : param.build = .ok parameter) :
    ∃ kind, parameter = ⟨param.name.place, param.name.name, kind⟩ := by
  obtain ⟨kind, -, ⟨⟩⟩ := exists_of_bind_ok done
  exact ⟨kind, rfl⟩

/-- The parts of a function as a tree. -/
theorem FunctionDeclaration.exists_of_build {params : Params} {result : ReturnType}
    (done : (FunctionDeclaration.declare leaf name leftParen params rightParen result body).build =
      .ok built) :
    ∃ parameters block kind, params.build = .ok parameters ∧ body.build = .ok block ∧
      built.toTree = .functionDeclaration leaf.place (name.identifier.toTree .infer)
        (.list (parameters.map Parameter.toTree)) (blockTree block) (.kindValue kind) := by
  -- The parts are built one behind the other, and each has succeeded.
  obtain ⟨parameters, parameters_built, done⟩ := exists_of_bind_ok done
  obtain ⟨block, body_built, done⟩ := exists_of_bind_ok done
  obtain ⟨kind, -, ⟨⟩⟩ := exists_of_bind_ok done
  exact ⟨parameters, block, .exact kind, parameters_built, body_built, rfl⟩

/-- The parts of a condition as a tree. -/
theorem IfStatement.exists_of_build {alternative : ElseClause}
    (done : (IfStatement.choose leaf leftParen condition rightParen body alternative).build =
      .ok built) :
    ∃ arm other, body.build = .ok arm ∧ alternative.build = .ok other ∧
      built.toTree = .ifStatement leaf.place condition.build.toTree (blockTree arm)
        (alternateTree other) := by
  obtain ⟨arm, arm_built, done⟩ := exists_of_bind_ok done
  obtain ⟨other, other_built, done⟩ := exists_of_bind_ok done
  refine ⟨arm, other, arm_built, other_built, ?_⟩
  rcases other with _ | ⟨place, statements⟩ <;> cases done <;> rfl

/-- The parts of a loop without a label as a tree. -/
theorem LoopStatement.exists_of_build_plain
    (done : (LoopStatement.plain leaf leftParen condition rightParen body).build = .ok built) :
    ∃ block, body.build = .ok block ∧
      built.toTree = .loopStatement leaf.place condition.build.toTree (blockTree block) .null := by
  obtain ⟨block, body_built, ⟨⟩⟩ := exists_of_bind_ok done
  exact ⟨block, body_built, rfl⟩

/-- The parts of a loop with a label as a tree. -/
theorem LoopStatement.exists_of_build_labelled {colon : Leaf}
    (done : (LoopStatement.labelled name colon leaf leftParen condition rightParen body).build =
      .ok built) :
    ∃ block, body.build = .ok block ∧
      built.toTree = .loopStatement name.place condition.build.toTree (blockTree block)
        (name.identifier.toTree .infer) := by
  obtain ⟨block, body_built, ⟨⟩⟩ := exists_of_bind_ok done
  exact ⟨block, body_built, rfl⟩

/-- The parts of a variable as a tree. -/
theorem VariableDeclaration.exists_of_build {declaration : VariableDeclaration}
    (done : declaration.build = .ok built) :
    ∃ (leaf : Leaf) (name : Word) (value : Expression) (rest : List Token) (kind : Kind),
      declaration.tokens = leaf.keyword .var :: name.token :: rest ∧ value.tokens <:+: rest ∧
        built.toTree = .variableDeclaration leaf.place
          (name.identifier.toTree kind) value.build.toTree := by
  -- With a type or without, the value is what stands behind the equals sign.
  cases declaration with
  | typed leaf name colon type equal value semicolon =>
    obtain ⟨kind, -, ⟨⟩⟩ := exists_of_bind_ok done
    exact ⟨leaf, name, value, _, _, rfl, ⟨[_, _, _], [_], rfl⟩, rfl⟩
  | plain leaf name equal value semicolon =>
    cases done
    exact ⟨leaf, name, value, _, _, rfl, ⟨[_], [_], rfl⟩, rfl⟩

end Build

section Place

variable {span : List Token} {node : Tree} {anchor : Token}

/-- A node of such a production stands at the first token of it. -/
theorem Begins.exists_first (begins : Begins span node) :
    ∃ anchor, span.head? = some anchor ∧ node.place = anchor.place ∧ StandsAt span anchor node := by
  -- A node that begins where its span does has the place of the first token.
  cases begins with
  | name word kind => exact ⟨_, rfl, rfl, rfl⟩
  | parameter built =>
    obtain ⟨kind, rfl⟩ := Param.exists_of_build built
    exact ⟨_, rfl, rfl, rfl⟩
  | number leaf value => exact ⟨_, rfl, rfl, rfl⟩
  | boolean leaf value => exact ⟨_, rfl, rfl, rfl⟩
  | call callee leftParen args rightParen => exact ⟨_, rfl, rfl, rfl⟩
  | assign target equal value => exact ⟨_, rfl, rfl, rfl⟩
  | declare built =>
    obtain ⟨leaf, name, value, rest, kind, tokens, -, tree⟩ :=
      VariableDeclaration.exists_of_build built
    rw [tokens, tree]
    exact ⟨_, rfl, rfl, rfl⟩
  -- What a statement is built from can only be seen when its parts have been built.
  | @function declaration _ built =>
    obtain ⟨leaf, name, leftParen, params, rightParen, result, body⟩ := declaration
    obtain ⟨parameters, block, kind, -, -, tree⟩ := FunctionDeclaration.exists_of_build built
    rw [tree]
    exact ⟨_, rfl, rfl, rfl⟩
  | @block block _ built =>
    obtain ⟨leftBrace, body, rightBrace⟩ := block
    obtain ⟨statements, -, ⟨⟩⟩ := exists_of_bind_ok built
    exact ⟨_, rfl, rfl, rfl⟩
  | alternative built =>
    obtain ⟨inner, -, ⟨⟩⟩ := exists_of_bind_ok built
    exact ⟨_, rfl, rfl, rfl⟩
  -- Jumps and returns stand at their words.
  | finish statement => cases statement <;> exact ⟨_, rfl, rfl, rfl⟩
  | @choose statement _ built =>
    obtain ⟨leaf, leftParen, condition, rightParen, body, alternative⟩ := statement
    obtain ⟨arm, other, -, -, tree⟩ := IfStatement.exists_of_build built
    rw [tree]
    exact ⟨_, rfl, rfl, rfl⟩
  | @loop statement _ built =>
    cases statement with
    -- A loop begins at its word, or at the label in front of it.
    | plain leaf leftParen condition rightParen body =>
      obtain ⟨block, -, tree⟩ := LoopStatement.exists_of_build_plain built
      rw [tree]
      exact ⟨_, rfl, rfl, rfl⟩
    | labelled label colon leaf leftParen condition rightParen body =>
      obtain ⟨block, -, tree⟩ := LoopStatement.exists_of_build_labelled built
      rw [tree]
      exact ⟨_, rfl, rfl, rfl⟩
  | jump statement =>
    rcases statement with ⟨_ | _, leaf, semicolon⟩ | ⟨_ | _, leaf, label, semicolon⟩ <;>
      exact ⟨_, rfl, rfl, rfl⟩

/-- The token that a node stands at is one of those that it is built from. -/
theorem Anchored.mem (anchored : Anchored span node anchor) : anchor ∈ span := by
  induction anchored with
  | first begins first => exact List.mem_of_head? first
  | sum left sign leaf right => simp
  | product left sign leaf right => simp
  | expression statement inside anchored member =>
    exact List.mem_append_left _ (inside.subset member)

/-- A node stands where its token does. -/
theorem Anchored.place (anchored : Anchored span node anchor) : node.place = anchor.place := by
  induction anchored with
  | first begins first =>
    obtain ⟨anchor, found, same, -⟩ := begins.exists_first
    rw [first] at found
    cases found
    exact same
  | sum left sign leaf right => rfl
  | product left sign leaf right => rfl
  | expression statement inside anchored same =>
    -- The statement is given the place of the expression.
    exact statement.value.build.toTree_place.symm.trans same

end Place

section Lays

variable {whole part other : Stretch} {sites more : List Site} {nodes others : List Tree}
  {node : Tree}

/--
Nodes at their sites in a stretch of tokens: each of them is anchored in the tokens of its own site,
and any two of the sites are nested or apart.
-/
structure Lays (whole : Stretch) (sites : List Site) (nodes : List Tree) : Prop where
  anchored : List.Forall₂ (fun site node => Anchored site.tokens node site.anchor) sites nodes
  inside : ∀ site ∈ sites, site.Within whole
  nested : sites.Pairwise fun outer inner => inner.Within outer.toStretch ∨
    inner.Apart outer.toStretch

/-- No nodes at all. -/
theorem Lays.nil : Lays whole [] [] := ⟨.nil, nofun, .nil⟩

/-- A node that is built from all of the tokens, and those below it. -/
theorem Lays.cons {anchor : Token} (anchored : Anchored whole.tokens node anchor)
    (below : Lays whole sites nodes) :
    Lays whole (⟨whole, anchor⟩ :: sites) (node :: nodes) where
  anchored := .cons anchored below.anchored
  inside := List.forall_mem_cons.mpr ⟨.refl whole, below.inside⟩
  nested := List.pairwise_cons.mpr
    ⟨fun site member => .inl (below.inside site member), below.nested⟩

/-- What lies in a part of the tokens lies in all of them. -/
theorem Lays.within (lays : Lays part sites nodes) (inside : part.Within whole) :
    Lays whole sites nodes :=
  { lays with inside := fun site member => (lays.inside site member).trans inside }

/-- Nodes at sites that are apart from those of other nodes. -/
theorem Lays.append (first : Lays whole sites nodes) (second : Lays whole more others)
    (apart : ∀ site ∈ sites, ∀ piece ∈ more, piece.Apart site.toStretch) :
    Lays whole (sites ++ more) (nodes ++ others) where
  anchored := List.rel_append first.anchored second.anchored
  inside := List.forall_mem_append.mpr ⟨first.inside, second.inside⟩
  nested := List.pairwise_append.mpr ⟨first.nested, second.nested, fun site member piece belongs =>
    .inr (apart site member piece belongs)⟩

/-- The nodes of two parts that are apart, in either order. -/
theorem Lays.beside (first : Lays part sites nodes) (second : Lays other more others)
    (apart : other.Apart part) (inside : part.Within whole) (within : other.Within whole) :
    Lays whole (sites ++ more) (nodes ++ others) :=
  .append (first.within inside) (second.within within) fun site member piece belongs =>
    apart.within (second.inside piece belongs) (first.inside site member)

/-- The nodes of three parts that are apart. -/
theorem Lays.three {third : Stretch} {last : List Site} {behind : List Tree}
    (first : Lays part sites nodes) (second : Lays other more others)
    (rest : Lays third last behind)
    (apart : other.Apart part ∧ third.Apart part ∧ third.Apart other)
    (inside : part.Within whole ∧ other.Within whole ∧ third.Within whole) :
    Lays whole (sites ++ (more ++ last)) (nodes ++ others ++ behind) := by
  obtain ⟨one, two, three⟩ := inside
  rw [List.append_assoc]
  -- The first stretch is apart from the two behind it, which are apart from each other.
  refine .append (first.within one) (.beside second rest apart.2.2 two three)
    fun site member piece belongs => ?_
  rcases List.mem_append.mp belongs with belongs | belongs
  · exact apart.1.within (second.inside piece belongs) (first.inside site member)
  · exact apart.2.1.within (rest.inside piece belongs) (first.inside site member)

/-- Each of the nodes is anchored in some of the tokens. -/
theorem Lays.exists_anchor (lays : Lays whole sites nodes) (member : node ∈ nodes) :
    ∃ span anchor, span <:+: whole.tokens ∧ Anchored span node anchor := by
  obtain ⟨anchored, inside, -⟩ := lays
  -- Nodes and sites are walked in step, and the site of the node lies within the whole.
  induction anchored with
  | nil => cases member
  | @cons site first _ _ here _ ih =>
    obtain ⟨within, rest⟩ := List.forall_mem_cons.mp inside
    rcases List.mem_cons.mp member with rfl | later
    · exact ⟨site.tokens, site.anchor, within.infix, here⟩
    · exact ih later rest

/-- A name, whatever it stands for. -/
theorem Word.lays (word : Word) (kind : Kind) (before : List Token) :
    Lays ⟨before, [word.token]⟩ [word.site before] (word.identifier.toTree kind).preorder :=
  .cons (.first (.name word kind) rfl) .nil

mutual

/-- Every node of an expression stands at a token of it. -/
theorem Expression.lays : ∀ (value : Expression) (before : List Token),
    Lays ⟨before, value.tokens⟩ (value.sites before) value.build.toTree.preorder
  -- The node itself comes first, and then those of its parts, each of which has its own part of the
  -- tokens.
  | .assign target equal value, before => by
    refine .cons (.first (.assign target equal value) rfl) ?_
    show Lays _ ([target.site before] ++ value.sites _)
      ((target.identifier.toTree .infer).preorder ++ value.build.toTree.preorder ++ [])
    rw [List.append_nil]
    refine .beside (target.lays .infer before) (value.lays _) (.inr ?_) ?_ ?_
    · simp [Stretch.start, Stretch.stop]
    · exact ⟨[], _, by simp, rfl⟩
    · exact ⟨_, [], rfl, by simp [Expression.tokens]⟩
  | .additive value, before => value.lays before

/-- A sum lays its operation in front of its operands, and stands at its sign. -/
theorem Additive.lays : ∀ (value : Additive) (before : List Token),
    Lays ⟨before, value.tokens⟩ (value.sites before) value.build.toTree.preorder
  | .multiplicative term, before => term.lays before
  | .sum left sign leaf right, before => by
    -- The sum itself comes first, then everything on its left, then everything on its right.
    refine .cons (.sum left sign leaf right) ?_
    show Lays _ (left.sites before ++ right.sites _)
      (left.build.toTree.preorder ++ right.build.toTree.preorder ++ [])
    rw [List.append_nil]
    refine .beside (left.lays before) (right.lays _) (.inr ?_) ?_ ?_
    · simp [Stretch.start, Stretch.stop]
    · exact ⟨[], _, by simp, rfl⟩
    · exact ⟨left.tokens ++ [leaf.mark sign.mark], [], by simp, by simp [Additive.tokens]⟩

/-- So does a product. -/
theorem Multiplicative.lays : ∀ (term : Multiplicative) (before : List Token),
    Lays ⟨before, term.tokens⟩ (term.sites before) term.build.toTree.preorder
  | .primary factor, before => factor.lays before
  | .product left sign leaf right, before => by
    -- The product itself comes first, then everything on its left, then everything on its right.
    refine .cons (.product left sign leaf right) ?_
    show Lays _ (left.sites before ++ right.sites _)
      (left.build.toTree.preorder ++ right.build.toTree.preorder ++ [])
    rw [List.append_nil]
    refine .beside (left.lays before) (right.lays _) (.inr ?_) ?_ ?_
    · simp [Stretch.start, Stretch.stop]
    · exact ⟨[], _, by simp, rfl⟩
    · exact ⟨left.tokens ++ [leaf.mark sign.mark], [], by simp, by simp [Multiplicative.tokens]⟩

/-- A single token lays itself, a group its inside, and a call its callee and its arguments. -/
theorem Primary.lays : ∀ (factor : Primary) (before : List Token),
    Lays ⟨before, factor.tokens⟩ (factor.sites before) factor.build.toTree.preorder
  | .number leaf value, _ => .cons (.first (.number leaf value) rfl) .nil
  | .boolean leaf value, _ => .cons (.first (.boolean leaf value) rfl) .nil
  | .identifier word, before => word.lays .infer before
  | .call callee leftParen args rightParen, before => by
    refine .cons (.first (.call callee leftParen args rightParen) rfl) ?_
    refine .beside (callee.lays .infer before) (args.lays _) (.inr ?_) ?_ ?_
    · simp [Stretch.start, Stretch.stop]
    · exact ⟨[], _, by simp, rfl⟩
    · exact ⟨_, [rightParen.mark .rightParen], rfl, by simp [Primary.tokens]⟩
  | .group leftParen inner rightParen, before =>
    -- Of the parentheses nothing is left, and what is between them keeps its tokens.
    (inner.lays _).within ⟨_, [rightParen.mark .rightParen], rfl, by simp [Primary.tokens]⟩

/-- Arguments are laid in order, if there are any. -/
theorem Args.lays : ∀ (args : Args) (before : List Token),
    Lays ⟨before, args.tokens⟩ (args.sites before)
      (Tree.preorderItems (LoopLang.Expression.toTrees args.build))
  | .list items, before => items.lays before
  | .empty, _ => .nil

/-- Each of them stands between those in front of it and those behind. -/
theorem ArgList.lays : ∀ (items : ArgList) (before : List Token),
    Lays ⟨before, items.tokens⟩ (items.sites before)
      (Tree.preorderItems (LoopLang.Expression.toTrees items.build))
  | .single item, before => by
    show Lays _ (item.sites before) (Tree.preorderItems [item.build.toTree])
    rw [LoopLang.Expression.preorderItems_toTree]
    exact item.lays before
  | .more items comma last, before => by
    simp only [ArgList.build, LoopLang.Expression.toTrees_append, Tree.preorderItems_append,
      LoopLang.Expression.preorderItems_toTree]
    -- The last argument stands behind the comma, all others in front of it.
    refine .beside (items.lays before) (last.lays _) (.inr ?_) ?_ ?_
    · simp [Stretch.start, Stretch.stop]
    · exact ⟨[], _, by simp, rfl⟩
    · exact ⟨items.tokens ++ [comma.mark .comma], [], by simp, by simp [ArgList.tokens]⟩

end

/-- The token that a node stands at is the one that its sort asks for. -/
theorem Anchored.standsAt {span : List Token} {anchor : Token}
    (anchored : Anchored span node anchor) :
    StandsAt span anchor node := by
  cases anchored with
  | first begins first =>
    obtain ⟨anchor, found, -, stands⟩ := begins.exists_first
    rw [first] at found
    cases found
    exact stands
  | sum left sign leaf right =>
    have spelled : sign.mark.text = sign.operator.sign := by cases sign <;> rfl
    exact ⟨left.tokens, sign.mark, right.tokens, rfl, rfl, congrArg Tree.text spelled.symm,
      ⟨left, rfl, rfl⟩,
      right, rfl, rfl⟩
  | product left sign leaf right =>
    have spelled : sign.mark.text = sign.operator.sign := by cases sign <;> rfl
    -- A product is a term of itself, and a factor is one, too.
    exact ⟨left.tokens, sign.mark, right.tokens, rfl, rfl, congrArg Tree.text spelled.symm,
      ⟨.multiplicative left, rfl, rfl⟩, .primary right, rfl, rfl⟩
  | expression statement inside anchored => exact statement.value.build.toTree_place.symm

/-- Every parameter stands at its name. -/
theorem Param.lays {param : Param} {parameter : Parameter} (built : param.build = .ok parameter)
    (before : List Token) :
    Lays ⟨before, param.tokens⟩ [param.site before] (Tree.preorderItems [parameter.toTree]) := by
  exact .cons (.first (.parameter built) rfl) .nil

/-- So does every one of several. -/
theorem ParamList.lays :
    ∀ (params : ParamList) (parameters : List Parameter), params.build = .ok parameters →
    ∀ before : List Token, Lays ⟨before, params.tokens⟩ (params.sites before)
      (Tree.preorderItems (parameters.map Parameter.toTree))
  | .single param, _, built, before => by
    obtain ⟨last, last_built, ⟨⟩⟩ := exists_of_bind_ok built
    exact Param.lays last_built before
  | .more params comma last, _, built, before => by
    obtain ⟨first, first_built, built⟩ := exists_of_bind_ok built
    obtain ⟨parameter, last_built, ⟨⟩⟩ := exists_of_bind_ok built
    rw [List.map_append, Tree.preorderItems_append]
    -- The last parameter stands behind the comma, all others in front of it.
    refine .beside (params.lays first first_built before) (Param.lays last_built _) (.inr ?_) ?_ ?_
    · simp [Stretch.start, Stretch.stop]
    · exact ⟨[], _, by simp, rfl⟩
    · exact ⟨params.tokens ++ [comma.mark .comma], [], by simp, by simp [ParamList.tokens]⟩

/-- A function without parameters has none that could stand anywhere. -/
theorem Params.lays :
    ∀ (params : Params) (parameters : List Parameter), params.build = .ok parameters →
    ∀ before : List Token, Lays ⟨before, params.tokens⟩ (params.sites before)
      (Tree.preorderItems (parameters.map Parameter.toTree))
  | .list params, parameters, built, before => params.lays parameters built before
  | .empty, _, built, _ => by
    cases built
    exact .nil

/-- Every node of a variable's declaration stands at a token of it. -/
theorem VariableDeclaration.lays (declaration : VariableDeclaration) (built : LoopLang.Statement)
    (done : declaration.build = .ok built) (before : List Token) :
    Lays ⟨before, declaration.tokens⟩ (declaration.sites before) built.toTree.preorder := by
  have whole : Begins declaration.tokens built.toTree := .declare done
  cases declaration with
  | typed leaf name colon type equal value semicolon =>
    obtain ⟨kind, -, ⟨⟩⟩ := exists_of_bind_ok done
    -- The name stands in front of the equals sign and the value behind it; a type has no node.
    refine .cons (.first whole rfl) (.beside (name.lays _ _) (value.lays _) (.inr ?_) ?_ ?_)
    · simp [Stretch.start, Stretch.stop]
    · exact ⟨_, _, rfl, rfl⟩
    · exact ⟨_, [semicolon.mark .semicolon], rfl, by simp [VariableDeclaration.tokens]⟩
  | plain leaf name equal value semicolon =>
    cases done
    refine .cons (.first whole rfl) (.beside (name.lays _ _) (value.lays _) (.inr ?_) ?_ ?_)
    · simp [Stretch.start, Stretch.stop]
    · exact ⟨_, _, rfl, rfl⟩
    · exact ⟨_, [semicolon.mark .semicolon], rfl, by simp [VariableDeclaration.tokens]⟩

/-- The end of a function stands at its word, and its result inside of it. -/
theorem ReturnStatement.lays : ∀ (statement : ReturnStatement) (before : List Token),
    Lays ⟨before, statement.tokens⟩ (statement.sites before) statement.build.toTree.preorder
  | .value leaf result semicolon, _ =>
    .cons (.first (.finish (.value leaf result semicolon)) rfl)
      ((result.lays _).within
        ⟨_, [semicolon.mark .semicolon], rfl, by simp [ReturnStatement.tokens]⟩)
  | .plain leaf semicolon, _ => .cons (.first (.finish (.plain leaf semicolon)) rfl) .nil

/-- A jump stands at its word, and its label behind it. -/
theorem JumpStatement.lays : ∀ (statement : JumpStatement) (before : List Token),
    Lays ⟨before, statement.tokens⟩ (statement.sites before) statement.build.toTree.preorder
  | .plain isBreak leaf semicolon, _ => by
    have whole := Begins.jump (.plain isBreak leaf semicolon)
    cases isBreak <;> exact .cons (.first whole rfl) .nil
  | .labelled isBreak leaf label semicolon, before => by
    have whole := Begins.jump (.labelled isBreak leaf label semicolon)
    -- The label is the only node below a jump.
    have below : Lays ⟨before, (labelled isBreak leaf label semicolon).tokens⟩
        [label.site (before ++ [leaf.keyword (reserved isBreak)])]
        (label.identifier.toTree .infer).preorder :=
      (label.lays .infer _).within ⟨_, _, rfl, rfl⟩
    cases isBreak <;> exact .cons (.first whole rfl) below

mutual

/-- An expression stands at its anchor, among the tokens inside of all parentheses around it. -/
theorem Expression.anchored : ∀ value : Expression,
    ∃ inner, inner <:+: value.tokens ∧ Anchored inner value.build.toTree value.anchor
  | .assign target equal value => ⟨_, List.infix_rfl, .first (.assign target equal value) rfl⟩
  | .additive value => value.anchored

/-- A sum is anchored at its sign. -/
theorem Additive.anchored : ∀ value : Additive,
    ∃ inner, inner <:+: value.tokens ∧ Anchored inner value.build.toTree value.anchor
  | .multiplicative term => term.anchored
  | .sum left sign leaf right => ⟨_, List.infix_rfl, .sum left sign leaf right⟩

/-- So is a product. -/
theorem Multiplicative.anchored : ∀ term : Multiplicative,
    ∃ inner, inner <:+: term.tokens ∧ Anchored inner term.build.toTree term.anchor
  | .primary factor => factor.anchored
  | .product left sign leaf right => ⟨_, List.infix_rfl, .product left sign leaf right⟩

/-- A single token and a call are anchored where they begin; a group is anchored where its inside
is. -/
theorem Primary.anchored : ∀ factor : Primary,
    ∃ inner, inner <:+: factor.tokens ∧ Anchored inner factor.build.toTree factor.anchor
  | .number leaf value => ⟨_, List.infix_rfl, .first (.number leaf value) rfl⟩
  | .boolean leaf value => ⟨_, List.infix_rfl, .first (.boolean leaf value) rfl⟩
  | .identifier word => ⟨_, List.infix_rfl, .first (.name word .infer) rfl⟩
  | .call callee leftParen args rightParen =>
    ⟨_, List.infix_rfl, .first (.call callee leftParen args rightParen) rfl⟩
  -- Brackets are not in the tree, so the node stands where the inner one does.
  | .group leftParen inner rightParen => by
    obtain ⟨own, inside, anchored⟩ := inner.anchored
    exact ⟨own, inside.trans ⟨[leftParen.mark .leftParen], [rightParen.mark .rightParen], rfl⟩,
      anchored⟩

end

/-- An expression as a statement stands at the token that the expression stands at. -/
theorem ExpressionStatement.lays (statement : ExpressionStatement) (before : List Token) :
    Lays ⟨before, statement.tokens⟩ (statement.sites before) statement.build.toTree.preorder := by
  obtain ⟨inner, inside, anchored⟩ := statement.value.anchored
  refine .cons (.expression statement inside anchored) ?_
  exact (statement.value.lays before).within ⟨[], _, by simp, rfl⟩

mutual

/-- Every node of some statements stands at a token of them. -/
theorem Statements.lays : ∀ (statements : Statements) (built : List LoopLang.Statement),
    statements.build = .ok built → ∀ front : List Token, Lays ⟨front, statements.tokens⟩
      (statements.sites front) (Tree.preorderItems (LoopLang.Statement.toTrees built))
  -- The last statement stands behind all tokens of those before it.
  | .more before last, _, done, front => by
    obtain ⟨statements, before_built, done⟩ := exists_of_bind_ok done
    obtain ⟨statement, last_built, ⟨⟩⟩ := exists_of_bind_ok done
    rw [LoopLang.Statement.toTrees_append, Tree.preorderItems_append,
      LoopLang.Statement.preorderItems_toTree]
    refine .beside (before.lays statements before_built front) (last.lays statement last_built _)
      (.inr ?_) ?_ ?_
    · simp [Stretch.start, Stretch.stop]
    · exact ⟨[], _, by simp, rfl⟩
    · exact ⟨before.tokens, [], rfl, by simp [Statements.tokens]⟩
  | .empty, _, done, _ => by
    cases done
    exact .nil

/-- A statement lays the node of its sort, and those of its parts behind it. -/
theorem Statement.lays :
    ∀ (statement : Statement) (built : LoopLang.Statement), statement.build = .ok built →
    ∀ before : List Token,
      Lays ⟨before, statement.tokens⟩ (statement.sites before) built.toTree.preorder
  -- The statement is what one of its forms is.
  | .function declaration, built, done, before => declaration.lays built done before
  | .variable declaration, built, done, before => declaration.lays built done before
  | .block block, _, done, before => by
    obtain ⟨inner, inner_built, ⟨⟩⟩ := exists_of_bind_ok done
    exact block.lays inner inner_built before
  | .return statement, _, done, before => by
    cases done
    exact statement.lays before
  | .if statement, built, done, before => statement.lays built done before
  | .loop statement, built, done, before => statement.lays built done before
  | .jump statement, _, done, before => by
    cases done
    exact statement.lays before
  | .expression statement, _, done, before => by
    cases done
    exact statement.lays before

/-- A block lays itself at its brace, and then its statements. -/
theorem Block.lays :
    ∀ (block : Block) (built : Location × List LoopLang.Statement), block.build = .ok built →
    ∀ before : List Token, Lays ⟨before, block.tokens⟩ (block.sites before)
      (blockTree built).preorder
  | .braces leftBrace body rightBrace, _, done, before => by
    obtain ⟨statements, body_built, same⟩ := exists_of_bind_ok done
    cases same
    -- The block itself comes first, and its statements lie between the braces.
    refine .cons (.first (.block done) rfl) ((body.lays statements body_built _).within ?_)
    exact ⟨_, [rightBrace.mark .rightBrace], rfl, by simp [Block.tokens]⟩

/-- A function lays its name, its parameters and its body. -/
theorem FunctionDeclaration.lays :
    ∀ (declaration : FunctionDeclaration) (built : LoopLang.Statement),
    declaration.build = .ok built → ∀ before : List Token,
      Lays ⟨before, declaration.tokens⟩ (declaration.sites before) built.toTree.preorder
  | .declare leaf name leftParen params rightParen result body, built, done, before => by
    -- What has been built is known by its parts, and each part has its own part of the tokens.
    have whole := Begins.function done
    obtain ⟨parameters, block, kind, params_built, body_built, tree⟩ :=
      FunctionDeclaration.exists_of_build done
    rw [tree] at whole ⊢
    refine .cons (.first whole rfl) ?_
    show Lays _ ([name.site _] ++ (params.sites _ ++ body.sites _))
      ((name.identifier.toTree .infer).preorder ++ Tree.preorderItems
        (parameters.map Parameter.toTree) ++ (blockTree block).preorder ++ [])
    rw [List.append_nil]
    refine .three (name.lays .infer _) (params.lays parameters params_built _)
      (body.lays block body_built _) ?_ ?_
    · refine ⟨.inr ?_, .inr ?_, .inr ?_⟩
      all_goals simp [Stretch.start, Stretch.stop]
      all_goals omega
    · refine ⟨⟨_, _, rfl, rfl⟩, ⟨_, _, rfl, rfl⟩, ⟨_, [], rfl, ?_⟩⟩
      simp [FunctionDeclaration.tokens]

/-- A branch lays its condition, its arm, and its alternative. -/
theorem IfStatement.lays :
    ∀ (statement : IfStatement) (built : LoopLang.Statement), statement.build = .ok built →
    ∀ before : List Token,
      Lays ⟨before, statement.tokens⟩ (statement.sites before) built.toTree.preorder
  | .choose leaf leftParen condition rightParen body alternative, built, done, before => by
    have whole := Begins.choose done
    obtain ⟨arm, other, body_built, alternative_built, tree⟩ := IfStatement.exists_of_build done
    rw [tree] at whole ⊢
    refine .cons (.first whole rfl) ?_
    -- Condition, arm and second arm follow one another, with signs between them.
    refine .three (condition.lays _) (body.lays arm body_built _)
      (alternative.lays other alternative_built _) ?_ ?_
    · refine ⟨.inr ?_, .inr ?_, .inr ?_⟩
      all_goals simp [Stretch.start, Stretch.stop]
      all_goals omega
    -- Each of them is a part of the whole.
    · refine ⟨⟨_, _, rfl, rfl⟩, ⟨_, alternative.tokens, rfl, ?_⟩, ⟨_, [], rfl, ?_⟩⟩ <;>
        simp [IfStatement.tokens]

/-- An alternative lays its block, or the branch that stands for one. -/
theorem ElseClause.lays :
    ∀ (alternative : ElseClause) (other : Option (Location × List LoopLang.Statement)),
    alternative.build = .ok other → ∀ before : List Token,
      Lays ⟨before, alternative.tokens⟩ (alternative.sites before) (alternateTree other).preorder
  | .block leaf body, _, done, _ => by
    obtain ⟨arm, body_built, ⟨⟩⟩ := exists_of_bind_ok done
    exact (body.lays arm body_built _).within ⟨_, [], rfl, by simp [ElseClause.tokens]⟩
  | .if leaf inner, _, done, before => by
    obtain ⟨statement, inner_built, same⟩ := exists_of_bind_ok done
    cases same
    -- The condition is the only item of the block.
    have below : Lays ⟨before ++ [leaf.keyword .else], inner.tokens⟩
        (inner.sites (before ++ [leaf.keyword .else]))
        (Tree.preorderItems [statement.toTree]) := by
      rw [LoopLang.Statement.preorderItems_toTree]
      exact inner.lays statement inner_built _
    exact .cons (.first (.alternative done) rfl)
      (below.within ⟨_, [], rfl, by simp [ElseClause.tokens]⟩)
  | .empty, _, done, _ => by
    cases done
    exact .nil

/-- A loop lays its condition and its body, and its label last. -/
theorem LoopStatement.lays : ∀ (statement : LoopStatement) (built : LoopLang.Statement),
    statement.build = .ok built → ∀ before : List Token,
      Lays ⟨before, statement.tokens⟩ (statement.sites before) built.toTree.preorder
  -- The condition comes before the body, among the nodes and among the tokens.
  | .plain leaf leftParen condition rightParen body, built, done, before => by
    have whole := Begins.loop done
    obtain ⟨block, body_built, tree⟩ := LoopStatement.exists_of_build_plain done
    rw [tree] at whole ⊢
    refine .cons (.first whole rfl) ?_
    show Lays _ (condition.sites _ ++ body.sites _)
      (condition.build.toTree.preorder ++ (blockTree block).preorder ++ [])
    rw [List.append_nil]
    refine .beside (condition.lays _) (body.lays block body_built _) (.inr ?_) ?_ ?_
    · simp [Stretch.start, Stretch.stop]
      omega
    · exact ⟨_, rightParen.mark .rightParen :: body.tokens, rfl, by simp [LoopStatement.tokens]⟩
    · exact ⟨_, [], rfl, by simp [LoopStatement.tokens]⟩
  | .labelled label colon leaf leftParen condition rightParen body, built, done, before => by
    have whole := Begins.loop done
    obtain ⟨block, body_built, tree⟩ := LoopStatement.exists_of_build_labelled done
    rw [tree] at whole ⊢
    refine .cons (.first whole rfl) ?_
    -- The label comes last among the nodes, but first among the tokens.
    refine .three (condition.lays _) (body.lays block body_built _) (label.lays .infer before) ?_ ?_
    · refine ⟨.inr ?_, .inl ?_, .inl ?_⟩
      · simp [Stretch.start, Stretch.stop]
        omega
      · simp [Stretch.start, Stretch.stop]
      · simp [Stretch.start, Stretch.stop]
    · refine ⟨⟨_, _, rfl, rfl⟩, ⟨_, [], rfl, ?_⟩, ⟨[], _, by simp, rfl⟩⟩
      simp [LoopStatement.tokens]

end

end Lays

/-- A node stands in a text at a site: at the one of its own tokens that its sort asks for, where
that token is. -/
structure Site.Holds (site : Site) (text : String) (node : Tree) : Prop where
  /-- The tokens stand together in the text, behind those in front of them. -/
  inside : site.before ++ site.tokens <+: (scan text).tokens
  /-- The node is built from these tokens by a production of the grammar. -/
  anchored : Anchored site.tokens node site.anchor
  /-- The node stands at one of them. -/
  own : site.anchor ∈ site.tokens
  /-- Which one that is depends on the sort of the node. -/
  standsAt : StandsAt site.tokens site.anchor node
  place : node.place = site.anchor.place
  written : ∃ slice, site.anchor.StandsAs slice text.toList

/-- Each of the nodes that lie in the tokens of a text holds its site there. -/
theorem Lays.holds {text : String} {sites : List Site} {nodes : List Tree}
    (lays : Lays ⟨[], (scan text).tokens⟩ sites nodes) :
    List.Forall₂ (fun site node => site.Holds text node) sites nodes := by
  have both := (List.forall₂_and_left _ _).mpr ⟨lays.inside, lays.anchored⟩
  refine both.imp fun site node held => ?_
  obtain ⟨inside, anchored⟩ := held
  have stands := scan_stands text site.anchor (List.IsInfix.subset inside.infix anchored.mem)
  refine ⟨?_, anchored, anchored.mem, anchored.standsAt, anchored.place, stands⟩
  -- The stretch of a node begins behind the tokens that stand in front of it.
  obtain ⟨front, back, before, whole⟩ := inside
  refine ⟨back, ?_⟩
  rw [before]
  exact whole.symm

end Grammar

namespace Parser

/-- Tokens in front of an illegal character are no program. -/
theorem run_complete {ending : ScanEnd} {program : Program} (tokens : List Token)
    (previous : Option Token) (state : State)
    (accepted : run previous state ending tokens = .ok program) : ending = .complete := by
  -- The ending is looked at behind the last token, whatever the state there is.
  induction tokens generalizing previous state with
  | nil =>
    cases ending with
    | complete => rfl
    | illegal char place => cases accepted
  | cons token rest ih =>
    unfold run at accepted
    split at accepted
    · exact ih _ _ accepted
    all_goals cases accepted

end Parser

namespace Program

/-- A text that is parsed is derived, and the program is what is built from it. -/
theorem exists_derivation {text : String} {program : Program}
    (parsed : Program.parse text = .ok program) :
    ∃ statements : Grammar.Statements,
      statements.tokens = (scan text).tokens ∧ statements.build = .ok program.body := by
  have accepted : Parser.run none .start (scan text).ending (scan text).tokens = .ok program :=
    parsed
  -- A text with a program has been scanned to its end.
  rw [Parser.run_complete _ _ _ accepted] at accepted
  obtain ⟨statements, derived, built⟩ :=
    Parser.State.Reads.start.follow ((Parser.run_ok none).mp accepted)
  obtain ⟨body, body_built, ⟨⟩⟩ := Grammar.exists_of_bind_ok built
  exact ⟨statements, derived, body_built⟩

/-- Where the nodes of a program stand in its text. -/
structure StandsIn (text : String) (program : Program) : Prop where
  /-- The program itself stands at the start. -/
  start : program.toTree.place = ⟨1, 1⟩
  /--
  The text is derived from the grammar, and each node below the program, in pre-order, stands in the
  part of the text that its own phrase of the derivation has been read from. Any two of these parts
  are nested or apart.
  -/
  derived : ∃ statements : Grammar.Statements, statements.tokens = (scan text).tokens ∧
    statements.build = .ok program.body ∧
      List.Forall₂ (fun site node => site.Holds text node) (statements.sites [])
        (Tree.preorderItems (Statement.toTrees program.body)) ∧
      (statements.sites []).Pairwise fun outer inner =>
        inner.Within outer.toStretch ∨ inner.Apart outer.toStretch
  /-- Lines are counted from one. -/
  line_pos : ∀ node ∈ program.toTree.preorder, 0 < node.place.line

/-- Every node of a parsed text stands at one token of it, inside of what the node is built from. -/
theorem parse_standsIn {text : String} {program : Program}
    (parsed : Program.parse text = .ok program) :
    program.StandsIn text := by
  obtain ⟨statements, derived, built⟩ := exists_derivation parsed
  -- The sites are those of the derivation, whose tokens are the ones scanned from the text.
  have lays := statements.lays program.body built []
  rw [derived] at lays
  refine ⟨rfl, ⟨statements, derived, built, lays.holds, lays.nested⟩, fun node member => ?_⟩
  -- The program itself stands at the first line.
  rcases List.mem_cons.mp member with rfl | below
  · exact Int.one_pos
  -- The line of a token is one more than the line feeds in front of it.
  · obtain ⟨span, anchor, inside, anchored⟩ := lays.exists_anchor below
    obtain ⟨slice, stands⟩ := scan_stands text anchor (inside.subset anchored.mem)
    rw [anchored.place, stands.place.line]
    omega

/-- Parentheses around an operation, an alternative with a condition, and a loop with a label,
behind a comment. -/
theorem labelled_standsIn : ∃ program,
    Program.parse
      "//\n\tl: loop (a) \x7b (b - c);\nif (d) \x7b\x7d else if (e) \x7b break l; \x7d \x7d" =
        .ok program ∧
      program.StandsIn
        "//\n\tl: loop (a) \x7b (b - c);\nif (d) \x7b\x7d else if (e) \x7b break l; \x7d \x7d" ∧
      program.toTree.preorder.map Tree.place =
        [⟨1, 1⟩, ⟨2, 2⟩, ⟨2, 11⟩, ⟨2, 14⟩, ⟨2, 19⟩, ⟨2, 19⟩, ⟨2, 17⟩, ⟨2, 21⟩,
        ⟨3, 1⟩, ⟨3, 5⟩, ⟨3, 8⟩, ⟨3, 11⟩, ⟨3, 16⟩, ⟨3, 20⟩, ⟨3, 23⟩, ⟨3, 25⟩, ⟨3, 31⟩, ⟨2, 2⟩] := by
  -- The second arm stands at its word, the binary node at its sign, and the label comes last.
  have places : (Program.parse
      "//\n\tl: loop (a) \x7b (b - c);\nif (d) \x7b\x7d else if (e) \x7b break l; \x7d \x7d"
      ).toOption.map (fun program => program.toTree.preorder.map Tree.place) =
      some [⟨1, 1⟩, ⟨2, 2⟩, ⟨2, 11⟩, ⟨2, 14⟩, ⟨2, 19⟩, ⟨2, 19⟩, ⟨2, 17⟩, ⟨2, 21⟩,
        ⟨3, 1⟩, ⟨3, 5⟩, ⟨3, 8⟩, ⟨3, 11⟩, ⟨3, 16⟩, ⟨3, 20⟩, ⟨3, 23⟩, ⟨3, 25⟩, ⟨3, 31⟩,
        ⟨2, 2⟩] := by
    decide +kernel
  generalize parsed : Program.parse _ = answer at places ⊢
  cases answer with
  | error error => cases places
  | ok program => exact ⟨program, rfl, parse_standsIn parsed, Option.some.inj places⟩

end Program

end LoopLang
