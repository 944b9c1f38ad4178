import LoopLang.Proofs.Places.Anchor
import LoopLang.Proofs.Tree.Document
import LoopLang.Proofs.Tree.Walk

/-! Parsed texts are told apart by their documents: every node stands on a line, and no number has a
sign. -/

namespace LoopLang

namespace Tree

variable {tree : Tree}

/-- What the text says of a node: its place is known, and a number is written without a sign. -/
def Marked (tree : Tree) : Prop :=
  tree.place.isKnown = true ∧ ∀ place value, tree = .numberLiteral place value →
    ∃ number, IsUnsigned number ∧ value = .ofFloat number

/-- If the text says so of all nodes in a tree, everything in it is legible. -/
def Spreads (tree : Tree) : Prop :=
  (∀ node ∈ tree.preorder, node.Marked) → tree.Everywhere Legible

/-- The trees in the fields of a node are among those that it visits. -/
theorem parts_subset (isNode : tree.isNode = true) :
    ∀ part ∈ tree.parts, part ∈ tree.positions := by
  rw [parts_node isNode]
  cases tree <;> simp [fields, positions]

/-- What is said of a node spreads over it if it does so in its parts. -/
theorem Spreads.node (isNode : tree.isNode = true) (legible : tree.Marked → tree.Legible)
    (below : ∀ part ∈ tree.parts, part.Spreads) : tree.Spreads := by
  intro holds
  rw [preorder_positions isNode, List.forall_mem_cons] at holds
  refine .intro (legible holds.1) fun part inside => below part inside fun node member => ?_
  exact holds.2 node (List.mem_flatMap.mpr ⟨part, parts_subset isNode part inside, member⟩)

/-- A position without a tree. -/
theorem Spreads.null : null.Spreads := fun _ => .intro trivial nofun

/-- A list of nodes. -/
theorem Spreads.list {items : List Tree}
    (below : ∀ item ∈ items, item.isNode = true ∧ item.Spreads) :
    (list items).Spreads := by
  intro nodes
  refine .intro trivial fun item inside => (below item inside).2 fun node member => nodes node ?_
  rw [preorder, preorderItems_eq]
  exact List.mem_flatMap.mpr ⟨item, List.mem_filter.mpr ⟨inside, (below item inside).1⟩, member⟩

end Tree

section

open LoopLang.Tree

attribute [local simp] parts fields

/-- A name carries a text and a kind. -/
theorem Identifier.spreads (identifier : Identifier) (kind : Kind) :
    (identifier.toTree kind).Spreads :=
  .node rfl (fun marked => ⟨marked.1, ⟨_, rfl⟩, _, rfl⟩) nofun

/-- A label is a name, if there is one. -/
theorem labelTree_spreads (label : Option Identifier) : (labelTree label).Spreads := by
  cases label with
  | none => exact .null
  | some label => exact label.spreads .infer

/-- Parameters are names, too. -/
theorem Parameter.spreads (parameters : List Parameter) :
    (Tree.list (parameters.map toTree)).Spreads := by
  refine .list fun item inside => ?_
  obtain ⟨parameter, -, rfl⟩ := List.mem_map.mp inside
  exact ⟨rfl, .node rfl (fun marked => ⟨marked.1, ⟨_, rfl⟩, _, rfl⟩) nofun⟩

mutual

/-- What is said of all nodes in an expression spreads over it. -/
theorem Expression.spreads (expression : Expression) : expression.toTree.Spreads := by
  -- The marks of a node tell its sort, and its parts spread by themselves.
  cases expression with
  | number place value => exact .node rfl (fun marked => ⟨marked.1, marked.2 _ _ rfl⟩) nofun
  | boolean place value => exact .node rfl (fun marked => marked.1) nofun
  | identifier place name => exact .node rfl (fun marked => ⟨marked.1, ⟨_, rfl⟩, _, rfl⟩) nofun
  | call place callee arguments =>
    have name := callee.spreads .infer
    have values : (Tree.list (toTrees arguments)).Spreads := .list (spreads_all arguments)
    exact .node rfl (fun marked => marked.1) (by simp [toTree, name, values])
  | binary place operator left right =>
    have first := left.spreads
    have second := right.spreads
    exact .node rfl (fun marked => ⟨marked.1, _, rfl⟩) (by simp [toTree, first, second])
  | assign place target value =>
    have name := target.spreads .infer
    have stored := value.spreads
    exact .node rfl (fun marked => ⟨marked.1, _, rfl⟩) (by simp [toTree, name, stored])

/-- So it does over several expressions, which are nodes. -/
theorem Expression.spreads_all (expressions : List Expression) :
    ∀ item ∈ toTrees expressions, item.isNode = true ∧ item.Spreads := by
  cases expressions with
  | nil => exact nofun
  | cons expression rest =>
    exact List.forall_mem_cons.mpr
      ⟨⟨expression.isNode_toTree, expression.spreads⟩, spreads_all rest⟩

end

mutual

/-- What is said of all nodes in a statement spreads over it. -/
theorem Statement.spreads (statement : Statement) : statement.toTree.Spreads := by
  -- The trees in the fields of each sort of statement, one after the other.
  cases statement with
  | function place name parameters bodyPlace body result =>
    have called := name.spreads .infer
    have given := Parameter.spreads parameters
    have inside := spreads_block bodyPlace body
    exact .node rfl (fun marked => ⟨marked.1, _, rfl⟩) (by simp [toTree, called, given, inside])
  | declare place name stated value =>
    have called := name.spreads (statedKind stated)
    have initial := value.spreads
    exact .node rfl (fun marked => marked.1) (by simp [toTree, called, initial])
  | block place body => exact spreads_block place body
  | «return» place value =>
    cases value with
    | none => exact .node rfl (fun marked => marked.1) (List.forall_mem_singleton.mpr .null)
    | some value =>
      exact .node rfl (fun marked => marked.1) (List.forall_mem_singleton.mpr value.spreads)
  | when place condition thenPlace thenBody =>
    have asked := condition.spreads
    have first := spreads_block thenPlace thenBody
    exact .node rfl (fun marked => marked.1) (by simp [toTree, asked, first, Spreads.null])
  | choose place condition thenPlace thenBody elsePlace elseBody =>
    have asked := condition.spreads
    have first := spreads_block thenPlace thenBody
    have second := spreads_block elsePlace elseBody
    exact .node rfl (fun marked => marked.1) (by simp [toTree, asked, first, second])
  | loop place condition bodyPlace body label =>
    have asked := condition.spreads
    have inside := spreads_block bodyPlace body
    have labelled := labelTree_spreads label
    exact .node rfl (fun marked => marked.1) (by simp [toTree, asked, inside, labelled])
  | «break» place label | «continue» place label =>
    exact .node rfl (fun marked => marked.1)
      (List.forall_mem_singleton.mpr (labelTree_spreads label))
  | evaluate value =>
    exact .node rfl (fun marked => marked.1) (List.forall_mem_singleton.mpr value.spreads)

/-- A block has its statements as items. -/
theorem Statement.spreads_block (place : Location) (body : List Statement) :
    (Tree.blockStatement place (.list (toTrees body))).Spreads := by
  have items : (Tree.list (toTrees body)).Spreads := .list (spreads_all body)
  exact .node rfl (fun marked => marked.1) (List.forall_mem_singleton.mpr items)

/-- The same is true of several statements, which are nodes. -/
theorem Statement.spreads_all (statements : List Statement) :
    ∀ item ∈ toTrees statements, item.isNode = true ∧ item.Spreads := by
  cases statements with
  | nil => exact nofun
  | cons statement rest =>
    -- Every statement is a node of some sort.
    have isNode : statement.toTree.isNode = true := by
      rcases statement with _ | _ | _ | ⟨_, _ | _⟩ | _ | _ | _ | _ | _ | _ <;> rfl
    exact List.forall_mem_cons.mpr ⟨⟨isNode, statement.spreads⟩, spreads_all rest⟩

end

end

namespace Grammar

/-- A number that is a node is the one that its token says. -/
theorem Anchored.number {span : List Token} {anchor : Token} {place : Location} {value : Numeral}
    (anchored : Anchored span (.numberLiteral place value) anchor) :
    ∃ number, anchor.lexeme = .number number ∧ value = .ofFloat number := by
  -- Of all productions only one makes such a node, and it has a single token.
  generalize same : Tree.numberLiteral place value = node at anchored
  cases anchored with
  | sum left sign leaf right => cases same
  | product left sign leaf right => cases same
  | expression statement inside anchored => cases same
  | first begins first =>
    cases begins with
    | number leaf number =>
      cases same
      cases first
      exact ⟨number, rfl, rfl⟩
    | name word kind => cases same
    | parameter built => cases same
    | boolean leaf value => cases same
    | call callee leftParen args rightParen => cases same
    | assign target equal value => cases same
    | declare built =>
      obtain ⟨leaf, name, value, rest, kind, -, -, tree⟩ :=
        VariableDeclaration.exists_of_build built
      cases same.trans tree
    -- A statement shows what it is only when its parts are built.
    | @function declaration _ built =>
      obtain ⟨leaf, name, leftParen, params, rightParen, result, body⟩ := declaration
      obtain ⟨parameters, block, kind, -, -, tree⟩ := FunctionDeclaration.exists_of_build built
      cases same.trans tree
    | block built => cases same
    | alternative built => cases same
    | finish statement => cases statement <;> cases same
    | @choose statement _ built =>
      obtain ⟨leaf, leftParen, condition, rightParen, body, alternative⟩ := statement
      obtain ⟨arm, other, -, -, tree⟩ := IfStatement.exists_of_build built
      cases same.trans tree
    | @loop statement _ built =>
      cases statement with
      | plain leaf leftParen condition rightParen body =>
        obtain ⟨block, -, tree⟩ := LoopStatement.exists_of_build_plain built
        cases same.trans tree
      | labelled label colon leaf leftParen condition rightParen body =>
        obtain ⟨block, -, tree⟩ := LoopStatement.exists_of_build_labelled built
        cases same.trans tree
    | jump statement =>
      rcases statement with ⟨_ | _, leaf, semicolon⟩ | ⟨_ | _, leaf, label, semicolon⟩ <;>
        cases same

end Grammar

/-- A number that stands in a text has no sign. -/
theorem Token.StandsAs.isUnsigned {token : Token} {slice text : List Char} {number : Float}
    (stands : token.StandsAs slice text) (spelled : token.lexeme = .number number) :
    IsUnsigned number := by
  obtain ⟨after, -, fits⟩ := stands.fits
  have written := fits.written
  rw [spelled] at written
  generalize same : Lexeme.number number = lexeme at written
  -- Numbers are written without a sign.
  cases written with
  | number numeral =>
    cases same
    exact .nearestDouble _ _
  | _ => cases same

namespace Program

/-- Everything in the tree of a parsed text is legible. -/
theorem parse_legible {text : String} {program : Program}
    (parsed : Program.parse text = .ok program) :
    program.toTree.Everywhere Tree.Legible := by
  obtain ⟨statements, derived, built⟩ := exists_derivation parsed
  have lays := statements.lays program.body built []
  rw [derived] at lays
  have nodes : ∀ node ∈ Tree.preorderItems (Statement.toTrees program.body), node.Marked := by
    intro node member
    obtain ⟨span, anchor, inside, anchored⟩ := lays.exists_anchor member
    obtain ⟨slice, stands⟩ := scan_stands text anchor (inside.subset anchored.mem)
    have known : node.place.isKnown = true := by
      -- The line of a token is one more than the line feeds in front of it.
      rw [anchored.place, Location.isKnown, stands.place.line, bne_iff_ne]
      omega
    refine ⟨known, ?_⟩
    rintro place value rfl
    obtain ⟨number, spelled, same⟩ := anchored.number
    exact ⟨number, stands.isUnsigned spelled, same⟩
  have items : (Tree.list (Statement.toTrees program.body)).Spreads :=
    .list (Statement.spreads_all program.body)
  have spreads : program.toTree.Spreads :=
    .node rfl (fun marked => marked.1) (List.forall_mem_singleton.mpr items)
  refine spreads (List.forall_mem_cons.mpr ⟨⟨rfl, nofun⟩, nodes⟩)

/-- Parsed texts with equal documents have the same trees, with the same places, names, kinds and
numbers in them. -/
theorem document_injective {first second : String} {program other : Program}
    (parsed : Program.parse first = .ok program) (read : Program.parse second = .ok other)
    (equal : program.toTree.document.equals other.toTree.document = true) :
    program.toTree = other.toTree :=
  Tree.eq_of_equals (parse_legible parsed) (parse_legible read) equal

/-- Zeros around a number and a comment behind it show neither in the document nor in the tree. -/
theorem respelled_injective : ∃ program other,
    Program.parse "l: loop (a) \x7b return 1.5; \x7d" = .ok program ∧
      Program.parse "l: loop (a) \x7b return 01.50; // again\n\x7d" = .ok other ∧
      program.toTree.document.equals other.toTree.document = true ∧
      program.toTree = other.toTree := by
  -- Other digits, a comment and a line break, but the same document.
  have equals : ((Program.parse "l: loop (a) \x7b return 1.5; \x7d").toOption.bind fun program =>
      (Program.parse "l: loop (a) \x7b return 01.50; // again\n\x7d").toOption.map fun other =>
        program.toTree.document.equals other.toTree.document) = some true := by decide +kernel
  generalize parsed : Program.parse "l: loop (a) \x7b return 1.5; \x7d" = answer,
    read : Program.parse "l: loop (a) \x7b return 01.50; // again\n\x7d" = another at equals ⊢
  rcases answer with _ | program
  · cases equals
  rcases another with _ | other
  · cases equals
  have equal := Option.some.inj equals
  exact ⟨program, other, rfl, rfl, equal, document_injective parsed read equal⟩

end Program

end LoopLang
