import LoopLang.Proofs.Number.Sign
import LoopLang.Tree.Document

/-! The document of a tree loses nothing: trees with equal documents are the same, down to the place
of every node. -/

namespace LoopLang

/-- Whether a double is exactly an integer. -/
def DoubleClass.isInteger (integer : Int) : DoubleClass → Bool
  | .notANumber | .infinite _ => false
  | .zero _ => integer == 0
  | .finite negative magnitude =>
    let scaled := Fraction.scaled magnitude.significand 2 magnitude.exponent
    negative == decide (integer < 0) && scaled.numerator == integer.natAbs * scaled.denominator

namespace Document

/-- The integer that a plain value counts as: truth values count as one and zero. -/
def whole? : Document → Option Int
  | boolean value => some (if value then 1 else 0)
  | integer value => some value
  | _ => none

/-- Whether two values are numbers of the same amount, be they truth values, integers or doubles. -/
def sameAmount : Document → Document → Bool
  | number first, number second => first == second
  | number value, other | other, number value =>
    other.whole?.any ((DoubleClass.ofFloat value).isInteger ·)
  | one, other => one.whole?.isSome && one.whole? == other.whole?

mutual

/--
Whether documents count as equal: lists item by item, objects member by member in whatever order,
numbers by their amounts, and nothing else that is of different sorts.
-/
def equals : Document → Document → Bool
  | null, null => true
  | text first, text second => first == second
  | list items, list others => equalsAll items others
  | object members, object others => members.length == others.length && equalsMembers members others
  | one, other => one.sameAmount other

/-- Whether lists have equal items. -/
def equalsAll : List Document → List Document → Bool
  | [], [] => true
  | item :: rest, other :: others => item.equals other && equalsAll rest others
  | _, _ => false

/-- Whether an object has equal members of the same names as another one. -/
def equalsMembers : List (String × Document) → List (String × Document) → Bool
  | [], _ => true
  | (name, member) :: rest, others =>
    (others.lookup name).any (member.equals ·) && equalsMembers rest others

end

section Equality

variable {items others : List Document} {first second : List (String × Document)} {name : String}
  {value : Document}

/-- Equal lists are equal item by item. -/
theorem forall₂_of_equalsAll (equal : equalsAll items others = true) :
    List.Forall₂ (fun item other => item.equals other = true) items others := by
  -- Lists are equal item by item.
  induction items generalizing others with
  | nil =>
    cases others with
    | nil => exact .nil
    | cons other others => cases equal
  | cons item rest ih =>
    cases others with
    | nil => cases equal
    | cons other others =>
      rw [equalsAll, Bool.and_eq_true] at equal
      exact .cons equal.1 (ih equal.2)

/-- Every member of an object has an equal one of the same name in an equal object. -/
theorem exists_of_equalsMembers (equal : equalsMembers first second = true)
    (member : (name, value) ∈ first) :
    ∃ other, second.lookup name = some other ∧ value.equals other = true := by
  induction first with
  | nil => cases member
  | cons head rest ih =>
    rw [equalsMembers, Bool.and_eq_true, Option.any_eq_true] at equal
    -- Every member of the first table has an equal one in the second.
    rcases List.mem_cons.mp member with rfl | inside
    · exact equal.1
    · exact ih equal.2 inside

/-- Equal objects with the same names in the same order are equal member by member. -/
theorem forall₂_of_equalsMembers (equal : equalsMembers first second = true)
    (names : first.map Prod.fst = second.map Prod.fst) (distinct : (second.map Prod.fst).Nodup) :
    List.Forall₂ (fun one other => one.2.equals other.2 = true) first second := by
  -- Members are looked up by name, but here they stand in the same order.
  have found : ∀ name value, (name, value) ∈ first →
      ∃ other, second.lookup name = some other ∧ value.equals other = true :=
        fun _ _ => exists_of_equalsMembers equal
  clear equal
  induction first generalizing second with
  | nil => cases second with
    | nil => exact .nil
    | cons _ _ => cases names
  | cons head rest ih =>
    cases second with
    | nil => cases names
    | cons other others =>
      obtain ⟨key, value⟩ := head
      obtain ⟨key, another⟩ := other
      obtain ⟨rfl, further⟩ := List.cons.inj names
      obtain ⟨fresh, distinct⟩ := List.nodup_cons.mp distinct
      refine .cons ?_ (ih further distinct fun name member inside => ?_)
      -- The first member is found at once, under its own name.
      · obtain ⟨_, here, same⟩ := found key value List.mem_cons_self
        rw [List.lookup_cons_self] at here
        cases here
        exact same
      -- No other member has the name of the first one.
      · have other_name : (name == key) = false := by
          simp only [beq_eq_false_iff_ne]
          rintro rfl
          exact fresh (further ▸ List.mem_map.mpr ⟨_, inside, rfl⟩)
        obtain ⟨another, there, same⟩ := found name member (List.mem_cons_of_mem _ inside)
        rw [List.lookup_cons, other_name] at there
        exact ⟨another, there, same⟩

/-- A plain value that is equal to no other one of its sort. -/
def IsPlain : Document → Prop
  | boolean _ | text _ => True
  | number value => IsUnsigned value
  | _ => False

/-- Equal values of one sort are the same if they are plain. -/
theorem IsPlain.eq {one other : Document} (plain : one.IsPlain) (another : other.IsPlain)
    (sorts : one.sortName = other.sortName) (equal : one.equals other = true) : one = other := by
  -- Numbers and truth values may be equal to each other, so the sorts are asked too.
  cases one with
  | null | integer _ | moment _ | list _ | object _ => exact plain.elim
  | boolean first =>
    cases other with
    | boolean second =>
      cases first <;> cases second <;> first | rfl | exact absurd equal (by decide)
    | number _ | text _ => simp [sortName] at sorts
    | null | integer _ | moment _ | list _ | object _ => exact another.elim
  | number first =>
    cases other with
    | number second => exact congrArg number (plain.eq_of_beq another equal)
    | boolean _ | text _ => simp [sortName] at sorts
    | null | integer _ | moment _ | list _ | object _ => exact another.elim
  | text first =>
    cases other with
    | text second => exact congrArg text (beq_iff_eq.mp equal)
    | boolean _ | number _ => simp [sortName] at sorts
    | null | integer _ | moment _ | list _ | object _ => exact another.elim

end Equality

end Document

namespace Kind

/-- Every kind. -/
def all : List Kind := ExactKind.all.map .exact ++ [.infer, .none]

/-- The kind that a word names. -/
def ofWord? (word : String) : Option Kind := all.find? (·.word = word)

/-- Every kind is read back from its word. -/
@[simp]
theorem ofWord?_word (kind : Kind) : ofWord? kind.word = some kind := by
  rcases kind with (_ | _ | _) | _ | _ <;> decide

end Kind

namespace Tree

/-! What a node consists of, as its document names it. -/

/-- The fields of a node that hold trees in every program, with their names. -/
def fields : Tree → List (String × Tree)
  | program _ body | blockStatement _ body => [("body", body)]
  | functionDeclaration _ id arguments body _ =>
    [("id", id), ("arguments", arguments), ("body", body)]
  | variableDeclaration _ id init => [("id", id), ("init", init)]
  | returnStatement _ argument => [("argument", argument)]
  | expressionStatement _ expression => [("expression", expression)]
  | ifStatement _ condition consequent alternate =>
    [("condition", condition), ("consequent", consequent), ("alternate", alternate)]
  | loopStatement _ condition body label =>
    [("condition", condition), ("body", body), ("label", label)]
  | breakStatement _ label | continueStatement _ label => [("label", label)]
  | callExpression _ callee arguments => [("callee", callee), ("arguments", arguments)]
  | binaryExpression _ left right _ | assignmentExpression _ left right _ =>
    [("left", left), ("right", right)]
  -- Leaves have no fields, nor have lists.
  | _ => []

/-- What the other fields of a node tell, with the names that its document has for them. -/
def details : Tree → List (String × Document)
  | functionDeclaration _ _ _ _ returnKind => [("return_kind", returnKind.document)]
  | binaryExpression _ _ _ operator | assignmentExpression _ _ _ operator =>
    [("operator", operator.document)]
  | identifier _ name kind => [("name", name.document), ("kind", kind.document)]
  | numberLiteral _ value => [("value", .number value.value)]
  | booleanLiteral _ value => [("value", .boolean value)]
  | _ => []

/-- The names of a node's fields, and of its details with their sorts, by the name of its shape. -/
def memberNames : (shape : String) → List String × List (String × String)
  | "Program" | "BlockStatement" => (["body"], [])
  | "FunctionDeclaration" => (["id", "arguments", "body"], [("return_kind", "str")])
  | "VariableDeclaration" => (["id", "init"], [])
  | "ReturnStatement" => (["argument"], [])
  | "ExpressionStatement" => (["expression"], [])
  | "IfStatement" => (["condition", "consequent", "alternate"], [])
  | "LoopStatement" => (["condition", "body", "label"], [])
  | "BreakStatement" | "ContinueStatement" => (["label"], [])
  | "CallExpression" => (["callee", "arguments"], [])
  | "BinaryExpression" | "AssignmentExpression" => (["left", "right"], [("operator", "str")])
  | "Identifier" => ([], [("name", "str"), ("kind", "str")])
  | "NumberLiteral" => ([], [("value", "float")])
  | "BooleanLiteral" => ([], [("value", "bool")])
  -- No other shape belongs to a node with fields.
  | _ => ([], [])

/-- The node of a shape at a place with the given parts; numbers are those that literals stand
for. -/
def rebuild? (shape : String) (place : Location) (parts : List Tree) (details : List Document) :
    Option Tree :=
  match shape, parts, details with
  | "Node", [], [] => some (node place)
  | "Program", [body], [] => some (program place body)
  -- Kinds and signs are written as texts.
  | "FunctionDeclaration", [id, arguments, body], [.text word] =>
    (Kind.ofWord? word).map (functionDeclaration place id arguments body ∘ kindValue)
  | "VariableDeclaration", [id, init], [] => some (variableDeclaration place id init)
  | "BlockStatement", [body], [] => some (blockStatement place body)
  | "ReturnStatement", [argument], [] => some (returnStatement place argument)
  | "ExpressionStatement", [expression], [] => some (expressionStatement place expression)
  | "IfStatement", [condition, consequent, alternate], [] =>
    some (ifStatement place condition consequent alternate)
  | "LoopStatement", [condition, body, label], [] =>
    some (loopStatement place condition body label)
  | "BreakStatement", [label], [] => some (breakStatement place label)
  | "ContinueStatement", [label], [] => some (continueStatement place label)
  | "CallExpression", [callee, arguments], [] => some (callExpression place callee arguments)
  | "BinaryExpression", [left, right], [.text operator] =>
    some (binaryExpression place left right (text operator))
  | "AssignmentExpression", [left, right], [.text operator] =>
    some (assignmentExpression place left right (text operator))
  | "Identifier", [], [.text name, .text word] =>
    (Kind.ofWord? word).map (identifier place (text name) ∘ kindValue)
  | "NumberLiteral", [], [.number value] => some (numberLiteral place (.ofFloat value))
  | "BooleanLiteral", [], [.boolean value] => some (booleanLiteral place value)
  | _, _, _ => none

/-- The place of a node as a document. -/
def placeDocument (place : Location) : Document :=
  .object [("line", .integer place.line), ("column", .integer place.column)]

/-- The trees in the fields of a node, or the items of a list. -/
def parts : Tree → List Tree
  | list items => items
  | tree => tree.fields.map Prod.snd

/-- A property of a tree and of everything in it. -/
inductive Everywhere (property : Tree → Prop) : Tree → Prop
  | intro {tree : Tree} : property tree → (∀ part ∈ tree.parts, part.Everywhere property) →
      Everywhere property tree

/--
What a document tells all about: nodes at known places with texts for names and operators and with
kinds where kinds belong, and numbers without a sign. Outside of a literal a document does not tell
a truth value from a number, and it does not tell a kind from its word.
-/
def Legible : Tree → Prop
  | null | text _ | list _ => True
  -- Values are read as details of a node, never as its parts.
  | boolean _ | integer _ | real _ | kindValue _ => False
  | functionDeclaration place _ _ _ returnKind =>
    place.isKnown = true ∧ ∃ kind, returnKind = kindValue kind
  | binaryExpression place _ _ operator | assignmentExpression place _ _ operator =>
    place.isKnown = true ∧ ∃ sign, operator = text sign
  | identifier place name kind =>
    place.isKnown = true ∧ (∃ word, name = text word) ∧ ∃ stated, kind = kindValue stated
  | numberLiteral place value =>
    place.isKnown = true ∧ ∃ number, IsUnsigned number ∧ value = .ofFloat number
  | tree => tree.place.isKnown = true

section Node

variable {tree one other : Tree}

/-- The document of a node by the names of its parts. -/
theorem document_node (isNode : tree.isNode = true) :
    tree.document = tree.nodeDocument (tree.fields.map (Prod.map id document) ++ tree.details) := by
  cases tree <;> first | rfl | cases isNode

/-- The document of a node whose place is known. -/
theorem document_placed (isNode : tree.isNode = true) (known : tree.place.isKnown = true) :
    tree.document = .object (("type", .text tree.typeName) ::
      (tree.fields.map (Prod.map id document) ++ tree.details ++
        [("loc", placeDocument tree.place)])) := by
  rw [document_node isNode, nodeDocument, known, if_pos rfl, placeDocument]

/-- The trees in the fields of a node are its parts. -/
theorem parts_node (isNode : tree.isNode = true) : tree.parts = tree.fields.map Prod.snd := by
  cases tree <;> first | rfl | cases isNode

/-- The fields and details of a legible node are named by its shape. -/
theorem memberNames_eq (legible : tree.Legible) :
    memberNames tree.typeName =
      (tree.fields.map Prod.fst, tree.details.map (Prod.map id Document.sortName)) := by
  -- The members of a node are told by its shape alone.
  cases tree with
  | functionDeclaration place id arguments body returnKind =>
    obtain ⟨-, kind, rfl⟩ := legible
    rfl
  | binaryExpression place left right operator | assignmentExpression place left right operator =>
    obtain ⟨-, sign, rfl⟩ := legible
    rfl
  | identifier place name kind =>
    obtain ⟨-, ⟨word, rfl⟩, stated, rfl⟩ := legible
    rfl
  | kindValue kind => cases legible
  | _ => rfl

/-- A node is given by its shape, its place, its parts and its details. -/
theorem rebuild?_eq (isNode : tree.isNode = true) (legible : tree.Legible) :
    rebuild? tree.typeName tree.place (tree.fields.map Prod.snd) (tree.details.map Prod.snd) =
      some tree := by
  -- From shape, place, parts and details the node is put together again.
  cases tree with
  | null | boolean _ | integer _ | real _ | text _ | kindValue _ | list _ => cases isNode
  | numberLiteral place value =>
    obtain ⟨-, number, -, rfl⟩ := legible
    rfl
  | functionDeclaration place id arguments body returnKind =>
    obtain ⟨-, kind, rfl⟩ := legible
    exact congrArg (Option.map _) (Kind.ofWord?_word kind)
  | binaryExpression place left right operator | assignmentExpression place left right operator =>
    obtain ⟨-, sign, rfl⟩ := legible
    rfl
  | identifier place name kind =>
    obtain ⟨-, ⟨word, rfl⟩, stated, rfl⟩ := legible
    exact congrArg (Option.map _) (Kind.ofWord?_word stated)
  | _ => rfl

/-- No two members of a node's document have the same name. -/
theorem names_nodup :
    ("type" :: (tree.fields.map Prod.fst ++ tree.details.map Prod.fst ++ ["loc"])).Nodup := by
  cases tree <;> simp [fields, details]

/-- Whatever a legible node carries besides trees is plain. -/
theorem Legible.details (legible : tree.Legible) : ∀ detail ∈ tree.details, detail.2.IsPlain := by
  -- Details are texts and numbers without a sign, which are equal only when they are the same.
  cases tree with
  | numberLiteral place value =>
    obtain ⟨-, number, unsigned, rfl⟩ := legible
    exact List.forall_mem_singleton.mpr unsigned
  | functionDeclaration place id arguments body returnKind =>
    obtain ⟨-, kind, rfl⟩ := legible
    simp [Tree.details, document, Document.IsPlain]
  | binaryExpression place left right operator | assignmentExpression place left right operator =>
    obtain ⟨-, sign, rfl⟩ := legible
    simp [Tree.details, document, Document.IsPlain]
  | identifier place name kind =>
    obtain ⟨-, ⟨word, rfl⟩, stated, rfl⟩ := legible
    simp [Tree.details, document, Document.IsPlain]
  | _ => simp [Tree.details, Document.IsPlain]

/-- A legible node stands at a known place. -/
theorem Legible.place (legible : tree.Legible) (isNode : tree.isNode = true) :
    tree.place.isKnown = true := by
  cases tree with
  | null | boolean _ | integer _ | real _ | text _ | kindValue _ | list _ => cases isNode
  | numberLiteral _ _ | functionDeclaration _ _ _ _ _ | binaryExpression _ _ _ _
  | assignmentExpression _ _ _ _ | identifier _ _ _ => exact legible.1
  | _ => exact legible

/-- Places with equal documents are the same. -/
theorem place_eq {place another : Location}
    (equal : (placeDocument place).equals (placeDocument another) = true) :
    place = another := by
  -- Whole numbers are equal as documents when they are the same.
  have coordinate {first second : Int}
    (same : (Document.integer first).equals (.integer second) = true) :
      first = second := by simpa [Document.equals, Document.sameAmount, Document.whole?] using same
  have both : Document.equalsMembers
      [("line", .integer place.line), ("column", .integer place.column)]
      [("line", .integer another.line), ("column", .integer another.column)] = true := equal
  have all := Document.forall₂_of_equalsMembers both rfl (by simp)
  simp only [List.forall₂_cons, List.Forall₂.nil, and_true] at all
  cases place
  cases another
  exact congr (congrArg Location.mk (coordinate all.1)) (coordinate all.2)

/-- Related lists are the same if related items are. -/
theorem eq_of_forall₂ {α : Type} {related : α → α → Prop} {items others : List α}
    (all : List.Forall₂ related items others)
    (same : ∀ item ∈ items, ∀ other ∈ others, related item other → item = other) :
    items = others := by
  -- Pair by pair.
  induction all with
  | nil => rfl
  | cons head _ ih =>
    rw [same _ List.mem_cons_self _ List.mem_cons_self head,
      ih fun item inside other within => same item (List.mem_cons_of_mem _ inside) other
        (List.mem_cons_of_mem _ within)]

/-- What two lists have in front is related if the lists are and if it has the same length. -/
theorem forall₂_split {α : Type} {related : α → α → Prop} {items others more another : List α}
    (same : items.length = others.length)
    (all : List.Forall₂ related (items ++ more) (others ++ another)) :
    List.Forall₂ related items others ∧ List.Forall₂ related more another := by
  have front := List.forall₂_take_append _ _ _ all
  have back := List.forall₂_drop_append _ _ _ all
  rw [← same, List.take_left] at front
  rw [← same, List.drop_left] at back
  exact ⟨front, back⟩

/-- A legible tree is a node, or it is one of the plain values that documents tell apart. -/
theorem Legible.sort (legible : tree.Legible) :
    tree = null ∨ (∃ value, tree = text value) ∨ (∃ items, tree = list items) ∨
    tree.isNode = true := by
  cases tree <;> simp_all [Legible, isNode]

/-- Legible nodes with equal documents agree in shape, place and details, and have equal parts. -/
theorem memberwise (isNode : one.isNode = true) (another : other.isNode = true)
    (legible : one.Legible) (readable : other.Legible)
    (equal : one.document.equals other.document = true) :
    one.typeName = other.typeName ∧ one.place = other.place ∧ one.details = other.details ∧
      List.Forall₂ (fun part another => part.document.equals another.document = true)
        (one.fields.map Prod.snd) (other.fields.map Prod.snd) := by
  rw [document_placed isNode (legible.place isNode),
    document_placed another (readable.place another), Document.equals, Bool.and_eq_true] at equal
  -- Whatever order the members are in, those that name the shapes are equal.
  have shape : one.typeName = other.typeName := by
    obtain ⟨_, found, same⟩ := Document.exists_of_equalsMembers equal.2 List.mem_cons_self
    cases found
    exact beq_iff_eq.mp same
  have names := (memberNames_eq legible).symm.trans
    ((congrArg memberNames shape).trans (memberNames_eq readable))
  obtain ⟨fields, details⟩ := Prod.mk.inj names
  have detail_names : one.details.map Prod.fst = other.details.map Prod.fst := by
    simpa [Function.comp_def] using congrArg (List.map Prod.fst) details
  -- So the members of both have the same names in the same order, and are equal one by one.
  have all := Document.forall₂_of_equalsMembers equal.2
    (by simp [fields, detail_names, Function.comp_def])
    (by simpa [Function.comp_def] using other.names_nodup)
  have field_count : one.fields.length = other.fields.length := by
    simpa using congrArg List.length fields
  have detail_count : one.details.length = other.details.length := by
    simpa using congrArg List.length details
  obtain ⟨parts, place⟩ :=
    forall₂_split (by simp [field_count, detail_count]) (List.forall₂_cons.mp all).2
  obtain ⟨trees, carried⟩ := forall₂_split (by simp [field_count]) parts
  refine ⟨shape, place_eq (List.forall₂_cons.mp place).1, ?_, ?_⟩
  -- What the nodes carry is of the same sorts.
  · have sorts : List.Forall₂ (· = ·) (one.details.map (Prod.map id Document.sortName))
        (other.details.map (Prod.map id Document.sortName)) := by
          rw [List.forall₂_eq_eq_eq, details]
    rw [List.forall₂_map_left_iff, List.forall₂_map_right_iff] at sorts
    refine eq_of_forall₂ (sorts.mp (fun _ _ => And.intro) carried)
      fun detail inside other within ⟨same, equal⟩ => ?_
    obtain ⟨name, sort⟩ := Prod.mk.inj same
    exact Prod.ext name ((legible.details _ inside).eq (readable.details _ within) sort equal)
  · rw [List.forall₂_map_left_iff, List.forall₂_map_right_iff]
    rwa [List.forall₂_map_left_iff, List.forall₂_map_right_iff] at trees

/-- Legible nodes with equal documents are the same if their parts are. -/
theorem node_eq (isNode : one.isNode = true) (another : other.isNode = true) (legible : one.Legible)
    (readable : other.Legible) (equal : one.document.equals other.document = true)
    (parts : ∀ part ∈ one.fields.map Prod.snd, ∀ another ∈ other.fields.map Prod.snd,
      part.document.equals another.document = true → part = another) : one = other := by
  obtain ⟨shape, place, details, trees⟩ := memberwise isNode another legible readable equal
  -- A node can be rebuilt from its shape, its place and its details, with the trees below it.
  have rebuilt := rebuild?_eq isNode legible
  rw [shape, place, details, eq_of_forall₂ trees parts, rebuild?_eq another readable] at rebuilt
  exact (Option.some.inj rebuilt).symm

end Node

/-- The documents of trees one by one. -/
theorem documents_eq (items : List Tree) : documents items = items.map document := by
  induction items with
  | nil => rfl
  | cons item rest ih => rw [documents, ih, List.map_cons]

/-- Legible trees with equal documents are the same. -/
theorem eq_of_equals {one other : Tree} (legible : one.Everywhere Legible)
    (readable : other.Everywhere Legible) (equal : one.document.equals other.document = true) :
    one = other := by
  induction legible generalizing other with
  | @intro tree legible parts ih =>
    obtain ⟨readable, others⟩ := readable
    -- The document of a tree tells of which sort it is.
    rcases legible.sort with rfl | ⟨value, rfl⟩ | ⟨items, rfl⟩ | isNode
    -- Nothing at all.
    · rcases readable.sort with rfl | ⟨value, rfl⟩ | ⟨items, rfl⟩ | another
      · rfl
      · cases equal
      · cases equal
      · rw [document_node another] at equal
        cases equal
    -- A text.
    · rcases readable.sort with rfl | ⟨value, rfl⟩ | ⟨items, rfl⟩ | another
      · cases equal
      · exact congrArg text (beq_iff_eq.mp equal)
      · cases equal
      · rw [document_node another] at equal
        cases equal
    -- A list, whose items are equal one by one.
    · rcases readable.sort with rfl | ⟨value, rfl⟩ | ⟨more, rfl⟩ | another
      · cases equal
      · cases equal
      · have all := Document.forall₂_of_equalsAll equal
        rw [documents_eq, documents_eq, List.forall₂_map_left_iff,
          List.forall₂_map_right_iff] at all
        exact congrArg list (eq_of_forall₂ all fun item inside other within =>
          ih item inside (others other within))
      · rw [document_node another] at equal
        cases equal
    -- A node, whose document names its shape and its place.
    · rcases readable.sort with rfl | ⟨value, rfl⟩ | ⟨items, rfl⟩ | another
      · rw [document_node isNode] at equal
        cases equal
      · rw [document_node isNode] at equal
        cases equal
      · rw [document_node isNode] at equal
        cases equal
      · rw [parts_node isNode] at ih
        rw [parts_node another] at others
        exact node_eq isNode another legible readable equal fun part inside piece within =>
          ih part inside (others piece within)

end Tree

end LoopLang
