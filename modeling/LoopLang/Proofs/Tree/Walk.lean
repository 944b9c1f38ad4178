import LoopLang.Tree.Walk

/-! A walk over a tree meets its nodes in pre-order, up to the first one at which the visitor
stops. -/

namespace LoopLang.Tree

variable {σ : Type}

/-- The nodes among some items, one after the other. -/
theorem preorderItems_eq (items : List Tree) :
    preorderItems items = (items.filter Tree.isNode).flatMap preorder := by
  induction items with
  | nil => rfl
  | cons item rest ih => cases kind : item.isNode <;> simp [preorderItems, kind, ih]

/-- What stands in a position lists the nodes in it, for a list inside a list is no node. -/
theorem preorder_nodesIn (tree : Tree) : preorder tree = tree.nodesIn.flatMap preorder := by
  cases tree with
  | list items => exact preorderItems_eq items
  | _ => first | rfl | exact (List.append_nil _).symm

/-- The listing of a node begins with the node, and goes on with those of its positions. -/
theorem preorder_positions {tree : Tree} (isNode : tree.isNode = true) :
    preorder tree = tree :: tree.positions.flatMap preorder := by
  cases tree with
  | null | boolean _ | integer _ | real _ | text _ | kindValue _ | list _ => cases isNode
  | node _ | numberLiteral _ _ | booleanLiteral _ _ => rfl
  | _ =>
    -- Both sides list the same fields, which only differ in how the parts are joined.
    simp only [preorder, positions, List.flatMap_cons, List.flatMap_nil, List.append_nil,
      List.append_assoc]

/-- The listing of a node begins with the node and goes on with those of its children in order. -/
theorem preorder_node {tree : Tree} (isNode : tree.isNode = true) :
    preorder tree = tree :: tree.children.flatMap preorder := by
  rw [preorder_positions isNode, children, List.flatMap_assoc]
  exact congrArg (fun list => tree :: tree.positions.flatMap list) (funext preorder_nodesIn)

/-- Visits nodes one after the other, as long as the walk is not stopped. -/
def visitAll (visitor : Visitor σ) (nodes : List Tree) (walk : Walk σ) : Walk σ :=
  nodes.foldl (fun walk node => visit visitor node walk) walk

/-- Nodes are visited one after the other. -/
@[simp]
theorem visitAll_cons (visitor : Visitor σ) (node : Tree) (rest : List Tree) (walk : Walk σ) :
    visitAll visitor (node :: rest) walk = visitAll visitor rest (visit visitor node walk) := rfl

/-- Two lists of nodes are visited in a row. -/
@[simp]
theorem visitAll_append (visitor : Visitor σ) (first second : List Tree) (walk : Walk σ) :
    visitAll visitor (first ++ second) walk = visitAll visitor second
      (visitAll visitor first walk) :=
  List.foldl_append

mutual

/-- A walk over what stands in one position visits the nodes listed there. -/
theorem walkField_eq (visitor : Visitor σ) : ∀ (tree : Tree) (walk : Walk σ),
    walkField visitor tree walk = visitAll visitor (preorder tree) walk
  | null, _ | boolean _, _ | integer _, _ | real _, _ | text _, _ | kindValue _, _ => rfl
  -- Of a list the walk goes through the items.
  | list items, walk => walkItems_eq visitor items walk
  | node _, _ | numberLiteral .., _ | booleanLiteral .., _ => rfl
  | program _ body, _ | blockStatement _ body, _ => by
    rw [walkField, walkField_eq visitor body]
    rfl
  | returnStatement _ inner, _ | expressionStatement _ inner, _ | breakStatement _ inner, _
  | continueStatement _ inner, _ => by
    rw [walkField, walkField_eq visitor inner]
    rfl
  -- Each field is walked from where the walk over the fields in front of it has come to.
  | variableDeclaration _ first second, _ | callExpression _ first second, _
  | identifier _ first second, _ => by
    rw [walkField, walkField_eq visitor first, walkField_eq visitor second, preorder,
      visitAll_cons, visitAll_append]
  | ifStatement _ first second third, _ | loopStatement _ first second third, _
  | binaryExpression _ first second third, _ | assignmentExpression _ first second third, _ => by
    rw [walkField, walkField_eq visitor first, walkField_eq visitor second,
      walkField_eq visitor third, preorder, visitAll_cons, visitAll_append, visitAll_append]
  | functionDeclaration _ first second third fourth, _ => by
    rw [walkField, walkField_eq visitor first, walkField_eq visitor second,
      walkField_eq visitor third, walkField_eq visitor fourth, preorder, visitAll_cons,
      visitAll_append, visitAll_append, visitAll_append]
termination_by structural tree => tree

/-- A walk over the items of a list visits the nodes listed among them. -/
theorem walkItems_eq (visitor : Visitor σ) : ∀ (items : List Tree) (walk : Walk σ),
    walkItems visitor items walk = visitAll visitor (preorderItems items) walk
  | [], _ => rfl
  | item :: rest, walk => by
    rw [walkItems, walkItems_eq visitor rest, preorderItems, visitAll_append]
    -- Only nodes among the items are visited.
    cases kind : item.isNode with
    | true => simp [walkField_eq visitor item walk]
    | false => rfl
termination_by structural items => items

end

/-- A walk that is stopped visits nothing any more. -/
theorem visitAll_stopped (visitor : Visitor σ) (nodes : List Tree) (state : σ) :
    visitAll visitor nodes (state, true) = (state, true) := by
  induction nodes with
  | nil => rfl
  | cons node rest ih => exact ih

namespace Visitor

/-- The same visitor, which also keeps the nodes that it is called on. -/
def recording (visitor : Visitor σ) : Visitor (σ × List Tree) := fun (state, seen) node =>
  let (state, stops) := visitor state node
  ((state, seen ++ [node]), stops)

/-- The state of a visitor behind some nodes. -/
def behind (visitor : Visitor σ) (start : σ) (nodes : List Tree) : σ :=
  nodes.foldl (fun state node => (visitor state node).1) start

/-- A visitor stops at a node when it is called on that node behind some others. -/
def StopsAt (visitor : Visitor σ) (start : σ) (before : List Tree) (node : Tree) : Prop :=
  (visitor (visitor.behind start before) node).2 = true

/--
What a walk over listed nodes comes to: the nodes that the visitor is called on, one call for each,
the state that it is left in, and whether it has stopped the walk.
-/
structure Meets (visitor : Visitor σ) (start : σ) (listing seen : List Tree) (last : σ)
    (stopped : Bool) : Prop where
  /-- The nodes are met in the order of the listing, from its beginning and without a gap. -/
  inOrder : seen <+: listing
  state : last = visitor.behind start seen
  /-- Behind the first node at which the visitor stops it is not called again. -/
  endsThere : ∀ before node, before ++ [node] <+: seen → visitor.StopsAt start before node →
    seen = before ++ [node]
  /-- The node at which the visitor stops is met as well. -/
  included : stopped = true → ∃ before node,
    seen = before ++ [node] ∧ visitor.StopsAt start before node
  /-- The walk is stopped exactly if the listing has a node at which the visitor stops. -/
  stops_iff : stopped = true ↔ ∃ before node,
    before ++ [node] <+: listing ∧ visitor.StopsAt start before node
  /-- If there is none, all nodes are met. -/
  all : stopped = false → seen = listing

variable {visitor : Visitor σ} {start last : σ} {listing seen : List Tree} {stopped : Bool}
  {first : Tree}

/-- Without nodes nothing is met. -/
theorem Meets.nil : Meets visitor start [] [] start false where
  inOrder := List.prefix_rfl
  state := rfl
  endsThere before node inside := by simp at inside
  included := nofun
  stops_iff := ⟨nofun, fun ⟨_, _, inside, _⟩ => by simp at inside⟩
  all _ := rfl

/-- A visitor that stops at the first node meets no other one. -/
theorem Meets.stop (stops : (visitor start first).2 = true) (rest : List Tree) :
    Meets visitor start (first :: rest) [first] (visitor start first).1 true where
  inOrder := ⟨rest, rfl⟩
  state := rfl
  endsThere before node inside _ := by
    -- Only the beginning without any node is followed by one in a list of one node.
    cases before with
    | nil => exact inside.eq_of_length rfl |>.symm
    | cons other before => simp at inside
  included _ := ⟨[], first, rfl, stops⟩
  stops_iff := ⟨fun _ => ⟨[], first, ⟨rest, rfl⟩, stops⟩, fun _ => rfl⟩
  all := nofun

/-- A visitor that goes on behind the first node can only stop at one of the others. -/
theorem StopsAt.behind_first {before rest : List Tree} {node : Tree}
    (goesOn : (visitor start first).2 = false) (stops : visitor.StopsAt start before node)
    (inside : before ++ [node] <+: first :: rest) :
    ∃ earlier, before = first :: earlier ∧ earlier ++ [node] <+: rest ∧
      visitor.StopsAt (visitor start first).1 earlier node := by
  -- The walk does not stop at the first node, so it stops behind it.
  cases before with
  | nil =>
    obtain ⟨rfl, _⟩ := List.cons_prefix_cons.mp inside
    exact absurd (goesOn.symm.trans stops) nofun
  | cons other earlier =>
    obtain ⟨rfl, further⟩ := List.cons_prefix_cons.mp inside
    exact ⟨earlier, rfl, further, stops⟩

/-- A visitor that goes on behind the first node meets it, and then what it meets among the
others. -/
theorem Meets.goOn (goesOn : (visitor start first).2 = false) {rest : List Tree}
    (meets : Meets visitor (visitor start first).1 rest seen last stopped) :
    Meets visitor start (first :: rest) (first :: seen) last stopped where
  inOrder := (List.prefix_cons_inj first).mpr meets.inOrder
  state := meets.state
  -- Where the walk stops behind the first node, it has seen that node as well.
  endsThere before node inside stops := by
    obtain ⟨earlier, rfl, further, stops⟩ := stops.behind_first goesOn inside
    exact congrArg (first :: ·) (meets.endsThere earlier node further stops)
  included stopped := by
    obtain ⟨before, node, rfl, stops⟩ := meets.included stopped
    exact ⟨first :: before, node, rfl, stops⟩
  stops_iff := by
    rw [meets.stops_iff]
    constructor
    · rintro ⟨before, node, inside, stops⟩
      exact ⟨first :: before, node, (List.prefix_cons_inj first).mpr inside, stops⟩
    · rintro ⟨before, node, inside, stops⟩
      obtain ⟨earlier, rfl, further, stops⟩ := stops.behind_first goesOn inside
      exact ⟨earlier, node, further, stops⟩
  all passed := congrArg (first :: ·) (meets.all passed)

end Visitor

/-- Visiting nodes one after the other meets them up to the first one at which the visitor stops. -/
theorem visitAll_meets (visitor : Visitor σ) (nodes : List Tree) (start : σ) (earlier : List Tree) :
    ∃ seen last stopped, visitAll visitor.recording nodes
      ((start, earlier), false) = ((last, earlier ++ seen), stopped) ∧
      visitAll visitor nodes (start, false) = (last, stopped) ∧
      visitor.Meets start nodes seen last stopped := by
  -- Node by node; after a stop the rest is passed over.
  induction nodes generalizing start earlier with
  | nil => exact ⟨[], start, false, by rw [List.append_nil]; rfl, rfl, .nil⟩
  | cons node rest ih =>
    cases stops : (visitor start node).2 with
    | true =>
      refine ⟨[node], (visitor start node).1, true, ?_, ?_, .stop stops rest⟩
      · simp [visit, Visitor.recording, stops, visitAll_stopped]
      · rw [visitAll_cons, visit, if_neg nofun, ← visitAll_stopped visitor rest, ← stops]
    | false =>
      obtain ⟨seen, last, stopped, recorded, visited, meets⟩ :=
        ih (visitor start node).1 (earlier ++ [node])
      refine ⟨node :: seen, last, stopped, ?_, ?_, meets.goOn stops⟩
      · simpa [visit, Visitor.recording, stops] using recorded
      · rw [visitAll_cons, visit, if_neg nofun, ← visited, ← stops]

/--
A walk over a tree calls the visitor on the nodes of the tree in pre-order, each once, up to and
including the first one at which the visitor stops. The listing has each node in front of its
children and those in their order.
-/
theorem walk_meets (visitor : Visitor σ) (start : σ) {tree : Tree}
    (isTree : tree = null ∨ tree.isNode = true) :
    (preorder null = [] ∧ ∀ node : Tree,
      node.isNode = true → preorder node = node :: node.children.flatMap preorder) ∧
      ∃ seen last stopped, walk? visitor.recording (start, []) tree = some ((last, seen), stopped) ∧
        walk? visitor start tree = some (last, stopped) ∧ visitor.Meets start
          (preorder tree) seen last stopped := by
  refine ⟨⟨rfl, fun _ => preorder_node⟩, ?_⟩
  -- A walk visits the nodes in the order of their listing.
  have walks {τ : Type} (visitor : Visitor τ) (start : τ) :
      walk? visitor start tree = some (visitAll visitor (preorder tree) (start, false)) := by
    rcases isTree with rfl | isNode
    · rfl
    · rw [← walkField_eq]
      cases tree <;> first | rfl | cases isNode
  obtain ⟨seen, last, stopped, recorded, visited, meets⟩ :=
    visitAll_meets visitor (preorder tree) start []
  exact ⟨seen, last, stopped, (walks _ _).trans (congrArg some recorded),
    (walks _ _).trans (congrArg some visited), meets⟩

/-- A visitor that stops when it has been called often enough. -/
def counting (limit : Nat) : Visitor Nat := fun count _ => (count + 1, count + 1 == limit)

/--
A block with plain values among its statements and a name that is a node itself, and behind it an
alternative that is missing.
-/
def mixed : Tree :=
  .ifStatement .start (.booleanLiteral .start true)
    (.blockStatement .start
      (.list [.integer 3, .breakStatement .start .null, .list [.node .start], .text "x",
        .identifier .start (.list [.null, .node .start]) (.kindValue .infer),
        .continueStatement .start .null]))
    .null

/-- The sixth node, part of a name, ends a walk that counts to six, so the last one is not met. -/
theorem mixed_meets : (mixed = null ∨ mixed.isNode = true) ∧
    ∃ seen, walk? (counting 6).recording (0, []) mixed = some ((6, seen), true) ∧
      seen.map typeName = ["IfStatement", "BooleanLiteral", "BlockStatement", "BreakStatement",
        "Identifier", "Node"] ∧
      seen <+: preorder mixed ∧ (preorder mixed).length = 7 := by
  have isTree : mixed = null ∨ mixed.isNode = true := .inr rfl
  obtain ⟨_, seen, last, stopped, recorded, _, meets⟩ := walk_meets (counting 6) 0 isTree
  -- What the walk comes to can be computed, and the theorem says the same about it.
  have counted :
      walk? (counting 6).recording (0, []) mixed = some ((6, (preorder mixed).take 6), true) := rfl
  cases counted.symm.trans recorded
  exact ⟨isTree, _, counted, rfl, meets.inOrder, rfl⟩

end LoopLang.Tree
