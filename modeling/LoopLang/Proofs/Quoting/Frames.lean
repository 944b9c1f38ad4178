import LoopLang.Proofs.Diagnostic.Wording
import LoopLang.Proofs.Lowering.Looks
import LoopLang.Tree.Walk

/-! Names without escapes: those in a program, and those in the frames that are open while it is
lowered. -/

namespace LoopLang

open Code (Name)

/-- A node that is a name is without escapes. -/
def Tree.NameFree : Tree → Prop
  | .identifier _ (.text name) _ => EscapeFree name
  | _ => True

/-- The names among some nodes are without escapes. -/
def Tree.NamesFree (nodes : List Tree) : Prop := ∀ node ∈ nodes, node.NameFree

section

open LoopLang.Tree

variable {nodes more : List Tree}

/-- The names in no nodes are free. -/
theorem Tree.namesFree_nil : NamesFree [] := nofun

/-- The names in nodes are free one by one. -/
theorem Tree.namesFree_cons {node : Tree} :
    NamesFree (node :: nodes) ↔ node.NameFree ∧ NamesFree nodes :=
  List.forall_mem_cons

/-- The names in two lists of nodes are free if those in each are. -/
theorem Tree.namesFree_append : NamesFree (nodes ++ more) ↔ NamesFree nodes ∧ NamesFree more :=
  List.forall_mem_append

/-- The names in expressions are those in each of them. -/
theorem Expression.namesFree_cons {first : Expression} {rest : List Expression} :
    NamesFree (preorderItems (toTrees (first :: rest))) ↔
      NamesFree first.toTree.preorder ∧ NamesFree (preorderItems (toTrees rest)) := by
  have node : first.toTree.isNode := by cases first <;> rfl
  simp only [toTrees, preorderItems, node, if_true, Tree.namesFree_append]

/-- So are those in statements. -/
theorem Statement.namesFree_cons {first : Statement} {rest : List Statement} :
    NamesFree (preorderItems (toTrees (first :: rest))) ↔
      NamesFree first.toTree.preorder ∧ NamesFree (preorderItems (toTrees rest)) := by
  have node : first.toTree.isNode := by
    rcases first with _ | _ | _ | ⟨_, _ | _⟩ | _ | _ | _ | _ | _ | _ <;> rfl
  simp only [toTrees, preorderItems, node, if_true, Tree.namesFree_append]

/-- Parameters are names. -/
theorem Parameter.namesFree_iff {parameters : List Parameter} :
    NamesFree (preorderItems (parameters.map toTree)) ↔ ∀ parameter ∈ parameters,
      EscapeFree parameter.name := by
  induction parameters with
  | nil => simp [preorderItems, NamesFree]
  | cons first rest ih =>
    -- A parameter is a single node, with nothing below it.
    have single : (if first.toTree.isNode then first.toTree.preorder else []) = [first.toTree] :=
      rfl
    rw [List.map_cons, preorderItems, single, List.singleton_append, Tree.namesFree_cons, ih,
      List.forall_mem_cons]
    rfl

/-- A label is a name, if there is one. -/
theorem namesFree_labelTree {label : Option Identifier} :
    NamesFree (labelTree label).preorder ↔ ∀ name ∈ label.map Identifier.name, EscapeFree name := by
  cases label <;> simp [labelTree, Identifier.toTree, preorder, NamesFree, NameFree]

end

/-- The names in a frame are without escapes: those declared, and those of the functions that own it
and its slots. -/
structure Frame.IsFree (frame : Frame) : Prop where
  names : ∀ entry ∈ frame.symbols, EscapeFree entry.1
  owners : ∀ entry ∈ frame.symbols, ∀ slot ∈ entry.2.slot?, EscapeFree slot.function.display
  function : ∀ function ∈ frame.function, EscapeFree function.display

/-- So are those in all open frames. -/
def Scopes.IsFree (scopes : Scopes) : Prop := ∀ frame ∈ scopes.frames, frame.IsFree

/-- A refusal quotes texts without escapes. -/
def Failure.IsFree : Failure → Prop
  | .refused cause _ => cause.IsFree
  | .fault _ => True

/-- A number behind a name is written in digits. -/
theorem Code.Names.registerName_free (names : Code.Names) {base : Name}
    (free : EscapeFree base.display) :
    EscapeFree (names.registerName base).1.display := by
  unfold registerName
  split
  · exact escapeFree_append.mpr ⟨escapeFree_append.mpr ⟨free, by decide⟩, escapeFree_nat _⟩
  · exact free

namespace Scopes.IsFree

variable {scopes later : Scopes}

/-- A name that is found is one that is declared. -/
theorem lookup (free : scopes.IsFree) {name : String} {binding : Binding}
    (found : scopes.lookup name = some binding) :
    ∀ slot ∈ binding.slot?, EscapeFree slot.function.display := by
  obtain ⟨frame, member, declared⟩ := mem_of_lookup found
  exact (free frame member).owners _ declared

/-- So is one that is suggested. -/
theorem suggested (free : scopes.IsFree) {name other : String}
    (made : suggest name scopes.visibleNames = some other) :
    EscapeFree other := by
  have visible := (suggest_mem made).1
  -- A suggestion is one of the names that some frame declares.
  rw [visibleNames, List.mem_eraseDups, List.mem_flatMap] at visible
  obtain ⟨frame, member, inside⟩ := visible
  obtain ⟨entry, declared, rfl⟩ := List.mem_map.mp inside
  exact (free frame member).names _ declared

/-- The innermost function has a free name. -/
theorem function (free : scopes.IsFree) {function : Name}
    (current : scopes.function? = some function) :
    EscapeFree function.display := by
  obtain ⟨frame, innermost, owner⟩ := Option.bind_eq_some_iff.mp current
  exact (free frame (List.mem_of_head? innermost)).function _ owner

/-- A frame is opened with free names. -/
theorem push (free : scopes.IsFree) (block : Option BlockRef) {options : FrameOptions}
    (given : ∀ function ∈ options.function, EscapeFree function.display) :
    (scopes.push block options).IsFree := by
  unfold IsFree
  rw [push_frames]
  refine List.forall_mem_cons.mpr ⟨⟨nofun, nofun, fun function stands => ?_⟩, free⟩
  -- Without a function of its own a frame belongs to that of the one around it.
  replace stands : (options.function <|> scopes.function?) = some function := stands
  cases own : options.function with
  | some given_function =>
    rw [own] at stands
    exact given function (own.trans stands)
  | none =>
    rw [own] at stands
    exact free.function stands

/-- A frame is closed, with lines about blocks whose names are free. -/
theorem pop (free : scopes.IsFree) (popped : scopes.pop = .ok later) : later.IsFree := by
  cases opened : scopes.frames with
  | nil =>
    rw [Scopes.pop, opened] at popped
    cases popped
  | cons frame outer =>
    obtain ⟨closed, pops, frames, -⟩ := Builder.pop_ok opened
    cases popped.symm.trans pops
    rw [IsFree, opened] at free
    rw [IsFree, frames]
    cases outer with
    | nil => exact List.forall_mem_nil _
    | cons next rest =>
      obtain ⟨outside, around⟩ := List.forall_mem_cons.mp (List.forall_mem_cons.mp free).2
      refine List.forall_mem_cons.mpr ⟨?_, around⟩
      -- Only the block of the frame that is gone on with depends on what was closed.
      split
      · exact outside
      · exact ⟨outside.names, outside.owners, outside.function⟩

/-- Going on in another block adds no names. -/
theorem moveTo (free : scopes.IsFree) {block : BlockRef} (moved : scopes.moveTo block = .ok later) :
    later.IsFree := by
  obtain ⟨frame, outer, opened, frames, -⟩ := Builder.moveTo_ok moved
  rw [IsFree, opened] at free
  obtain ⟨inside, around⟩ := List.forall_mem_cons.mp free
  rw [IsFree, frames]
  exact List.forall_mem_cons.mpr ⟨⟨inside.names, inside.owners, inside.function⟩, around⟩

/-- A free name may be declared. -/
theorem declare (free : scopes.IsFree) {name : String} {binding : Binding}
    (name_free : EscapeFree name)
    (owner_free : ∀ slot ∈ binding.slot?, EscapeFree slot.function.display)
    (declared : scopes.declare name binding = .ok later) : later.IsFree := by
  -- Only the innermost frame changes: by one name, and one owner of its slot.
  obtain ⟨frame, outer, opened, -, -, frames⟩ := Builder.declare_ok declared
  rw [IsFree, opened] at free
  obtain ⟨inside, around⟩ := List.forall_mem_cons.mp free
  rw [IsFree, frames]
  refine List.forall_mem_cons.mpr ⟨⟨?_, ?_, inside.function⟩, around⟩
  · exact List.forall_mem_append.mpr ⟨inside.names, List.forall_mem_singleton.mpr name_free⟩
  · exact List.forall_mem_append.mpr ⟨inside.owners, List.forall_mem_singleton.mpr owner_free⟩

end Scopes.IsFree

/-- A cause that lies in what a name is bound to quotes that name and others in the open frames. -/
theorem Cause.IsOfName.isFree {scopes : Scopes} {named : String → Prop} {cause : Cause}
    (held : cause.IsOfName scopes named) (free : scopes.IsFree)
    (names : ∀ word, named word → EscapeFree word) : cause.IsFree := by
  cases cause with
  | unknownSymbol word hint | unknownFunction word hint =>
    exact ⟨names word held.1, fun other made => free.suggested (held.2.symm.trans made)⟩
  | functionAsValue word | variableAsFunction word | voidVariable word => exact names word held
  | foreignVariable word owner =>
    -- The owner that is quoted is that of the slot which the name is bound to.
    obtain ⟨used, kind, slot, declared, rfl⟩ := held
    exact ⟨names word used, free.lookup declared slot rfl⟩
  | _ => exact held.elim

end LoopLang
