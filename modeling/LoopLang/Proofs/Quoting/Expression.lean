import LoopLang.Proofs.Blame.Expression
import LoopLang.Proofs.Lowering.Quiet
import LoopLang.Proofs.Quoting.Frames

/-! What lowering an expression quotes where it is refused: the names in it, and those that can be
seen. -/

namespace LoopLang.Lowering

open Code (Operand)

variable {α β : Type} {action : Lowering α} {wanted done : α → Prop} {place : Location}

/--
A computation that quotes texts without escapes where it refuses something, if the names in the open
frames are such; its answer is as wanted then, and the names in the frames behind it are without
escapes again.
-/
def Quotes (wanted : α → Prop) (action : Lowering α) : Prop :=
  ∀ start : Builder, start.scopes.IsFree →
    action.Ends start (fun answer finish => wanted answer ∧ finish.scopes.IsFree) fun failure _ =>
      failure.IsFree

namespace Quotes

/-- An answer quotes nothing. -/
theorem pure {answer : α} (held : wanted answer) : Quotes wanted (Pure.pure answer) :=
  fun _ free => ⟨held, free⟩

/-- A refusal quotes what its cause does. -/
theorem refuse {cause : Cause} (free : cause.IsFree) :
    Quotes wanted (Lowering.refuse cause place) :=
  fun _ _ => free

/-- A fault quotes no text. -/
theorem stop (fault : Fault) : Quotes wanted (Lowering.stop fault) := fun _ _ => trivial

/-- Two computations quote such texts one after the other. -/
theorem bind {wanted : β → Prop} {next : β → Lowering α} {action : Lowering β}
    (first : Quotes wanted action) (second : ∀ answer, wanted answer → Quotes done (next answer)) :
    Quotes done (action >>= next) :=
  fun start free => .bind (first start free) fun answer middle held =>
    second answer held.1 middle held.2

/-- What leaves the frames as they are and refuses nothing quotes nothing. -/
theorem silent (quiet : Quiet .inferred action) (blames : Blames (fun _ => False) action) :
    Quotes (fun _ => True) action := by
  refine fun start free => ((quiet start).and (blames start)).imp
    (fun _ finish held => ⟨trivial, held.1 ▸ free⟩) fun failure _ held => ?_
  -- What is left is that a rule of building may be broken.
  rcases held.2 with internal | ⟨_, _, _, impossible⟩
  · cases failure with
    | refused cause place =>
      cases cause with
      | noFunction => trivial
      | _ => cases internal
    | fault fault => trivial
  · exact impossible.elim

/-- What only looks at the open frames quotes no more than it may fail for. -/
theorem of_looks {answers : Scopes → α → Prop} {fails : Scopes → Failure → Prop}
    (looks : ∀ scopes, action.Looks scopes (answers scopes) (fails scopes))
    (answered : ∀ scopes : Scopes, scopes.IsFree → ∀ answer, answers scopes answer → wanted answer)
    (quoted : ∀ scopes : Scopes, scopes.IsFree → ∀ failure, fails scopes failure → failure.IsFree) :
    Quotes wanted action := by
  intro start free
  -- A look leaves the scopes as they are, so they are still free.
  refine (looks start.scopes).ends.imp (fun answer _ held => ?_) fun failure _ held => ?_
  · exact ⟨answered _ free answer held.1, held.2 ▸ free⟩
  · exact quoted _ free failure held.1

/-- What is computed from the open frames may use that their names are without escapes. -/
theorem scopes {next : Scopes → Lowering α}
    (second : ∀ scopes, scopes.IsFree → Quotes done (next scopes)) :
    Quotes done (Lowering.scopes >>= next) :=
  .bind (fun _ free => ⟨free, free⟩) second

/-- Behind a computation that refuses nothing. -/
theorem after {next : β → Lowering α} {action : Lowering β} (quiet : Quiet .inferred action)
    (blames : Blames (fun _ => False) action) (second : ∀ answer, Quotes done (next answer)) :
    Quotes done (action >>= next) :=
  .bind (.silent quiet blames) fun answer _ => second answer

/-- The name of the function around is free. -/
theorem currentFunction :
    Quotes (fun function => EscapeFree function.display) Lowering.currentFunction := by
  refine .of_looks (fun _ => .currentFunction) (fun _ free _ current => free.function current) ?_
  rintro _ _ _ rfl
  trivial

/-- So is the one that its frame knows. -/
theorem enclosingFunction :
    Quotes (fun (function, _) => EscapeFree function.display) Lowering.enclosingFunction := by
  refine .scopes fun scopes free => ?_
  split
  · rename_i found
    exact .pure ((free _ (List.mem_of_find?_eq_some found)).function _ rfl)
  · exact .stop _

/-- So is the name of the function that a slot is reserved in. -/
theorem createSlot (base : String) (kind : ValueKind) :
    Quotes (fun slot => EscapeFree slot.function.display) (Lowering.createSlot base kind) :=
  .bind .currentFunction fun _ held _ free => ⟨held, free⟩

/-- A name and a sign of the grammar are read as they are. -/
theorem usedName (name : String) :
    Quotes (fun used => used = name) (Lowering.usedName (.text name)) :=
  .of_looks (fun _ => .usedName _) (fun _ _ _ same => same) fun _ _ _ held =>
    absurd rfl (held.2 name)

/-- A sign is used as it stands. -/
theorem usedSign (sign : String) :
    Quotes (fun used => used = sign) (Lowering.usedSign (.text sign)) :=
  .of_looks (fun _ => .usedSign _) (fun _ _ _ same => same) fun _ _ _ held =>
    absurd rfl (held.2 sign)

/-- A name that is looked up is quoted, and so are the visible names. -/
theorem resolveVariable {name : String} (name_free : EscapeFree name) :
    Quotes (fun _ => True) (Lowering.resolveVariable name place) := by
  refine .of_looks (fun _ => .resolveVariable name place) (fun _ _ _ _ => trivial) ?_
  rintro scopes free _ ⟨cause, rfl, held⟩
  exact held.isFree free fun word same => same ▸ name_free

/-- A variable without a value is quoted by its name. -/
theorem loadVariable {name : String} (name_free : EscapeFree name) :
    Quotes (fun _ => True) (Lowering.loadVariable name place) :=
  .bind (.resolveVariable name_free) fun _ _ => .after (.emit _ _) (.emit _ _) fun _ =>
    .pure trivial

/-- So is one that gets a value of another kind. -/
theorem storeVariable {name : String} (name_free : EscapeFree name) (kind : ValueKind)
    (slot : Slot) (value : Operand) :
    Quotes (fun _ => True) (Lowering.storeVariable name kind slot value place) := by
  unfold Lowering.storeVariable
  split
  · exact .silent (.emitUnnamed _) (.emitUnnamed _)
  · exact .refuse name_free

/-- The target of an assignment is quoted by its name. -/
theorem resolveTarget {target : Identifier} (name_free : EscapeFree target.name) (kind : Kind) :
    Quotes (fun found => EscapeFree found.1)
      (Lowering.resolveTarget place "=" (target.toTree kind)) := by
  refine .of_looks (fun _ => .resolveTarget place "=" _) (fun _ _ found held => ?_) ?_
  · have same : target.name = found.1 := held.1
    exact same ▸ name_free
  -- The sign is the plain one and the target has a name, so only the name can be wrong.
  · rintro scopes free _ (⟨other, -⟩ | ⟨cause, rfl, held⟩ | ⟨unnamed, -⟩)
    · exact absurd rfl other
    · exact held.isFree free fun word same => same ▸ name_free
    · exact absurd rfl (unnamed _ _ _)

/-- So is the function that is called. -/
theorem resolveCallee {callee : Identifier} (name_free : EscapeFree callee.name) (kind : Kind) :
    Quotes (fun callee => EscapeFree callee.name)
      (Lowering.resolveCallee place (callee.toTree kind)) := by
  refine .of_looks (fun _ => .resolveCallee place _) (fun _ _ found held => ?_) ?_
  · have same : callee.name = found.name := held.1
    exact same ▸ name_free
  -- The callee has a name, so only the name can be wrong.
  · rintro scopes free _ (⟨cause, rfl, held⟩ | ⟨unnamed, -⟩)
    · exact held.isFree free fun word same => same ▸ name_free
    · exact absurd rfl (unnamed _ _ _)

/-- The number of arguments is quoted beside that name. -/
theorem checkCount {callee : Callee} (name_free : EscapeFree callee.name) (found : Nat) :
    Quotes (fun _ => True) (Lowering.checkCount callee found place) := by
  refine .of_looks (fun _ => .checkCount callee found place) (fun _ _ _ _ => trivial) ?_
  rintro _ _ _ ⟨-, rfl⟩
  exact name_free

/-- So are the kinds of an argument and its parameter. -/
theorem checkArgument {callee : String} (name_free : EscapeFree callee) (position : Nat)
    (expected : ExactKind) (value : Operand) :
    Quotes (fun _ => True) (Lowering.checkArgument callee position expected value place) := by
  refine .of_looks (fun _ => .checkArgument callee position expected value place)
    (fun _ _ _ _ => trivial) ?_
  rintro _ _ _ ⟨-, rfl⟩
  exact name_free

/-- An operator is quoted by its sign, which is free. -/
theorem emitArithmetic (operator : Operator) (left right : Operand) :
    Quotes (fun _ => True) (Lowering.emitArithmetic operator.sign left right place) := by
  have sign_free : EscapeFree operator.sign := by cases operator <;> decide
  -- An operand that is no number is refused with the sign, which is plain.
  have number (operand : Operand) : Quotes (fun _ => True)
      (Lowering.checkNumber operator.sign operand place) := by
    refine .of_looks (fun _ => .checkNumber operator.sign operand place) (fun _ _ _ _ => trivial) ?_
    rintro _ _ _ ⟨-, rfl⟩
    exact sign_free
  unfold Lowering.emitArithmetic
  split
  · exact .refuse sign_free
  · exact .bind (number left) fun _ _ => .bind (number right) fun _ _ =>
      .after (.emit _ _) (.emit _ _) fun _ => .pure trivial

/-- A missing value quotes nothing. -/
theorem required {expression : Lowering (Option Operand)}
    (quotes : Quotes (fun _ => True) expression) :
    Quotes (fun _ => True) (Lowering.required place expression) := by
  refine .bind quotes fun answer _ => ?_
  split
  · exact .pure trivial
  · exact .refuse trivial

open LoopLang.Tree in
attribute [local simp] Expression.toTree preorder Identifier.toTree namesFree_cons namesFree_append
  namesFree_nil
  NameFree Expression.namesFree_cons

open LoopLang.Tree in
mutual

/-- An expression quotes the names in it, and those that can be seen. -/
theorem expression : ∀ expression : Expression, NamesFree expression.toTree.preorder →
    Quotes (fun _ => True) expression.toTree.lowerExpression
  | .number _ _, _ => .pure trivial
  | .boolean _ _, _ => .pure trivial
  -- Whatever an expression quotes is one of the names in it.
  | .identifier _ name, names => by
    have free : EscapeFree name := by simpa using names
    refine .bind (.usedName name) fun used same => ?_
    exact .bind (.loadVariable (same ▸ free)) fun _ _ => .pure trivial
  | .assign _ target value, names => by
    obtain ⟨target_free, value_free⟩ : EscapeFree target.name ∧
      NamesFree value.toTree.preorder := by simpa using names
    exact .bind (.resolveTarget target_free _) fun (name, _, _) name_free =>
      .bind (.required (expression value value_free)) fun _ _ =>
      .bind (.storeVariable name_free _ _ _) fun _ _ => .pure trivial
  -- A call may quote its callee, for a count or a kind that is wrong.
  | .call _ callee arguments, names => by
    obtain ⟨callee_free, arguments_free⟩ :
        EscapeFree callee.name ∧ NamesFree (preorderItems (Expression.toTrees arguments)) := by
          simpa using names
    exact .bind (.resolveCallee callee_free _) fun found found_free =>
      .bind (.bind (.checkCount found_free _) fun _ _ =>
        items arguments arguments_free found_free _ _) fun _ _ =>
      .silent (.emitCall _ _) (.emitCall _ _)
  | .binary _ operator left right, names => by
    obtain ⟨left_free, right_free⟩ : NamesFree left.toTree.preorder ∧
      NamesFree right.toTree.preorder := by
        simpa using names
    exact .bind (.required (expression left left_free)) fun _ _ =>
      .bind (.required (expression right right_free)) fun _ _ =>
      .bind (.usedSign operator.sign) fun _ same =>
      same ▸ .bind (.emitArithmetic operator _ _) fun _ _ => .pure trivial

/-- An argument is quoted with the name of the callee. -/
theorem items : ∀ items : List Expression, NamesFree (preorderItems (Expression.toTrees items)) →
    ∀ {callee : String}, EscapeFree callee → ∀ (position : Nat) (kinds : List ExactKind),
      Quotes (fun _ => True) (lowerItems callee position kinds (Expression.toTrees items))
  | [], _, _, _, _, [] => .pure trivial
  -- Lists of different lengths have been refused before.
  | [], _, _, _, _, _ :: _ => .pure trivial
  | _ :: _, _, _, _, _, [] => .pure trivial
  | item :: rest, names, _, callee_free, position, _ :: kinds => by
    obtain ⟨item_free, rest_free⟩ := Expression.namesFree_cons.mp names
    exact .bind (.required (expression item item_free)) fun _ _ =>
      .bind (.checkArgument callee_free _ _ _) fun _ _ =>
        .bind (items rest rest_free callee_free (position + 1) kinds) fun _ _ => .pure trivial

end

end Quotes

end LoopLang.Lowering
