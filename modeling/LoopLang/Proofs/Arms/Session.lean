import LoopLang.Proofs.Arms.Bare
import LoopLang.Proofs.History
import LoopLang.Proofs.Lowering.Agreement

/-! Branches as arms of branches: it makes no difference whether there is a block around them. -/

namespace LoopLang

open Lowering

namespace Tree

/-- An arm is lowered in the same way without a block that has nothing in it but a branch. -/
theorem unwrapArm_agrees (arm : Tree) : Agrees arm.lowerArm arm.unwrapArm.lowerArm := by
  unfold unwrapArm
  split
  · rename_i place start condition consequent alternate
    -- A block around a single branch opens a frame, in which nothing is declared.
    have lowers : Lowers (lowerStatements [ifStatement start condition consequent alternate]) :=
      (lower_all.2.2.2 _).lowers
    exact (Agrees.single (ifStatement start condition consequent alternate).lowerStatement).inBlock
      lowers
  · exact .refl _

/-- The second arm of a branch is there without its block if it was there before. -/
theorem unwrapArm_secondArm? (arm : Tree) (lowered : Lowering Unit) :
    secondArm? arm.unwrapArm lowered = secondArm? arm lowered := by
  unfold unwrapArm
  split <;> rfl

/-- There is a second arm exactly if there was one. -/
theorem bareArms_secondArm? (arm : Tree) (lowered : Lowering Unit) :
    secondArm? arm.bareArms lowered = secondArm? arm lowered := by
  cases arm <;> simp only [bareArms, secondArm?]

/-- A branch is lowered in the same way if its arms are. -/
theorem choice_agrees (condition : Tree) {consequent alternate : Tree}
    (first : Agrees consequent.lowerArm consequent.bareArms.lowerArm)
    (second : Agrees alternate.lowerArm alternate.bareArms.lowerArm) :
    Agrees (lowerChoice condition consequent.lowerArm (secondArm? alternate alternate.lowerArm))
      (lowerChoice condition.bareArms consequent.bareArms.unwrapArm.lowerArm
        (secondArm? alternate.bareArms.unwrapArm alternate.bareArms.unwrapArm.lowerArm)) := by
  -- An arm agrees with itself in a block, and so with its bare form.
  have first := first.trans (unwrapArm_agrees _)
  have second := second.trans (unwrapArm_agrees _)
  rw [unwrapArm_secondArm?, bareArms_secondArm?, bareArms_lowerChoice]
  -- There is a second arm in both branches or in neither.
  unfold secondArm?
  split
  · exact first.chooseWhether condition (lower_all.2.1 _)
  · exact first.choose second condition (lower_all.2.1 _) (lower_all.2.1 _)

/-- A variable without a name is refused, whatever its value is. -/
theorem unnamed_bareArms {place : Location} {id init : Tree}
    (noName : ∀ place name kind, id = .identifier place name kind → False) :
    Agrees (lowerStatement (variableDeclaration place id init))
      (lowerStatement (variableDeclaration place id init).bareArms) := by
  -- A name would be an identifier, and everything else is refused before the value is read.
  cases id with
  | identifier => exact absurd rfl (noName _ _ _)
  | _ =>
    simp only [bareArms, lowerStatement]
    exact .refl _

/-- With bare arms any tree is lowered in the same way, as a statement, as an arm, and as the inside
of a block. -/
theorem bareArms_agrees :
    (∀ tree, Agrees (lowerStatement tree) (lowerStatement tree.bareArms)) ∧
      (∀ tree, Agrees (lowerArm tree) (lowerArm tree.bareArms)) ∧
      (∀ tree, Agrees (lowerBody tree) (lowerBody tree.bareArms)) ∧
      ∀ items, AgreesAll (lowerStatements items) (lowerStatements (bareItems items)) := by
  -- By induction on the tree, along the recursion of the lowering.
  refine lowerStatement.mutual_induct
    (fun tree => Agrees (lowerStatement tree) (lowerStatement tree.bareArms))
    (fun tree => Agrees (lowerArm tree) (lowerArm tree.bareArms))
    (fun tree => Agrees (lowerBody tree) (lowerBody tree.bareArms))
    (fun items => AgreesAll (lowerStatements items) (lowerStatements (bareItems items)))
    ?functionDeclaration ?noFunctionBody ?noFunctionName ?variableDeclaration ?noVariableName
    ?blockStatement
    ?returnStatement ?ifStatement ?loopStatement ?noLoopBody ?breakStatement ?continueStatement
    ?expressionStatement ?other ?armIf ?armBlock ?noArm ?list ?emptyText ?text ?noList ?nil ?cons
  -- What has statements in it agrees because these do.
  case functionDeclaration =>
    intro place arguments result _ name _ _ content agrees
    simp only [bareArms, lowerStatement, bareArms_lowerFunction]
    exact agrees.function place name arguments result (lower_all.2.2.1 _)
  -- What is no body stays none.
  case noFunctionBody =>
    intro place arguments body result _ name _ noBlock
    cases body <;>
      first | exact absurd rfl (noBlock _ _) | (simp only [bareArms, lowerStatement]; exact .refl _)
  case noFunctionName =>
    intro place named arguments body result noName _
    cases named <;>
      first
      | exact absurd rfl (noName _ _ _)
      | (simp only [bareArms, lowerStatement]; exact .refl _)
  case variableDeclaration =>
    intro place value _ name stated
    simp only [bareArms, lowerStatement, bareArms_lowerDeclaration]
    exact .refl _
  -- Without a name both are refused before the value is read.
  case noVariableName => exact fun _ _ _ noName => unnamed_bareArms noName
  case blockStatement => exact fun place content agrees => agrees.inBlock (lower_all.2.2.1 _)
  case returnStatement =>
    intro place value
    simp only [bareArms, lowerStatement, bareArms_lowerReturn]
    exact .refl _
  -- A branch agrees because both of its arms do.
  case ifStatement =>
    exact fun place condition consequent alternate first second =>
      choice_agrees condition first second
  case loopStatement =>
    intro place condition label _ content agrees
    simp only [bareArms, lowerStatement, bareArms_lowerLoop, bareArms_labelName?]
    exact agrees.loop condition _ (lower_all.2.2.1 _)
  case noLoopBody =>
    intro place condition body label noBlock
    cases body <;>
      first | exact absurd rfl (noBlock _ _) | (simp only [bareArms, lowerStatement]; exact .refl _)
  case breakStatement =>
    intro place label
    simp only [bareArms, lowerStatement, bareArms_labelName?]
    exact .refl _
  case continueStatement =>
    intro place label
    simp only [bareArms, lowerStatement, bareArms_labelName?]
    exact .refl _
  case expressionStatement =>
    intro place expression
    simp only [bareArms, lowerStatement, bareArms_lowerExpression]
    exact .refl _
  -- No other sort of tree becomes a statement.
  case other =>
    intro tree noFunction noVariable noBlock noReturn noIf noLoop noBreak noContinue noExpression
    cases tree <;> first
      | (simp only [bareArms, lowerStatement, typeName, Tree.place]; exact .refl _)
      | exact absurd rfl (noFunction _ _ _ _ _)
      | exact absurd rfl (noVariable _ _ _)
      | exact absurd rfl (noBlock _ _)
      | exact absurd rfl (noReturn _ _)
      | exact absurd rfl (noIf _ _ _ _)
      | exact absurd rfl (noLoop _ _ _ _)
      | exact absurd rfl (noBreak _ _)
      | exact absurd rfl (noContinue _ _)
      | exact absurd rfl (noExpression _ _)
  -- A branch as an arm is wrapped into a block on one side only.
  case armIf =>
    intro place condition consequent alternate first second
    exact (choice_agrees condition first second).inBlock
      (lowerChoice_lowers (lower_all.2.1 _) (secondArm_forall (lower_all.2.1 _)))
  case armBlock => exact fun place content agrees => agrees.inBlock (lower_all.2.2.1 _)
  case noArm =>
    intro tree noIf noBlock
    cases tree <;> first
      | exact absurd rfl (noIf _ _ _ _)
      | exact absurd rfl (noBlock _ _)
      | (simp only [bareArms, lowerArm, typeName, Tree.place]; exact .refl _)
  case list =>
    intro items agree
    simp only [bareArms, lowerBody]
    exact agree.agrees
  case emptyText => exact fun value _ => .refl _
  case text => exact fun value _ => .refl _
  case noList =>
    intro tree noList noText
    cases tree <;> first
      | exact absurd rfl (noList _)
      | exact absurd rfl (noText _)
      | (simp only [bareArms, lowerBody, typeName]; exact .refl _)
  case nil => exact fun _ _ _ => rfl
  -- Statement by statement; a list of statements has no arms of its own.
  case cons =>
    intro statement rest agrees agree
    exact .cons agrees agree (lower_all.1 _) (lower_all.2.2.2 _)

/-- So is any tree as a program. -/
theorem bareArms_lowerProgram {start : Builder} (sound : start.Sound) (entry : Document)
    (tree : Tree) :
    (tree.lowerProgram entry).outcome start = (tree.bareArms.lowerProgram entry).outcome start := by
  cases tree with
  | program place body =>
    exact (bareArms_agrees.2.2.1 body).entry (lower_all.2.2.1 body) sound entry
  | _ => simp only [bareArms, lowerProgram, typeName, Tree.place]

end Tree

namespace Session

/-- With bare arms a tree is compiled in the same way. -/
theorem compile_bareArms {session : Session} (sound : session.builder.Sound) (tree : Tree) :
    session.compile tree = session.compile tree.bareArms := by
  rw [compile_eq, compile_eq, tree.bareArms_lowerProgram sound]

/--
Trees that differ only in which arms of branches are blocks with nothing in them but a branch, and
which are that branch itself, are compiled in the same way, whatever a session has compiled before:
with the same answer or failure, and to the same code, number of blocks and debug lines.
-/
theorem compile_ignores_armBlocks {overrides : Document} {debug : Bool} {session : Session}
    (started : Session.start overrides debug = .ok session) (history : List Tree)
    {first second : Tree} (alike : first.bareArms = second.bareArms) :
    (session.compileAll history).2.compile first =
      (session.compileAll history).2.compile second := by
  have current := compileAll_sound started history
  rw [compile_bareArms current first, alike, ← compile_bareArms current second]

/-- A condition with an alternative that has a condition of its own, which is a block as in every
parsed program. -/
def chained : Program :=
  ⟨[.choose ⟨1, 1⟩ (.boolean ⟨1, 5⟩ true) ⟨1, 11⟩ [] ⟨1, 14⟩
    [.when ⟨1, 19⟩ (.boolean ⟨1, 23⟩ false) ⟨1, 30⟩ []]]⟩

/-- The same without that block. -/
def bareChain : Tree :=
  .program ⟨1, 1⟩
    (.list [.ifStatement ⟨1, 1⟩ (.booleanLiteral ⟨1, 5⟩ true) (.blockStatement ⟨1, 11⟩ (.list []))
    (.ifStatement ⟨1, 19⟩ (.booleanLiteral ⟨1, 23⟩ false)
      (.blockStatement ⟨1, 30⟩ (.list [])) .null)])

/-- Both of them are compiled, and to the same. -/
theorem chained_ignores_armBlocks : ∃ session, Session.start (.object []) false = .ok session ∧
    chained.toTree.bareArms = bareChain.bareArms ∧ (session.compile bareChain).1.isOk ∧
    session.compile chained.toTree = session.compile bareChain :=
  ⟨_, rfl, rfl, by decide +kernel,
    @compile_ignores_armBlocks (.object []) false _ rfl [] chained.toTree bareChain rfl⟩

end Session

end LoopLang
