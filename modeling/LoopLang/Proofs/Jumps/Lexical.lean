import LoopLang.Proofs.Lowering.Run
import LoopLang.Session.Basic

/-!
Lowering with the loops around a statement given by the text: they are handed down to what stands in
their bodies, and no frame is searched for them.
-/

namespace LoopLang

/-- A loop around a statement: its label, and the blocks that have been created for it. -/
structure EnclosingLoop where
  label : Option String
  /-- Where the loop decides about another round. -/
  nextRound : BlockRef
  /-- Where control goes behind the loop. -/
  loopExit : BlockRef
  deriving DecidableEq, Repr

namespace EnclosingLoop

/-- Whether a loop may be meant by a jump: any loop without a label, else the loop of that label. -/
def isMeant (label : Option String) (loop : EnclosingLoop) : Bool :=
  label.isNone || loop.label == label

/-- Where a jump goes that means a loop: behind it, or to where it decides about another round. -/
def target (jump : Jump) (loop : EnclosingLoop) : BlockRef :=
  match jump with
  | .break => loop.loopExit
  | .continue => loop.nextRound

/-- How the frame of the body is opened. -/
def options (loop : EnclosingLoop) : FrameOptions :=
  { isLoop := true, nextRound := some loop.nextRound, loopExit := some loop.loopExit,
    label := loop.label }

end EnclosingLoop

namespace Lowering

/-- Lowers a jump among the loops around it, innermost first: it leads to the first one that is
meant. -/
def lowerJumpWithin (loops : List EnclosingLoop) (jump : Jump) (place : Location)
    (label : Option String) : Lowering Unit :=
  match loops.find? (·.isMeant label) with
  | some loop => terminate (.jump (loop.target jump).label)
  | none => refuse (.noLoop jump label) place

/-- What a loop does in front of its condition: its blocks are created, the last of them for its
body. -/
def openLoop (label : Option String) : Lowering (EnclosingLoop × BlockRef) := do
  let suffix ← nextSuffix
  let conditionBlock ← createBlock ("loop_cond" ++ suffix)
  let bodyBlock ← createBlock ("loop_body" ++ suffix)
  let endBlock ← createBlock ("loop_end" ++ suffix)
  terminate (.jump conditionBlock.label)
  moveTo conditionBlock
  return (⟨label, conditionBlock, endBlock⟩, bodyBlock)

/-- Lowers a loop, whose body is given as it lowers itself once the loop is around it. -/
def lowerLoopWithin (condition : Tree) (label : Option String)
    (body : EnclosingLoop → Lowering Unit) : Lowering Unit := do
  let (loop, bodyBlock) ← openLoop label
  let value ← lowerCondition condition
  terminate (.branch value bodyBlock.label loop.loopExit.label)
  withFrame bodyBlock loop.options do
    body loop
    jumpUnlessTerminated loop.nextRound
  moveTo loop.loopExit

/-- A loop whose body does not depend on the loops around it is lowered as ever. -/
theorem lowerLoop_eq (condition : Tree) (label : Option String) (body : Lowering Unit) :
    lowerLoop condition label body = lowerLoopWithin condition label fun _ => body := by
  simp only [lowerLoop, lowerLoopWithin, openLoop, EnclosingLoop.options, bind_assoc, pure_bind]

end Lowering

namespace Tree

open Lowering

mutual

/--
Lowers a statement among the loops around it, innermost first. The body of a loop is in that loop,
too; the body of a function is in none.
-/
def lowerStatementWithin (loops : List EnclosingLoop) : Tree → Lowering Unit
  | functionDeclaration place (identifier _ name _) arguments (blockStatement _ content) result =>
    lowerFunction place name arguments result (lowerBodyWithin [] content)
  | blockStatement _ content => inBlock (lowerBodyWithin loops content)
  | ifStatement _ condition consequent alternate =>
    lowerChoice condition (lowerArmWithin loops consequent)
      (secondArm? alternate (lowerArmWithin loops alternate))
  | loopStatement _ condition (blockStatement _ content) label =>
    lowerLoopWithin condition (labelName? label) fun loop => lowerBodyWithin (loop :: loops) content
  | breakStatement place label => lowerJumpWithin loops .break place (labelName? label)
  | continueStatement place label => lowerJumpWithin loops .continue place (labelName? label)
  -- No statement stands in any other one.
  | tree => tree.lowerStatement
termination_by structural tree => tree

/-- Lowers an arm of a branch among the loops around it. -/
def lowerArmWithin (loops : List EnclosingLoop) : Tree → Lowering Unit
  | ifStatement _ condition consequent alternate =>
    inBlock (lowerChoice condition (lowerArmWithin loops consequent)
      (secondArm? alternate (lowerArmWithin loops alternate)))
  | blockStatement _ content => inBlock (lowerBodyWithin loops content)
  | tree => tree.lowerArm
termination_by structural tree => tree

/-- Lowers the contents of a block among the loops around it. -/
def lowerBodyWithin (loops : List EnclosingLoop) : Tree → Lowering Unit
  | list items => lowerStatementsWithin loops items
  | tree => tree.lowerBody
termination_by structural tree => tree

/-- Lowers statements in order among the loops around them. -/
def lowerStatementsWithin (loops : List EnclosingLoop) : List Tree → Lowering Unit
  | [] => return
  | statement :: rest => do
    ensureOpen
    lowerStatementWithin loops statement
    lowerStatementsWithin loops rest
termination_by structural items => items

end

/-- Lowers a whole program, which is in no loop. -/
def lowerProgramWithin (entry : Document) : Tree → Lowering Code.Name
  | program _ body => lowerEntry entry (lowerBodyWithin [] body)
  | tree => tree.lowerProgram entry

end Tree

/-- Compiles a tree with the loops around each statement given by the text. -/
def Session.compileLexically (session : Session) (program : Tree) :
    Except Failure Code.Name × Session :=
  let (result, session) := session.perform (program.lowerProgramWithin session.settings.entryName)
  match result with
  | .ok entry => (.ok entry, { session with entry := some entry })
  | .error failure => (.error failure, session)

end LoopLang
