import LoopLang.Proofs.Execution.Branches
import LoopLang.Proofs.Lowering.Grammar

/-! The code of statements does what they do, and that of the functions in them what those do. -/

namespace LoopLang

open Code (Activation Module Operand Waiting)
open Evaluation (Signal)
open Lowering (answerKind returning jumpBlock?)

section Parts

variable {code : Module} {start created declared ended middle finish : Builder} {here : BlockRef}
  {function : Code.Function} {functions : List (String × Closure)}

/-- Behind the declaration of a function a call stands where it stood before. -/
theorem Lowering.Closes.mirrors {name : String} {parameters : List Lowering.TypedName}
    {kinds : List ExactKind} {result : ExactKind}
    (closes : Lowering.Closes declared ended finish result)
    (creates : Lowering.Creates start created parameters result function)
    (declares : created.Declares declared name (.fn function.name (.exact result) kinds))
    (lacks : start.Lacks name) {activation : Activation} {locals : Evaluation.Variables}
    (mirrors : start.Mirrors code activation locals) :
    finish.Mirrors code activation locals := by
  obtain ⟨block, body, current, found, body_open, at_⟩ := mirrors.placed
  obtain ⟨frame, innermost, _⟩ := Option.bind_eq_some_iff.mp current
  obtain ⟨outer, opened⟩ := List.head?_eq_some_iff.mp innermost
  have same : created.block? = start.block? := by
    rw [Builder.block?, Scopes.current?, creates.frames]; rfl
  -- Emission is back in the block that it has left, to which nothing was added.
  refine ⟨⟨block, body, closes.current.trans (declares.current.trans (same.trans current)), ?_,
    body_open, at_⟩, ?_⟩
  · refine closes.others block body ?_
    rw [declares.code, creates.bodies]
    exact found
  · have continues := declares.frames
    rw [creates.frames, opened] at continues
    exact ((opened ▸ mirrors.keeps).declareFunction (lacks frame innermost) continues).continues
      closes.frames

/-- A function returns what stands for the result that is evaluated. -/
theorem Performed.returning {answer : Option Operand}
    {evaluation : List (String × Closure) → Nat → Evaluation (Option Value)}
    (follows : Imitates start middle evaluation fun activation => activation.Gives answer)
    (more : start.Extends middle) (adds : middle.Adds finish [returning answer])
    (current : start.block? = some here)
    (owner : start.code.function? here.function = some function)
    (promised : answerKind answer = function.result) :
    Performed functions functions []
      (fun fuel => do return .return (← evaluation functions fuel)) start finish := by
  have same : finish.scopes = start.scopes := adds.scopes.trans more.scopes
  refine Enacts.plain (adds.handles.trans more.handles) (same ▸ .refl _) (List.forall_mem_nil _)
    fun code fuel leads known => ?_
  intro activation locals waiting mirrors
  rw [Evaluation.bind_ends]
  refine (follows code fuel functions
    (leads.before adds.code) known activation locals waiting mirrors).imp
    (fun result after held => ?_) id
  obtain ⟨next, arrives, gives⟩ := held
  -- The return is the next instruction when the value is there.
  obtain ⟨rest, comes⟩ :=
    arrives.mirrors.placed.rest leads fun _ _ here found _ => adds.current here found
  refine .return (arrives.goes.reaches.returns rfl (gives.returns comes))
    (gives.kind.trans (promised.trans ?_))
  -- The function of the call is the one that the statement was lowered in.
  obtain ⟨block, _, at_, _, _, stands⟩ := mirrors.placed
  cases current.symm.trans at_
  obtain ⟨_, found, inside⟩ :=
    (more.code.trans (adds.code.trans leads.grows)).functions _ function owner
  cases found.symm.trans stands.owner
  exact inside.result.symm

/-- A call goes where a jump says that ends its block. -/
theorem Builder.Mirrors.jumps {block : BlockRef} {jump : Jump} {label : Option String}
    {activation : Activation} {locals : Evaluation.Variables}
    (mirrors : start.Mirrors code activation locals) (current : start.block? = some here)
    (target : jumpBlock? start.scopes.frames jump label = some block)
    (inside : block.IsTarget start.code here.function)
    (adds : start.Adds finish [.jump block.label]) (leads : finish.Leads code)
    (waiting : List Waiting) :
    Jumps code start.scopes.frames waiting activation jump label locals := by
  obtain ⟨next, enters⟩ : ∃ next, activation.Enters code waiting next block :=
    mirrors.placed.jumps leads (fun _ _ here found => adds.current here found) fun other at_ => by
      cases current.symm.trans at_
      exact inside.1
  -- The slots are as before, and the variables of the innermost frame are left behind.
  refine ⟨block, next, target, enters.goes, enters.at_, fun frame outer opened plain => ?_⟩
  exact enters.slots ▸ (opened ▸ mirrors.keeps).tail plain

/-- A jump goes to the loop that it means, as its signal says. -/
theorem Lowering.Stage.jumps_performs (stage : Lowering.Stage start start here [])
    (here_open : start.HasOpen here) (jump : Jump) (place : Location) (label : Option String)
    {signal : Signal}
    (leaves : ∀ {code finish waiting activation after},
      Jumps code start.scopes.frames waiting activation jump label after →
      Departs code start finish waiting activation after signal) :
    (Lowering.lowerJump jump place label).LowersTo start here
      (Performed functions functions [] (fun _ => return signal) start) fun _ => True := by
  refine stage.jumps here_open jump place label
    (fun frame block found target inside finish adds => ?_) fun _ _ => trivial
  -- The block is the one that the innermost loop of this label offers.
  have goes : jumpBlock? start.scopes.frames jump label = some block :=
    Option.bind_eq_some_iff.mpr ⟨frame, found, target⟩
  refine Enacts.plain adds.handles (adds.scopes ▸ .refl _) (List.forall_mem_nil _)
    fun code fuel leads known => ?_
  intro activation locals waiting mirrors
  exact leaves (mirrors.jumps stage.current goes inside adds leads waiting)

end Parts

namespace Statement

open Lowering LoopLang.Tree

mutual

/-- The code of a statement does what the statement does. -/
theorem lowerStatement_performs :
    ∀ (statement : Statement) (functions : List (String × Closure)) {start : Builder}
    {here : BlockRef}, Stage start start here [] → start.HasOpen here →
    statement.toTree.lowerStatement.LowersTo start here
      (Performed functions (statement.functionsBehind functions) (statement.closures functions)
        (fun fuel => statement.perform (Closure.run fuel) (fuel + 1) functions) start) fun _ => True
  | .function place name parameters bodyPlace body result, functions, start, here, stage,
      here_open => by
    rw [lower_function, lowerFunction_eq, Parameter.typedNames_toTree]
    show (functionAs place name.name (parameters.map Parameter.typed) result _).LowersTo
        start here _ _
    refine stage.functionAs here_open place name.name
      (fun lacks _ function created declared creates _ declares entry begun begins => ?_)
      fun _ _ => trivial
    -- The closure that the function is to simulate, with what is visible around it.
    let closure : Closure := ⟨some name.name, parameters, body, result, functions⟩
    refine (lowerStatements_performs body closure.visible begins.stage).imp
      (fun _ ended held => ⟨held.1, fun finish closes => ?_⟩) fun _ _ held => held
    obtain ⟨⟨_, _, inside⟩, behind, performed⟩ := held
    obtain ⟨added, belong, handles, enacts⟩ := begins.enacts (declares.code ▸ creates.found)
      (creates.kinds.trans (by rw [List.map_map]; rfl)) creates.result performed inside.kept.code
      closes.closed
    refine ⟨(function.name, closure) :: added, congrArg (closure :: ·) belong, ?_,
      fun code leads => ?_⟩
    · rw [handles, declares.code, creates.handles, List.append_assoc]
      rfl
    obtain ⟨fit, enacts⟩ := enacts code leads
    refine ⟨fit, fun fuel known simulate => ?_⟩
    -- The function is visible in its own body, and behind its declaration.
    have visible : Knows (Simulates code fuel) declared.scopes.frames closure.visible :=
      known.declareFunction lacks (creates.frames ▸ declares.frames) (simulate _ List.mem_cons_self)
    refine ⟨visible.continues closes.frames (List.forall_mem_nil _),
      enacts fuel visible simulate, ?_⟩
    intro activation locals waiting mirrors
    exact .next ⟨.refl _ _, rfl⟩ (closes.mirrors creates declares lacks mirrors)
  | .declare place name stated value, functions, start, here, stage, here_open => by
    rw [lower_declare]
    refine stage.declaration here_open place (.text name.name) (statedKind stated)
      (fun log kind settled => ?_) (fun _ _ _ => trivial) fun odd => absurd rfl (odd name.name)
    have begins := stage.logged log
    have ready := begins.ready here_open
    have computes := lowerExpression_computes_all.1 value.toTree _ begins.sound ready
    have answers := @Expression.lowerExpression_answers _ stage.sound.definite (start.logged log)
      (fun _ => rfl) value
    refine Ends.imp (Ends.and
      (Ends.and computes (value.lowerExpression_follows begins.sound ready)) answers.ends)
      (fun answer middle held => ⟨fun lacks more finish binds => ?_, fun _ _ => trivial⟩)
      fun _ _ _ => trivial
    obtain ⟨⟨⟨sound, _, _⟩, follows⟩, inferred⟩ := held
    -- The variable has the kind of its value, whether that is stated or inferred.
    have same := binds.settled settled inferred
    have passes := binds.passes
    obtain ⟨_, continues, plain⟩ := binds.plain
    rw [more.scopes] at continues
    refine Enacts.plain (passes.handles.trans more.handles) continues plain
      fun code fuel leads known => ?_
    intro activation locals waiting mirrors
    refine Evaluation.bind_ends.mpr ?_
    refine (follows code fuel functions (leads.before passes.code) known activation locals waiting
      ⟨mirrors.placed, mirrors.keeps⟩).imp (fun result after held => ?_) id
    obtain ⟨next, arrives, gives⟩ := held
    -- The value is stored under its name behind its evaluation.
    obtain ⟨layer, around, last, rfl, goes, mirrors, _⟩ := binds.arrives waiting same sound
      (fun frame innermost => lacks frame (more.scopes ▸ innermost)) arrives.mirrors leads gives
    exact .next (arrives.goes.trans goes) mirrors
  -- What has statements in it performs them in a frame of its own.
  | .block place body, functions, start, here, stage, here_open => by
    rw [lower_block]
    exact (PerformsAll.inBlock (lowerStatements_performs body functions) stage here_open).imp
      (fun _ _ held => ⟨held.1, held.2.2⟩) fun _ _ held => held
  | .return place none, functions, start, here, stage, here_open => by
    refine stage.returns here_open place fun function owner =>
      ⟨fun promised more _ finish adds => ?_, fun _ _ => trivial⟩
    -- Nothing has to be evaluated for a return without a value.
    have follows : Imitates start start (fun _ _ => pure none) fun activation =>
        activation.Gives none := by
      intro code fuel functions leads known activation locals waiting mirrors
      exact ⟨activation, mirrors.arrives waiting, .nothing⟩
    exact Performed.returning follows more adds stage.current owner promised
  | .return place (some value), functions, start, here, stage, here_open => by
    refine stage.returns here_open place fun function owner => ?_
    have given : value.toTree ≠ .null := by cases value <;> exact nofun
    rw [returned_eq given]
    refine Ends.imp (value.lowerExpression_follows stage.sound (stage.ready here_open))
      (fun answer middle follows => ⟨fun promised more _ finish adds => ?_, fun _ _ => trivial⟩)
      fun _ _ _ => trivial
    exact Performed.returning follows more adds stage.current owner promised
  | .when place condition thenPlace thenBody, functions, start, here, stage, here_open => by
    rw [lower_when]
    exact PerformsArm.when (PerformsAll.inBlock (lowerStatements_performs thenBody functions)) stage
      here_open condition
  | .choose place condition thenPlace thenBody elsePlace elseBody, functions, start, here, stage,
      here_open => by
    rw [lower_choose]
    exact PerformsArm.choose (PerformsAll.inBlock (lowerStatements_performs thenBody functions))
      (PerformsAll.inBlock (lowerStatements_performs elseBody functions)) stage here_open condition
  | .loop place condition bodyPlace body label, functions, start, here, stage, here_open => by
    rw [lower_loop]
    exact PerformsAll.loop (lowerStatements_performs body functions) stage here_open condition
      (label.map Identifier.name)
  | .break place label, functions, start, here, stage, here_open => by
    rw [lower_break]
    exact stage.jumps_performs here_open .break place _ .break
  | .continue place label, functions, start, here, stage, here_open => by
    rw [lower_continue]
    exact stage.jumps_performs here_open .continue place _ .continue
  -- The value is dropped, but its calls and assignments have happened.
  | .evaluate value, functions, start, here, stage, here_open => by
    refine stage.drops here_open
      (Ends.imp (value.lowerExpression_follows stage.sound (stage.ready here_open))
      (fun answer finish follows more => ?_) fun _ _ _ => trivial)
    refine Enacts.plain more.handles (more.scopes ▸ .refl _) (List.forall_mem_nil _)
      fun code fuel leads known => ?_
    intro activation locals waiting mirrors
    refine Evaluation.bind_ends.mpr
      ((follows code fuel functions leads known activation locals waiting mirrors).imp
      (fun result after held => ?_) id)
    obtain ⟨next, arrives, _⟩ := held
    exact .next arrives.goes arrives.mirrors

/-- The code of statements does what they do one after the other. -/
theorem lowerStatements_performs :
    ∀ (statements : List Statement) (functions : List (String × Closure)),
    (lowerStatements (toTrees statements)).PerformsAll functions (closuresAll functions statements)
      fun fuel => performAll (Closure.run fuel) (fuel + 1) functions statements
  | [], functions, start, here, stage => by
    refine stage.nothing ⟨functions, Enacts.plain rfl (.refl _) (List.forall_mem_nil _)
      fun code fuel leads known => ?_⟩
    intro activation locals waiting mirrors
    exact .next ⟨.refl _ _, rfl⟩ mirrors
  | statement :: rest, functions, start, here, stage => by
    refine stage.sequence fun opened last reopens stage last_open => ?_
    refine (lowerStatement_performs statement functions stage last_open).imp
      (fun _ middle held => ⟨held.1, fun next stage => ?_⟩) fun _ _ held => held
    obtain ⟨⟨_, _, first⟩, performed⟩ := held
    refine (lowerStatements_performs rest (statement.functionsBehind functions) stage).imp
      (fun _ finish held => ⟨held.1, ?_⟩) fun _ _ held => held
    obtain ⟨⟨_, _, others⟩, behind, also_performed⟩ := held
    -- The others begin where the first one ends, and find the function that it may have declared.
    have joined := performed.join (.refl middle) also_performed others.kept.code
    have passes : start.Passes opened := .of_continues reopens.code reopens.handles reopens.frames
    refine ⟨behind, joined.around passes (.refl _) rfl (fun _ _ known => known)
      fun code fuel leads known acts => ?_⟩
    obtain ⟨acts, rest_acts⟩ := acts
    intro activation locals waiting mirrors
    -- A call that comes here stands in an open block, so that emission has gone on in it.
    obtain rfl := reopens.stays mirrors.placed.ready
    obtain ⟨_, continues⟩ := first.kept.frames
    refine (acts activation locals waiting mirrors).thereafter (fun after departs => ?_)
      fun _ _ other departs =>
        departs.elsewhere other
    -- The rest is reached only if the first statement goes on to it.
    cases departs with
    | next goes mirrors =>
      exact (rest_acts _ after waiting mirrors).imp
        (fun _ _ departs => departs.before goes continues) goes.reaches.lasts

end

end Statement

end LoopLang
