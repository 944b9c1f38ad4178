import LoopLang.Proofs.Calls.Record
import LoopLang.Proofs.Lowering.Grammar

/-! Lowering an expression emits its calls in order, each to the function that its name means
there. -/

namespace LoopLang

open Code (Name Instruction Operand)

/-- A way through the text: it has emitted the calls in between, and leads to another place in the
same function. -/
structure Builder.Reproduces (start : Builder) (base : Nat) (spot : Spot) (sites : List CallSite)
    (behind : Spot) (finish : Builder) : Prop where
  same : behind.caller = spot.caller
  accords : finish.Accords base behind
  emits : start.Emits base sites finish

/-- Two ways can be taken one after the other. -/
theorem Builder.Reproduces.trans {start middle finish : Builder} {base : Nat}
    {spot between behind : Spot} {sites more : List CallSite}
    (first : start.Reproduces base spot sites between middle)
    (second : middle.Reproduces base between more behind finish) :
    start.Reproduces base spot (sites ++ more) behind finish :=
  ⟨second.same.trans first.same, second.accords, first.emits.trans second.emits⟩

namespace Lowering

variable {α β : Type} {base : Nat} {blocks : List BlockRef} {spot between behind : Spot}
  {sites more : List CallSite}
  {action : Lowering α}

/--
Where a computation that begins at a place in the text succeeds, it has emitted the given calls and
come to another place. On its way emission may turn to the given blocks.
-/
def Reproduces (base : Nat) (blocks : List BlockRef) (spot : Spot) (sites : List CallSite)
    (behind : Spot) (action : Lowering α) : Prop :=
  ∀ start : Builder, start.Accords base spot → (∀ block ∈ blocks, start.Offers base spot block) →
    action.Ends start (fun _ finish => start.Reproduces base spot sites behind finish)
    fun _ _ => True

/-- A computation that calls, creates and declares nothing, and stays in its block. -/
structure Calm (action : Lowering α) : Prop where
  takes : Takes Placement.IsCalm action
  frames : ∀ start, (action.outcome start).2.scopes.frames = start.scopes.frames
  cursor : ∀ start, (action.outcome start).2.scopes.cursor = start.scopes.cursor

/-- What places no calls and changes nothing in the scopes is calm. -/
theorem Calm.of_quiet (takes : Takes Placement.IsCalm action) (quiet : Quiet .inferred action) :
    Calm action :=
  ⟨takes, fun start => congrArg Scopes.frames (quiet.same start),
    fun start => congrArg Scopes.cursor (quiet.same start)⟩

namespace Reproduces

/-- A refusal reproduces any calls, as it never ends well. -/
theorem refuse (cause : Cause) (place : Location) :
    Reproduces base blocks spot sites behind (Lowering.refuse (α := α) cause place) :=
  fun _ _ _ => trivial

/-- More blocks may be offered than are needed. -/
theorem anywhere (reproduces : Reproduces base [] spot sites behind action) :
    Reproduces base blocks spot sites behind action :=
  fun start accords _ => reproduces start accords (List.forall_mem_nil _)

/-- Two computations reproduce two parts of the text, one behind the other. -/
theorem bind {next : α → Lowering β} (first : Reproduces base blocks spot sites between action)
    (second : ∀ answer, Reproduces base blocks between more behind (next answer)) :
    Reproduces base blocks spot (sites ++ more) behind (action >>= next) := by
  refine fun start accords offers => .bind (first start accords offers)
    fun answer middle begun => ?_
  -- What could be turned to in front of the first part can be so in front of the second one.
  have offered : ∀ block ∈ blocks, middle.Offers base between block := fun block member =>
    (offers block member).onward begun.emits accords.tidy begun.same
  exact (second answer middle begun.accords offered).imp (fun _ _ ended => begun.trans ended)
    fun _ _ _ => trivial

/-- A calm computation has no part in the text. -/
theorem calm (calm : Calm action) : Reproduces base blocks spot [] spot action := by
  intro start accords _
  -- What is calm emits no call and creates no function, so the record stays as it is.
  have way := calm.takes start
  have frames := calm.frames start
  have cursor := calm.cursor start
  unfold Ends at way ⊢
  split
  · rename_i answer finish outcome
    rw [outcome] at way frames cursor
    exact ⟨rfl, accords.stays way frames cursor, .of_calm way⟩
  · trivial

/-- An answer makes no calls. -/
theorem pure (answer : α) : Reproduces base blocks spot [] spot (Pure.pure answer) :=
  calm (.of_quiet (.pure _) (.pure _))

/-- What follows a calm computation. -/
theorem after {next : α → Lowering β} (first : Calm action)
    (second : ∀ answer, Reproduces base blocks spot sites behind (next answer)) :
    Reproduces base blocks spot sites behind (action >>= next) := bind (calm first) second

/-- A computation without calls may follow. -/
theorem before {next : α → Lowering β} (first : Reproduces base blocks spot sites between action)
    (second : ∀ answer, Reproduces base blocks between [] behind (next answer)) :
    Reproduces base blocks spot sites behind (action >>= next) := by
  simpa using bind first second

/-- A value that is asked for makes the calls of its expression. -/
theorem required {expression : Lowering (Option Operand)} (place : Location)
    (reproduces : Reproduces base blocks spot sites behind expression) :
    Reproduces base blocks spot sites behind (Lowering.required place expression) := by
  -- Behind the expression there are no more calls.
  rw [← List.append_nil sites]
  refine .bind reproduces fun answer => ?_
  split
  · exact .pure _
  · exact .refuse _ _

end Reproduces

/-- What is emitted is recorded, for the block that it is emitted into exists. -/
theorem emit_recorded {start : Builder} {owner : Name} (within : start.Within owner)
    (name : String) {make : String → Instruction} (plain : Code.Function.IsPlain make)
    {failed : Failure → Builder → Prop} :
    (emit name make).Ends start (fun register finish => ∃ block : BlockRef, block.function = owner ∧
      start.Steps [.emitted block (make register)] finish ∧ finish.scopes = start.scopes)
        failed := by
  obtain ⟨block, frame, outer, -, -, -, here, cursor, placed⟩ := within
  refine (emit_ends cursor).mpr ⟨block, here, ?_, rfl⟩
  obtain ⟨body, found⟩ := Option.ne_none_iff_exists'.mp placed
  -- The instruction goes to the block at hand, as a plain one with a name of its own.
  have step := Builder.Steps.none.more (.emit cursor name plain)
  rwa [List.nil_append, Code.Module.emission, found] at step

/-- A call that is emitted is one of the text, if it names the function that is meant there. -/
theorem emit_call {start : Builder} (accords : start.Accords base spot) (callee : String)
    {number : Nat} {handle : Name} (meant : start.code.numbered? base number = some handle)
    (name : String) {make : String → Instruction} (plain : Code.Function.IsPlain make)
    (calls : ∀ register, (make register).callee? = some handle) :
    (emit name make).Ends start (fun _ finish =>
      start.Reproduces base spot [⟨spot.caller, callee, some (.function number)⟩] spot finish)
        fun _ _ => True := by
  obtain ⟨owner, found, within⟩ := id accords.within
  refine (emit_recorded within name plain).imp (fun register finish recorded => ?_)
    fun _ _ held => held
  obtain ⟨block, here, steps, scopes⟩ := recorded
  -- A call creates no functions, so all of them keep their numbers.
  have handles : finish.code.handles = start.code.handles := steps.handles.trans (List.append_nil _)
  obtain ⟨tidy, grows⟩ := steps.grows accords.tidy
  obtain ⟨at_, frame, outer, opened, known, emits, own, cursor, placed⟩ := within
  refine ⟨rfl, ⟨tidy, handles ▸ accords.count, accords.declares.grow steps.prefixed
    fun name => by rw [scopes], owner,
    Code.Module.numbered?_grow steps.prefixed found, at_, frame, outer, ?_⟩, _, steps, ?_⟩
  · rw [scopes]
    exact ⟨opened, known, emits, own, cursor, Builder.body?_ne_none grows placed⟩
  -- The instruction calls the function that the number stands for.
  · rw [List.filterMap_cons, Placement.call?, calls register]
    exact .cons ⟨Code.Module.numbered?_grow steps.prefixed (found.trans (congrArg some here.symm)),
      number, rfl, Code.Module.numbered?_grow steps.prefixed meant⟩ .nil

/-- A call is emitted, whether or not it has a value. -/
theorem emitCall_reproduces {start : Builder} (accords : start.Accords base spot) (name : String)
    {callee : Callee} {number : Nat}
    (meant : start.code.numbered? base number = some callee.handle) (arguments : List Operand) :
    (emitCall callee arguments).Ends start (fun _ finish =>
      start.Reproduces base spot [⟨spot.caller, name, some (.function number)⟩] spot finish)
        fun _ _ => True := by
  unfold emitCall
  -- Only a call with a result takes a name for it; the site is the same.
  split
  · exact .bind (emit_call accords name meant _ ⟨fun _ => rfl, fun _ => .inr rfl⟩ fun _ => rfl)
      fun _ _ called => called
  -- The call is void, so that the operand behind it is dropped.
  · have unnamed : (emitUnnamed (.call none callee.handle arguments)).Ends start (fun _ finish =>
        start.Reproduces base spot [⟨spot.caller, name, some (.function number)⟩] spot finish)
          fun _ _ => True :=
      .bind (emit_call accords name meant _ (.unnamed rfl rfl) fun _ => rfl)
        fun _ _ called => called
    exact .bind unnamed fun _ _ called => called

/-- The function that a call names is the one that is declared under the name. -/
theorem resolveCallee_meets {start : Builder} (accords : start.Accords base spot)
    (place : Location) (callee : Identifier) :
    (resolveCallee place (callee.toTree .infer)).Ends start (fun found finish => finish = start ∧
      ∃ number, spot.declared.lookup callee.name = some (.function number) ∧
        start.code.numbered? base number = some found.handle) fun _ _ => True := by
  have declared := accords.declares callee.name
  unfold resolveCallee Identifier.toTree
  dsimp only
  rw [usedName_text, pure_bind, bind_ends, scopes_ends]
  -- What the scopes know of a name and what the text has declared go together.
  revert declared
  generalize start.scopes.lookup callee.name = bound, spot.declared.lookup callee.name = meant
  rintro (fits | _)
  -- The name of a variable is refused.
  · cases fits with
    | function result parameters found => exact ⟨rfl, _, rfl, found⟩
    | «variable» kind slot => trivial
  -- A name without a declaration is refused, with a hint or without.
  · exact bind_ends.mpr trivial

end Lowering

namespace Expression

open Lowering LoopLang.Tree

variable {base : Nat} {spot : Spot}

mutual

/-- Lowering an expression emits its calls, those in the arguments of a call in front of it. -/
theorem lowerExpression_reproduces : ∀ value : Expression,
    Reproduces base [] spot (value.calls spot) spot value.toTree.lowerExpression
  | .number _ _ => .pure _
  | .boolean _ _ => .pure _
  | .identifier place name => by
    rw [toTree, lowerExpression, usedName_text, pure_bind]
    refine .before (.calm (.of_quiet ?_ ?_)) fun _ => .pure _
    · exact .loadVariable Placement.isCalm_emitted name place
    · exact .loadVariable name place
  -- The callee is looked up first; its number in the text is that of its function in the code.
  | .call place callee arguments => by
    intro start accords _
    refine .bind (resolveCallee_meets accords place callee) fun found _ resolved => ?_
    obtain ⟨rfl, number, declared, meant⟩ := resolved
    have lowered : Reproduces base [] spot (callsAll spot arguments) spot
        (lowerArguments found place (.list (toTrees arguments))) := by
      rw [lowerArguments]
      by_cases count : (toTrees arguments).length = found.parameters.length
      · refine .after (.of_quiet (.checkCount _ _ _) (.checkCount _ _ _)) fun _ => ?_
        exact lowerItems_reproduces arguments _ _ _ ((toTrees_length arguments).symm.trans count)
      -- A wrong number of arguments is refused.
      · rw [checkCount, if_neg count]
        exact fun _ _ _ => trivial
    -- The calls in the arguments come in front of the call itself.
    refine .bind (lowered _ accords (List.forall_mem_nil _)) fun values middle begun => ?_
    obtain ⟨_, steps, -⟩ := id begun.emits
    -- Between its name and the call itself only the arguments are lowered, which declare nothing.
    have still := Code.Module.numbered?_grow steps.prefixed meant
    refine (emitCall_reproduces begun.accords callee.name still values).imp (fun _ _ ended => ?_)
      fun _ _ held => held
    rw [calls, declared]
    exact begun.trans ended
  -- The calls of the left operand, then those of the right one; the operation is none.
  | .binary place operator left right => by
    refine .bind (.required _ (lowerExpression_reproduces left)) fun first => ?_
    rw [← List.append_nil (right.calls spot)]
    refine .bind (.required _ (lowerExpression_reproduces right)) fun second => ?_
    rw [usedSign_text, pure_bind]
    refine .before (.calm (.of_quiet ?_ ?_)) fun _ => .pure _
    · exact .emitArithmetic Placement.isCalm_emitted _ _ _ _
    · exact .emitArithmetic _ _ _ _ fun _ => trivial
  -- The target is only looked up, so the calls are those of the value.
  | .assign place target value => by
    have resolves : Calm (resolveTarget place "=" (target.toTree .infer)) :=
      .of_quiet (.resolveTarget _ _ _) (.resolveTarget _ _ _ (fun _ => trivial) fun unnamed =>
        absurd rfl (unnamed target.place target.name _))
    refine .after resolves fun (name, kind, slot) => ?_
    rw [calls, ← List.append_nil (value.calls spot)]
    refine .bind (.required _ (lowerExpression_reproduces value)) fun _ =>
      .before (.calm (.of_quiet ?_ ?_)) fun _ => .pure _
    · exact .storeVariable Placement.isCalm_emitted _ _ _ _ _
    · exact .storeVariable _ _ _ _ _

/-- Lowering arguments emits their calls from left to right. -/
theorem lowerItems_reproduces :
    ∀ (items : List Expression) (callee : String) (position : Nat) (kinds : List ExactKind),
    items.length = kinds.length →
      Reproduces base [] spot (callsAll spot items) spot
        (lowerItems callee position kinds (toTrees items))
  | [], _, _, [], _ => .pure _
  | item :: rest, callee, position, _ :: kinds, count => by
    refine .bind (.required _ (lowerExpression_reproduces item)) fun _ => ?_
    -- The check of an argument emits nothing; its calls are those of the item.
    refine .after (.of_quiet (.checkArgument _ _ _ _ _) (.checkArgument _ _ _ _ _)) fun _ => ?_
    exact .before (lowerItems_reproduces rest callee (position + 1) kinds (Nat.succ.inj count))
      fun _ => .pure _

end

/-- So does lowering an expression that must have a value. -/
theorem lowerValue_reproduces (value : Expression) :
    Reproduces base [] spot (value.calls spot) spot value.toTree.lowerValue :=
  .required _ value.lowerExpression_reproduces

/-- And so does lowering a condition, which may be compared with zero. -/
theorem lowerCondition_reproduces (condition : Expression) :
    Reproduces base [] spot (condition.calls spot) spot (lowerCondition condition.toTree) := by
  refine .before condition.lowerValue_reproduces fun value => ?_
  split
  · exact .pure _
  -- A number is compared with zero, which is an instruction but no call.
  · exact .calm (.of_quiet
      (.bind (.emit _ ⟨fun _ => rfl, fun _ => .inr rfl⟩ fun _ _ => Placement.isCalm_emitted _ _ rfl)
        fun _ => .pure _)
      (.bind (.emit _ _) fun _ => .pure _))

end Expression

end LoopLang
