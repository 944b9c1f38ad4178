import LoopLang.Proofs.Calls.Frames
import LoopLang.Proofs.Layout.Slots

/-! Lowering statements emits their calls in the order of the text, and creates a function for each
declaration. -/

namespace LoopLang

open Code (Function Instruction Module Name)

namespace Lowering

variable {base : Nat} {blocks : List BlockRef} {spot between behind : Spot}
  {sites more : List CallSite}
  {body : Lowering Unit}

namespace Calm

/-- Looking for the innermost frame makes no calls. -/
theorem currentFrame : Calm Lowering.currentFrame := .of_quiet .currentFrame .currentFrame

/-- Nor does counting a branch. -/
theorem nextSuffix : Calm Lowering.nextSuffix := .of_quiet .nextSuffix .nextSuffix

/-- Nor does ending a block. -/
theorem terminate {instruction : Instruction} (plain : Function.IsPlain fun _ => instruction)
    (no_call : instruction.callee? = none) : Calm (Lowering.terminate instruction) :=
  .of_quiet (.terminate plain fun block => Placement.isCalm_emitted block _ no_call) (.terminate _)

/-- Nor does a jump at its end. -/
theorem jumpUnlessTerminated (block : BlockRef) : Calm (Lowering.jumpUnlessTerminated block) := by
  refine .of_quiet (.jumpUnlessTerminated Placement.isCalm_emitted block)
    (.bind .isTerminated fun ended => ?_)
  split
  · exact .pure _
  · exact .terminate _

/-- Nor does the return at the end of a function. -/
theorem closeFunction (result : ExactKind) : Calm (Lowering.closeFunction result) := by
  refine .of_quiet (.closeFunction Placement.isCalm_emitted result)
    (.bind .isTerminated fun ended => ?_)
  split
  · exact .pure _
  · split <;> exact .terminate _

/-- Nor does a jump of the text. -/
theorem jump (jump : Jump) (place : Location) (label : Option String) :
    Calm (lowerJump jump place label) := by
  refine .of_quiet (.jump Placement.isCalm_emitted jump place label)
    (.bind .currentFrame fun _ => .scopes fun scopes => ?_)
  -- A jump is refused or ends the block; neither is a call.
  split
  · exact .refuse trivial
  · split
    · exact .terminate _
    · exact .stop trivial

/-- What is inferred is only noted. -/
theorem inferKind (name : String) (value : Tree) : Calm (Lowering.inferKind name value) := by
  refine ⟨.inferKind name value, fun start => ?_, fun start => ?_⟩ <;>
    rw [Lowering.inferKind, scopes_bind_outcome] <;> split <;> rfl

/-- Nor does reserving a slot. -/
theorem createSlot (name : String) (kind : ValueKind) : Calm (Lowering.createSlot name kind) :=
  .of_quiet (.createSlot name kind fun _ _ => ⟨rfl, rfl⟩) (.createSlot name kind)

/-- Nor does storing a value. -/
theorem storeVariable (name : String) (kind : ValueKind) (slot : Slot) (value : Code.Operand)
    (place : Location) :
    Calm (Lowering.storeVariable name kind slot value place) :=
  .of_quiet (.storeVariable Placement.isCalm_emitted _ _ _ _ _) (.storeVariable _ _ _ _ _)

end Calm

namespace Reproduces

/-- A variable is declared without a call, and is visible from then on. -/
theorem declareVariable (name reserved : String) (kind : ValueKind) (value : Code.Operand)
    (place : Location) :
    Reproduces base blocks spot [] (spot.declare name)
      (Lowering.declareVariable name reserved kind value place) := by
  refine .after .currentFrame fun frame => ?_
  dsimp only
  split
  -- Without a frame there is an internal failure.
  · exact fun _ _ _ => trivial
  -- The slot and the store are no calls; only the name is new.
  · exact .after (.createSlot _ _) fun slot => .after (.storeVariable _ _ _ _ _) fun _ =>
      .declare name _ _ _

/-- Every parameter is declared. -/
theorem storeParameters :
    ∀ (registers : List (String × ValueKind)) (parameters : List TypedName) {spot : Spot},
    registers.length = parameters.length → Reproduces base blocks spot []
      ((parameters.map TypedName.name).foldl Spot.declare spot)
        (Lowering.storeParameters registers parameters)
  | [], [], _, _ => .pure ()
  | (_, _) :: registers, ⟨_, _, _⟩ :: parameters, _, same =>
    .bind (.declareVariable _ _ _ _ _) fun _ => storeParameters registers parameters
      (Nat.succ.inj same)

/-- The name of a variable is declared behind its value. -/
theorem declaration (place : Location) (name : String) (stated : Kind) (value : Expression) :
    Reproduces base [] spot (value.calls spot) (spot.declare name)
      (lowerDeclaration place (.text name) (.kindValue stated) value.toTree) := by
  rw [lowerDeclaration_eq, carriedKind_kindValue, pure_bind]
  -- Whether the kind is stated or inferred, nothing is emitted for it.
  have settles : Calm (if stated.isExact then Pure.pure stated
      else Lowering.inferKind name value.toTree) := by
    split
    · exact .of_quiet (.pure _) (.pure _)
    · exact .inferKind name _
  refine .after settles fun kind => ?_
  unfold declareAs
  rw [declaredName_text]
  split
  -- A void value is lowered for its calls, and only then is the name declared.
  · exact .before value.lowerExpression_reproduces fun _ => .declare name _ _ _
  · refine .before value.lowerValue_reproduces fun initial => ?_
    split
    · exact .declareVariable _ _ _ _ _
    · exact .refuse _ _

/-- The end of a function reproduces what is returned. -/
theorem ending (place : Location) {value : Tree}
    (returned : value ≠ .null → Reproduces base [] spot sites spot value.lowerExpression)
    (missing : value = .null → sites = []) :
    Reproduces base [] spot sites spot (lowerReturn place value) := by
  refine .after (.of_quiet .enclosingFunction .enclosingFunction) fun (function, expected) => ?_
  dsimp only
  split
  -- Without a value there is nothing to call.
  · exact missing rfl ▸ .calm (.terminate (.unnamed rfl rfl) rfl)
  · exact .refuse _ _
  -- A function without a result takes no value, and what was called before is in the code.
  · rename_i given _
    refine .before (returned given) fun answer => ?_
    split
    · exact .refuse _ _
    · exact .calm (.terminate (.unnamed rfl rfl) rfl)
  -- A function with a result takes one of its own kind.
  · rename_i given _
    refine .before (.required _ (returned given)) fun result => ?_
    split
    · exact .calm (.terminate (.unnamed rfl rfl) rfl)
    · exact .refuse _ _

/-- A branch reproduces its condition, then its arms. -/
theorem choice (condition : Expression) {consequent : Lowering Unit}
    {alternate : Option (Lowering Unit)}
    (first : Reproduces base [] spot sites between consequent)
    (second : ∀ arm ∈ alternate, Reproduces base [] between more behind arm)
    (missing : alternate = none → more = [] ∧ behind = between) :
    Reproduces base blocks spot (condition.calls spot ++ (sites ++ more)) behind
      (lowerChoice condition.toTree consequent alternate) := by
  refine .after .nextSuffix fun _ => .bind condition.lowerCondition_reproduces.anywhere fun value =>
    .createBlock _ fun thenBlock => ?_
  split
  · refine .createBlock _ fun elseBlock => .createBlock _ fun mergeBlock => ?_
    refine .after (.terminate (.unnamed rfl rfl) rfl) fun _ => ?_
    -- The calls of the first arm are recorded in front of those of the second one.
    refine .turn (by simp) fun _ => .bind first.anywhere fun _ => ?_
    refine .after (.jumpUnlessTerminated _) fun _ => .turn (by simp) fun _ => ?_
    refine .before (second _ rfl).anywhere fun _ => .after (.jumpUnlessTerminated _) fun _ => ?_
    exact .moveTo (by simp)
  · obtain ⟨rfl, rfl⟩ := missing rfl
    rw [List.append_nil]
    refine .createBlock _ fun mergeBlock => .after (.terminate (.unnamed rfl rfl) rfl) fun _ => ?_
    refine .turn (by simp) fun _ => .before first.anywhere fun _ => ?_
    exact .after (.jumpUnlessTerminated _) fun _ => .moveTo (by simp)

/-- A loop reproduces its condition and its body once, however often it runs. -/
theorem loop (condition : Expression) (label : Option String) (nested : Nested body)
    (inside : Reproduces base [] spot sites behind body) {functions : Nat}
    (count : behind.next = spot.next + functions) :
    Reproduces base blocks spot (condition.calls spot ++ sites) (spot.skip functions)
      (lowerLoop condition.toTree label body) := by
  refine .after .nextSuffix fun _ => .createBlock _ fun conditionBlock =>
    .createBlock _ fun bodyBlock => .createBlock _ fun endBlock => ?_
  refine .after (.terminate (.unnamed rfl rfl) rfl) fun _ => .turn (by simp) fun _ => ?_
  -- The calls of the condition are recorded in front of those of the body.
  refine .bind condition.lowerCondition_reproduces.anywhere fun value =>
    .after (.terminate (.unnamed rfl rfl) rfl) fun _ => ?_
  refine .before (.withFrame rfl rfl (by simp) ?_ ?_ count) fun _ => .moveTo (by simp)
  · exact .bind nested fun _ => .jumpUnlessTerminated _
  · exact .before inside.anywhere fun _ => .calm (.jumpUnlessTerminated _)

end Reproduces

/-! Functions. -/

/-- A function that is created gets the next number. -/
theorem createTypedFunction_numbers {start : Builder} (tidy : start.code.Tidy) {next : Nat}
    (count : start.code.handles.length = base + next) (name : Name) (parameters : List TypedName)
    (result : ExactKind) :
    (createTypedFunction name parameters result).Ends start (fun function finish =>
      Lays.Introduces start finish parameters function ∧ start.Steps
        [.created function.name] finish ∧
        finish.scopes.cursor = start.scopes.cursor ∧ finish.code.numbered? base next =
          some function.name) fun _ _ => True := by
  -- The handle is added behind all others, so it has the next number.
  have numbers : (createTypedFunction name parameters result).Ends start (fun function finish =>
      start.Steps [.created function.name] finish ∧ finish.scopes.cursor = start.scopes.cursor ∧
        finish.code.numbered? base next = some function.name) fun _ _ => True := by
    unfold createTypedFunction
    rw [bind_ends, createFunction_ends, bind_ends, note_ends]
    refine ⟨(Builder.Steps.none.more (.addFunction start name _ result)).more (.note _ _), rfl, ?_⟩
    show (start.code.addFunction name _ result).2.handles[base + next]? = _
    rw [Module.handles_addFunction, ← count, List.getElem?_concat_length]
    rfl
  -- What the new function looks like has been shown for the layout of slots.
  have introduces : (createTypedFunction name parameters result).Ends start
      (fun function finish => Lays.Introduces start finish parameters function) fun _ _ => True :=
    Lays.createTypedFunction_introduces tidy name parameters result
  exact (introduces.and numbers).imp (fun _ _ held => held) fun _ _ _ => trivial

/-- The body of a function is lowered in a frame and in blocks of its own, and behind it the frames
around go on. -/
theorem functionBody_emits {function : Function} {parameters : List TypedName} (start : Builder)
    (spot : Spot) (tidy : start.code.Tidy)
    (exists_function : start.code.function? function.name ≠ none)
    (same : function.parameters.length = parameters.length)
    (numbered : start.code.numbered? base spot.caller = some function.name)
    (count : start.code.handles.length = base + spot.next)
    (declares : start.scopes.Declare start.code base spot.declared) (nested : Nested body)
    (inside : Reproduces base []
      ((parameters.map TypedName.name).foldl Spot.declare spot) sites behind body) :
    (lowerFunctionBody function parameters body).Ends start
      (fun _ finish => start.Emits base sites finish ∧
      finish.code.handles.length = base + behind.next ∧ finish.scopes.frames = start.scopes.frames ∧
        ∀ frame ∈ finish.scopes.current?, finish.scopes.cursor = frame.block) fun _ _ => True := by
  unfold lowerFunctionBody
  refine bind_ends.mpr (addBlock_ends.mpr ?_)
  -- The way to the start of the body, on which nothing is emitted.
  have opens : start.Steps []
      { start with code := (start.code.addBlock function.name "entry").2 } :=
    .more .none (.addBlock start function.name "entry")
  have enters := opens.more
    (.push _ (some ⟨function.name, (start.code.addBlock function.name "entry").1⟩)
      (functionOptions function))
  have handles := opens.handles
  rw [List.filterMap_nil, List.append_nil] at handles
  obtain ⟨held, found⟩ := Option.ne_none_iff_exists'.mp exists_function
  -- In the frame of the body only the names from before and the parameters are known.
  have begins : Builder.Accords { start with
      code := (start.code.addBlock function.name "entry").2
      scopes := start.scopes.push
        (some ⟨function.name, (start.code.addBlock function.name "entry").1⟩)
        (functionOptions function) }
      base spot := by
    refine ⟨tidy.addBlock "entry" function.name, (congrArg List.length handles).trans count,
      declares.grow opens.prefixed fun name => rfl, function.name,
        Module.numbered?_grow opens.prefixed numbered, _, _, _, rfl,
      rfl, rfl, rfl, rfl, ?_⟩
    show (start.code.addBlock function.name "entry").2.body? ⟨function.name, _⟩ ≠ none
    simp [tidy.body?_addBlock "entry" found]
  -- Parameters are stored and the function is closed without any calls.
  have contents : Reproduces base [] spot sites behind (do
      Lowering.storeParameters function.parameters parameters
      body
      Lowering.closeFunction function.result) :=
    .bind (.storeParameters _ _ same) fun _ => .before inside fun _ => .calm (.closeFunction _)
  -- The frame is closed behind all that, and nothing is emitted by it.
  have contained := contents _ begins (List.forall_mem_nil _)
  have closes := @withFrame_closes _ _
    { start with code := (start.code.addBlock function.name "entry").2 } _ _ _
    (Nested.functionContents function parameters nested) contained
  refine closes.imp (fun _ finish held => ?_) fun _ _ held => held
  obtain ⟨last, frame, ended, leaves, -, kind, code, resumed, aligned⟩ := held
  have emits : start.Emits base sites finish := by
    simpa using ((Builder.Emits.silent enters rfl).trans ended.emits).trans (.silent leaves rfl)
  refine ⟨emits, code ▸ ended.accords.count, ?_, aligned⟩
  -- The frame around a function goes on where it was.
  rw [resumed]
  unfold Builder.resume
  split
  · rename_i none_open
    exact none_open.symm
  · rename_i first outer opened
    rw [kind]
    exact opened.symm

/-- A function is declared in front of its body, so that the body can call it. -/
theorem Reproduces.function {parameters : List Parameter} (place : Location) (name : String)
    (result : ExactKind) (nested : Nested body)
    (inside : Reproduces base []
      (spot.enter name (parameters.map Parameter.name)) sites behind body)
    {functions : Nat} (count : behind.next = (spot.announce name).next + functions) :
    Reproduces base blocks spot sites ((spot.announce name).skip functions)
      (lowerFunction place (.text name) (.list (parameters.map Parameter.toTree))
        (.kindValue (.exact result)) body) := by
  rw [lowerFunction_eq, Parameter.typedNames_toTree]
  show Reproduces base blocks spot sites _
      (functionAs place name (parameters.map Parameter.typed) result body)
  -- A name that the innermost frame has already is refused.
  refine .after .currentFrame fun frame => ?_
  dsimp only
  split
  · exact fun _ _ _ => trivial
  intro start accords _
  refine .bind (createTypedFunction_numbers accords.tidy accords.count (.text name)
    (parameters.map Parameter.typed) result) fun function created held => ?_
  obtain ⟨introduced, creates, cursor, numbered⟩ := held
  -- Behind the creation of the function its number is taken.
  have announced : created.Accords base (spot.skip 1) := by
    refine accords.resumes creates ?_ introduced.frames fun frame current => ?_
    · rw [creates.handles, List.length_append, accords.count]
      rfl
    · obtain ⟨-, -, _, first, outer, opened, -, emits, -, at_, -⟩ := accords.within
      simp only [Scopes.current?, introduced.frames, opened, List.head?_cons,
        Option.mem_some_iff] at current
      rw [cursor, at_, ← current, emits]
  refine bind_ends.mpr ?_
  show (Lowering.setScopes place (created.scopes.declare name _)).Ends created _ _
  -- The name is declared before the body is lowered, so that the function can call itself.
  cases declared : created.scopes.declare name
    (.fn function.name (.exact result)
      ((parameters.map Parameter.typed).map fun parameter => parameter.kind.exact)) with
  | error failure => cases failure <;> trivial
  | ok scopes =>
    have named := announced.declare declared (.function _ _ numbered)
    have entered : (parameters.map Parameter.typed).map TypedName.name =
        parameters.map Parameter.name := by
      simp [Function.comp_def, Parameter.typed]
    -- The body stands in a scope of its own, where the parameters are declared in front.
    have filled := functionBody_emits { created with scopes }
      { spot.announce name with caller := spot.next } introduced.tidy
      introduced.found introduced.arity numbered named.accords.count named.accords.declares nested
      (by rw [entered]; exact inside)
    refine filled.imp (fun _ finish held => ?_) fun _ _ held => held
    -- Behind the body the frames are those from before, and its functions are skipped.
    obtain ⟨emits, handles, frames, aligned⟩ := held
    obtain ⟨_, steps, -⟩ := id emits
    refine ⟨rfl, named.accords.resumes steps ?_ frames aligned, ?_⟩
    · rw [handles, count]
      rfl
    · simpa using ((Builder.Emits.silent creates rfl).trans named.emits).trans emits

end Lowering

namespace Statement

open Lowering LoopLang.Tree

variable {base : Nat}

/-- Lowering statements closes the frames that it opens. -/
theorem lower_nested (body : List Statement) : Nested (lowerStatements (toTrees body)) :=
  (lower_nested_all.2.2.2 (toTrees body)).narrow

mutual

/-- Lowering a statement emits its calls, and behind it names mean what is declared there. -/
theorem lowerStatement_reproduces : ∀ (statement : Statement) (spot : Spot),
    Reproduces base [] spot (statement.calls spot)
      (statement.spotBehind spot) statement.toTree.lowerStatement
  -- The body counts from the function itself on, which is announced before it.
  | .function place name parameters bodyPlace body result, spot => by
    obtain ⟨behind, count, inside⟩ :=
      lowerStatements_reproduces body (spot.enter name.name (parameters.map Parameter.name))
    rw [lower_function]
    refine .function place name.name result (lower_nested body) inside
      (count.trans (congrArg (· + functionsAll body) ?_))
    exact (Spot.declare_all (parameters.map Parameter.name)
      { spot.announce name.name with caller := spot.next }).2
  | .declare place name stated value, spot =>
    lower_declare place name stated value ▸ .declaration place name.name _ value
  | .block place body, spot => by
    obtain ⟨behind, count, inside⟩ := lowerStatements_reproduces body spot
    exact lower_block place body ▸ .inBlock (lower_nested body) inside count
  -- Without a value there are no calls.
  | .return place none, spot => .ending place (fun given => absurd rfl given) fun _ => rfl
  | .return place (some value), spot =>
    .ending place (fun _ => value.lowerExpression_reproduces) fun missing => by
    cases value <;> cases missing
  | .when place condition thenPlace thenBody, spot => by
    obtain ⟨_, count, inside⟩ := lowerStatements_reproduces thenBody spot
    rw [lower_when, calls, ← List.append_nil (callsAll spot thenBody)]
    exact .choice condition (.inBlock (lower_nested thenBody) inside count) nofun
      fun _ => ⟨rfl, rfl⟩
  | .choose place condition thenPlace thenBody elsePlace elseBody, spot => by
    obtain ⟨_, then_count, first⟩ := lowerStatements_reproduces thenBody spot
    obtain ⟨_, else_count, second⟩ :=
      lowerStatements_reproduces elseBody (spot.skip (functionsAll thenBody))
    rw [lower_choose, calls, List.append_assoc]
    refine .choice condition (.inBlock (lower_nested thenBody) first then_count)
      (fun arm same => ?_) nofun
    cases same
    -- Behind both arms the functions of both are out of reach.
    show Reproduces base [] _ _ (spot.skip (functionsAll thenBody + functionsAll elseBody)) _
    rw [← Spot.skip_skip]
    exact .inBlock (lower_nested elseBody) second else_count
  -- Behind a loop the functions in its body are out of reach, but still count.
  | .loop place condition bodyPlace body label, spot => by
    obtain ⟨_, count, inside⟩ := lowerStatements_reproduces body spot
    exact lower_loop place condition bodyPlace body label ▸ .loop condition _
      (lower_nested body) inside count
  | .break place label, spot => lower_break place label ▸ .calm (.jump _ _ _)
  | .continue place label, spot => lower_continue place label ▸ .calm (.jump _ _ _)
  | .evaluate value, spot => .before value.lowerExpression_reproduces fun _ => .pure ()

/-- So does lowering statements one after the other. -/
theorem lowerStatements_reproduces : ∀ (body : List Statement) (spot : Spot), ∃ behind : Spot,
    behind.next = spot.next + functionsAll body ∧
      Reproduces base [] spot (callsAll spot body) behind (lowerStatements (toTrees body))
  | [], spot => ⟨spot, rfl, .pure ()⟩
  | statement :: rest, spot => by
    obtain ⟨behind, count, others⟩ := lowerStatements_reproduces rest (statement.spotBehind spot)
    refine ⟨behind, by rw [count, spotBehind_next, functionsAll, Nat.add_assoc], ?_⟩
    -- A fresh block may be opened in front of each statement, which calls nothing.
    rw [← List.nil_append (callsAll spot (statement :: rest))]
    exact .bind .ensureOpen fun _ => .bind (lowerStatement_reproduces statement spot)
      fun _ => others

end

end Statement

end LoopLang
