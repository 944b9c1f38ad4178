import LoopLang.Proofs.Lowering.Grammar
import LoopLang.Proofs.Lowering.Inference

/-! Why programs of the grammar are refused: lowering one fails for regular causes, whatever its
shape is. -/

namespace LoopLang

open Code (Operand)

/-- Sites of jumps each of which may be refused for want of a loop. -/
def Reasons.Allow (reasons : Reasons) (sites : List JumpSite) : Prop :=
  ∀ site ∈ sites, reasons.holds (.refused (.noLoop site.jump site.label) site.place)

namespace Reasons.Allow

variable {reasons : Reasons} {first second : List JumpSite}

/-- What is allowed of two trees is allowed of the first one. -/
theorem left (allowed : reasons.Allow (first ++ second)) : reasons.Allow first :=
  fun site member => allowed site (List.mem_append_left second member)

/-- And of the second one. -/
theorem right (allowed : reasons.Allow (first ++ second)) : reasons.Allow second :=
  fun site member => allowed site (List.mem_append_right first member)

end Reasons.Allow

/-- The given reasons, and that no kind can be inferred. -/
def Reasons.orUninferred (reasons : Reasons) : Reasons where
  holds failure := reasons.holds failure ∨ ∃ name place,
    failure = .refused (.cannotInfer name) place
  regular failure regular := .inl (reasons.regular failure regular)

namespace Scopes

/-- The labels of the loops around a place, innermost first, up to the function that it is in. -/
def loopLabels : List Frame → List (Option String)
  | [] => []
  | frame :: outer =>
    (if frame.isLoop then [frame.label] else []) ++ if frame.isFunction then []
      else loopLabels outer

/-- A jump finds a loop exactly if one of those around is meant. -/
theorem loopFrameIn_isSome (label : Option String) (frames : List Frame) :
    (loopFrameIn label frames).isSome = Jump.isAimed (loopLabels frames) label := by
  induction frames with
  | nil => rfl
  | cons frame outer ih =>
    have here : frame.isTarget label = Jump.isAimed
        (if frame.isLoop then [frame.label] else []) label := by
      unfold Frame.isTarget Jump.isAimed
      cases frame.isLoop <;> simp
    unfold loopFrameIn loopLabels
    rw [Jump.isAimed, List.any_append, ← Jump.isAimed, ← here]
    -- The labels of a function's own loops are the last ones that a jump in it can mean.
    cases frame.isTarget label <;> cases frame.isFunction <;> simp [ih, Jump.isAimed]

/-- Frames that go on are in the same loops. -/
theorem loopLabels_continues {more : List (String × Binding)} {frames later : List Frame}
    (continues : Builder.Continues more frames later) : loopLabels later = loopLabels frames := by
  cases frames with
  | nil => rw [continues.1]
  | cons frame outer =>
    obtain ⟨block, rfl⟩ := continues
    rfl

end Scopes

namespace Expression

/-- The first of two kinds that are known to be settled or not can be told. -/
theorem orElseKind_ok {first second : Except InferenceError (Option Kind)}
    (one : ∃ kind, first = .ok kind) (other : ∃ kind, second = .ok kind) :
    ∃ kind, Tree.orElseKind first second = .ok kind := by
  obtain ⟨kind, rfl⟩ := one
  cases kind with
  | none => exact other
  | some kind => exact ⟨some kind, rfl⟩

/-- What a name settles can be computed. -/
theorem settledKind_name (scopes : Scopes) (name : Identifier) :
    ∃ kind, (name.toTree .infer).settledKind scopes = .ok kind :=
  orElseKind_ok ⟨_, rfl⟩ ⟨none, rfl⟩

/-- An expression of the grammar is a node. -/
theorem isNode_toTree (expression : Expression) : expression.toTree.isNode = true := by
  cases expression <;> rfl

/-- So its kind is what its parts settle, if they settle one. -/
theorem wholeKind_toTree (settled : Except InferenceError (Option Kind)) (expression : Expression) :
    expression.toTree.wholeKind settled = settled.map fun kind => kind.getD .none := by
  cases expression <;> rfl

mutual

/-- What an expression of the grammar settles can be computed: there are no plain values in it. -/
theorem settledKind_ok (scopes : Scopes) :
    ∀ expression : Expression, ∃ kind, expression.toTree.settledKind scopes = .ok kind
  | .number _ _ | .boolean _ _ => ⟨_, rfl⟩
  | .identifier place name => settledKind_name scopes ⟨place, name⟩
  -- The kind of a call comes from its callee, but the items are looked at as well.
  | .call place callee arguments => by
    have named := settledKind_name scopes callee
    have items := settledKindOfItems_ok scopes arguments
    exact orElseKind_ok ⟨_, rfl⟩ (orElseKind_ok named items)
  | .binary place operator left right => by
    obtain ⟨kind, settled⟩ := settledKind_ok scopes left
    exact ⟨_, by rw [toTree, Tree.settledKind, settled, wholeKind_toTree]; rfl⟩
  -- An assignment has the kind of its target.
  | .assign place target value => by
    obtain ⟨kind, settled⟩ := settledKind_name scopes target
    exact ⟨some (kind.getD .none), by rw [toTree, Tree.settledKind, settled]; rfl⟩

/-- So can what the arguments of a call settle. -/
theorem settledKindOfItems_ok (scopes : Scopes) :
    ∀ items : List Expression, ∃ kind, Tree.settledKindOfItems scopes (toTrees items) = .ok kind
  | [] => ⟨_, rfl⟩
  | item :: rest => by
    simp only [toTrees, Tree.settledKindOfItems, isNode_toTree, if_true]
    exact orElseKind_ok (settledKind_ok scopes item) (settledKindOfItems_ok scopes rest)

end

/-- Inferring the kind of an expression of the grammar does not fail. -/
theorem infer_ok (scopes : Scopes) (expression : Expression) :
    ∃ kind, expression.toTree.infer scopes = .ok kind := by
  obtain ⟨kind, settled⟩ := settledKind_ok scopes expression
  exact ⟨_, by rw [Tree.infer, settled, wholeKind_toTree]; rfl⟩

end Expression

namespace Lowering

variable {α β : Type} {action : Lowering α} {reasons : Reasons} {loops : List (Option String)}

mutual

/-- Expressions of the grammar are refused for regular causes. -/
theorem Quiet.expression (expression : Expression) :
    Quiet reasons expression.toTree.lowerExpression := by
  match expression with
  | .number _ _ => exact .pure _
  | .boolean _ _ => exact .pure _
  -- In a parsed tree names are texts, so the faults of odd trees do not arise.
  | .identifier place name =>
    refine .bind (.usedName (.text name) fun odd => absurd rfl (odd name)) fun name => ?_
    exact .bind (.loadVariable name place) fun _ => .pure _
  | .call place callee arguments =>
    have named : Quiet reasons (Lowering.resolveCallee place (callee.toTree .infer)) :=
      .resolveCallee place _ fun unnamed => absurd rfl (unnamed callee.place callee.name _)
    refine .bind named fun found => .bind ?_ fun _ => .emitCall _ _
    exact .bind (.checkCount found _ place) fun _ =>
      Quiet.items arguments found.name 1 found.parameters
  | .binary place operator left right =>
    -- A parsed sign is one of the four that are known.
    have known : operator? operator.sign = none →
        reasons.holds (.refused (.binaryOperator operator.sign) place) := by
      cases operator <;> exact nofun
    refine .bind (.required _ (Quiet.expression left)) fun _ =>
      .bind (.required _ (Quiet.expression right)) fun _ => ?_
    rw [usedSign_text, pure_bind]
    exact .bind (.emitArithmetic _ _ _ _ known) fun _ => .pure _
  | .assign place target value =>
    -- The sign of a parsed assignment is the only one that there is.
    have named : Quiet reasons (Lowering.resolveTarget place "=" (target.toTree .infer)) :=
      .resolveTarget place "=" _ (fun other => absurd rfl other)
        fun unnamed => absurd rfl (unnamed target.place target.name _)
    refine .bind named fun _ => .bind (.required _ (Quiet.expression value)) fun _ => ?_
    exact .bind (.storeVariable _ _ _ _ _) fun _ => .pure _

/-- So are the arguments of calls. -/
theorem Quiet.items (items : List Expression) (callee : String) (position : Nat)
    (kinds : List ExactKind) :
    Quiet reasons (Tree.lowerItems callee position kinds (Expression.toTrees items)) := by
  -- Items and kinds are taken in pairs until one of them ends.
  match items, kinds with
  | [], [] => exact .pure _
  | [], _ :: _ => exact .pure _
  | _ :: _, [] => exact .pure _
  | item :: rest, _ :: kinds =>
    refine .bind (.required _ (Quiet.expression item)) fun _ => .bind (.checkArgument _ _ _ _ _)
      fun _ => ?_
    exact .bind (Quiet.items rest callee (position + 1) kinds) fun _ => .pure _

end

/--
A computation that closes the frames that it opens, and that fails for some of the given reasons
only, where it runs in scopes that lowering can reach and within loops of the given labels.
-/
structure Tame (loops : List (Option String)) (reasons : Reasons) (action : Lowering α) : Prop where
  nested : Nested action
  fails : ∀ start : Builder,
    start.scopes.Reachable → Scopes.loopLabels start.scopes.frames = loops →
    action.Ends start (fun _ _ => True) fun failure _ => reasons.holds failure

namespace Tame

/-- What leaves the scopes as they are may fail for the given reasons anywhere. -/
theorem of_quiet (quiet : Quiet reasons action) : Tame loops reasons action where
  nested := Scopes.Nests.absorbs.of_same quiet.same
  fails start _ _ := (quiet start).imp (fun _ _ _ => trivial) fun _ _ held => held.2

/-- Where the first computation ends, the second one finds the same loops around it. -/
theorem bind {next : α → Lowering β} (first : Tame loops reasons action)
    (second : ∀ answer, Tame loops reasons (next answer)) :
    Tame loops reasons (action >>= next) where
  nested := .bind first.nested fun answer => (second answer).nested
  fails start reachable around := by
    refine .bind ((first.fails start reachable around).and first.nested.ends |>.imp
      (fun _ _ held => held.2) fun _ _ held => held.1) fun answer middle nests => ?_
    -- The frames around go on, and so do the loops in them.
    obtain ⟨more, continues⟩ := nests.continues
    exact (second answer).fails middle (nests.reachable reachable)
      ((Scopes.loopLabels_continues continues).trans around)

/-- What follows something quiet is tame if it is so by itself. -/
theorem after {next : α → Lowering β} (first : Quiet reasons action)
    (second : ∀ answer, Tame loops reasons (next answer)) : Tame loops reasons (action >>= next) :=
  .bind (.of_quiet first) second

/-- An answer is tame. -/
theorem pure (answer : α) : Tame loops reasons (Pure.pure answer) := .of_quiet (.pure _)

/-- So is a refusal for an allowed reason. -/
theorem refuse {cause : Cause} {place : Location} (held : reasons.holds (.refused cause place)) :
    Tame (α := α) loops reasons (Lowering.refuse cause place) := .of_quiet (.refuse held)

/-- So is going on in another block. -/
theorem moveTo (block : BlockRef) : Tame loops reasons (Lowering.moveTo block) where
  nested := Scopes.Nests.absorbs.moved block
  fails start _ _ := by
    show (Lowering.setScopes _ (start.scopes.moveTo block)).Ends start _ _
    unfold Scopes.moveTo
    -- Without a frame the failure is an internal one.
    split
    · exact reasons.internal id
    · trivial

/-- A name may be declared already. -/
theorem declare (name : String) {binding : Binding} (definite : binding.IsDefinite)
    (place : Location) :
    Tame loops reasons (Lowering.declare name binding place) where
  nested := .declare name definite place
  fails start _ _ := by
    -- Without any frame the failure is an internal one, else the name may be taken.
    show (Lowering.setScopes _ (start.scopes.declare name binding)).Ends start _ _
    unfold Scopes.declare
    split
    · exact reasons.internal id
    · split
      · exact reasons.cause trivial
      · trivial

/-- Within a new frame the loops around are those that the frame leaves or adds. -/
theorem withFrame {body : Lowering α} {inner : List (Option String)} (block : BlockRef)
    (options : FrameOptions)
    (around : inner = (if options.isLoop then [options.label] else []) ++ if options.isFunction
      then [] else loops)
    (inside : Tame inner reasons body) :
    Tame loops reasons (Lowering.withFrame (some block) options body) where
  nested := .withFrame block options inside.nested
  fails start reachable same := by
    have pushed : Scopes.loopLabels (start.scopes.push (some block) options).frames = inner := by
      rw [around, ← same]
      rfl
    have ends := (inside.fails { start with scopes := start.scopes.push (some block) options }
      (.push reachable (some block) options) pushed).and inside.nested.ends
    -- The frame can be closed, so that the end of the contents is the end of the whole.
    unfold Ends at ends ⊢
    rw [withFrame_outcome]
    generalize body.outcome _ = ended at ends
    rcases ended with ⟨failure | answer, inner⟩
    · obtain ⟨reason, nests⟩ := ends
      obtain ⟨closed, popped, -⟩ := (nests rfl).within
      simp only [closeFrame, popped]
      cases closed.isAdrift with
      | false => exact reason
      | true => exact reasons.internal id
    · obtain ⟨-, nests⟩ := ends
      obtain ⟨closed, popped, -⟩ := nests.within
      simp only [closeFrame, popped]
      cases closed.isAdrift with
      | false => trivial
      | true => exact reasons.internal id

/-- A frame around something tame is tame. -/
theorem inBlock {body : Lowering α} (inside : Tame loops reasons body) :
    Tame loops reasons (Lowering.inBlock body) where
  nested := .inBlock inside.nested
  fails start reachable same := by
    unfold Ends
    rw [inBlock_outcome]
    -- The missing block is an internal failure, a block is opened like any frame.
    cases start.scopes.cursor with
    | none => exact reasons.internal id
    | some block => exact (withFrame block {} rfl inside).fails start reachable same

/-- Beginning another block is tame. -/
theorem ensureOpen : Tame loops reasons Lowering.ensureOpen := by
  refine .after .isTerminated fun ended => ?_
  split
  · exact .after (.createBlock _) fun block => .moveTo block
  · exact .pure _

/-- So is a jump at the end of a block. -/
theorem jumpUnlessTerminated (block : BlockRef) :
    Tame loops reasons (Lowering.jumpUnlessTerminated block) := by
  refine .after .isTerminated fun ended => ?_
  split
  · exact .pure _
  · exact .of_quiet (.terminate _)

/-- A variable may have been declared already. -/
theorem declareVariable (name base : String) (kind : ValueKind) (value : Operand)
    (place : Location) :
    Tame loops reasons (Lowering.declareVariable name base kind value place) := by
  -- What may be refused is the name, and then the kind of the value.
  have stores : Tame loops reasons (do
      let slot ← Lowering.createSlot base kind
      Lowering.storeVariable name kind slot value place
      Lowering.declare name (.var kind.exact (some slot)) place) :=
    .after (.createSlot _ _) fun slot => .after (.storeVariable _ _ _ _ _) fun _ =>
      .declare _ (by cases kind <;> rfl) _
  refine .after .currentFrame fun frame => ?_
  dsimp only
  split
  · exact .bind (.refuse (reasons.cause trivial)) fun _ => stores
  · exact stores

/-- A condition is refused with its value. -/
theorem condition {condition : Tree} (value : Quiet reasons condition.lowerExpression) :
    Tame loops reasons (lowerCondition condition) := by
  refine .after (.required _ value) fun operand => ?_
  split
  · exact .pure _
  · exact .after (.emit _ _) fun _ => .pure _

/-- A branch is tame if its condition and its arms are. -/
theorem choice {condition : Tree} {consequent : Lowering Unit} {alternate : Option (Lowering Unit)}
    (value : Quiet reasons condition.lowerExpression) (first : Tame loops reasons consequent)
    (second : ∀ arm ∈ alternate, Tame loops reasons arm) :
    Tame loops reasons (lowerChoice condition consequent alternate) := by
  refine .after .nextSuffix fun _ => .bind (.condition value) fun _ => .after (.createBlock _)
    fun _ => ?_
  split
  · refine .after (.createBlock _) fun _ => .after (.createBlock _) fun _ => ?_
    refine .after (.terminate _) fun _ => .bind (.moveTo _) fun _ => .bind first fun _ => ?_
    refine .bind (.jumpUnlessTerminated _) fun _ => .bind (.moveTo _) fun _ => ?_
    exact .bind (second _ rfl) fun _ => .bind (.jumpUnlessTerminated _) fun _ => .moveTo _
  · refine .after (.createBlock _) fun _ => .after (.terminate _) fun _ => ?_
    refine .bind (.moveTo _) fun _ => .bind first fun _ => ?_
    exact .bind (.jumpUnlessTerminated _) fun _ => .moveTo _

/-- In the body of a loop, the label of the loop is the innermost one. -/
theorem loop {condition : Tree} {label : Option String} {body : Lowering Unit}
    (value : Quiet reasons condition.lowerExpression)
    (inside : Tame (label :: loops) reasons body) :
    Tame loops reasons (lowerLoop condition label body) := by
  refine .after .nextSuffix fun _ => .after (.createBlock _) fun _ =>
    .after (.createBlock _) fun _ => .after (.createBlock _) fun _ =>
    .after (.terminate _) fun _ => .bind (.moveTo _) fun _ => ?_
  -- The body is refused for reasons of its own, within one loop more.
  refine .bind (.condition value) fun _ => .after (.terminate _) fun _ => ?_
  exact .bind (.withFrame _ _ rfl (.bind inside fun _ => .jumpUnlessTerminated _)) fun _ =>
    .moveTo _

/-- A jump is refused only if no loop is meant by it. -/
theorem jump {jump : Jump} {place : Location} {label : Option Identifier}
    (allowed : reasons.Allow (JumpSite.stray loops jump place label)) :
    Tame loops reasons (lowerJump jump place (label.map Identifier.name)) where
  nested := Scopes.Nests.absorbs.jump jump place _
  fails start reachable around := by
    refine .bind ((Quiet.currentFrame start).imp (fun _ _ same => same) fun _ _ held => held.2)
      fun _ middle same => ?_
    rw [bind_ends, scopes_ends, same]
    -- Which loops are around is known from the tree.
    have aimed := Scopes.loopFrameIn_isSome (label.map Identifier.name) start.scopes.frames
    rw [around] at aimed
    split
    -- Where no loop is found, the jump is one of those that may be stray.
    · rename_i none_found
      refine allowed ⟨jump, place, label.map Identifier.name⟩ ?_
      rw [JumpSite.stray, ← aimed, show Scopes.loopFrameIn _ _ = none from none_found]
      exact List.mem_singleton_self _
    · split
      · exact (Quiet.terminate _ middle).imp (fun _ _ _ => trivial) fun _ _ held => held.2
      · exact reasons.internal id

/-- The end of a function is refused with its value, or for the kind of the result. -/
theorem ending (place : Location) {value : Tree}
    (quiet : value ≠ .null → Quiet reasons value.lowerExpression) :
    Tame loops reasons (lowerReturn place value) := by
  refine .after .enclosingFunction fun (function, expected) => ?_
  dsimp only
  split
  · exact .of_quiet (.terminate _)
  · exact .refuse (reasons.cause trivial)
  -- A value is looked at before it is compared with the result.
  · rename_i filled _
    refine .after (quiet filled) fun answer => ?_
    split
    · exact .refuse (reasons.cause trivial)
    · exact .of_quiet (.terminate _)
  · rename_i filled _
    refine .after (.required _ (quiet filled)) fun result => ?_
    split
    · exact .of_quiet (.terminate _)
    · exact .refuse (reasons.cause trivial)

/-- Of two parameters with one name the second one is refused. -/
theorem storeParameters : ∀ (registers : List (String × ValueKind)) (parameters : List TypedName),
    Tame loops reasons (Lowering.storeParameters registers parameters)
  | (register, _) :: registers, ⟨place, name, kind⟩ :: parameters =>
    .bind (.declareVariable _ _ _ _ _) fun _ => storeParameters registers parameters
  | [], _ => by simpa only [Lowering.storeParameters] using Tame.pure _
  | _ :: _, [] => by simpa only [Lowering.storeParameters] using Tame.pure _

/-- The return at the end of a function is tame. -/
theorem closeFunction (result : ExactKind) :
    Tame loops reasons (Lowering.closeFunction result) := by
  refine .after .isTerminated fun ended => ?_
  split
  · exact .pure _
  · split <;> exact .of_quiet (.terminate _)

/-- The body of a function is in none of the loops around the function. -/
theorem functionBody {body : Lowering Unit} (function : Code.Function)
    (parameters : List TypedName) (inside : Tame [] reasons body) :
    Tame loops reasons (Lowering.lowerFunctionBody function parameters body) := by
  refine .after (fun _ => rfl) fun _ => .withFrame _ _ rfl ?_
  exact .bind (.storeParameters _ _) fun _ => .bind inside fun _ => .closeFunction _

/-- So is creating a function. -/
theorem createTypedFunction (name : Code.Name) (parameters : List TypedName) (result : ExactKind) :
    Tame loops reasons (Lowering.createTypedFunction name parameters result) where
  nested := Scopes.Nests.absorbs.createTypedFunction name parameters result
  fails _ _ _ := trivial

/-- A function is refused for its name, or with its parameters or its body. -/
theorem function {body : Lowering Unit} (place : Location) (name : String)
    (parameters : List Parameter) (result : ExactKind) (inside : Tame [] reasons body) :
    Tame loops reasons
      (Lowering.lowerFunction place (.text name) (.list (parameters.map Parameter.toTree))
        (.kindValue (.exact result)) body) := by
  unfold Lowering.lowerFunction
  rw [Parameter.typedNames_toTree, pure_bind]
  refine .bind (.pure result) fun exact => .bind (.pure name) fun name =>
    .after .currentFrame fun frame => ?_
  -- The body has no loops around it that a jump could mean.
  have rest : Tame loops reasons (do
      let function ← Lowering.createTypedFunction (.text name)
        (parameters.map Parameter.typed) exact
      Lowering.declare name
        (.fn function.name (.exact exact)
          ((parameters.map Parameter.typed).map fun parameter => parameter.kind.exact)) place
      Lowering.lowerFunctionBody function (parameters.map Parameter.typed) body) :=
    .bind (.createTypedFunction _ _ _) fun function => .bind (.declare _ (by rfl) _) fun _ =>
      .functionBody _ _ inside
  dsimp only
  split
  · exact .bind (.refuse (reasons.cause trivial)) fun _ => rest
  · exact rest

/-- A variable is refused for its name or with its value, or since it has no kind. -/
theorem declareAs (place : Location) (name : String) {value : Tree}
    (quiet : Quiet reasons value.lowerExpression) {kind : Kind}
    (known : kind.definite? = none → reasons.holds (.refused (.cannotInfer name) place)) :
    Tame loops reasons (Lowering.declareAs place (.text name) value kind) := by
  unfold Lowering.declareAs
  split
  · exact .after quiet fun _ => .bind (.pure name) fun _ => .declare _ (by rfl) _
  · rename_i valued
    refine .after (.required _ quiet) fun initial => ?_
    split
    · exact .bind (.pure name) fun _ => .declareVariable _ _ _ _ _
    · rename_i unknown
      refine .refuse (known ?_)
      -- Only a kind that has not been found out is refused here.
      cases kind with
      | exact kind => cases kind <;> first | exact absurd rfl valued | cases unknown
      | infer => rfl
      | none => rfl

/-- The kind of an expression of the grammar is looked for in vain at worst. -/
theorem inferKind (name : String) (value : Expression) :
    Tame loops reasons (Lowering.inferKind name value.toTree) where
  nested := Scopes.Nests.absorbs.inferKind name _
  fails start _ _ := by
    -- The kind of an expression can always be inferred, as names are texts.
    obtain ⟨kind, inferred⟩ := value.infer_ok start.scopes
    unfold Lowering.inferKind
    rw [bind_ends, scopes_ends, inferred]
    trivial

/-- Whether its kind is stated or not, a variable is not refused for want of a kind. -/
theorem declaration (place : Location) (name : Identifier) (stated : Option ValueKind)
    (value : Expression) :
    Tame loops reasons (Statement.declare place name stated value).toTree.lowerStatement := by
  show Tame loops reasons
    (lowerDeclaration place (.text name.name) (.kindValue (statedKind stated)) value.toTree)
  -- A kind that is stated may differ from that of the value, which is a reason of its own.
  cases stated with
  | some kind =>
    rw [lowerDeclaration_eq, carriedKind_kindValue, pure_bind, if_pos (by rfl)]
    exact .declareAs place name.name (.expression value) nofun
  | none =>
    have loosely : Tame loops reasons.orUninferred
        (lowerDeclaration place (.text name.name) (.kindValue .infer) value.toTree) := by
      rw [lowerDeclaration_eq, carriedKind_kindValue, pure_bind, if_neg (by decide)]
      exact .bind (.inferKind _ _) fun kind => .declareAs place name.name (.expression value)
        fun _ => .inr ⟨_, _, rfl⟩
    refine ⟨loosely.nested, fun start reachable around => ?_⟩
    refine ((loosely.fails start reachable around).and
      (Expression.declare_ends reachable.definite place name value)).imp
      (fun _ _ _ => trivial) fun failure finish ⟨reason, other⟩ => reason.resolve_right ?_
    -- What is inferred is what the value lowers to, so that a kind is found wherever it is looked
    -- for.
    rintro ⟨_, _, rfl⟩
    rcases other with (clash | ⟨_, fault⟩) | ⟨inferred, _⟩
    · cases clash
    · cases fault
    · exact inferred

mutual

/-- A statement of the grammar is refused for regular causes, and for the jumps in it by which no
loop is meant. -/
theorem statement (statement : Statement) {loops : List (Option String)}
    (allowed : reasons.Allow (statement.strays loops)) :
    Tame loops reasons statement.toTree.lowerStatement := by
  -- The jumps of a statement are those of its parts, and each part is allowed what the whole is.
  match statement with
  | .function place name parameters bodyPlace body result =>
    rw [Statement.lower_function]
    exact .function place name.name parameters result (statements body allowed)
  | .declare place name stated value => exact .declaration place name stated value
  | .block place body =>
    rw [Statement.lower_block]
    exact .inBlock (statements body allowed)
  -- A return is a mistake only for what it returns.
  | .return place none => exact .ending place fun filled => absurd rfl filled
  | .return place (some value) => exact .ending place fun _ => .expression value
  | .when place condition thenPlace thenBody =>
    rw [Statement.lower_when]
    exact .choice (.expression condition) (.inBlock (statements thenBody allowed)) nofun
  | .choose place condition thenPlace thenBody elsePlace elseBody =>
    rw [Statement.lower_choose]
    refine .choice (.expression condition) (.inBlock (statements thenBody allowed.left)) ?_
    rintro _ ⟨⟩
    exact .inBlock (statements elseBody allowed.right)
  | .loop place condition bodyPlace body label =>
    rw [Statement.lower_loop]
    exact .loop (.expression condition) (statements body allowed)
  -- A jump without a loop is what the reasons have to allow.
  | .break place label =>
    rw [Statement.lower_break]
    exact .jump allowed
  | .continue place label =>
    rw [Statement.lower_continue]
    exact .jump allowed
  | .evaluate value => exact .after (.expression value) fun _ => .pure _

/-- So are the statements of a block. -/
theorem statements (body : List Statement) {loops : List (Option String)}
    (allowed : reasons.Allow (Statement.straysOf loops body)) :
    Tame loops reasons (Tree.lowerStatements (Statement.toTrees body)) := by
  match body with
  | [] => exact .pure _
  | statement :: rest =>
    refine .bind .ensureOpen fun _ => .bind (Tame.statement statement allowed.left) fun _ => ?_
    -- The stray jumps of the list are those of the first statement and of the rest.
    exact statements rest allowed.right

end

end Tame

end Lowering

end LoopLang
