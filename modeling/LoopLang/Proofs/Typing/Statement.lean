import LoopLang.Proofs.Lowering.Refusal
import LoopLang.Proofs.Lowering.Tree
import LoopLang.Proofs.Typing.Expression

/-! Lowering statements decides whether they may stand where they do. -/

namespace LoopLang

open Code (Operand)
open Typing (Context HasKind IsCondition StandAll Stands parameterNames signature)

/-- The rules promise the result of the function that code is emitted into. -/
theorem Builder.Sound.result? {builder : Builder} (sound : builder.Sound) {here : BlockRef}
    {context : Context} (current : builder.block? = some here)
    (shown : Shows builder.scopes.frames context) {function : Code.Function}
    (owner : builder.code.function? here.function = some function) :
    context.result? = some function.result := by
  obtain ⟨frame, innermost, emits⟩ := Option.bind_eq_some_iff.mp current
  obtain ⟨outer, opened⟩ := List.head?_eq_some_iff.mp innermost
  have enclosed := sound.enclosed
  have fits := sound.fits
  have home := (fits frame (List.mem_of_head? innermost)).home_eq emits
  rw [opened] at enclosed fits shown
  -- The innermost function frame is that of the function that code is emitted into.
  obtain ⟨found, first, opens, member, same⟩ := enclosed.functionFrame
  obtain ⟨_, held, result⟩ := (fits found member).result opens
  rw [same, home, owner] at held
  cases held
  exact shown.result? first result

namespace Lowering

variable {start : Builder} {here : BlockRef} {context : Context}

/-- A condition is accepted exactly if it is one. -/
theorem lowerCondition_decides (sound : start.Sound) (ready : start.Ready)
    (shown : Shows start.scopes.frames context) (condition : Expression) :
    (lowerCondition condition.toTree).Ends start
      (fun _ tested => IsCondition context condition ∧ Shows tested.scopes.frames context)
      (fun _ _ => ¬ IsCondition context condition) := by
  have value := condition.required_decides condition.toTree.place
    (condition.lowerExpression_decides sound ready shown)
  have decides : (lowerCondition condition.toTree).Decides start
      (fun _ => IsCondition context condition) (¬ IsCondition context condition) := by
    refine value.bind (required_computes (Tree.lowerExpression_computes_all.1 _ start sound ready))
      (fun operand middle sound more has => ?_) fun none_has ⟨kind, has⟩ => none_has kind has
    obtain ⟨here, current, _⟩ := more.ready ready
    -- A number is compared with zero, so that a value of either kind will do.
    split
    · exact .pure ⟨_, has⟩
    · exact Ends.bind (emit_decides sound current _ _) fun _ _ _ => ⟨_, has⟩
  refine (Ends.and decides (lowerCondition_computes sound ready condition.toTree)).imp
    (fun _ tested held => ?_) fun _ _ held => held.1
  exact ⟨held.1, held.2.2.1.scopes ▸ shown⟩

/-- Lowering decides whether something may stand where it does; behind it the frames are what the
rules say. -/
def Judges (action : Lowering Unit) (start : Builder) (here : BlockRef) (stands : Context → Prop) :
    Prop :=
  action.LowersTo start here
    (fun finish => ∃ after, stands after ∧ Shows finish.scopes.frames after)
    fun _ => ∀ after, ¬ stands after

/-- Statements are judged wherever their lowering begins. -/
def JudgesAll (action : Lowering Unit) (context : Context) (statements : List Statement) : Prop :=
  ∀ {start : Builder} {here : BlockRef},
    Stage start start here [] → Shows start.scopes.frames context →
    action.Judges start here (StandAll context statements)

/-- What is in a block is judged in a frame of its own. -/
theorem JudgesAll.inBlock {body : Lowering Unit} {statements : List Statement}
    (judges : body.JudgesAll (⟨.block, []⟩ :: context) statements)
    (stage : Stage start start here []) (here_open : start.HasOpen here)
    (shown : Shows start.scopes.frames context) :
    (Lowering.inBlock body).LowersTo start here
      (fun finish => (∃ after, StandAll (⟨.block, []⟩ :: context) statements after) ∧
        Shows finish.scopes.frames context)
      fun _ => ∀ after, ¬ StandAll (⟨.block, []⟩ :: context) statements after := by
  refine stage.nest here_open fun inner => ?_
  refine (judges inner (.cons ⟨⟨rfl, rfl⟩, rfl⟩ shown)).imp (fun _ ended held => ⟨held.1, ?_⟩)
    fun _ _ held => held
  intro finish _ _ frames
  obtain ⟨after, inside, _⟩ := held.2
  -- The names of the block are gone behind it.
  exact ⟨⟨after, inside⟩, shown.continues frames⟩

end Lowering

/-- A variable is declared with its kind. -/
theorem Builder.Binds.shows {start finish : Builder} {name : String} {kind : ExactKind}
    {answer : Option Operand} (binds : start.Binds finish name (.exact kind) answer)
    {context : Context} (shown : Shows start.scopes.frames context) :
    Shows finish.scopes.frames (context.declare name (.variable kind)) := by
  cases binds with
  | void declares => exact shown.declare declares.frames
  | stored _ _ _ adds declares => exact Shows.declare (adds.scopes ▸ shown) declares.frames

/-- Parameters are declared in the frame of their function. -/
theorem Builder.Stores.shows {start finish : Builder} {registers : List (String × ValueKind)}
    {parameters : List Parameter}
    (stores : start.Stores registers (parameters.map Parameter.typed) finish) {role : Typing.Role}
    {names : List (String × Typing.Declared)} {context : Context}
    (shown : Shows start.scopes.frames (⟨role, names⟩ :: context)) :
    Shows finish.scopes.frames (⟨role, names ++ parameterNames parameters⟩ :: context) := by
  -- Each parameter becomes one more name of the frame.
  induction parameters generalizing start registers names with
  | nil =>
    cases stores
    rwa [parameterNames, List.map_nil, List.append_nil]
  | cons parameter rest ih =>
    cases stores with
    | cons _ binds _ stores =>
      have declared := ih stores (binds.shows shown)
      rwa [List.append_assoc] at declared

namespace Statement

open Lowering LoopLang.Tree

variable {context : Context} {start : Builder} {here : BlockRef}

/-- A function is judged by its name, its parameters, and its body. -/
theorem function_judges (stage : Stage start start here []) (here_open : start.HasOpen here)
    (shown : Shows start.scopes.frames context) (place : Location) (name : Identifier)
    (parameters : List Parameter) (bodyPlace : Location) {body : List Statement}
    (result : ExactKind)
    (inside : ∀ context, (lowerStatements (toTrees body)).JudgesAll context body) :
    (Statement.toTree (.function place name parameters bodyPlace body result)).lowerStatement.Judges
      start here (Stands context (.function place name parameters bodyPlace body result)) := by
  rw [lower_function, lowerFunction_eq, Parameter.typedNames_toTree]
  show (functionAs place name.name (parameters.map Parameter.typed) result _).Judges start here _
  refine stage.functionAs here_open place name.name
    (fun lacks distinct function created declared creates sound declares entry begun begins => ?_)
    fun clash _ after stands => ?_
  -- The function is declared: its body decides the rest.
  · have new := (shown.lacks name.name).mpr lacks
    have shown : Shows declared.scopes.frames
        (context.declare name.name (signature parameters result)) := by
      have shown := Shows.declare (creates.frames ▸ shown) declares.frames
      rwa [Binding.declared, List.map_map] at shown
    obtain ⟨opened, _, makes, _, _, _, _, stores⟩ := begins.opened
    have pushed : Shows (opened.pushed entry (functionOptions function)).scopes.frames
        (⟨.function result, []⟩ :: context.declare name.name (signature parameters result)) :=
      .cons ⟨⟨rfl, rfl, congrArg (some ∘ Kind.exact) creates.result⟩, rfl⟩ (makes.scopes ▸ shown)
    refine (inside _ begins.stage (stores.shows pushed)).imp (fun _ ended held => ⟨held.1, ?_⟩)
      fun _ _ held => ⟨held.1, fun after stands => ?_⟩
    · intro finish closes
      obtain ⟨after, inside, _⟩ := held.2
      rw [List.map_map] at distinct
      exact ⟨_, .function place bodyPlace new distinct inside, shown.continues closes.frames⟩
    · cases stands with
      | function _ _ _ _ inside => exact held.2 _ inside
  -- The rules ask for a new name and for distinct parameters as well.
  · cases stands with
    | function _ _ new distinct _ =>
      refine clash ⟨(shown.lacks _).mp new, ?_⟩
      rwa [List.map_map]

/-- A variable is judged by its name and by its value. -/
theorem declare_judges (stage : Stage start start here []) (here_open : start.HasOpen here)
    (shown : Shows start.scopes.frames context) (place : Location) (name : Identifier)
    (stated : Option ValueKind) (value : Expression) :
    (Statement.toTree (.declare place name stated value)).lowerStatement.Judges start here
      (Stands context (.declare place name stated value)) := by
  rw [lower_declare]
  refine stage.declaration here_open place (.text name.name) (statedKind stated)
    (fun log kind settled => ?_) (fun _ unknown => ?_) fun odd => absurd rfl (odd name.name)
  -- The kind is the stated one, or else the one that the value is inferred to have.
  · have value_has := value.lowerExpression_decides (stage.logged log).sound
      ((stage.logged log).ready here_open) shown
    have answers := @Expression.lowerExpression_answers _ stage.sound.definite (start.logged log)
      (fun _ => rfl) value
    refine (Ends.and value_has answers.ends).imp (fun answer middle held => ?_)
      fun _ _ held after stands => ?_
    · obtain ⟨has, inferred⟩ := held
      have agrees : kind = .exact (answerKind answer) ↔ ∀ wanted ∈ stated,
          answerKind answer = wanted.exact := by
        cases stated with
        | none =>
          have same : kind = .exact (answerKind answer) :=
            Except.ok.inj (settled.symm.trans inferred)
          simp [same]
        | some wanted =>
          have same : kind = .exact wanted.exact := settled
          simp [same, eq_comm]
      refine ⟨fun lacks more finish binds => ?_, fun other _ after stands => ?_⟩
      · obtain rfl := binds.settled settled inferred
        exact ⟨_, .declare place ((shown.lacks _).mpr lacks) has (agrees.mp rfl),
          binds.shows (more.scopes ▸ shown)⟩
      -- A name that is taken, or a value of another kind than the stated one.
      · cases stands with
        | declare _ new value_kind agree =>
          cases HasKind.unique has value_kind
          exact other ((shown.lacks _).mp new) (agrees.mpr agree)
    · cases stands with
      | declare _ _ value_kind _ => exact held.1 _ value_kind
  -- A kind can be inferred for every expression of the grammar.
  · obtain ⟨kind, inferred⟩ := value.infer_ok start.scopes
    cases inferred.symm.trans unknown

/-- A block is judged by what is in it. -/
theorem block_judges (stage : Stage start start here []) (here_open : start.HasOpen here)
    (shown : Shows start.scopes.frames context) (place : Location) {body : List Statement}
    (inside : (lowerStatements (toTrees body)).JudgesAll (⟨.block, []⟩ :: context) body) :
    (Statement.toTree (.block place body)).lowerStatement.Judges start here
      (Stands context (.block place body)) := by
  rw [lower_block]
  refine (inside.inBlock stage here_open shown).imp (fun _ finish held => ⟨held.1, ?_⟩)
    fun _ _ held => ⟨held.1, ?_⟩
  · obtain ⟨⟨after, stand⟩, shown⟩ := held.2
    exact ⟨context, .block place stand, shown⟩
  -- A block stands exactly when its statements do.
  · intro after stands
    cases stands with
    | block _ stand => exact held.2 _ stand

/-- A return without a value is judged by what the function promises. -/
theorem returnNothing_judges (stage : Stage start start here []) (here_open : start.HasOpen here)
    (shown : Shows start.scopes.frames context) (place : Location) :
    (Statement.toTree (.return place none)).lowerStatement.Judges start here
      (Stands context (.return place none)) := by
  refine stage.returns here_open place fun function owner => ?_
  have promised := stage.sound.result? stage.current shown owner
  refine ⟨fun void _ _ finish adds =>
    ⟨context, .returnNothing place (promised.trans (congrArg some void.symm)), ?_⟩,
    fun other _ after stands => other ?_⟩
  · exact adds.scopes ▸ shown
  -- A function that promises a value does not return without one.
  · cases stands with
    | returnNothing _ void => exact Option.some.inj (void.symm.trans promised)

/-- A return is judged by its value and by what the function promises. -/
theorem return_judges (stage : Stage start start here []) (here_open : start.HasOpen here)
    (shown : Shows start.scopes.frames context) (place : Location) (value : Expression) :
    (Statement.toTree (.return place (some value))).lowerStatement.Judges start here
      (Stands context (.return place (some value))) := by
  refine stage.returns here_open place fun function owner => ?_
  have promised := stage.sound.result? stage.current shown owner
  have given : value.toTree ≠ .null := by cases value <;> exact nofun
  rw [returned_eq given]
  refine Ends.imp (value.lowerExpression_decides stage.sound (stage.ready here_open) shown)
    (fun answer middle has => ?_) fun _ _ none_has after stands => ?_
  · refine ⟨fun same more _ finish adds => ⟨context, .return place promised (same ▸ has), ?_⟩,
      fun other _ after stands => other ?_⟩
    · exact adds.scopes ▸ more.scopes ▸ shown
    -- The value has one kind only, and that is not the promised one.
    · cases stands with
      | «return» _ also fits =>
        cases promised.symm.trans also
        exact HasKind.unique has fits
  · cases stands with
    | «return» _ _ fits => exact none_has _ fits

/-- A branch with one arm is judged by its condition and that arm. -/
theorem when_judges (stage : Stage start start here []) (here_open : start.HasOpen here)
    (shown : Shows start.scopes.frames context) (place : Location) (condition : Expression)
    (thenPlace : Location) {thenBody : List Statement}
    (inside : (lowerStatements (toTrees thenBody)).JudgesAll (⟨.block, []⟩ :: context) thenBody) :
    (Statement.toTree (.when place condition thenPlace thenBody)).lowerStatement.Judges start here
      (Stands context (.when place condition thenPlace thenBody)) := by
  rw [lower_when]
  refine stage.chooseWhether here_open fun counted sound ready adds => ?_
  -- First the condition has to be a truth value, then the arm has to stand.
  refine (lowerCondition_decides sound ready (adds.scopes ▸ shown) condition).imp
    (fun value tested held => ?_) fun _ _ other after stands => ?_
  · obtain ⟨tests, shown⟩ := held
    intro first merge begun turns frames
    refine (inside.inBlock turns.stage turns.hasOpen (shown.continues frames)).imp
      (fun _ ended held => ⟨held.1, ?_⟩) fun _ _ held => ⟨held.1, fun after stands => ?_⟩
    · intro _ finish _ _ frames
      obtain ⟨⟨after, stand⟩, shown⟩ := held.2
      exact ⟨context, .when place thenPlace tests stand, shown.continues frames⟩
    · cases stands with
      | when _ _ _ stand => exact held.2 _ stand
  · cases stands with
    | when _ _ tests _ => exact other tests

/-- A branch with two arms is judged by its condition and both of them. -/
theorem choose_judges (stage : Stage start start here []) (here_open : start.HasOpen here)
    (shown : Shows start.scopes.frames context) (place : Location) (condition : Expression)
    (thenPlace : Location) {thenBody : List Statement} (elsePlace : Location)
    {elseBody : List Statement}
    (inside : (lowerStatements (toTrees thenBody)).JudgesAll (⟨.block, []⟩ :: context) thenBody)
    (otherwise : (lowerStatements (toTrees elseBody)).JudgesAll
      (⟨.block, []⟩ :: context) elseBody) :
    (Statement.toTree
      (.choose place condition thenPlace thenBody elsePlace elseBody)).lowerStatement.Judges start
        here
      (Stands context (.choose place condition thenPlace thenBody elsePlace elseBody)) := by
  rw [lower_choose]
  refine stage.choose here_open fun counted sound ready adds => ?_
  -- First the condition, then the first arm, then the second one, each in the names from before.
  refine (lowerCondition_decides sound ready (adds.scopes ▸ shown) condition).imp
    (fun value tested held => ?_) fun _ _ other after stands => ?_
  · obtain ⟨tests, shown⟩ := held
    intro first second merge begun turns frames
    refine (inside.inBlock turns.stage turns.hasOpen (shown.continues frames)).imp
      (fun _ ended held => ⟨held.1, ?_⟩) fun _ _ held => ⟨held.1, fun after stands => ?_⟩
    · intro _ other turns _ frames
      obtain ⟨⟨after, stand⟩, shown⟩ := held.2
      refine (otherwise.inBlock turns.stage turns.hasOpen (shown.continues frames)).imp
        (fun _ closed held => ⟨held.1, ?_⟩) fun _ _ held => ⟨held.1, fun after stands => ?_⟩
      · intro _ finish _ _ frames
        obtain ⟨⟨_, alternative⟩, shown⟩ := held.2
        exact ⟨context, .choose place thenPlace elsePlace tests stand alternative,
          shown.continues frames⟩
      · cases stands with
        | choose _ _ _ _ _ alternative => exact held.2 _ alternative
    · cases stands with
      | choose _ _ _ _ stand _ => exact held.2 _ stand
  · cases stands with
    | choose _ _ _ tests _ _ => exact other tests

/-- A loop is judged by its condition and its body. -/
theorem loop_judges (stage : Stage start start here []) (here_open : start.HasOpen here)
    (shown : Shows start.scopes.frames context) (place : Location) (condition : Expression)
    (bodyPlace : Location) {body : List Statement} (label : Option Identifier)
    (inside : (lowerStatements (toTrees body)).JudgesAll
      (⟨.loop (label.map Identifier.name), []⟩ :: context) body) :
    (Statement.toTree (.loop place condition bodyPlace body label)).lowerStatement.Judges start here
      (Stands context (.loop place condition bodyPlace body label)) := by
  rw [lower_loop]
  refine stage.loop here_open fun entered head turns frames => ?_
  have ready : entered.Ready := ⟨head, turns.current, turns.hasOpen⟩
  refine (lowerCondition_decides turns.sound ready (shown.continues frames) condition).imp
    (fun value tested held => ?_) fun _ _ other after stands => ?_
  · obtain ⟨tests, shown⟩ := held
    intro first behind begun turns opened
    -- Inside, the loop with its label is one that jumps can mean.
    have begins : Shows begun.scopes.frames (⟨.loop (label.map Identifier.name), []⟩ :: context) :=
      opened ▸ .cons ⟨⟨rfl, rfl, rfl⟩, rfl⟩ shown
    refine (inside turns.stage begins).imp (fun _ ended held => ⟨held.1, ?_⟩) fun _ _ held =>
      ⟨held.1, fun after stands => ?_⟩
    · intro _ finish _ _ frames
      obtain ⟨after, stand, _⟩ := held.2
      exact ⟨context, .loop place bodyPlace tests stand, shown.continues frames⟩
    · cases stands with
      | loop _ _ _ stand => exact held.2 _ stand
  · cases stands with
    | loop _ _ tests _ => exact other tests

/-- A jump is judged by the loops around it, whichever of the two it is. -/
theorem jump_judges {statement : Statement} (stage : Stage start start here [])
    (here_open : start.HasOpen here) (shown : Shows start.scopes.frames context) (jump : Jump)
    (place : Location) (label : Option String)
    (stands : ∀ after, Stands context statement after ↔ context.HasLoop label ∧ after = context) :
    (lowerJump jump place label).Judges start here (Stands context statement) := by
  have meant := shown.hasLoop label
  refine stage.jumps here_open jump place label (fun frame block found _ _ finish adds => ?_)
    fun missing _ after stood => ?_
  · have loop := meant.mpr (Option.isSome_of_eq_some found)
    exact ⟨context, (stands context).mpr ⟨loop, rfl⟩, adds.scopes ▸ shown⟩
  · have loop := meant.mp ((stands after).mp stood).1
    exact absurd loop (by simp [show Scopes.loopFrameIn _ _ = none from missing])

/-- A jump out of a loop stands where a loop is meant by it. -/
theorem stands_break {place : Location} {label : Option Identifier} (after : Context) :
    Stands context (.break place label) after ↔
      context.HasLoop (label.map Identifier.name) ∧ after = context := by
  constructor
  · intro stands
    cases stands with
    | «break» _ meant => exact ⟨meant, rfl⟩
  · rintro ⟨meant, rfl⟩
    exact .break place meant

/-- So does a jump to the next round. -/
theorem stands_continue {place : Location} {label : Option Identifier} (after : Context) :
    Stands context (.continue place label) after ↔
      context.HasLoop (label.map Identifier.name) ∧ after = context := by
  constructor
  · intro stands
    cases stands with
    | «continue» _ meant => exact ⟨meant, rfl⟩
  · rintro ⟨meant, rfl⟩
    exact .continue place meant

/-- An expression is judged by whether it has a kind. -/
theorem evaluate_judges (stage : Stage start start here []) (here_open : start.HasOpen here)
    (shown : Shows start.scopes.frames context) (value : Expression) :
    (Statement.toTree (.evaluate value)).lowerStatement.Judges start here
      (Stands context (.evaluate value)) := by
  refine stage.drops here_open
    (Ends.imp (value.lowerExpression_decides stage.sound (stage.ready here_open) shown)
    (fun answer middle has more => ⟨context, .evaluate has, more.scopes ▸ shown⟩)
    fun _ _ none_has after stands => ?_)
  -- The rule asks for a kind of the expression, and there is none.
  cases stands with
  | evaluate has => exact none_has _ has

mutual

/-- Lowering a statement decides whether it may stand where it does. -/
theorem lowerStatement_judges :
    ∀ (statement : Statement) {context : Context} {start : Builder} {here : BlockRef},
    Stage start start here [] → start.HasOpen here → Shows start.scopes.frames context →
    statement.toTree.lowerStatement.Judges start here (Stands context statement)
  | .function place name parameters bodyPlace body result, _, _, _, stage, here_open, shown =>
    function_judges stage here_open shown place name parameters bodyPlace result fun _ =>
      lowerStatements_judges body
  | .declare place name stated value, _, _, _, stage, here_open, shown =>
    declare_judges stage here_open shown place name stated value
  | .block place body, _, _, _, stage, here_open, shown =>
    block_judges stage here_open shown place (lowerStatements_judges body)
  | .return place none, _, _, _, stage, here_open, shown =>
    returnNothing_judges stage here_open shown place
  | .return place (some value), _, _, _, stage, here_open, shown =>
    return_judges stage here_open shown place value
  | .when place condition thenPlace thenBody, _, _, _, stage, here_open, shown =>
    when_judges stage here_open shown place condition thenPlace (lowerStatements_judges thenBody)
  | .choose place condition thenPlace thenBody elsePlace elseBody, _, _, _, stage,
      here_open, shown =>
    choose_judges stage here_open shown place condition thenPlace elsePlace
      (lowerStatements_judges thenBody) (lowerStatements_judges elseBody)
  | .loop place condition bodyPlace body label, _, _, _, stage, here_open, shown =>
    loop_judges stage here_open shown place condition bodyPlace label (lowerStatements_judges body)
  | .break place label, _, _, _, stage, here_open, shown => by
    rw [lower_break]
    exact jump_judges stage here_open shown .break place _ stands_break
  | .continue place label, _, _, _, stage, here_open, shown => by
    rw [lower_continue]
    exact jump_judges stage here_open shown .continue place _ stands_continue
  | .evaluate value, _, _, _, stage, here_open, shown =>
    evaluate_judges stage here_open shown value

/-- Lowering statements decides whether they may stand one after the other. -/
theorem lowerStatements_judges : ∀ (statements : List Statement) {context : Context},
    (lowerStatements (toTrees statements)).JudgesAll context statements
  | [], context, start, here, stage, shown => stage.nothing ⟨context, .nil context, shown⟩
  | statement :: rest, context, start, here, stage, shown => by
    refine stage.sequence fun opened last reopens stage last_open => ?_
    refine (lowerStatement_judges statement stage last_open (shown.continues reopens.frames)).imp
      (fun _ middle held => ⟨held.1, fun next stage => ?_⟩) fun _ _ held =>
        ⟨held.1, fun after stand => ?_⟩
    -- The context behind the first statement is the only one that the rest can be judged in.
    · obtain ⟨between, stands, shown⟩ := held.2
      refine (lowerStatements_judges rest stage shown).imp (fun _ finish held => ⟨held.1, ?_⟩)
        fun _ _ held => ⟨held.1, fun after stand => ?_⟩
      · obtain ⟨after, others, shown⟩ := held.2
        exact ⟨after, .cons stands others, shown⟩
      · cases stand with
        | cons first others =>
          cases stands.unique first
          exact held.2 _ others
    · cases stand with
      | cons first _ => exact held.2 _ first

end

end Statement

end LoopLang
