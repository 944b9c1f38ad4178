import LoopLang.Proofs.Execution.Mirror
import LoopLang.Proofs.Lowering.Declaration
import LoopLang.Proofs.Lowering.Refusal

/-! The code of an expression does what evaluating the expression does. -/

namespace LoopLang

open Code (Activation Configuration Instruction Lasts Module Name Operand Reaches Returns
  Waiting assign)
open Lowering (answerKind)

/-- The kind of what a call gives, which is `void` where that is nothing. -/
def resultKind : Option Value → ExactKind
  | some value => value.kind.exact
  | none => .void

/-- A function of the code has the signature of a function of the program, and a block to start
in. -/
def Matches (code : Module) (handle : Name) (closure : Closure) : Prop :=
  ∃ function, code.function? handle = some function ∧ function.blocks ≠ [] ∧
    function.result = closure.result ∧
    function.parameters.map Prod.snd = closure.parameters.map Parameter.kind

/-- A call in the code comes to what a call in the program comes to, or outlasts the fuel. -/
def Settles (code : Module) (fuel : Nat) (start : Configuration) (closure : Closure)
    (arguments : List Value) : Prop :=
  match closure.run fuel arguments with
  | .ok result => Returns code start result ∧ resultKind result = closure.result
  | .error .outOfFuel => Lasts code fuel start
  | .error .meaningless => False

/-- Running a function of the code does what calling a function of the program does, as far as the
fuel goes. -/
structure Simulates (code : Module) (fuel : Nat) (handle : Name) (closure : Closure) : Prop where
  fits : Matches code handle closure
  runs : ∀ function arguments activation waiting, code.function? handle = some function →
    arguments.map Value.kind = closure.parameters.map Parameter.kind →
    Activation.start? function arguments = some activation →
    Settles code fuel ⟨activation, waiting⟩ closure arguments

/-- A function that is visible in frames is so in the program, and the two belong together. -/
def Knows (related : Name → Closure → Prop) (frames : List Frame)
    (functions : List (String × Closure)) : Prop :=
  ∀ name handle result parameters,
    frames.findSome? (·.find? name) = some (.fn handle result parameters) →
    ∃ closure, functions.lookup name = some closure ∧ related handle closure

/-- What lowering has emitted between two builders does what an evaluation does, whatever code comes
of it. -/
def Imitates {α : Type} (start finish : Builder)
    (evaluation : List (String × Closure) → Nat → Evaluation α) (agrees : Activation → α → Prop) :
    Prop :=
  ∀ code fuel functions, finish.Leads code →
    Knows (Simulates code fuel) start.scopes.frames functions →
    Follows code fuel start finish (evaluation functions fuel) agrees

/-- Arguments stand for the values that they are evaluated to. -/
def GivesAll (activation : Activation) (operands : List Operand) (values : List Value) : Prop :=
  operands.mapM activation.value? = some values ∧ values.map Value.kind = operands.map Operand.kind

section Steps

variable {code : Module} {fuel : Nat} {start middle finish : Builder} {waiting : List Waiting}
  {activation : Activation} {locals : Evaluation.Variables}

/-- What stands for a result has its kind. -/
theorem Code.Activation.Gives.kind {answer : Option Operand} {result : Option Value}
    (gives : activation.Gives answer result) : resultKind result = answerKind answer := by
  cases gives with
  | value _ kind => exact congrArg ValueKind.exact kind
  | nothing => rfl

/-- A number stands for a number. -/
theorem Code.Activation.Gives.number {operand : Operand} {result : Option Value}
    (gives : activation.Gives (some operand) result) (kind : operand.kind = .num) :
    ∃ value, result = some (.number value) ∧ activation.value? operand = some (.number value) := by
  cases gives with
  | value has same =>
    rename_i value
    -- The kind of the operand is that of the value.
    cases value with
    | number value => exact ⟨value, rfl, has⟩
    | boolean value =>
      rw [kind] at same
      cases same

/-- The function of the current block owns the innermost frame. -/
theorem Builder.Resolves.owner {name : String} {kind : ValueKind} {slot : Slot}
    (resolves : start.Resolves name kind slot) (sound : start.Sound) :
    ∀ frame ∈ start.scopes.frames.head?, frame.home = slot.function := by
  intro frame innermost
  -- The variable belongs to the current function, whose frame is the innermost one.
  have owner := (sound.fits frame (List.mem_of_head? innermost)).function_eq
  have own := resolves.own
  rw [Scopes.function?, show start.scopes.current? = some frame from innermost, Option.bind_some,
    owner] at own
  exact Option.some.inj own

/-- Loading a slot gives the value of the variable. -/
theorem Builder.Loads.follows {name : String} {operand : Operand}
    (loads : start.Loads finish name operand) (sound : start.Sound) (leads : finish.Leads code) :
    Follows code fuel start finish (Evaluation.load name) fun next value =>
      next.Gives (some operand) (some value) := by
  intro activation locals waiting mirrors
  obtain ⟨resolves, gains⟩ := loads
  -- The slot holds what the variable has, so that both sides come to the same value.
  obtain ⟨value, kind, found, held⟩ :=
    mirrors.keeps.load sound.enclosed sound.fits (resolves.owner sound) resolves.bound rfl
  rw [Evaluation.load_ends found]
  obtain ⟨next, arrives, has⟩ := mirrors.gains waiting gains rfl leads value fun rest comes => by
    refine .step ((Configuration.step_eq code comes waiting).trans ?_)
    simp [Configuration.perform, Configuration.continueWith, held]
  exact ⟨next, arrives, .value (has _) kind⟩

/-- What comes next does not matter for the value of an operand. -/
@[simp] theorem Code.Activation.value?_rest (activation : Activation) (rest : List Instruction) :
    ({ activation with rest } : Activation).value? = activation.value? := by
  funext operand
  cases operand <;> rfl

/-- Both operands of an operation are numbers. -/
theorem Builder.Calculates.numbers {sign : String} {left right operand : Operand}
    (calculates : start.Calculates finish sign left right operand) :
    left.kind = .num ∧ right.kind = .num := by
  cases calculates with
  | intro _ left_number right_number _ => exact ⟨left_number, right_number⟩

/-- An operation on numbers is computed. -/
theorem Builder.Calculates.arrives {sign : Operator} {left right operand : Operand}
    (calculates : start.Calculates finish sign.sign left right operand)
    (mirrors : start.Mirrors code activation locals) (leads : finish.Leads code)
    {first second : Float} (left_is : activation.value? left = some (.number first))
    (right_is : activation.value? right = some (.number second)) :
    ∃ next, Arrives code start finish waiting activation next locals ∧
      next.Gives (some operand) (some (.number (sign.apply first second))) := by
  obtain ⟨known, left_number, right_number, gains⟩ := calculates
  rename_i operator base register
  -- A sign stands for one operator only.
  obtain rfl : sign = operator := by
    cases sign <;> cases known <;> rfl
  obtain ⟨next, arrives, has⟩ := mirrors.gains waiting gains rfl leads
    (.number (sign.apply first second)) fun rest comes => by
      refine .step ((Configuration.step_eq code comes waiting).trans ?_)
      simp [Configuration.perform, Configuration.continueWith, Activation.number?,
        left_is, right_is]
  exact ⟨next, arrives, .value (has _) rfl⟩

/-- A value that is stored in the slot of a variable becomes the value of the variable. -/
theorem Builder.Resolves.store {name : String} {kind : ValueKind} {slot : Slot}
    (resolves : start.Resolves name kind slot) (sound : start.Sound)
    (mirrors : start.Mirrors code activation locals) (leads : finish.Leads code)
    {operand : Operand} (adds : start.Adds finish [.store operand kind slot.name]) {value : Value}
    (gives : activation.Gives (some operand) (some value)) (same : operand.kind = kind) :
    ∃ after next, Evaluation.replace? name value locals = some after ∧
      Arrives code start finish waiting activation next after ∧ next.Gives (some operand)
        (some value) := by
  cases gives with
  | value has value_kind =>
  have bound := resolves.bound
  rw [← same, ← value_kind] at bound
  obtain ⟨after, replaced, keeps⟩ :=
    mirrors.keeps.store sound.enclosed sound.fits (resolves.owner sound) sound.separate
    bound rfl
  obtain ⟨rest, comes⟩ := mirrors.placed.rest leads fun _ _ here found _ => adds.current here found
  -- The variable and its slot are changed together.
  refine ⟨after, { activation with rest, slots := assign slot.name (some value) activation.slots },
    replaced, ⟨⟨.step ?_, rfl⟩, ⟨?_, ?_⟩, fun operand _ => ?_⟩, .value ?_ value_kind⟩
  · refine (Configuration.step_eq code comes waiting).trans ?_
    simp [Configuration.perform, Configuration.continueWith, has]
  · exact mirrors.placed.adds adds (.single rfl) comes rfl rfl
  · exact adds.scopes ▸ keeps
  · cases operand <;> rfl
  · cases operand <;> exact has

/-- A function starts with arguments of the kinds that its closure has parameters of. -/
theorem Matches.starts {handle : Name} {closure : Closure} (fits : Matches code handle closure)
    {arguments : List Value}
    (kinds : arguments.map Value.kind = closure.parameters.map Parameter.kind) :
    ∃ function begun, code.function? handle = some function ∧ Activation.start? function arguments =
      some begun := by
  obtain ⟨function, found, started, _, parameters⟩ := fits
  obtain ⟨entry, others, blocks⟩ := List.ne_nil_iff_exists_cons.mp started
  -- There is an argument for every parameter, and a first block to start in.
  have count : arguments.length = function.parameters.length := by
    simpa using congrArg List.length (kinds.trans parameters.symm)
  obtain ⟨begun, starts⟩ : ∃ begun, Activation.start? function arguments = some begun := by
    simp [Activation.start?, count, blocks]
  exact ⟨function, begun, found, starts⟩

/-- A call does what the called function of the program does. -/
theorem Builder.Calls.settles {callee : Lowering.Callee} {operands : List Operand}
    {answer : Option Operand} (calls : start.Calls finish callee operands answer)
    (mirrors : start.Mirrors code activation locals) (leads : finish.Leads code)
    {closure : Closure} (simulates : Simulates code fuel callee.handle closure)
    (promised : callee.result = .exact closure.result) {values : List Value}
    (gives : GivesAll activation operands values)
    (kinds : values.map Value.kind = closure.parameters.map Parameter.kind) :
    (liftM (closure.run fuel values) : Evaluation (Option Value)).Ends locals
      (fun result after => ∃ next,
        Arrives code start finish waiting activation next after ∧ next.Gives answer result)
      (Lasts code (fuel + 1) ⟨activation, waiting⟩) := by
  obtain ⟨function, begun, found, starts⟩ := simulates.fits.starts kinds
  -- The first step of a call goes into the callee while the caller waits.
  have enters : ∀ {result : Option (String × ValueKind)} {rest : List Instruction},
      activation.rest = .call result callee.handle operands :: rest →
      (⟨activation, waiting⟩ : Configuration).step code =
        .running ⟨begun, ⟨{ activation with rest }, result.map Prod.fst⟩ :: waiting⟩ :=
          fun comes => by
    refine (Configuration.step_eq code comes waiting).trans ?_
    simp [Configuration.perform, Configuration.enterCall, gives.1, found, starts]
  have settles := fun others => simulates.runs function values begun others found kinds starts
  unfold Settles at settles
  rw [Evaluation.lift_ends]
  -- Either the callee returns and the caller goes on, or the call lasts and the whole run with it.
  revert settles
  cases closure.run fuel values with
  | ok result =>
    intro settles
    have kind := (settles []).2
    cases calls with
    | value exact gains =>
      rename_i stored register
      -- The function promises a value, so there is one.
      have same : stored.exact = closure.result := Kind.exact.inj (exact.symm.trans promised)
      cases result with
      | none =>
        rw [← same] at kind
        cases stored <;> cases kind
      | some value =>
        obtain ⟨next, arrives, has⟩ := mirrors.gains waiting gains rfl leads value fun rest comes =>
          (Reaches.step (enters comes)).trans (settles _).1.resumeWith
        exact ⟨next, arrives, .value (has _) (ValueKind.exact_injective (kind.trans same.symm))⟩
    -- A void function gives nothing back, and the caller goes on behind the call.
    | nothing exact adds =>
      have void : closure.result = .void := by
        rw [promised] at exact
        exact ExactKind.value?_eq_none.mp exact
      cases result with
      | some value =>
        rw [void] at kind
        cases shape : value.kind <;> simp [resultKind, shape, ValueKind.exact] at kind
      | none =>
        obtain ⟨rest, comes⟩ :=
          mirrors.placed.rest leads fun _ _ here found _ => adds.current here found
        refine ⟨_, ⟨⟨(Reaches.step (enters comes)).trans (settles _).1.resume, rfl⟩, ⟨?_, ?_⟩,
          fun operand _ => ?_⟩, .nothing⟩
        · exact mirrors.placed.adds adds (.single rfl) comes rfl rfl
        · exact adds.scopes ▸ mirrors.keeps
        · rw [Activation.value?_rest]
  | error stop =>
    cases stop with
    | outOfFuel =>
      intro lasts
      have adds : ∃ result, start.Adds finish [.call result callee.handle operands] := by
        cases calls with
        | value _ gains => exact ⟨_, gains.adds⟩
        | nothing _ adds => exact ⟨_, adds⟩
      obtain ⟨result, adds⟩ := adds
      obtain ⟨rest, comes⟩ :=
        mirrors.placed.rest leads fun _ _ here found _ => adds.current here found
      exact (lasts _).step (enters comes)
    -- A call that means nothing is excluded by what the closure promises.
    | meaningless => exact fun never => never []

/-- What is known of a callee is so for the function of the program that belongs to it. -/
theorem Builder.HasCallee.signature {callee : Lowering.Callee} (has : start.HasCallee callee)
    (leads : start.Leads code) {closure : Closure} (fits : Matches code callee.handle closure) :
    callee.result = .exact closure.result ∧
      callee.parameters = closure.parameters.map fun parameter => parameter.kind.exact := by
  obtain ⟨function, found, result, parameters⟩ := has
  obtain ⟨later, kept, _, same_result, same_parameters⟩ := fits
  obtain ⟨grown, still, inside⟩ := leads.grows.functions _ function found
  -- A function that has grown still has its signature.
  cases kept.symm.trans still
  refine ⟨by rw [result, ← same_result, inside.result], ?_⟩
  have kinds := congrArg (List.map ValueKind.exact) same_parameters
  rw [inside.parameters] at kinds
  simpa [Function.comp_def, parameters] using kinds

/-- One argument stands for its value in front of the others. -/
theorem GivesAll.cons {operand : Operand} {operands : List Operand} {value : Value}
    {values : List Value} (first : activation.Gives (some operand) (some value))
    (others : GivesAll activation operands values) :
    GivesAll activation (operand :: operands) (value :: values) := by
  cases first with
  | value has kind => exact ⟨by simp [has, others.1], by simp [kind, others.2]⟩

end Steps

namespace Lowering

variable {α β : Type} {action : Lowering α} {start : Builder}

/-- What is known of a part that only extends the current block is known where the rest begins. -/
theorem Computes.follow {next : α → Lowering β} {known wanted : α → Builder → Prop}
    {done : β → Builder → Prop} (computes : action.Computes start known)
    (ends : action.Ends start wanted fun _ _ => True)
    (rest : ∀ answer middle, middle.Sound → start.Extends middle → known answer middle →
      wanted answer middle → (next answer).Ends middle done fun _ _ => True) :
    (action >>= next).Ends start done fun _ _ => True := by
  -- Both of what is known about the first part hold where the second one begins.
  have both := (Ends.and computes ends).imp (fun _ _ held => held) fun _ _ _ => trivial
  refine Ends.bind both fun answer middle held => ?_
  obtain ⟨⟨sound, more, answered⟩, also⟩ := held
  exact rest answer middle sound more answered also

/-- What is known of a part that changes nothing is known where the rest begins. -/
theorem Reads.follow {next : α → Lowering β} {known : α → Prop} {wanted : α → Builder → Prop}
    {done : β → Builder → Prop} (reads : action.Reads start known)
    (ends : action.Ends start wanted fun _ _ => True)
    (rest : ∀ answer, known answer → wanted answer start → (next answer).Ends start done
      fun _ _ => True) :
    (action >>= next).Ends start done fun _ _ => True := by
  refine Ends.bind ((Ends.and reads ends).imp (fun _ _ held => held) fun _ _ _ => trivial)
    fun answer middle held => ?_
  obtain ⟨⟨known, rfl⟩, wanted⟩ := held
  exact rest answer known wanted

end Lowering

namespace Expression

open Lowering LoopLang.Tree

/-- An expression that must have a value is followed like any other one. -/
theorem required_follows {value : Expression} {start : Builder} (place : Location)
    {evaluation : List (String × Closure) → Nat → Evaluation (Option Value)}
    (follows : value.toTree.lowerExpression.Ends start
      (fun answer finish => Imitates start finish evaluation fun activation =>
        activation.Gives answer) fun _ _ => True) :
    (required place value.toTree.lowerExpression).Ends start
      (fun operand finish => Imitates start finish evaluation fun activation =>
        activation.Gives (some operand))
      fun _ _ => True := by
  refine required_ends.mpr (Ends.imp follows (fun answer _ held => ?_) fun _ _ held => held)
  cases answer with
  | some operand => exact held
  -- A missing value is refused, so nothing remains to be shown.
  | none => trivial

/-- The target of an assignment is a variable of the current function. -/
theorem resolveTarget_finds {start : Builder} (place : Location) (target : Identifier) :
    (resolveTarget place "=" (target.toTree .infer)).Reads start fun (found, kind, slot) =>
      found = target.name ∧ start.Resolves target.name kind slot := by
  refine Reads.bind (usedName_reads (.text target.name)) fun name used => ?_
  subst used
  exact Reads.bind (resolveVariable_reads target.name target.place) fun _ resolves =>
    .pure ⟨rfl, resolves⟩

mutual

/-- The code of an expression does what evaluating it does. -/
theorem lowerExpression_follows :
    ∀ (value : Expression) {start : Builder}, start.Sound → start.Ready →
    value.toTree.lowerExpression.Ends start
      (fun answer finish => Imitates start finish
        (fun functions fuel => value.evaluate functions (Closure.run fuel))
        fun activation => activation.Gives answer) fun _ _ => True
  -- Constants are what they are, without any code.
  | .number place value, start, sound, ready => by
    intro code fuel functions leads known activation locals waiting mirrors
    exact ⟨activation, mirrors.arrives waiting, .value rfl rfl⟩
  | .boolean place value, start, sound, ready => by
    intro code fuel functions leads known activation locals waiting mirrors
    exact ⟨activation, mirrors.arrives waiting, .value rfl rfl⟩
  | .identifier place name, start, sound, ready => by
    rw [Expression.toTree, lowerExpression, usedName_text, pure_bind]
    refine Computes.follow (loadVariable_computes sound ready name place) .any
      fun operand finish _ more held _ => ?_
    intro code fuel functions leads known
    refine (held.2.follows sound leads).bind more fun value next after waiting mirrors gives => ?_
    exact ⟨next, mirrors.arrives waiting, gives⟩
  | .call place callee arguments, start, sound, ready => by
    -- The callee is looked up first, and its signature says what the arguments must be.
    refine Reads.follow (resolveCallee_reads sound place _)
      (resolveCallee_answers place callee.place callee.name (.kindValue .infer)).ends
      fun found has bound => ?_
    have lowered : (lowerArguments found place (.list (toTrees arguments))).Ends start
        (fun operands finish => Imitates start finish
          (fun functions fuel => evaluateAll functions (Closure.run fuel) arguments)
          fun activation => GivesAll activation operands) fun _ _ => True := by
      refine Reads.follow (checkCount_reads found _ place) .any fun _ count _ => ?_
      exact lowerItems_follows arguments found.name 1 found.parameters sound ready
        (toTrees_length arguments ▸ count)
    refine Computes.follow
      (lowerExpression_computes_all.2.1 found place _ start sound ready) lowered
      fun operands middle sound more fit arguments_follow => ?_
    refine Ends.imp (emitCall_computes sound (more.ready ready) (more.hasCallee has) fit.2 fit.1)
      (fun answer finish held => ?_) fun _ _ _ => trivial
    obtain ⟨_, _, _, calls⟩ := held
    intro code fuel functions leads known
    have middle_leads : middle.Leads code := leads.before calls.extends.code
    -- What the name is bound to is the visible function of that name.
    obtain ⟨closure, visible, simulates⟩ := known _ _ _ _ bound
    obtain ⟨promised, parameters⟩ := has.signature (middle_leads.before more.code) simulates.fits
    have evaluates : (Expression.call place callee arguments).evaluate functions
        (Closure.run fuel) =
        evaluateAll functions (Closure.run fuel) arguments >>= fun values =>
          liftM (closure.run fuel values) := by
      rw [evaluate, visible]
    dsimp only
    rw [evaluates]
    refine (arguments_follow code fuel functions middle_leads known).bind more
      fun values next after waiting mirrors gives => ?_
    refine calls.settles mirrors leads simulates promised gives ?_
    -- Arguments have the kinds that the callee expects of them.
    refine (List.map_inj_right fun _ _ => ValueKind.exact_injective).mp ?_
    rw [gives.2, List.map_map, List.map_map]
    exact fit.1.trans parameters
  -- Both operands are computed in a row, and the operation on them is the last step.
  | .binary place operator left right, start, sound, ready => by
    refine Computes.follow (required_computes (lowerExpression_computes_all.1 _ start sound ready))
      (required_follows _ (lowerExpression_follows left sound ready))
      fun first middle sound more first_holds left_follows => ?_
    have ready := more.ready ready
    refine Computes.follow (required_computes (lowerExpression_computes_all.1 _ middle sound ready))
      (required_follows _ (lowerExpression_follows right sound ready))
      fun second last sound further second_holds right_follows => ?_
    rw [usedSign_text, pure_bind]
    refine Computes.follow
      (emitArithmetic_computes sound (further.ready ready) operator.sign (further.holds first_holds)
      second_holds place) .any fun operand finish _ added ⟨_, calculates⟩ _ => ?_
    intro code fuel functions leads known
    obtain ⟨first_number, second_number⟩ := calculates.numbers
    have last_leads := leads.before added.code
    have right_follows := right_follows code fuel functions last_leads (more.scopes ▸ known)
    refine (left_follows code fuel functions (last_leads.before further.code) known).bind more
      fun result next after waiting mirrors gives => ?_
    obtain ⟨one, rfl, first_is⟩ := gives.number first_number
    -- While the right operand is evaluated, the left one keeps its value.
    refine Evaluation.bind_ends.mpr (Evaluation.bind_ends.mpr ?_)
    refine (right_follows.holding first_holds mirrors first_is).imp (fun result final held => ?_) id
    obtain ⟨ended, arrives, gives, first_is⟩ := held
    obtain ⟨two, rfl, second_is⟩ := gives.number second_number
    obtain ⟨result, adds, gives⟩ := calculates.arrives arrives.mirrors leads first_is second_is
    exact ⟨result, arrives.trans further adds, gives⟩
  | .assign place target value, start, sound, ready => by
    -- The target is looked up in front of the value, which changes no frame.
    refine Reads.follow (resolveTarget_finds place target) .any
      fun (name, kind, slot) ⟨_, resolves⟩ _ => ?_
    refine Computes.follow (required_computes (lowerExpression_computes_all.1 _ start sound ready))
      (required_follows _ (lowerExpression_follows value sound ready))
      fun operand middle sound_middle more holds follows => ?_
    have has := more.hasSlot (resolves.hasSlot sound ready)
    refine Computes.follow
      (storeVariable_computes sound_middle (more.ready ready) name has holds place) .any
      fun _ finish _ added ⟨same, adds⟩ _ => ?_
    intro code fuel functions leads known
    refine (follows code fuel functions (leads.before added.code) known).bind more
      fun result next after waiting mirrors gives => ?_
    cases gives with
    | value is kind =>
    -- The slot that was looked up is the one that is stored to.
    have resolves : middle.Resolves target.name _ slot :=
      ⟨more.scopes ▸ resolves.bound, more.scopes ▸ resolves.own⟩
    obtain ⟨final, last, replaced, arrives, gives⟩ :=
      resolves.store sound_middle mirrors leads adds (.value is kind) same
    refine Evaluation.bind_ends.mpr
      (Evaluation.bind_ends.mpr ((Evaluation.store_ends replaced).mpr ?_))
    exact ⟨last, arrives, gives⟩

/-- The code of arguments does what evaluating them from left to right does. -/
theorem lowerItems_follows :
    ∀ (items : List Expression) (callee : String) (position : Nat) (kinds : List ExactKind)
    {start : Builder}, start.Sound → start.Ready → items.length = kinds.length →
    (lowerItems callee position kinds (toTrees items)).Ends start
      (fun operands finish => Imitates start finish
        (fun functions fuel => evaluateAll functions (Closure.run fuel) items)
        fun activation => GivesAll activation operands) fun _ _ => True
  | [], callee, position, kinds, start, sound, ready, count => by
    -- Where no argument is left, no kind is expected either.
    obtain rfl := List.eq_nil_of_length_eq_zero count.symm
    intro code fuel functions leads known activation locals waiting mirrors
    exact ⟨activation, mirrors.arrives waiting, rfl, rfl⟩
  | item :: rest, callee, position, kind :: kinds, start, sound, ready, count => by
    refine Computes.follow (required_computes (lowerExpression_computes_all.1 _ start sound ready))
      (required_follows _ (lowerExpression_follows item sound ready))
      fun operand middle sound more holds follows => ?_
    refine Reads.follow (checkArgument_reads callee position kind operand item.toTree.place) .any
      fun _ _ _ => ?_
    have ready := more.ready ready
    have count := Nat.succ.inj count
    refine Computes.follow
      (lowerExpression_computes_all.2.2 callee (position + 1) kinds _ middle sound ready
      (toTrees_length rest ▸ count))
        (lowerItems_follows rest callee (position + 1) kinds sound ready count)
      fun operands finish _ further _ rest_follow => ?_
    intro code fuel functions leads known
    -- The other arguments are evaluated behind the first one, in the same frames.
    have rest_follow := rest_follow code fuel functions leads (more.scopes ▸ known)
    refine (follows code fuel functions (leads.before further.code) known).bind more
      fun result next after waiting mirrors gives => ?_
    cases gives with
    | value is kind =>
    refine Evaluation.bind_ends.mpr (Evaluation.bind_ends.mpr ?_)
    -- The first value is still there when the others are evaluated.
    refine (rest_follow.holding holds mirrors is).imp (fun values final held => ?_) id
    obtain ⟨last, arrives, gives, still⟩ := held
    exact ⟨last, arrives, .cons (.value still kind) gives⟩

end

end Expression

end LoopLang
