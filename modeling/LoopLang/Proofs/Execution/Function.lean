import LoopLang.Proofs.Execution.Flow

/-! Functions: how a call of one begins, what its parameters hold, and that it returns what its
closure does. -/

namespace LoopLang

open Code (Activation Configuration Instruction Lasts Module Name Operand Reaches Returns
  Waiting assign)
open Lowering (answerKind)

section Variables

variable {code : Module} {start finish : Builder} {activation : Activation}
  {locals : Evaluation.Variables}
  {name : String} {kind : Kind} {answer : Option Operand}

/-- A declared variable has the value that it gets. -/
theorem Builder.Binds.arrives (binds : start.Binds finish name kind answer)
    (waiting : List Waiting) (same : kind = .exact (answerKind answer)) (sound : start.Sound)
    (lacks : start.Lacks name) (mirrors : start.Mirrors code activation locals)
    (leads : finish.Leads code) {result : Option Value} (gives : activation.Gives answer result) :
    ∃ layer around next, locals = layer :: around ∧ activation.Goes code waiting next ∧
      finish.Mirrors code next ((layer ++ [(name, result)]) :: around) ∧
      next.registers = activation.registers := by
  obtain ⟨here, _, current, _⟩ := id mirrors.placed
  obtain ⟨frame, innermost, at_⟩ := Option.bind_eq_some_iff.mp current
  obtain ⟨outer, opened⟩ := List.head?_eq_some_iff.mp innermost
  have new := lacks frame innermost
  -- A void variable has neither a value nor a slot; any other one gets both at once.
  cases binds with
  | void declares =>
    obtain rfl : result = none := by
      cases gives with
      | value _ kind =>
        injection same with same
        cases Lowering.answerKind_eq_void.mp same.symm
      | nothing => rfl
    have keeps := opened ▸ mirrors.keeps
    obtain ⟨layer, around, rfl, declared⟩ :=
      keeps.declare new (.void .void) (opened ▸ declares.frames)
    refine ⟨layer, around, activation, rfl, ⟨.refl _ _, rfl⟩, ⟨?_, declared⟩, rfl⟩
    obtain ⟨block, body, at_, found, body_open, stands⟩ := mirrors.placed
    exact ⟨block, body, declares.current.trans at_, declares.code ▸ found, body_open, stands⟩
  | stored holds owner own adds declares =>
    rename_i initial slot middle
    cases gives with
    | value has value_kind =>
    rename_i value
    have inside : ∀ frame ∈ start.scopes.frames.head?, frame.home = slot.function :=
      fun other member => by
        cases innermost.symm.trans member
        rw [owner here current]
        exact (sound.fits frame (List.mem_of_head? innermost)).home_eq at_
    -- The slot is a new one, so that no other variable changes.
    have keeps := mirrors.keeps.elsewhere sound.enclosed sound.fits inside own (some value)
    rw [opened] at keeps
    have first : Stored (assign slot.name (some value) activation.slots)
        (some (.var initial.kind.exact (some slot)))
        (some (some value)) := value_kind ▸ .value (by rw [Code.lookup_assign, if_pos rfl])
    have continues := declares.frames
    rw [adds.scopes, opened] at continues
    -- The store is the next instruction, and behind it the name stands for the value.
    obtain ⟨layer, around, rfl, declared⟩ := keeps.declare new first continues
    obtain ⟨rest, comes⟩ :=
      mirrors.placed.rest leads fun _ _ here found _ => declares.code ▸ adds.current here found
    have placed : middle.Places code
        { activation with rest, slots := assign slot.name (some value) activation.slots } :=
      mirrors.placed.adds adds (.single rfl) comes rfl rfl
    refine ⟨layer, around,
      { activation with rest, slots := assign slot.name (some value) activation.slots }, rfl,
      ⟨.step ((Configuration.step_eq code comes waiting).trans ?_), rfl⟩, ⟨?_, declared⟩, rfl⟩
    · simp [Configuration.perform, Configuration.continueWith, has]
    · obtain ⟨block, body, at_, found, body_open, stands⟩ := placed
      exact ⟨block, body, declares.current.trans at_, declares.code ▸ found, body_open, stands⟩

/-- Frames that go on in which no function is declared. -/
def Builder.Plain (builder later : Builder) : Prop :=
  ∃ more, Builder.Continues more builder.scopes.frames later.scopes.frames ∧ ∀ entry ∈ more,
    entry.2.isFunction = false

/-- The declaration of a variable declares no function. -/
theorem Builder.Binds.plain (binds : start.Binds finish name kind answer) : start.Plain finish := by
  cases binds with
  | void declares => exact ⟨_, declares.frames, by simp [Binding.isFunction]⟩
  | stored _ _ _ adds declares =>
    exact ⟨_, adds.scopes ▸ declares.frames, by simp [Binding.isFunction]⟩

/-- Nor does it change the functions of the code. -/
theorem Builder.Binds.passes (binds : start.Binds finish name kind answer) :
    start.Passes finish := by
  obtain ⟨more, continues, plain⟩ := binds.plain
  refine ⟨?_, ?_, fun related functions known => known.continues continues plain⟩
  -- A void name has no slot, any other one adds a slot and a store.
  · cases binds with
    | void declares => exact declares.code ▸ .refl _
    | stored _ _ _ adds declares => exact declares.code ▸ adds.code
  · cases binds with
    | void declares => rw [declares.code]
    | stored _ _ _ adds declares => rw [declares.code, adds.handles]

variable {middle : Builder}

/-- Two plain steps are one. -/
theorem Builder.Plain.trans (first : start.Plain middle) (second : middle.Plain finish) :
    start.Plain finish := by
  obtain ⟨more, begun, plain⟩ := first
  obtain ⟨rest, ended, also⟩ := second
  exact ⟨more ++ rest, begun.trans ended, List.forall_mem_append.mpr ⟨plain, also⟩⟩

/-- What is passed on twice is passed on. -/
theorem Builder.Passes.trans (first : start.Passes middle) (second : middle.Passes finish) :
    start.Passes finish :=
  ⟨first.code.trans second.code, second.handles.trans first.handles, fun related functions known =>
    second.visible related functions (first.visible related functions known)⟩

variable {registers : List (String × ValueKind)} {parameters : List Lowering.TypedName}

/-- Neither does the declaration of parameters. -/
theorem Builder.Stores.passes (stores : start.Stores registers parameters finish) :
    start.Passes finish ∧ start.Plain finish := by
  -- Each parameter is the declaration of a variable.
  induction stores with
  | nil => exact ⟨.refl _, [], .refl _, List.forall_mem_nil _⟩
  | cons _ binds _ _ ih => exact ⟨binds.passes.trans ih.1, binds.plain.trans ih.2⟩

/-- The parameters have the values that their registers hold. -/
theorem Builder.Stores.arrives (stores : start.Stores registers parameters finish)
    (waiting : List Waiting) (sound : start.Sound) (leads : finish.Leads code)
    {layer : List (String × Option Value)} {around : Evaluation.Variables}
    (mirrors : start.Mirrors code activation (layer :: around)) {values : List Value}
    (count : values.length = registers.length)
    (hold : ∀ pair ∈ registers.zip values,
      activation.registers.lookup pair.1.1 = some pair.2 ∧ pair.2.kind = pair.1.2) :
    ∃ next, activation.Goes code waiting next ∧ finish.Mirrors code next
      ((layer ++ (parameters.map Lowering.TypedName.name).zip (values.map some)) :: around) := by
  -- By induction on the parameters; storing one of them leaves the registers of the others.
  induction stores generalizing activation layer values with
  | nil => exact ⟨activation, ⟨.refl _ _, rfl⟩, by simpa using mirrors⟩
  | cons lacks binds middle_sound stores ih =>
    rename_i register name kind place registers parameters
    cases values with
    | nil => cases count
    | cons value values =>
    obtain ⟨⟨has, value_kind⟩, others⟩ := List.forall_mem_cons.mp hold
    have gives : activation.Gives (some (.register register kind)) (some value) :=
      .value has value_kind
    obtain ⟨_, _, next, same, goes, mirrors, kept⟩ :=
      binds.arrives waiting rfl sound lacks mirrors (leads.before stores.passes.1.code) gives
    cases same
    -- The first parameter is stored, and then the others.
    obtain ⟨last, further, mirrors⟩ :=
      ih middle_sound leads mirrors (Nat.succ.inj count) fun pair member =>
        kept ▸ others pair member
    exact ⟨last, goes.trans further, by simpa using mirrors⟩

end Variables

/-! How a call begins. -/

namespace Code.Activation

variable {code : Module} (waiting : List Waiting) {activation : Activation}

/-- Slots are reserved one after the other, and nothing else changes. -/
theorem reserves {slots rest : List Instruction}
    (reserve : ∀ instruction ∈ slots, instruction.reserved?.isSome)
    (comes : activation.rest = slots ++ rest) :
    ∃ next, activation.Goes code waiting next ∧ next.rest = rest ∧
    next.registers = activation.registers := by
  -- By induction on the slots in front of the first block.
  induction slots generalizing activation with
  | nil => exact ⟨activation, ⟨.refl _ _, rfl⟩, comes, rfl⟩
  | cons instruction slots ih =>
    obtain ⟨first, others⟩ := List.forall_mem_cons.mp reserve
    obtain ⟨name, kind, rfl⟩ := Instruction.eq_alloca first
    obtain ⟨next, goes, left, registers⟩ := @ih
      { activation with
        rest := slots ++ rest, slots := assign name none activation.slots } others rfl
    refine ⟨next, ⟨?_, goes.function⟩, left, registers⟩
    exact (Reaches.step (Configuration.step_eq code comes waiting)).trans goes.reaches

/-- A call comes to the body of the first block, with its arguments in the registers of the
parameters. -/
theorem begins (tidy : code.Tidy) {name : Name} {function : Code.Function}
    (found : code.function? name = some function) {label : String}
    (first : function.start? = some label) {values : List Value}
    (starts : Activation.start? function values = some activation) :
    ∃ next, activation.Goes code waiting next ∧ next.At code ⟨name, label⟩ [] ∧
    next.function = function ∧
      next.registers = (function.parameters.map Prod.fst).zip values := by
  -- The first block starts with the slots of the function, behind which its body stands.
  have inner := tidy.functions _ (Code.Module.function?_mem found)
  unfold Activation.start? at starts
  split at starts
  · obtain ⟨block, entry, rfl⟩ := Option.map_eq_some_iff.mp starts
    have member := List.mem_of_head? entry
    obtain rfl : block.label = label := by simpa [Code.Function.start?, entry] using first
    obtain ⟨slots, parts, reserve⟩ := inner.slotsInFront.split member
    obtain ⟨next, goes, left, registers⟩ := @reserves code waiting
      ⟨function, block.instructions, (function.parameters.map Prod.fst).zip values, []⟩ slots
      block.body reserve parts
    refine ⟨next, goes, ⟨goes.function ▸ found, ?_⟩, goes.function, registers⟩
    simp [Module.body?, found, Code.Function.body?, inner.block?_eq member, left]
  · cases starts

variable {waiting}

/-- A call returns what stands for its result. -/
theorem Gives.returns {answer : Option Operand} {result : Option Value}
    (gives : activation.Gives answer result) {rest : List Instruction}
    (comes : activation.rest = Lowering.returning answer :: rest) :
    Returns code ⟨activation, waiting⟩ result := by
  refine ⟨_, .refl _ _, rfl, (Configuration.step_eq code comes waiting).trans ?_⟩
  -- The return is the next instruction, with the operand of the value or with none.
  cases gives with
  | value has _ =>
    simp only [Lowering.returning, Configuration.perform, Activation.value?_rest, has]
  | nothing => rfl

end Code.Activation

/-- The registers of parameters have the values of the arguments. -/
theorem lookup_parameters {registers : List (String × ValueKind)} {values : List Value}
    (distinct : (registers.map Prod.fst).Nodup)
    (kinds : values.map Value.kind = registers.map Prod.snd) :
    ∀ pair ∈ registers.zip values,
      ((registers.map Prod.fst).zip values).lookup pair.1.1 = some pair.2 ∧
      pair.2.kind = pair.1.2 := by
  -- By induction on the registers: the first one has the first value, and the others have other
  -- names.
  induction registers generalizing values with
  | nil => exact List.forall_mem_nil _
  | cons register registers ih =>
    cases values with
    | nil => exact List.forall_mem_nil _
    | cons value values =>
      obtain ⟨apart, distinct⟩ := List.nodup_cons.mp distinct
      obtain ⟨same, kinds⟩ := List.cons.inj kinds
      refine List.forall_mem_cons.mpr ⟨⟨by simp, same⟩, fun pair member => ?_⟩
      obtain ⟨held, kind⟩ := ih distinct kinds pair member
      -- A later parameter has another name than the first one.
      have differs : (pair.1.1 == register.1) = false := by
        rw [beq_eq_false_iff_ne]
        rintro same
        exact apart (same ▸ List.mem_map_of_mem (List.of_mem_zip member).1)
      exact ⟨by rw [List.map_cons, List.zip_cons_cons, List.lookup_cons, differs]; exact held, kind⟩

/-- What a call gives that falls off the end has the kind that is promised, and the code returns
it. -/
theorem Closure.fallback_gives (closure : Closure) (activation : Activation) :
    ∃ answer, activation.Gives answer closure.fallback ∧ Lowering.closing closure.result =
      Lowering.returning answer ∧ resultKind closure.fallback = closure.result := by
  unfold fallback
  -- There is one such value for each kind, written as a constant in the code.
  cases closure.result with
  | void => exact ⟨none, .nothing, rfl, rfl⟩
  | num => exact ⟨some (Code.zeroOperand .num), .value rfl rfl, rfl, rfl⟩
  | bool => exact ⟨some (Code.zeroOperand .bool), .value rfl rfl, rfl, rfl⟩

/-- A call settles as its body ends: it returns what that returns, or falls off the end. -/
theorem Settles.of_body {code : Module} {fuel : Nat} {start : Configuration} {closure : Closure}
    {arguments : List Value} (count : arguments.length = closure.parameters.length)
    (body : (Statement.performAll (Closure.run fuel) (fuel + 1) closure.visible closure.body).Ends
      [(closure.parameters.map Parameter.name).zip (arguments.map some)]
        (fun signal _ => ∃ result,
          (signal = .return result ∨ signal = .next ∧ result = closure.fallback) ∧
          Returns code start result ∧ resultKind result = closure.result)
            (Lasts code (fuel + 1) start)) :
    Settles code (fuel + 1) start closure arguments := by
  unfold Evaluation.Ends StateT.run at body
  unfold Settles
  rw [Closure.run, if_neg (fun differs => differs count)]
  dsimp only
  -- How the body is evaluated decides how the call is.
  revert body
  rcases Statement.performAll _ _ _ _ _ with ⟨_ | _⟩ | ⟨signal, after⟩
  · exact id
  · exact id
  · rintro ⟨result, rfl | ⟨rfl, rfl⟩, held⟩ <;> exact held

namespace Lowering

variable {code : Module} {fuel : Nat} {start begun ended finish : Builder}
  {function : Code.Function} {closure : Closure}
  {entry : BlockRef}

/-- A call comes to where the body of its function begins, with its arguments in the parameters. -/
theorem Begins.arrives {parameters : List Parameter}
    (begins : Begins start function (parameters.map Parameter.typed) entry begun)
    (owner : start.code.function? function.name = some function) (leads : begun.Leads code)
    {grown : Code.Function} (found : code.function? function.name = some grown)
    {arguments : List Value} {activation : Activation}
    (kinds : arguments.map Value.kind = grown.parameters.map Prod.snd)
    (starts : Activation.start? grown arguments = some activation) (waiting : List Waiting) :
    ∃ next, activation.Goes code waiting next ∧ next.function = grown ∧
      begun.Mirrors code next [(parameters.map Parameter.name).zip (arguments.map some)] := by
  obtain ⟨opened, first, makes, belongs, kept, entry_first, sound, stores⟩ := begins.opened
  -- The function as it is in the end has the parameters and the first block of the one that was
  -- built.
  obtain ⟨_, same, inside⟩ := (stores.passes.1.code.trans leads.grows).functions _ first kept
  cases found.symm.trans same
  obtain ⟨_, same, further⟩ := makes.code.functions _ function owner
  cases kept.symm.trans same
  have registered : grown.parameters = function.parameters :=
    inside.parameters.trans further.parameters
  obtain ⟨next, goes, at_, is_grown, registers⟩ :=
    Activation.begins waiting leads.tidy found (inside.start _ entry_first) starts
  -- At the start of the body there are no variables yet, and its frame has no names.
  have mirrors : (opened.pushed entry (functionOptions function)).Mirrors code next [[]] := by
    refine ⟨⟨entry, [], rfl, ?_, .nil, ?_⟩, .function rfl fun _ => .nothing⟩
    · exact (makes.bodies entry).trans (if_pos rfl)
    · rw [← belongs] at at_
      exact at_
  -- Parameters have registers of their own, so each holds its argument.
  have distinct : (grown.parameters.map Prod.fst).Nodup :=
    (List.nodup_append.mp (leads.tidy.functions _ (Module.function?_mem found)).distinct).1
  have hold := lookup_parameters distinct kinds
  have count : arguments.length = grown.parameters.length := by
    simpa using congrArg List.length kinds
  rw [← registers, registered] at hold
  obtain ⟨last, further, mirrors⟩ :=
    stores.arrives waiting sound leads mirrors (registered ▸ count) hold
  rw [List.nil_append, List.map_map] at mirrors
  exact ⟨last, goes.trans further, further.function.trans is_grown, mirrors⟩

/-- No jump leaves a function. -/
theorem Begins.stays {parameters : List TypedName}
    (begins : Begins start function parameters entry begun) {waiting : List Waiting}
    {activation : Activation} {jump : Jump} {label : Option String} {after : Evaluation.Variables} :
    ¬ Jumps code begun.scopes.frames waiting activation jump label after := by
  rintro ⟨block, _, target, _⟩
  obtain ⟨_, _, _, _, _, _, _, stores⟩ := begins.opened
  obtain ⟨_, _, continues, _⟩ := stores.passes
  -- The frame that a jump comes to first is that of the function, which is no loop.
  rw [jumpBlock?_continues continues] at target
  cases (jumpBlock?_function rfl rfl).symm.trans target

/-- A function does what its closure does, one call deeper than what its body calls. -/
theorem Begins.simulates
    (begins : Begins start function (closure.parameters.map Parameter.typed) entry begun)
    (owner : start.code.function? function.name = some function)
    (fits : Matches code function.name closure)
    (acts : Acts code fuel begun ended
      (Statement.performAll (Closure.run fuel) (fuel + 1) closure.visible closure.body))
    (grows : begun.code.Grows finish.code) (closed : Ended ended finish closure.result)
    (leads : finish.Leads code) :
    Simulates code (fuel + 1) function.name closure where
  fits := fits
  runs := by
    intro grown arguments activation waiting found kinds starts
    obtain ⟨_, same, _, result, signature⟩ := fits
    cases found.symm.trans same
    obtain ⟨next, goes, is_grown, mirrors⟩ :=
      begins.arrives owner (leads.before grows) found (kinds.trans signature.symm) starts waiting
    have promised : next.function.result = closure.result := by rw [is_grown, result]
    -- However the body ends, the call returns; a jump out of it does not occur.
    refine .of_body (by simpa using congrArg List.length kinds) ?_
    refine (acts next _ waiting mirrors).imp (fun signal after departs => ?_) goes.reaches.lasts
    cases departs with
    | next on mirrors =>
      -- Behind the end of the body stands what returns the fallback.
      rename_i last
      obtain ⟨answer, gives, closing, kind⟩ := closure.fallback_gives last
      obtain ⟨rest, comes⟩ := mirrors.placed.rest leads closed.falls
      rw [closing] at comes
      exact ⟨_, .inr ⟨rfl, rfl⟩, (goes.trans on).reaches.returns rfl (gives.returns comes), kind⟩
    | «break» jumps => exact absurd jumps begins.stays
    | «continue» jumps => exact absurd jumps begins.stays
    | «return» returns kind =>
      exact ⟨_, .inl rfl, goes.reaches.returns rfl returns, kind.trans promised⟩

/--
A function is lowered for its closure: it and the functions that are declared in its body do what
their closures do one call deeper than those that they call.
-/
theorem Begins.enacts
    (begins : Begins start function (closure.parameters.map Parameter.typed) entry begun)
    (owner : start.code.function? function.name = some function)
    (kinds : function.parameters.map Prod.snd = closure.parameters.map Parameter.kind)
    (result : function.result = closure.result) {behind : List (String × Closure)}
    {closures : List Closure}
    (body : Enacts closure.visible behind closures begun ended fun code fuel =>
      Acts code fuel begun ended
        (Statement.performAll (Closure.run fuel) (fuel + 1) closure.visible closure.body))
    (grows : begun.code.Grows ended.code) (closed : Ended ended finish closure.result) :
    ∃ added : List (Name × Closure), added.map Prod.snd = closures ∧
      finish.code.handles = start.code.handles ++ added.map Prod.fst ∧ ∀ code, finish.Leads code →
        (∀ pair ∈ (function.name, closure) :: added, Matches code pair.1 pair.2) ∧
        ∀ fuel, Knows (Simulates code fuel) start.scopes.frames closure.visible →
          (∀ pair ∈ (function.name, closure) :: added, Simulates code fuel pair.1 pair.2) →
          ∀ pair ∈ (function.name, closure) :: added, Simulates code (fuel + 1) pair.1 pair.2 := by
  obtain ⟨opened, first, makes, belongs, kept, entry_first, sound, stores⟩ := begins.opened
  have passes := stores.passes.1
  obtain ⟨added, belong, handles, body⟩ := body
  refine ⟨added, belong, ?_, fun code leads => ?_⟩
  · rw [closed.handles, handles, passes.handles]
    exact congrArg (· ++ added.map Prod.fst) makes.handles
  -- What comes behind the body only adds to the code.
  have later : begun.code.Grows finish.code := grows.trans closed.code
  obtain ⟨fit, body⟩ := body code (leads.before closed.code)
  -- The function keeps its signature and the block that it starts in.
  have fits : Matches code function.name closure := by
    have on := passes.code.trans (later.trans leads.grows)
    obtain ⟨grown, same, inside⟩ := (makes.code.trans on).functions _ function owner
    obtain ⟨_, found, started⟩ := on.functions _ first kept
    cases same.symm.trans found
    refine ⟨grown, same, fun none_there => ?_, inside.result.trans result,
      inside.parameters ▸ kinds⟩
    have entered := started.start _ entry_first
    simp [Code.Function.start?, none_there] at entered
  refine ⟨List.forall_mem_cons.mpr ⟨fits, fit⟩, fun fuel known simulate => ?_⟩
  obtain ⟨_, others⟩ := List.forall_mem_cons.mp simulate
  -- The body finds its own function and those around it.
  have visible : Knows (Simulates code fuel) begun.scopes.frames closure.visible :=
    passes.visible _ _ (Knows.push (makes.scopes ▸ known) entry (functionOptions function) _)
  obtain ⟨_, deeper, acts⟩ := body fuel visible others
  exact List.forall_mem_cons.mpr ⟨begins.simulates owner fits acts later closed leads, deeper⟩

end Lowering

end LoopLang
