import LoopLang.Proofs.Lowering.Stage

/-! Lowering declarations of variables, and the statements that leave a function or a round of a
loop. -/

namespace LoopLang

open Code (Module Name Instruction Operand Unended)

namespace Builder

/-- The current frame does not have a name yet. -/
def Lacks (builder : Builder) (name : String) : Prop :=
  ∀ frame ∈ builder.scopes.current?, frame.has name = false

/-- A variable is declared: a void one without more ado, any other one with a slot that its first
value is stored in. -/
inductive Binds (builder later : Builder) (name : String) : Kind → Option Operand → Prop
  | void {answer : Option Operand} (declares : builder.Declares later name (.var .void none)) :
      Binds builder later name (.exact .void) answer
  | stored {initial : Operand} {slot : Slot} {middle : Builder} (holds : builder.Holds initial)
      (owner : ∀ here, builder.block? = some here → slot.function = here.function)
      (own : slot ∉ builder.scopes.frames.flatMap Frame.slots)
      (adds : builder.Adds middle [.store initial initial.kind slot.name])
      (declares : middle.Declares later name (.var initial.kind.exact (some slot))) :
      Binds builder later name (.exact initial.kind.exact) (some initial)

/-- Names are missing that were missing before and have not come. -/
theorem Continues.lacks {builder later : Builder} {more : List (String × Binding)}
    (continues : Continues more builder.scopes.frames later.scopes.frames) {name : String} :
    later.Lacks name ↔ builder.Lacks name ∧ name ∉ more.map Prod.fst := by
  unfold Lacks Scopes.current?
  -- The names of the innermost frame are the old ones and then the new ones.
  cases frames : builder.scopes.frames with
  | nil =>
    rw [frames] at continues
    obtain ⟨ended, rfl⟩ := continues
    simp [ended]
  | cons frame outer =>
    rw [frames] at continues
    obtain ⟨block, ended⟩ := continues
    simp only [ended, List.head?_cons, Option.mem_def, Option.some.injEq, forall_eq',
      Frame.has_eq_false, Frame.names, List.map_append, List.mem_append, not_or]

/-- A name is not missing once a variable is declared with it. -/
theorem Binds.lacks {builder later : Builder} {name other : String} {kind : Kind}
    {answer : Option Operand} (binds : builder.Binds later name kind answer) :
    later.Lacks other ↔ builder.Lacks other ∧ other ≠ name := by
  -- With a slot or without, one name is added to the innermost frame.
  cases binds with
  | void declares => simpa using declares.frames.lacks
  | stored _ _ _ adds declares =>
    rw [declares.frames.lacks, Lacks, adds.scopes, ← Lacks]
    simp

/-- Where a variable is declared as is stated or inferred, it has the kind of what it gets. -/
theorem Binds.settled {builder later : Builder} {name : String} {kind : Kind}
    {answer : Option Operand} (binds : builder.Binds later name kind answer)
    {stated : Option ValueKind} {error : Type} {inferred : Except error Kind}
    (settled : if (statedKind stated).isExact then kind = statedKind stated
      else inferred = .ok kind)
    (answers : inferred = .ok (.exact (Lowering.answerKind answer))) :
    kind = .exact (Lowering.answerKind answer) := by
  cases stated with
  | none => exact Except.ok.inj (settled.symm.trans answers)
  | some wanted =>
    -- A stated kind is not void, so that there is a first value, which has it.
    have same : kind = .exact wanted.exact := settled
    cases binds with
    | stored _ _ _ _ _ => rfl
    | void _ => cases wanted <;> cases same

/-- A builder with other debug lines. -/
def logged (builder : Builder) (log : List String) : Builder :=
  { builder with scopes := { builder.scopes with log } }

end Builder

namespace Lowering

variable {α β : Type} {base start : Builder} {here : BlockRef} {waiting : List BlockRef}

/-- A slot in the frames is defined in the function that it belongs to. -/
theorem slot_defined (sound : start.Sound) {slot : Slot}
    (member : slot ∈ start.scopes.frames.flatMap Frame.slots) :
    ∃ function, start.code.function? slot.function = some function ∧
    slot.name ∈ function.definedNames := by
  obtain ⟨frame, inside, listed⟩ := List.mem_flatMap.mp member
  obtain ⟨⟨name, binding⟩, entry, bound⟩ := List.mem_filterMap.mp listed
  have fits := (sound.fits frame inside).bindings _ entry
  -- Only variables have slots.
  cases binding with
  | fn handle result parameters => cases bound
  | var kind stored =>
    cases bound
    obtain ⟨owner, kind, function, _, found, reserved⟩ := fits
    exact ⟨function, owner ▸ found, Code.Function.slot_mem_definedNames reserved⟩

/-- A new slot belongs to the current function, and no variable has it yet. -/
theorem createSlot_adds {failed : Failure → Builder → Prop} (sound : start.Sound)
    (current : start.block? = some here) (name : String) (kind : ValueKind) :
    (createSlot name kind).Ends start (fun slot finish => finish.Sound ∧ start.Adds finish [] ∧
      slot.function = here.function ∧ finish.HasSlot slot.name kind ∧
      slot ∉ start.scopes.frames.flatMap Frame.slots) failed := by
  obtain ⟨body, found⟩ := sound.body? current
  obtain ⟨function, owner, inside⟩ := Option.bind_eq_some_iff.mp found
  -- The function has the block where the builder stands, so it has an entry block for the slot.
  have started : function.blocks ≠ [] := fun none_there => by
    simp [Code.Function.body?, Code.Function.block?, none_there] at inside
  have grows := Module.addSlot_grows name kind start.code here.function
  obtain ⟨fresh, later, kept, slots⟩ := sound.tidy.slot_addSlot name kind owner started
  refine (createSlot_ends (sound.function? current)).mpr
    ⟨?_, ⟨rfl, grows, ?_, fun block => ?_⟩, rfl, ⟨here, later, current, kept, ?_⟩, fun member => ?_⟩
  · exact sound.withCode grows (sound.tidy.addSlot name kind _) (sound.valid.addSlot _ name kind)
  · exact Module.handles_inFunction _ _ fun _ => rfl
  · rw [Module.body?_addSlot]
    simp
  · rw [slots]
    exact List.mem_cons_self
  -- The slots in the frames are defined already, and the new one was not.
  · obtain ⟨_, held, defined⟩ := slot_defined sound member
    rw [owner] at held
    cases held
    exact fresh defined

/-- A name is declared in the current frame, or refused because it is there already. -/
theorem Stage.declare (stage : Stage base start here waiting) (here_open : start.HasOpen here)
    {name : String} {binding : Binding} (fits : binding.Fits start.code here.function)
    (own : ∀ slot ∈ binding.slot?, slot ∉ start.scopes.frames.flatMap Frame.slots)
    (place : Location) :
    (declare name binding place).Ends start
      (fun _ finish => Stage base finish here waiting ∧ start.Lacks name ∧
        start.Declares finish name binding)
      (fun failure finish => Fails base failure finish ∧ ¬ start.Lacks name) := by
  obtain ⟨frame, innermost, _⟩ := stage.current?
  obtain ⟨outer, opened⟩ := List.head?_eq_some_iff.mp innermost
  -- The name is refused exactly if the innermost frame has it already.
  cases known : frame.has name with
  | true =>
    have refused : start.scopes.declare name binding = .error (.duplicate name) := by
      simp [Scopes.declare, opened, known]
    unfold Lowering.declare
    rw [bind_ends, scopes_ends, refused]
    refine ⟨stage.fails here_open id, fun lacks => ?_⟩
    rw [lacks frame innermost] at known
    cases known
  | false =>
    have lacks : start.Lacks name := fun other member => by
      cases innermost.symm.trans member
      exact known
    refine Ends.imp (declare_declares stage.sound stage.current innermost known fits own place)
      (fun _ finish held => ?_) fun _ _ held => held
    exact ⟨stage.declares held.1 held.2, lacks, held.2⟩

/-- A variable of the current frame gets a slot and its first value, which must have its kind. -/
theorem Stage.declareVariable (stage : Stage base start here waiting)
    (here_open : start.HasOpen here) (name slot : String) (kind : ValueKind) {value : Operand}
    (holds : start.Holds value) (place : Location) :
    (declareVariable name slot kind value place).Ends start
      (fun _ finish => Stage base finish here waiting ∧ finish.HasOpen here ∧ start.Lacks name ∧
        value.kind = kind ∧ start.Binds finish name (.exact value.kind.exact) (some value))
      (fun failure finish => Fails base failure finish ∧
        (start.Lacks name → value.kind ≠ kind)) := by
  obtain ⟨frame, innermost, _⟩ := stage.current?
  unfold Lowering.declareVariable
  refine bind_ends.mpr ((currentFrame_ends innermost).mpr ?_)
  dsimp only
  split
  -- A name that is taken in this frame is refused before a slot is reserved.
  · rename_i known
    refine bind_ends.mpr ⟨stage.fails here_open id, fun lacks => ?_⟩
    rw [lacks frame innermost] at known
    cases known
  · rename_i new
    have lacks : start.Lacks name := fun other member => by
      cases innermost.symm.trans member
      simpa using new
    -- The slot comes first, then the value is stored in it, and only then the name is declared.
    refine .bind (createSlot_adds stage.sound stage.current slot kind) fun slot reserved held => ?_
    obtain ⟨sound, reserves, owner, has, own⟩ := held
    -- The slot belongs to the function that the current block is in.
    have belongs : ∀ block, start.block? = some block → slot.function = block.function :=
      fun block at_ =>
        owner.trans (congrArg _ (Option.some.inj (stage.current.symm.trans at_)))
    have stage := stage.adds sound reserves
    have here_open : reserved.HasOpen here := reserves.hasOpen .nil here_open
    have stored_holds := Builder.Extends.holds ⟨[], reserves, .nil⟩ holds
    have stores := storeVariable_adds sound (stage.ready here_open) name has stored_holds place
    -- A value of another kind is refused there.
    refine .bind (stores.imp (fun _ _ held => held) fun _ finish held => ?_) fun _ stored held => ?_
    · obtain ⟨rfl, outside, other⟩ := held
      exact ⟨stage.fails here_open outside, fun _ => other⟩
    obtain ⟨sound, same_kind, adds⟩ := held
    -- The store is no terminator, so the block stays open.
    have plain : Unended [.store value kind slot.name] := .single rfl
    have stage := stage.adds sound adds
    have same_scopes : stored.scopes = start.scopes := adds.scopes.trans reserves.scopes
    obtain ⟨_, function, at_, found, member⟩ := Builder.Extends.hasSlot ⟨_, adds, plain⟩ has
    rw [stage.current] at at_
    cases at_
    have fits : (Binding.var kind.exact (some slot)).Fits stored.code here.function :=
      ⟨owner, kind, function, rfl, found, member⟩
    refine (declare_declares sound stage.current (same_scopes ▸ innermost)
      (lacks frame innermost) fits
      (fun other bound => ?_) place).imp (fun _ finish held => ?_) fun _ _ held => held
    · cases bound
      rwa [same_scopes]
    · subst same_kind
      have finish_open : finish.HasOpen here := by
        simpa only [Builder.HasOpen, held.2.code] using adds.hasOpen plain here_open
      exact ⟨stage.declares held.1 held.2, finish_open, lacks, rfl,
        .stored holds belongs own (reserves.trans adds) held.2⟩

/-- A value that must be there is there, or its absence is refused. -/
theorem required_ends {expression : Lowering (Option Operand)} {place : Location}
    {done : Operand → Builder → Prop} {failed : Failure → Builder → Prop} :
    (required place expression).Ends start done failed ↔
      expression.Ends start (fun answer finish => match answer with
        | some value => done value finish
        | none => failed (.refused .voidAsValue place) finish) failed := by
  unfold required
  rw [bind_ends]
  unfold Ends
  -- A failure, no value, or a value.
  rcases expression.outcome start with ⟨_ | _ | _, _⟩ <;> rfl

variable {known : Option Operand → Builder → Prop} {done : Builder → Prop}
  {refused : Failure → Prop}

/-- An expression, with what is known of it besides. -/
theorem Stage.evaluates (stage : Stage base start here waiting) (here_open : start.HasOpen here)
    {value : Tree}
    (ends : value.lowerExpression.Ends start known fun failure _ => refused failure) :
    value.lowerExpression.Ends start
      (fun answer finish => Stage base finish here waiting ∧ finish.HasOpen here ∧
        start.Extends finish ∧ (∀ operand ∈ answer, finish.Holds operand) ∧ known answer finish)
      (fun failure finish => Fails base failure finish ∧ refused failure) :=
  stage.extends here_open
    (Tree.lowerExpression_computes_all.1 value start stage.sound (stage.ready here_open)) ends

/-- The name of a declaration is there, unless the tree is at fault. -/
theorem Stage.named (stage : Stage base start here waiting) (here_open : start.HasOpen here)
    (name : Tree) (odd : (∀ word, name ≠ .text word) → ∀ failure, refused failure) :
    (declaredName name).Ends start (fun word finish => word = name.shown ∧ finish = start)
      (fun failure finish => Fails base failure finish ∧ refused failure) := by
  obtain ⟨frame, innermost, _⟩ := stage.current?
  refine stage.looks here_open (.declaredName name) ?_
  rintro failure ⟨fault | ⟨_, nowhere⟩, other⟩
  · exact ⟨fault.not_isInternal, odd other failure⟩
  -- A frame is open.
  · cases innermost.symm.trans nowhere

/-- What is to be shown of a declaration behind the value that its variable gets. -/
def Declared (start : Builder) (name : String) (kind : Kind) (done : Builder → Prop)
    (refused : Failure → Prop) (answer : Option Operand) (middle : Builder) : Prop :=
  (start.Lacks name → start.Extends middle → ∀ finish, middle.Binds finish name kind answer →
    done finish) ∧
    ((start.Lacks name → kind ≠ .exact (answerKind answer)) → ∀ failure, refused failure)

/-- A variable whose kind is known is declared, unless its name is taken or its first value is of
another kind. -/
theorem Stage.declareAs (stage : Stage base start here waiting) (here_open : start.HasOpen here)
    (place : Location) (name : Tree) {value : Tree} (kind : Kind)
    (ends : value.lowerExpression.Ends start (Declared start name.shown kind done refused)
      fun failure _ => refused failure)
    (odd : (∀ word, name ≠ .text word) → ∀ failure, refused failure) :
    (declareAs place name value kind).Ends start
      (fun _ finish => Stage base finish here waiting ∧ done finish)
      (fun failure finish => Fails base failure finish ∧ refused failure) := by
  have lowers := stage.evaluates here_open ends
  -- Lowering the value changes no names.
  have lacks_iff {middle : Builder} (more : start.Extends middle) :
      middle.Lacks name.shown ↔ start.Lacks name.shown := by
    rw [Builder.Lacks, more.scopes, Builder.Lacks]
  unfold Lowering.declareAs
  -- A void variable is declared for what its expression does; any other one needs a value.
  split
  · rename_i void
    refine .bind lowers fun answer middle ⟨stage, here_open, more, _, declared, other⟩ => ?_
    refine .bind (stage.named here_open name odd) fun _ named same => ?_
    obtain ⟨rfl, rfl⟩ := same
    have fits : (Binding.var .void none).Fits named.code here.function := rfl
    refine (stage.declare here_open fits nofun place).imp (fun _ finish held => ?_)
      fun failure finish held => ?_
    · exact ⟨held.1, declared ((lacks_iff more).mp held.2.1) more finish (void ▸ .void held.2.2)⟩
    · exact ⟨held.1, other (fun lacks => absurd ((lacks_iff more).mpr lacks) held.2) failure⟩
  · rename_i valued
    refine bind_ends.mpr
      (required_ends.mpr (lowers.imp (fun answer middle held => ?_) fun _ _ held => held))
    obtain ⟨stage, here_open, more, holds, declared, other⟩ := held
    -- Where the first value is missing, the variable has a kind that a call without a value does
    -- not.
    cases answer with
    | none => exact ⟨stage.fails here_open id, other (fun _ => valued) _⟩
    | some initial =>
      dsimp only
      split
      -- The kind is one that a slot can have.
      · rename_i stored exact_kind
        obtain rfl := Kind.value_eq_some.mp exact_kind
        refine .bind (stage.named here_open name odd) fun _ _ same => ?_
        obtain ⟨rfl, rfl⟩ := same
        refine (stage.declareVariable here_open name.shown name.shown stored
          (holds initial rfl) place).imp (fun _ finish held => ?_) fun failure finish held => ?_
        · obtain ⟨stage, _, lacks, same, binds⟩ := held
          exact ⟨stage, declared ((lacks_iff more).mp lacks) more finish (same ▸ binds)⟩
        · refine ⟨held.1, other (fun lacks same => held.2 ((lacks_iff more).mpr lacks) ?_) failure⟩
          exact (ValueKind.exact_injective (Kind.exact.inj same)).symm
      -- For a kind that no slot can have the declaration is refused.
      · rename_i no_values
        refine ⟨stage.fails here_open id, other (fun _ same => ?_) _⟩
        rw [Kind.value_eq_some.mpr same] at no_values
        cases no_values

/-- Other debug lines change nothing else. -/
theorem Stage.logged (stage : Stage base start here waiting) (log : List String) :
    Stage base (start.logged log) here waiting := by
  have sound := stage.sound
  refine stage.stay ?_ ?_ stage.current ((Builder.Leaves.refl stage.current).sameCode rfl) rfl
  · exact ⟨sound.tidy, sound.valid, sound.aligned, sound.fits, sound.enclosed, sound.separate⟩
  · exact ⟨.refl _, ⟨[], .refl _⟩, fun _ here => .inl here, fun _ _ found _ => found⟩

/-- The kind that an initial value gives is looked up and noted. -/
theorem inferKind_ends {name : String} {value : Tree} {done : Kind → Builder → Prop}
    {failed : Failure → Builder → Prop} :
    (inferKind name value).Ends start done failed ↔ match value.infer start.scopes with
      | .ok kind =>
        done kind (start.logged (start.scopes.log ++ [s!"inferred '{name}' as {kind.word}"]))
      | .error error => failed (.fault (inferenceFault error)) start := by
  unfold inferKind
  rw [bind_ends, scopes_ends]
  cases value.infer start.scopes <;> rfl

/-- Inference fails on trees that no program has. -/
theorem inferenceFault_isOfTree (error : InferenceError) : (inferenceFault error).IsOfTree := by
  cases error <;> trivial

/-- A variable is declared with the kind that is stated or inferred. -/
theorem Stage.declaration (stage : Stage start start here []) (here_open : start.HasOpen here)
    (place : Location) (name : Tree) (stated : Kind) {value : Tree}
    (ends : ∀ log kind, (if stated.isExact then kind = stated
      else value.infer start.scopes = .ok kind) → value.lowerExpression.Ends (start.logged log)
        (Declared (start.logged log) name.shown kind done refused) fun failure _ => refused failure)
    (unknown : ∀ error, value.infer start.scopes = .error error → ∀ failure, refused failure)
    (odd : (∀ word, name ≠ .text word) → ∀ failure, refused failure) :
    (lowerDeclaration place name (.kindValue stated) value).LowersTo start here done refused := by
  unfold LowersTo
  rw [lowerDeclaration_eq, carriedKind_kindValue, pure_bind]
  -- The kind is settled before the value is lowered.
  have begins : (if stated.isExact then pure stated
      else inferKind name.shown value : Lowering Kind).Ends start
      (fun kind begun => (if stated.isExact then kind = stated
        else value.infer start.scopes = .ok kind) ∧ ∃ log, begun = start.logged log)
      (fun failure finish => Fails start failure finish ∧ refused failure) := by
    split
    -- A stated kind needs no inference, and nothing is logged.
    · exact ⟨rfl, start.scopes.log, rfl⟩
    -- An inferred one is logged, and an expression whose kind is unknown is refused.
    · rw [inferKind_ends]
      split
      · exact ⟨‹_›, _, rfl⟩
      · exact ⟨stage.fails here_open (not_not_intro (inferenceFault_isOfTree _)), unknown _ ‹_› _⟩
  refine .bind begins fun kind begun ⟨settled, log, same⟩ => ?_
  subst same
  exact ((stage.logged log).declareAs here_open place name kind (ends log kind settled) odd).imp
    (fun _ _ held => ⟨⟨here, rfl, held.1⟩, held.2⟩) fun _ _ held => held

/-- The declaration of a variable lowers, whatever its initial value is. -/
theorem lowerDeclaration_lowers (place : Location) (name stated value : Tree) :
    Lowers (lowerDeclaration place name stated value) := by
  intro start here stage here_open
  -- The tree has to carry a kind, stated or to be inferred.
  by_cases carried : ∃ kind, stated = .kindValue kind
  · obtain ⟨kind, rfl⟩ := carried
    refine stage.declaration here_open place name kind (fun log kind _ => ?_) (fun _ _ _ => trivial)
      fun _ _ => trivial
    exact Ends.any.imp (fun _ _ _ => ⟨fun _ _ _ _ => trivial, fun _ _ => trivial⟩)
      fun _ _ held => held
  -- An identifier that carries no kind is at fault.
  · rw [not_exists] at carried
    rw [lowerDeclaration_eq, carriedKind_eq_stop carried, stop_bind]
    exact ⟨stage.fails here_open (not_not_intro trivial), trivial⟩

/-- The function that a statement stands in is the current one, and its result is known. -/
theorem enclosingFunction_ends (sound : start.Sound) (current : start.block? = some here)
    {done : Name × ExactKind → Builder → Prop} {failed : Failure → Builder → Prop}
    (rest : ∀ function, start.code.function? here.function = some function →
      done (here.function, function.result) start) : enclosingFunction.Ends start done failed := by
  obtain ⟨frame, innermost, emits⟩ := Option.bind_eq_some_iff.mp current
  obtain ⟨outer, opened⟩ := List.head?_eq_some_iff.mp innermost
  have enclosed := sound.enclosed
  have fits := sound.fits
  rw [opened] at enclosed fits
  -- Below the current frame there is that of its function, for the frames are enclosed.
  obtain ⟨found, first, opens, member, owner⟩ := enclosed.functionFrame
  obtain ⟨function, held, result⟩ := (fits found member).result opens
  -- Both frames are at home in the same function.
  have same : found.home = here.function :=
    owner.trans ((fits frame List.mem_cons_self).home_eq emits)
  have named : found.function = some here.function :=
    (fits found member).function_eq.trans (congrArg some same)
  have meant : start.scopes.functionFrame? = some found := by
    rw [Scopes.functionFrame?, opened, first]
  -- The innermost function frame is that of the function that code is emitted into.
  unfold enclosingFunction
  rw [bind_ends, scopes_ends, meant]
  rw [same] at held
  obtain ⟨_, _, _, _, _, _, _, _, _⟩ := found
  dsimp only at result named
  subst result named
  exact rest function held

/-- A function without a result may return without a value. -/
theorem returnVoid_admits (current : start.block? = some here) {function : Code.Function}
    (owner : start.code.function? here.function = some function)
    (result : function.result = .void) :
    start.Admits fun _ => .returnVoid := by
  intro block found body _ at_ held _ body_open
  -- The block at hand belongs to the function, which promises nothing.
  rw [current] at at_
  cases at_
  rw [owner] at held
  cases held
  exact ⟨body_open, by simp [Instruction.operands], by simp [Instruction.targets],
    by simp [Instruction.accessed?], result⟩

/-- A function may return a value of the kind that it promises. -/
theorem returnValue_admits (current : start.block? = some here) {function : Code.Function}
    (owner : start.code.function? here.function = some function) {value : Operand}
    (holds : start.Holds value) (result : value.kind.exact = function.result) :
    start.Admits fun _ => .returnValue value := by
  intro block found body _ at_ held standing body_open
  -- The value is defined in the block that is ended with it.
  have defined := holds.isDefined at_ held standing
  rw [current] at at_
  cases at_
  rw [owner] at held
  cases held
  exact ⟨body_open, by simpa [Instruction.operands] using defined, by simp [Instruction.targets],
    by simp [Instruction.accessed?], result⟩

/-- What a function returns, as its end asks for it. -/
def returned : Tree → Lowering (Option Operand)
  | .null => pure none
  | value => value.lowerExpression

/-- What is given to be returned is lowered. -/
theorem returned_eq {value : Tree} (given : value ≠ .null) :
    returned value = value.lowerExpression := by
  unfold returned
  split
  · contradiction
  · rfl

/-- The instruction that returns what a function has for a result. -/
def returning : Option Operand → Instruction
  | some value => .returnValue value
  | none => .returnVoid

/-- A function returns what it promises. -/
theorem returning_adds {failed : Failure → Builder → Prop} (sound : start.Sound)
    (current : start.block? = some here) (here_open : start.HasOpen here)
    {function : Code.Function} (owner : start.code.function? here.function = some function)
    {answer : Option Operand} (holds : ∀ value ∈ answer, start.Holds value)
    (kind : answerKind answer = function.result) :
    (terminate (returning answer)).Ends start
      (fun _ finish => finish.Sound ∧ start.Adds finish [returning answer]) failed := by
  -- With a value or without, the kind is the result of the function.
  cases answer with
  | none =>
    exact terminate_adds sound current here_open rfl rfl (returnVoid_admits current owner kind.symm)
  | some value =>
    exact terminate_adds sound current here_open rfl rfl
      (returnValue_admits current owner (holds value rfl) kind)

/-- A function ends with a result of the kind that it promises, or the result is refused for its
kind. -/
theorem Stage.returns (stage : Stage start start here []) (here_open : start.HasOpen here)
    (place : Location) {value : Tree}
    (ends : ∀ function, start.code.function? here.function = some function →
      (returned value).Ends start
        (fun answer middle => (answerKind answer = function.result → start.Extends middle →
          (∀ operand ∈ answer, middle.Holds operand) → ∀ finish,
            middle.Adds finish [returning answer] → done finish) ∧
              (answerKind answer ≠ function.result → ∀ failure, refused failure)) fun failure _ =>
                refused failure) :
    (lowerReturn place value).LowersTo start here done refused := by
  -- What is returned is an expression, or nothing at all.
  have computes : (returned value).Computes start fun answer finish => ∀ operand ∈ answer,
      finish.Holds operand := by
    unfold returned
    -- Whether something is given, and whether the function promises a value: four cases.
    split
    · exact .pure stage.sound nofun
    · exact Tree.lowerExpression_computes_all.1 _ start stage.sound (stage.ready here_open)
  unfold LowersTo lowerReturn
  refine bind_ends.mpr (enclosingFunction_ends stage.sound stage.current fun function owner => ?_)
  have lowers := stage.extends here_open computes (ends function owner)
  -- Where the result has the promised kind, the current block ends in it.
  have ends_with : ∀ (answer : Option Operand) {middle : Builder},
      Stage start middle here [] → middle.HasOpen here →
      start.Extends middle → (∀ operand ∈ answer, middle.Holds operand) →
      answerKind answer = function.result →
      (∀ finish, middle.Adds finish [returning answer] → done finish) →
      (terminate (returning answer)).Ends middle
        (fun _ finish => (∃ last, last.function = here.function ∧ Stage start finish last []) ∧
          done finish)
        (fun failure finish => Fails start failure finish ∧ refused failure) := by
    intro answer middle stage here_open more holds kind rest
    obtain ⟨grown, kept, inside⟩ := more.code.functions _ function owner
    exact (returning_adds stage.sound stage.current here_open kept holds
      (kind.trans inside.result.symm)).imp
      (fun _ finish held => ⟨⟨here, rfl, stage.adds held.1 held.2⟩, rest finish held.2⟩)
      fun _ _ held => held
  dsimp only
  split
  -- Nothing is given, and nothing is promised.
  · rename_i nothing
    obtain ⟨rest, _⟩ := pure_ends.mp (ends function owner)
    have kind : answerKind none = function.result := (ExactKind.value?_eq_none.mp nothing).symm
    have holds : ∀ operand ∈ (none : Option Operand), start.Holds operand := nofun
    exact ends_with none stage here_open (.refl start) holds kind (rest kind (.refl start) holds)
  -- Nothing is given, but a value is promised.
  · rename_i valued
    obtain ⟨_, other⟩ := pure_ends.mp (ends function owner)
    refine ⟨stage.fails here_open id, other (fun same => ?_) _⟩
    rw [← same] at valued
    cases valued
  -- Something is given that has to be without a value.
  · rename_i given nothing
    rw [returned_eq given] at lowers
    have void := ExactKind.value?_eq_none.mp nothing
    refine .bind lowers fun answer middle ⟨stage, here_open, more, holds, rest, other⟩ => ?_
    cases answer with
    | some found =>
      refine ⟨stage.fails here_open id, other (fun same => ?_) _⟩
      rw [void] at same
      cases answerKind_eq_void.mp same
    | none => exact ends_with none stage here_open more holds void.symm (rest void.symm more holds)
  -- Something is given, whose value has to be of the promised kind.
  · rename_i kind given valued
    rw [returned_eq given] at lowers
    have promised := ExactKind.value?_eq_some.mp valued
    refine bind_ends.mpr
      (required_ends.mpr (lowers.imp (fun answer middle held => ?_) fun _ _ held => held))
    obtain ⟨stage, here_open, more, holds, rest, other⟩ := held
    cases answer with
    | none =>
      refine ⟨stage.fails here_open id, other (fun same => ?_) _⟩
      rw [← same] at valued
      cases valued
    | some result =>
      dsimp only
      split
      · rename_i same
        have fits : answerKind (some result) = function.result := by
          rw [promised, ← same, answerKind]
        exact ends_with (some result) stage here_open more holds fits (rest fits more holds)
      · rename_i differs
        refine ⟨stage.fails here_open id, other (fun same => differs ?_) _⟩
        rw [promised] at same
        exact ValueKind.exact_injective same

/-- A return statement lowers: it returns what its function promises. -/
theorem lowerReturn_lowers (place : Location) (value : Tree) :
    Lowers (lowerReturn place value) := by
  intro start here stage here_open
  refine stage.returns here_open place fun function _ => ?_
  exact Ends.any.imp (fun _ _ _ => ⟨fun _ _ _ _ _ => trivial, fun _ _ => trivial⟩)
    fun _ _ held => held

/-- A jump goes where a loop of the same function says, or is refused where there is no such
loop. -/
theorem Stage.jumps (stage : Stage start start here []) (here_open : start.HasOpen here)
    (jump : Jump) (place : Location) (label : Option String)
    (found : ∀ frame block, start.scopes.loopFrame? label = some frame →
      jumpTarget? jump frame = some block → block.IsTarget start.code here.function → ∀ finish,
        start.Adds finish [.jump block.label] → done finish)
    (missing : start.scopes.loopFrame? label = none → ∀ failure, refused failure) :
    (lowerJump jump place label).LowersTo start here done refused := by
  obtain ⟨frame, innermost, emits⟩ := stage.current?
  obtain ⟨outer, opened⟩ := List.head?_eq_some_iff.mp innermost
  unfold LowersTo lowerJump
  refine bind_ends.mpr ((currentFrame_ends innermost).mpr ?_)
  rw [bind_ends, scopes_ends]
  split
  -- No loop is meant, so the jump is refused.
  · rename_i nothing
    exact ⟨stage.fails here_open id, missing nothing _⟩
  · rename_i target meant
    have enclosed := stage.sound.enclosed
    rw [opened] at enclosed
    have listed := meant
    rw [Scopes.loopFrame?, opened] at listed
    obtain ⟨member, loop, owner⟩ := enclosed.loopFrame listed
    have within := stage.sound.fits
    rw [opened] at within
    have fits := within target member
    -- The frame of the loop is at home in the function of the current block.
    have own := (within frame List.mem_cons_self).home_eq emits
    -- The frame of a loop knows the blocks that its jumps go to.
    have goes : ∃ block, jumpTarget? jump target = some block ∧
        block.IsTarget start.code here.function := by
      rw [← own, ← owner]
      obtain ⟨next, exit⟩ := fits.loop loop
      cases jump with
      | «break» =>
        obtain ⟨block, held⟩ := Option.isSome_iff_exists.mp exit
        exact ⟨block, held, fits.loopExit block held⟩
      | «continue» =>
        obtain ⟨block, held⟩ := Option.isSome_iff_exists.mp next
        exact ⟨block, held, fits.nextRound block held⟩
    obtain ⟨block, goes, inside⟩ := goes
    rw [goes]
    exact (jump_adds stage.sound stage.current here_open inside).imp
      (fun _ finish held =>
        ⟨⟨here, rfl, stage.adds held.1 held.2⟩, found target block meant goes inside finish held.2⟩)
      fun _ _ held => held

/-- A jump lowers: where it goes, a loop of the same function has its blocks. -/
theorem lowerJump_lowers (jump : Jump) (place : Location) (label : Option String) :
    Lowers (lowerJump jump place label) := by
  intro start here stage here_open
  exact stage.jumps here_open jump place label (fun _ _ _ _ _ _ _ => trivial) fun _ _ => trivial

end Lowering

end LoopLang
