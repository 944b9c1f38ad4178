import LoopLang.Code.Machine
import LoopLang.Proofs.Code.Validity

/-! Longer modules: behind more functions, those that were there before run as they did, and are as
fit to be read. -/

namespace LoopLang.Code

/-- Every call in a module is one of its own functions. -/
def Module.CallsInside (module : Module) : Prop :=
  ∀ function ∈ module.functions, ∀ block ∈ function.blocks, ∀ result callee arguments,
    .call result callee arguments ∈ block.instructions → ∃ target,
    module.function? callee = some target

/-- A call in progress whose function is one of a module, in one of whose blocks it stands. -/
structure Activation.Inside (module : Module) (activation : Activation) : Prop where
  known : activation.function ∈ module.functions
  rest : ∃ block ∈ activation.function.blocks, activation.rest <:+ block.instructions

/-- Calls in progress of functions of a module. -/
structure Configuration.Inside (module : Module) (configuration : Configuration) : Prop where
  active : configuration.active.Inside module
  waiting : ∀ waiting ∈ configuration.waiting, waiting.activation.Inside module

section

variable {module later : Module} {activation : Activation} {waiting : List Waiting}

/-- A function is found behind its name in a longer module, too: those before it are the same. -/
theorem Module.function?_of_ahead (ahead : module.functions <+: later.functions) {name : Name}
    {function : Function} (found : module.function? name = some function) :
    later.function? name = some function := by
  obtain ⟨created, split⟩ := ahead
  rw [function?, ← split, List.find?_append,
    show module.functions.find? (·.name = name) = some function from found]
  rfl

/-- A call stays inside its function when it performs an instruction that does not jump. -/
theorem Activation.Inside.next (inside : activation.Inside module) {instruction : Instruction}
    {rest : List Instruction} (comes : activation.rest = instruction :: rest) :
    { activation with rest }.Inside module := by
  obtain ⟨block, member, suffix⟩ := inside.rest
  exact ⟨inside.known, block, member, (List.suffix_cons instruction rest).trans (comes ▸ suffix)⟩

/-- A call stays inside its function when it goes to a block. -/
theorem Activation.Inside.enter (inside : activation.Inside module) {label : String}
    {next : Activation} (enters : activation.enter? label = some next) : next.Inside module := by
  obtain ⟨block, found, rfl⟩ := Option.map_eq_some_iff.mp enters
  exact ⟨inside.known, block, List.mem_of_find?_eq_some found, List.suffix_refl _⟩

/-- A call of a function of the module starts inside it. -/
theorem Activation.Inside.start {function : Function} {arguments : List Value}
    (known : function ∈ module.functions)
    (starts : Activation.start? function arguments = some activation) :
    activation.Inside module := by
  unfold Activation.start? at starts
  -- Arguments that do not fit start nothing.
  split at starts
  · obtain ⟨block, first, rfl⟩ := Option.map_eq_some_iff.mp starts
    exact ⟨known, block, List.mem_of_mem_head? first, List.suffix_refl _⟩
  · cases starts

/-- What goes on with another state of the active call is inside the module if that state is. -/
theorem Configuration.Inside.continueWith {configuration next : Configuration}
    (inside : configuration.Inside module) {result : Option Activation}
    (active : ∀ activation, result = some activation → activation.Inside module)
    (continues : configuration.continueWith result = .running next) : next.Inside module := by
  cases result with
  | none => cases continues
  | some activation =>
    cases continues
    exact ⟨active activation rfl, inside.waiting⟩

/-- Where the active call returns, the one that has waited goes on inside the module. -/
theorem Configuration.Inside.leave {configuration next : Configuration}
    (inside : configuration.Inside module) {result : Option Value}
    (leaves : configuration.leave result = .running next) : next.Inside module := by
  obtain ⟨active, waits⟩ := configuration
  cases waits with
  | nil => cases leaves
  | cons caller others =>
    have callers := List.forall_mem_cons.mp inside.waiting
    obtain ⟨activation, register⟩ := caller
    -- The result may or may not be kept; where the caller stands does not change.
    cases register <;> cases result <;> cases leaves
    · exact ⟨callers.1, callers.2⟩
    · exact ⟨⟨callers.1.known, callers.1.rest⟩, callers.2⟩

/-- A step inside the module stays there. -/
theorem Configuration.Inside.step {configuration next : Configuration}
    (inside : configuration.Inside module) (steps : configuration.step module = .running next) :
    next.Inside module := by
  unfold Configuration.step at steps
  split at steps
  · cases steps
  · rename_i instruction rest comes
    -- Behind the instruction the activation still runs code of the module.
    have active := inside.active.next comes
    cases instruction with
    | alloca name kind =>
      cases steps
      exact ⟨⟨active.known, active.rest⟩, inside.waiting⟩
    | load name kind slot =>
      refine inside.continueWith (fun activation found => ?_) steps
      obtain ⟨value, _, rfl⟩ := Option.map_eq_some_iff.mp found
      exact ⟨active.known, active.rest⟩
    | store value kind slot =>
      refine inside.continueWith (fun activation found => ?_) steps
      obtain ⟨stored, _, rfl⟩ := Option.map_eq_some_iff.mp found
      exact ⟨active.known, active.rest⟩
    | arithmetic name operator left right | differ name left right =>
      refine inside.continueWith (fun activation found => ?_) steps
      obtain ⟨first, _, found⟩ := Option.bind_eq_some_iff.mp found
      obtain ⟨second, _, found⟩ := Option.bind_eq_some_iff.mp found
      cases found
      exact ⟨active.known, active.rest⟩
    | call result callee arguments =>
      simp only [perform, enterCall] at steps
      split at steps
      · rename_i values function _ found
        split at steps
        · rename_i activation starts
          cases steps
          -- The callee is one of the functions; the caller waits behind its call.
          exact ⟨.start (List.mem_of_find?_eq_some found) starts,
            List.forall_mem_cons.mpr ⟨active, inside.waiting⟩⟩
        · cases steps
      · cases steps
    -- A jump enters a block of the same function.
    | jump target => exact inside.continueWith (fun activation found => active.enter found) steps
    | branch condition whenTrue whenFalse =>
      refine inside.continueWith (fun activation found => ?_) steps
      obtain ⟨choice, _, found⟩ := Option.bind_eq_some_iff.mp found
      exact active.enter found
    | returnVoid => exact inside.leave steps
    | returnValue value =>
      simp only [perform] at steps
      split at steps
      · exact inside.leave steps
      · cases steps

/-- A step inside the module is the same in a longer one: only a call looks for a function. -/
theorem Configuration.Inside.step_eq {configuration : Configuration}
    (inside : configuration.Inside module) (closed : module.CallsInside)
    (ahead : module.functions <+: later.functions) :
    configuration.step later = configuration.step module := by
  unfold Configuration.step
  split
  · rfl
  · rename_i instruction rest comes
    cases instruction with
    | call result callee arguments =>
      -- The call stands in code of the module, so its callee is one of its functions.
      obtain ⟨block, member, suffix⟩ := inside.active.rest
      have stands : .call result callee arguments ∈ block.instructions :=
        suffix.subset (comes ▸ List.mem_cons_self)
      obtain ⟨target, found⟩ := closed _ inside.active.known block member _ _ _ stands
      simp only [perform, enterCall, found, Module.function?_of_ahead ahead found]
    | _ => rfl

end

/-! Which functions can be read back when code has been written. -/

end LoopLang.Code
