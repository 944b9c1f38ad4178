import LoopLang.Proofs.Execution.Machine
import LoopLang.Proofs.Initialisation.Ledger
import Mathlib.Data.List.Forall2

/-! Executions of code that keeps to a ledger: what is promised of a block is so whenever the block
is entered. -/

namespace LoopLang.Code

/-- What the calls in progress have performed, the active one first, behind one more instruction of
that call. -/
def record (instruction : Instruction) : List (List Instruction) → List (List Instruction)
  | [] => []
  | performed :: others =>
    match instruction with
    | .call .. => [] :: (performed ++ [instruction]) :: others
    | .returnVoid | .returnValue _ => others
    | _ => (performed ++ [instruction]) :: others

/-- What an execution of a call comes to, step by step, and what each of the calls in progress has
performed on the way. -/
inductive Executes (module : Module) (start : Activation) :
    Configuration → List (List Instruction) → Prop
  | start : Executes module start ⟨start, []⟩ [[]]
  | step {configuration next : Configuration} {history : List (List Instruction)}
      {instruction : Instruction} {rest : List Instruction}
      (before : Executes module start configuration history)
      (comes : configuration.active.rest = instruction :: rest)
      (steps : configuration.step module = .running next) :
      Executes module start next (record instruction history)

/-- A slot of a call holds a value. -/
def Activation.Holds (activation : Activation) (slot : String) : Prop :=
  ∃ value, activation.slots.lookup slot = some (some value)

/--
However a function of a module is executed, and whatever it calls: when a slot is read, the active
call has stored to that slot before, and it holds a value.
-/
def Module.Initialises (module : Module) : Prop :=
  ∀ name function, module.function? name = some function → ∀ arguments start,
    Activation.start? function arguments = some start → ∀ configuration performed others,
      Executes module start configuration (performed :: others) → ∀ register kind slot rest,
        configuration.active.rest = .load register kind slot :: rest →
          Stores performed slot ∧ configuration.active.Holds slot

/--
A call that keeps to a ledger: what holds a value by it where the call stands has been stored to by
the call, and does hold a value.
-/
structure Activation.Initialised (module : Module) (ledger : Ledger) (activation : Activation)
    (performed : List Instruction) : Prop where
  known : activation.function ∈ module.functions
  secured : ∃ block ∈ activation.function.blocks, ∃ before,
    block.instructions = before ++ activation.rest ∧
    ∀ slot, ledger.Secures ⟨activation.function.name, block.label⟩ before slot →
      Stores performed slot ∧ activation.Holds slot

/-- What has been stored to stays so. -/
theorem Stores.append {performed : List Instruction} {slot : String}
    (stores : Stores performed slot) (more : List Instruction) :
    Stores (performed ++ more) slot := by
  obtain ⟨value, kind, member⟩ := stores
  exact ⟨value, kind, List.mem_append_left _ member⟩

/-- Slots apart, the same is secured. -/
theorem Ledger.Secures.of_filter {ledger : Ledger} {block : BlockRef} {before : List Instruction}
    {slot : String} (secured : ledger.Secures block (before.filter (·.reserved?.isNone)) slot) :
    ledger.Secures block before slot :=
  secured.imp id fun ⟨value, kind, member⟩ => ⟨value, kind, (List.mem_filter.mp member).1⟩

namespace Ledger.Keeps

variable {ledger : Ledger} {module : Module}

/-- Where an instruction other than a slot stands in a block, it keeps to the ledger. -/
theorem admitted (keeps : ledger.Keeps module) {function : Function}
    (inside : function ∈ module.functions) {block : Block} (member : block ∈ function.blocks)
    {before rest : List Instruction} {instruction : Instruction}
    (split : block.instructions = before ++ instruction :: rest)
    (plain : instruction.reserved? = none) :
    ledger.Admits ⟨function.name, block.label⟩
      (before.filter (·.reserved?.isNone)) instruction := by
  -- Slots are no part of what the ledger speaks of, so they are left out on both sides.
  refine keeps.admits _ _ (keeps.tidy.body?_eq inside member) _ _
    (rest.filter (·.reserved?.isNone)) ?_
  rw [Block.body, split, List.filter_append, List.filter_cons_of_pos (by simp [plain])]

/-- Nothing holds a value where a slot is reserved: that is at the start of a function, in front of
all else. -/
theorem not_secures (keeps : ledger.Keeps module) {function : Function}
    (inside : function ∈ module.functions) {block : Block} (member : block ∈ function.blocks)
    {before rest : List Instruction} {name : String} {kind : ValueKind}
    (split : block.instructions = before ++ .alloca name kind :: rest) (slot : String) :
    ¬ ledger.Secures ⟨function.name, block.label⟩ before slot := by
  have front := (keeps.tidy.functions function inside).slotsInFront
  unfold Function.SlotsInFront at front
  cases blocks : function.blocks with
  | nil => simp [blocks] at member
  | cons entry others =>
    rw [blocks] at front member
    obtain ⟨⟨slots, body, parts, reserve, plain⟩, later⟩ := front
    -- A slot stands in the entry block, where nothing is promised, and in front of all stores.
    rcases List.mem_cons.mp member with rfl | behind
    · rintro (⟨names, promised, listed⟩ | ⟨value, stored, stands⟩)
      · rw [keeps.starts_bare inside (by rw [blocks]; rfl) promised] at listed
        cases listed
      -- A store in front of the slot would be one of the slots.
      · rw [split] at parts
        rcases List.append_eq_append_iff.mp parts with ⟨more, rfl, same⟩ | ⟨more, rfl, same⟩
        · exact absurd (reserve _ (List.mem_append_left _ stands)) (by simp [Instruction.reserved?])
        · exact absurd (plain (.alloca name kind) (by simp [same]))
            (by simp [Instruction.reserved?])
    -- In no other block is a slot reserved.
    · exact absurd (later block behind (.alloca name kind) (by simp [split]))
        (by simp [Instruction.reserved?])

end Ledger.Keeps

namespace Activation.Initialised

variable {ledger : Ledger} {module : Module} {activation next : Activation}
  {performed : List Instruction}
  {instruction : Instruction} {rest : List Instruction}

/-- A result that a call has waited for is no slot. -/
theorem setRegister (initialised : activation.Initialised module ledger performed) (name : String)
    (value : Value) :
    (activation.setRegister name value).Initialised module ledger performed :=
  ⟨initialised.known, initialised.secured⟩

/-- A call starts where nothing is secured yet. -/
theorem start (keeps : ledger.Keeps module) {function : Function}
    (known : function ∈ module.functions) {arguments : List Value}
    (starts : Activation.start? function arguments = some activation) :
    activation.Initialised module ledger [] := by
  unfold Activation.start? at starts
  split at starts
  · obtain ⟨block, first, rfl⟩ := Option.map_eq_some_iff.mp starts
    -- Nothing has been performed, and nothing is promised where a function starts.
    refine ⟨known, block, List.mem_of_mem_head? first, [], rfl, ?_⟩
    rintro slot (⟨names, promised, listed⟩ | ⟨_, _, member⟩)
    · rw [keeps.starts_bare known first promised] at listed
      cases listed
    · cases member
  · cases starts

/-- A slot that is read has been stored to, and it holds a value. -/
theorem loads (initialised : activation.Initialised module ledger performed)
    (keeps : ledger.Keeps module) {register slot : String} {kind : ValueKind}
    (comes : activation.rest = .load register kind slot :: rest) :
    Stores performed slot ∧ activation.Holds slot := by
  obtain ⟨block, member, before, split, held⟩ := initialised.secured
  rw [comes] at split
  -- The ledger admits the load, so a store has come before it, here or in front of the block.
  exact held slot (Ledger.Secures.of_filter
    ((keeps.admitted initialised.known member split rfl).loads slot rfl))

/-- Behind an instruction that neither stores nor jumps the same slots hold values. -/
theorem advance (initialised : activation.Initialised module ledger performed)
    (comes : activation.rest = instruction :: rest)
    (stores_none : ∀ value kind slot, instruction ≠ .store value kind slot)
    (function : next.function = activation.function) (left : next.rest = rest)
    (slots : next.slots = activation.slots) :
    next.Initialised module ledger (performed ++ [instruction]) := by
  obtain ⟨block, member, before, split, held⟩ := initialised.secured
  refine ⟨function ▸ initialised.known, block, function ▸ member, before ++ [instruction], ?_,
    fun slot secured => ?_⟩
  · rw [left, List.append_assoc, List.singleton_append, ← comes, split]
  · rw [function] at secured
    -- The instruction is no store, so what is secured now was secured before it.
    obtain ⟨stored, holds⟩ := held slot (secured.of_append.resolve_right fun ⟨value, kind, same⟩ =>
      stores_none value kind slot same)
    exact ⟨stored.append _, by unfold Holds; rwa [slots]⟩

/-- Behind a store its slot holds a value, too. -/
theorem store (initialised : activation.Initialised module ledger performed) {value : Operand}
    {kind : ValueKind} {target : String}
    (comes : activation.rest = .store value kind target :: rest) (stored : Value) :
    Initialised module ledger
      { activation with rest, slots := assign target (some stored) activation.slots }
      (performed ++ [.store value kind target]) := by
  obtain ⟨block, member, before, split, held⟩ := initialised.secured
  refine ⟨initialised.known, block, member, before ++ [.store value kind target], ?_,
    fun slot secured => ?_⟩
  · rw [List.append_assoc, List.singleton_append, ← comes, split]
  -- The slot stored to holds a value from now on.
  · by_cases here : slot = target
    · subst here
      exact ⟨⟨value, kind, List.mem_append_right _ List.mem_cons_self⟩,
        stored, by simp [lookup_assign]⟩
    -- Other slots keep what they hold.
    · obtain ⟨before_stored, holds⟩ :=
        held slot (secured.of_append.resolve_right fun ⟨_, _, same⟩ =>
          here (by cases same; rfl))
      exact ⟨before_stored.append _, by simpa only [Holds, lookup_assign, if_neg here] using holds⟩

/-- Where a slot is reserved none holds a value yet. -/
theorem reserve (initialised : activation.Initialised module ledger performed)
    (keeps : ledger.Keeps module) {name : String} {kind : ValueKind}
    (comes : activation.rest = .alloca name kind :: rest) :
    Initialised module ledger { activation with rest, slots := assign name none activation.slots }
      (performed ++ [.alloca name kind]) := by
  obtain ⟨block, member, before, split, _⟩ := initialised.secured
  refine ⟨initialised.known, block, member, before ++ [.alloca name kind], ?_,
    fun slot secured => ?_⟩
  · rw [List.append_assoc, List.singleton_append, ← comes, split]
  · rw [comes] at split
    -- Behind a reservation nothing is secured yet, so nothing can be lost by it.
    exact absurd (secured.of_append.resolve_right nofun)
      (keeps.not_secures initialised.known member split slot)

/-- A jump goes where no more is promised than there is. -/
theorem enter (initialised : activation.Initialised module ledger performed)
    (keeps : ledger.Keeps module) (comes : activation.rest = instruction :: rest) {label : String}
    (goes : label ∈ instruction.targets)
    (enters : ({ activation with rest } : Activation).enter? label = some next) :
    next.Initialised module ledger (performed ++ [instruction]) := by
  obtain ⟨block, member, before, split, held⟩ := initialised.secured
  obtain ⟨target, found, rfl⟩ := Option.map_eq_some_iff.mp enters
  -- A jump is no slot, so its targets have been admitted.
  have plain : instruction.reserved? = none := by
    cases instruction <;> first | rfl | cases goes
  rw [comes] at split
  obtain ⟨names, promised, secures⟩ :=
    (keeps.admitted initialised.known member split plain).targets label goes
  refine ⟨initialised.known, target, Function.block?_mem found, [], rfl, ?_⟩
  rintro slot (⟨listed, same, inside⟩ | ⟨_, _, stands⟩)
  -- What is promised where the jump goes holds a value where it comes from.
  · rw [show target.label = label from Function.block?_label found] at same
    cases promised.symm.trans same
    obtain ⟨stored, holds⟩ := held slot (Ledger.Secures.of_filter (secures slot inside))
    exact ⟨stored.append _, holds⟩
  · cases stands

end Activation.Initialised

/-- The calls in progress, the active one first, with what each of them has performed. -/
def Configuration.Initialised (module : Module) (ledger : Ledger) (configuration : Configuration)
    (history : List (List Instruction)) : Prop :=
  List.Forall₂ (fun activation performed => activation.Initialised module ledger performed)
    (configuration.active :: configuration.waiting.map Waiting.activation) history

namespace Configuration.Initialised

variable {ledger : Ledger} {module : Module} {configuration next : Configuration}
  {history : List (List Instruction)}

/-- The active call goes on with another state, which keeps to the ledger. -/
theorem continueWith {performed more : List Instruction} {others : List (List Instruction)}
    (initialised : configuration.Initialised module ledger (performed :: others))
    {result : Option Activation}
    (active : ∀ activation, result = some activation → activation.Initialised module ledger more)
    (continues : configuration.continueWith result = .running next) :
    next.Initialised module ledger (more :: others) := by
  -- Only with a next activation the run goes on, and the waiting ones are as before.
  cases result with
  | none => cases continues
  | some activation =>
    cases continues
    exact .cons (active activation rfl) (List.forall₂_cons.mp initialised).2

/-- Where the active call returns, the one that has waited goes on as it was. -/
theorem leave {performed : List Instruction} {others : List (List Instruction)}
    (initialised : configuration.Initialised module ledger (performed :: others))
    {result : Option Value} (leaves : configuration.leave result = .running next) :
    next.Initialised module ledger others := by
  obtain ⟨active, waits⟩ := configuration
  -- A result goes to a register of the call that has waited, which is no slot of it.
  have around := (List.forall₂_cons.mp initialised).2
  cases waits with
  | nil => cases leaves
  | cons caller waiting =>
    obtain ⟨activation, register⟩ := caller
    cases around with
    | cons first rest =>
      cases register <;> cases result <;> cases leaves
      · exact .cons first rest
      · exact .cons (first.setRegister _ _) rest

/-- A step keeps all calls in progress to the ledger. -/
theorem step (initialised : configuration.Initialised module ledger history)
    (keeps : ledger.Keeps module) {instruction : Instruction} {rest : List Instruction}
    (comes : configuration.active.rest = instruction :: rest)
    (steps : configuration.step module = .running next) :
    next.Initialised module ledger (record instruction history) := by
  rw [Configuration.step_eq module comes configuration.waiting] at steps
  cases history with
  | nil => cases initialised
  | cons performed others =>
    obtain ⟨active, around⟩ := List.forall₂_cons.mp initialised
    cases instruction with
    | alloca name kind =>
      cases steps
      exact .cons (active.reserve keeps comes) around
    | load name kind slot =>
      -- A read sets a register only, and so does what calculates.
      refine initialised.continueWith (fun activation found => ?_) steps
      obtain ⟨value, _, rfl⟩ := Option.map_eq_some_iff.mp found
      exact active.advance comes nofun rfl rfl rfl
    | store value kind slot =>
      refine initialised.continueWith (fun activation found => ?_) steps
      obtain ⟨stored, _, rfl⟩ := Option.map_eq_some_iff.mp found
      exact active.store comes stored
    | arithmetic name operator left right | differ name left right =>
      refine initialised.continueWith (fun activation found => ?_) steps
      obtain ⟨first, _, found⟩ := Option.bind_eq_some_iff.mp found
      obtain ⟨second, _, found⟩ := Option.bind_eq_some_iff.mp found
      cases found
      exact active.advance comes nofun rfl rfl rfl
    | call result callee arguments =>
      simp only [perform, enterCall] at steps
      split at steps
      · rename_i values function _ found
        split at steps
        · rename_i activation starts
          cases steps
          -- The caller waits behind its call, and the callee has performed nothing yet.
          exact .cons (.start keeps (Module.function?_mem found) starts)
            (.cons (active.advance comes nofun rfl rfl rfl) around)
        · cases steps
      · cases steps
    | jump target =>
      exact initialised.continueWith (fun activation found =>
        active.enter keeps comes (List.mem_singleton.mpr rfl) found) steps
    | branch condition whenTrue whenFalse =>
      refine initialised.continueWith (fun activation found => ?_) steps
      obtain ⟨choice, _, found⟩ := Option.bind_eq_some_iff.mp found
      exact active.enter keeps comes (by cases choice <;> simp [Instruction.targets]) found
    | returnVoid => exact initialised.leave steps
    | returnValue value =>
      simp only [perform] at steps
      split at steps
      · exact initialised.leave steps
      · cases steps

end Configuration.Initialised

/-- Code that keeps to a ledger reads no slot that it has not stored to. -/
theorem Ledger.Keeps.initialises {ledger : Ledger} {module : Module} (keeps : ledger.Keeps module) :
    module.Initialises := by
  intro name function found arguments start starts configuration performed others executes register
    kind slot rest comes
  -- By induction on the execution: every configuration on the way keeps to the ledger.
  have initialised : ∀ configuration history, Executes module start configuration history →
      configuration.Initialised module ledger history := by
    intro configuration history executes
    induction executes with
    | start => exact .cons (.start keeps (Module.function?_mem found) starts) .nil
    | step _ comes steps before => exact before.step keeps comes steps
  exact (List.forall₂_cons.mp (initialised _ _ executes)).1.loads keeps comes

end LoopLang.Code
