import LoopLang.Code.Machine
import LoopLang.Proofs.Code.Validity

/-! Runs of code: how they go on, where they come to, and where in a block the active call
stands. -/

namespace LoopLang.Code

section Runs

variable {module : Module} {start middle finish : Configuration}

/-- A run comes from one configuration to another. -/
def Reaches (module : Module) (start finish : Configuration) : Prop :=
  ∃ steps, ∀ more, runFrom module (steps + more) start = runFrom module more finish

/-- A run goes on for a number of steps at least. -/
def Lasts (module : Module) (steps : Nat) (start : Configuration) : Prop :=
  runFrom module steps start = .outOfSteps

/-- A run comes to where the active call returns; the calls that wait have not changed. -/
def Returns (module : Module) (start : Configuration) (result : Option Value) : Prop :=
  ∃ last, Reaches module start last ∧ last.waiting = start.waiting ∧
    last.step module = last.leave result

/-- A configuration is reached from itself. -/
theorem Reaches.refl (module : Module) (start : Configuration) : Reaches module start start :=
  ⟨0, fun more => by rw [Nat.zero_add]⟩

/-- What is reached on the way is reached. -/
theorem Reaches.trans (first : Reaches module start middle)
    (second : Reaches module middle finish) :
    Reaches module start finish := by
  obtain ⟨before, begun⟩ := first
  obtain ⟨after, ended⟩ := second
  exact ⟨before + after, fun more => by rw [Nat.add_assoc, begun, ended]⟩

/-- One step leads to the next configuration. -/
theorem Reaches.step (next : start.step module = .running finish) : Reaches module start finish :=
  ⟨1, fun more => by rw [Nat.add_comm, runFrom, next]⟩

/-- A run that goes on for some steps goes on for fewer. -/
theorem Lasts.less {steps fewer : Nat} (lasts : Lasts module steps start) (less : fewer ≤ steps) :
    Lasts module fewer start := by
  unfold Lasts at *
  -- By induction on the smaller number: each of its steps is one of the larger number, too.
  induction fewer generalizing steps start with
  | zero => rfl
  | succ fewer ih =>
    obtain ⟨steps, rfl⟩ :=
      Nat.exists_eq_succ_of_ne_zero (Nat.ne_of_gt (Nat.lt_of_lt_of_le fewer.succ_pos less))
    rw [runFrom] at lasts ⊢
    cases next : start.step module with
    | running configuration =>
      rw [next] at lasts
      exact ih lasts (Nat.le_of_succ_le_succ less)
    | finished _ | stuck =>
      rw [next] at lasts
      cases lasts

/-- What a run comes to goes on at most as long as the whole. -/
theorem Reaches.lasts {steps : Nat} (reaches : Reaches module start finish)
    (lasts : Lasts module steps finish) :
    Lasts module steps start := by
  obtain ⟨before, begun⟩ := reaches
  have whole : Lasts module (before + steps) start := (begun steps).trans lasts
  exact whole.less (Nat.le_add_left ..)

/-- With one step in front, a run goes on for one step more. -/
theorem Lasts.step {steps : Nat} (next : start.step module = .running finish)
    (lasts : Lasts module steps finish) :
    Lasts module (steps + 1) start := by
  unfold Lasts
  rw [runFrom, next]
  exact lasts

/-- A run that comes to where the active call returns is the return of that call. -/
theorem Reaches.returns {result : Option Value} (reaches : Reaches module start finish)
    (same : finish.waiting = start.waiting) (returns : Returns module finish result) :
    Returns module start result := by
  obtain ⟨last, further, waiting, leaves⟩ := returns
  exact ⟨last, reaches.trans further, waiting.trans same, leaves⟩

/-- A run that has ended ends in the same way after any larger number of steps. -/
theorem runFrom_ended {steps : Nat} {outcome : Outcome}
    (ended : runFrom module steps start = outcome) (final : outcome ≠ .outOfSteps) (more : Nat) :
    runFrom module (steps + more) start = outcome := by
  -- By induction on the steps: a run that has not ended yet has taken another one.
  induction steps generalizing start with
  | zero => exact absurd ended.symm final
  | succ steps ih =>
    rw [Nat.add_right_comm, runFrom]
    rw [runFrom] at ended
    cases next : start.step module with
    | running configuration =>
      rw [next] at ended
      exact ih ended
    | finished _ | stuck =>
      rw [next] at ended
      exact ended

/-- A run ends in one way at most. -/
theorem runFrom_unique {steps others : Nat} {one other : Outcome}
    (first : runFrom module steps start = one) (second : runFrom module others start = other)
    (one_over : one ≠ .outOfSteps) (other_over : other ≠ .outOfSteps) :
    one = other := by
  -- Both runs end in the same way after as many steps as they have taken together.
  have early := runFrom_ended first one_over others
  have late := runFrom_ended second other_over steps
  rw [Nat.add_comm] at late
  exact early.symm.trans late

/-- A call that has waited for a result goes on with it. -/
theorem Returns.resumeWith {activation caller : Activation} {register : String}
    {waiting : List Waiting} {value : Value}
    (returns : Returns module ⟨activation, ⟨caller, some register⟩ :: waiting⟩ (some value)) :
    Reaches module ⟨activation, ⟨caller, some register⟩ :: waiting⟩
      ⟨caller.setRegister register value, waiting⟩ := by
  obtain ⟨last, reaches, same, leaves⟩ := returns
  -- The last step of the callee hands its result over.
  refine reaches.trans (.step (leaves.trans ?_))
  simp only [Configuration.leave, same]

/-- A call that has waited for no result goes on as it was. -/
theorem Returns.resume {activation caller : Activation} {waiting : List Waiting}
    (returns : Returns module ⟨activation, ⟨caller, none⟩ :: waiting⟩ none) :
    Reaches module ⟨activation, ⟨caller, none⟩ :: waiting⟩ ⟨caller, waiting⟩ := by
  obtain ⟨last, reaches, same, leaves⟩ := returns
  -- The last step of the callee leaves the caller as it was.
  refine reaches.trans (.step (leaves.trans ?_))
  simp only [Configuration.leave, same]

/-- Where no call waits, the return of the active one is the end of the run. -/
theorem Returns.finished {activation : Activation} {result : Option Value}
    (returns : Returns module ⟨activation, []⟩ result) :
    ∃ steps, runFrom module steps ⟨activation, []⟩ = .finished result := by
  obtain ⟨last, ⟨steps, begun⟩, same, leaves⟩ := returns
  -- One step more than it takes to come to the return.
  refine ⟨steps + 1, (begun 1).trans ?_⟩
  have none_waits : last.waiting = [] := same
  rw [runFrom, leaves, Configuration.leave, none_waits]

end Runs

/-! Tables of values. -/

/-- What is found in a table where an entry was set. -/
theorem lookup_assign {α : Type} (name other : String) (value : α) (entries : List (String × α)) :
    (assign name value entries).lookup other = if other = name then some value
      else entries.lookup other := by
  have apart : ∀ {first : String}, other ≠ first → (other == first) = false :=
    fun differs => by simpa using differs
  -- By induction on the entries: the first one of the name is replaced, or else one is added at the
  -- end.
  induction entries with
  | nil =>
    by_cases same : other = name
    · simp [assign, same]
    · simp [assign, same, List.lookup_cons, apart same]
  | cons entry rest ih =>
    obtain ⟨first, old⟩ := entry
    by_cases here : first = name
    · subst here
      by_cases same : other = first
      · simp [assign, same]
      · simp [assign, same, List.lookup_cons, apart same]
    · by_cases same : other = first
      · subst same
        simp [assign, here]
      · simp [assign, List.lookup_cons, here, apart same, ih]

/-! Where the active call stands. -/

namespace Activation

/-- A call stands in a block behind some of its instructions, slots apart. -/
structure At (activation : Activation) (module : Module) (block : BlockRef)
    (before : List Instruction) : Prop where
  owner : module.function? block.function = some activation.function
  body : module.body? block = some (before ++ activation.rest)

variable {module : Module} {activation next : Activation} {block : BlockRef}
  {before more rest : List Instruction}

/-- What stands behind a place in a block comes next there. -/
theorem At.rest_eq (at_ : activation.At module block before)
    (body : module.body? block = some (before ++ rest)) :
    activation.rest = rest :=
  List.append_cancel_left (Option.some.inj (at_.body.symm.trans body))

/-- A call stands further on when it has performed some instructions. -/
theorem At.advance (at_ : activation.At module block before)
    (comes : activation.rest = more ++ rest) (same : next.function = activation.function)
    (left : next.rest = rest) : next.At module block (before ++ more) where
  owner := same ▸ at_.owner
  body := by rw [left, List.append_assoc, ← comes, at_.body]

/-- In valid code the next instruction fits where it stands. -/
theorem At.fits (at_ : activation.At module block before) (valid : module.Valid)
    {instruction : Instruction} (comes : activation.rest = instruction :: rest) :
    instruction.Fits module activation.function before :=
  valid block activation.function _ at_.owner at_.body before instruction rest (by rw [comes])

/-- A call goes to the start of a block that it may go to, and takes its registers and slots
along. -/
theorem At.enter (at_ : activation.At module block before) (tidy : module.Tidy) {label : String}
    (target : activation.function.IsTarget label) :
    ∃ entered, activation.enter? label = some entered ∧ entered.At module
      ⟨block.function, label⟩ [] ∧
      entered.function = activation.function ∧ entered.registers = activation.registers ∧
      entered.slots = activation.slots := by
  have inner := tidy.functions _ (Module.function?_mem at_.owner)
  obtain ⟨other, later, rfl⟩ := target.mem_tail
  have found := inner.block?_eq (List.mem_of_mem_tail later)
  -- Only the first block has slots in front of its body.
  have plain : other.body = other.instructions := by
    have front := inner.slotsInFront
    unfold Function.SlotsInFront at front
    cases blocks : activation.function.blocks with
    | nil =>
      rw [blocks] at later
      cases later
    | cons entry others =>
      rw [blocks] at front later
      exact List.filter_eq_self.mpr fun instruction member => by
        rw [front.2 other later instruction member]; rfl
  refine ⟨{ activation with rest := other.instructions }, by rw [enter?, found]; rfl, ⟨at_.owner,
    ?_⟩, rfl, rfl, rfl⟩
  simp [Module.body?, at_.owner, Function.body?, found, plain]

end Activation

/-- A step performs the next instruction of the active call. -/
theorem Configuration.step_eq (module : Module) {activation : Activation}
    {instruction : Instruction} {rest : List Instruction}
    (comes : activation.rest = instruction :: rest) (waiting : List Waiting) :
    (⟨activation, waiting⟩ : Configuration).step module =
      Configuration.perform module ⟨activation, waiting⟩ { activation with rest } instruction := by
  rw [step]
  simp only [comes]

end LoopLang.Code
