import LoopLang.Proofs.Execution.Variables
import LoopLang.Proofs.Lowering.Expression

/-! Calls that mirror builders: they stand where code is emitted, and their slots hold the values of
the variables. -/

namespace LoopLang

open Code (Activation Instruction Lasts Module Operand Reaches Unended Waiting lookup_assign)

namespace Builder

/-- Code that is valid as it is, and that a builder leads to. -/
structure Leads (builder : Builder) (code : Module) : Prop where
  tidy : code.Tidy
  valid : code.Valid
  grows : builder.code.Grows code

/-- An earlier builder leads to where a later one does. -/
theorem Leads.before {builder later : Builder} {code : Module} (leads : later.Leads code)
    (grows : builder.code.Grows later.code) : builder.Leads code :=
  ⟨leads.tidy, leads.valid, grows.trans leads.grows⟩

/-- A call stands where a builder emits, in a block that is not ended yet. -/
def Places (builder : Builder) (code : Module) (activation : Activation) : Prop :=
  ∃ block body, builder.block? = some block ∧ builder.code.body? block = some body ∧ Unended body ∧
    activation.At code block body

/-- A call stands where a builder emits, and its slots hold the values of the variables. -/
structure Mirrors (builder : Builder) (code : Module) (activation : Activation)
    (locals : Evaluation.Variables) :
    Prop where
  placed : builder.Places code activation
  keeps : Keeps activation.slots builder.scopes.frames locals

/-- Where a call stands, something can be emitted. -/
theorem Places.ready {builder : Builder} {code : Module} {activation : Activation}
    (placed : builder.Places code activation) : builder.Ready := by
  obtain ⟨block, body, here, found, body_open, _⟩ := placed
  exact ⟨block, here, body, found, body_open⟩

/-- What is emitted from here on is what a call that stands here performs next. -/
theorem Places.rest {builder later : Builder} {code : Module} {activation : Activation}
    {more : List Instruction} (placed : builder.Places code activation) (leads : later.Leads code)
    (ends : ∀ here body, builder.block? = some here → builder.code.body? here = some body →
      Unended body → later.code.body? here = some (body ++ more)) :
    ∃ rest, activation.rest = more ++ rest := by
  obtain ⟨block, body, here, found, body_open, at_⟩ := placed
  -- What follows in the block is added later, behind what the later builder has there.
  obtain ⟨rest, longer⟩ := leads.grows.body? (ends block body here found body_open)
  exact ⟨rest, at_.rest_eq (by rw [longer, List.append_assoc])⟩

/-- Behind instructions that end nothing a call stands where a builder emits that has added them. -/
theorem Places.adds {builder later : Builder} {code : Module} {activation next : Activation}
    {more rest : List Instruction} (placed : builder.Places code activation)
    (adds : builder.Adds later more) (more_open : Unended more)
    (comes : activation.rest = more ++ rest) (same : next.function = activation.function)
    (left : next.rest = rest) :
    later.Places code next := by
  -- The builder and the activation both stand behind what was added.
  obtain ⟨block, body, here, found, body_open, at_⟩ := placed
  exact ⟨block, body ++ more, adds.block?.trans here, adds.current here found,
    body_open.append more_open, at_.advance comes same left⟩

end Builder

/-- A call goes on in its function while the calls that wait do not change. -/
structure Code.Activation.Goes (code : Module) (waiting : List Waiting)
    (activation next : Activation) : Prop where
  reaches : Reaches code ⟨activation, waiting⟩ ⟨next, waiting⟩
  function : next.function = activation.function

/--
A call comes from where one builder emits to where a later one does. What could be used before still
has the value that it had.
-/
structure Arrives (code : Module) (start finish : Builder) (waiting : List Waiting)
    (activation next : Activation) (after : Evaluation.Variables) : Prop where
  goes : activation.Goes code waiting next
  mirrors : finish.Mirrors code next after
  holds : ∀ operand, start.Holds operand → next.value? operand = activation.value? operand

/--
What is emitted between two builders does what an evaluation does. Where the evaluation is cut
short, the code runs on for longer than its fuel.
-/
def Follows {α : Type} (code : Module) (fuel : Nat) (start finish : Builder)
    (evaluation : Evaluation α) (agrees : Activation → α → Prop) : Prop :=
  ∀ activation locals waiting, start.Mirrors code activation locals →
    evaluation.Ends locals
      (fun result after => ∃ next,
        Arrives code start finish waiting activation next after ∧ agrees next result)
      (Lasts code (fuel + 1) ⟨activation, waiting⟩)

/-- What lowering answers stands for the result of an evaluation. -/
inductive Code.Activation.Gives (activation : Activation) : Option Operand → Option Value → Prop
  | value {operand : Operand} {value : Value} (has : activation.value? operand = some value)
      (kind : value.kind = operand.kind) : Gives activation (some operand) (some value)
  | nothing : Gives activation none none

section Steps

variable {code : Module} {fuel : Nat} {start middle finish : Builder} {waiting : List Waiting}
  {activation next last : Activation} {locals after final : Evaluation.Variables}

/-- An activation goes on where it has come to. -/
theorem Code.Activation.Goes.trans (first : activation.Goes code waiting next)
    (second : next.Goes code waiting last) :
    activation.Goes code waiting last :=
  ⟨first.reaches.trans second.reaches, second.function.trans first.function⟩

/-- Two stretches of code in a row are one. -/
theorem Arrives.trans (first : Arrives code start middle waiting activation next after)
    (more : start.Extends middle) (second : Arrives code middle finish waiting next last final) :
    Arrives code start finish waiting activation last final where
  goes := first.goes.trans second.goes
  mirrors := second.mirrors
  holds := fun operand held => (second.holds operand (more.holds held)).trans
    (first.holds operand held)

/-- A call is where it is. -/
theorem Builder.Mirrors.arrives (mirrors : start.Mirrors code activation locals)
    (waiting : List Waiting) :
    Arrives code start start waiting activation activation locals :=
  ⟨⟨.refl _ _, rfl⟩, mirrors, fun _ _ => rfl⟩

variable {α β : Type}

/-- What the code of one evaluation leaves is where the code of the next one begins. -/
theorem Follows.bind {first : Evaluation α} {second : α → Evaluation β}
    {between : Activation → α → Prop} {agrees : Activation → β → Prop}
    (begun : Follows code fuel start middle first between) (more : start.Extends middle)
    (rest : ∀ result next after waiting, middle.Mirrors code next after → between next result →
      (second result).Ends after
        (fun result final => ∃ last, Arrives code middle finish waiting next last final ∧
          agrees last result) (Lasts code (fuel + 1) ⟨next, waiting⟩)) :
    Follows code fuel start finish (first >>= second) agrees := by
  intro activation locals waiting mirrors
  rw [Evaluation.bind_ends]
  refine (begun activation locals waiting mirrors).imp (fun result after held => ?_) id
  obtain ⟨next, arrives, agreed⟩ := held
  -- The second part begins with the variables that the first one leaves.
  refine (rest result next after waiting arrives.mirrors agreed).imp (fun result final held => ?_)
    fun lasts => ?_
  · obtain ⟨last, further, agreed⟩ := held
    exact ⟨last, arrives.trans more further, agreed⟩
  · exact arrives.goes.reaches.lasts lasts

/-- What could be used at the start has the same value in the end. -/
theorem Follows.holding {evaluation : Evaluation α} {agrees : Activation → α → Prop}
    (follows : Follows code fuel start finish evaluation agrees) {operand : Operand}
    (holds : start.Holds operand) {value : Option Value}
    (mirrors : start.Mirrors code activation locals) (has : activation.value? operand = value) :
    evaluation.Ends locals
      (fun result after => ∃ next, Arrives code start finish waiting activation next after ∧
      agrees next result ∧ next.value? operand = value)
        (Lasts code (fuel + 1) ⟨activation, waiting⟩) := by
  -- An operand that the builder holds keeps its value while the code runs on.
  refine (follows activation locals waiting mirrors).imp (fun result after held => ?_) id
  obtain ⟨next, arrives, agreed⟩ := held
  exact ⟨next, arrives, agreed, (arrives.holds operand holds).trans has⟩

/-- A register that is new changes no operand that could be used before. -/
theorem Builder.Gains.value? {register : String} {instruction : Instruction}
    (gains : start.Gains finish register instruction) (value : Value) {operand : Operand}
    (holds : start.Holds operand) :
    (activation.setRegister register value).value? operand = activation.value? operand := by
  -- Only a register could be changed, and the new one has another name.
  cases operand with
  | register name kind =>
    have apart : name ≠ register := by
      rintro rfl
      exact gains.fresh kind holds
    simp [Activation.value?, Activation.setRegister, lookup_assign, apart]
  | _ => rfl

/-- A register that is set has its value. -/
theorem Code.Activation.value?_setRegister (activation : Activation) (register : String)
    (kind : ValueKind) (value : Value) :
    (activation.setRegister register value).value? (.register register kind) = some value := by
  simp [Activation.value?, Activation.setRegister, lookup_assign]

/-- Where an instruction comes to that gives a register its value. -/
theorem Builder.Mirrors.gains (mirrors : start.Mirrors code activation locals)
    (waiting : List Waiting) {register : String} {instruction : Instruction}
    (gains : start.Gains finish register instruction) (goes : instruction.isTerminator = false)
    (leads : finish.Leads code) (value : Value)
    (performs : ∀ rest, activation.rest = instruction :: rest → Reaches code ⟨activation, waiting⟩
      ⟨({ activation with rest } : Activation).setRegister register value, waiting⟩) :
    ∃ next, Arrives code start finish waiting activation next locals ∧
      ∀ kind, next.value? (.register register kind) = some value := by
  -- The instruction is the next one, and no slot changes when it is performed.
  obtain ⟨rest, comes⟩ :=
    mirrors.placed.rest leads fun _ _ here found _ => gains.adds.current here found
  refine ⟨_, ⟨⟨performs rest comes, rfl⟩, ⟨?_, ?_⟩, fun operand held => gains.value? value held⟩,
    fun kind =>
      Activation.value?_setRegister ..⟩
  · exact mirrors.placed.adds gains.adds (.single goes) comes rfl rfl
  · exact gains.adds.scopes ▸ mirrors.keeps

end Steps

end LoopLang
