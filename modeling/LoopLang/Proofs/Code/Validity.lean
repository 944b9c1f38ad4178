import LoopLang.Proofs.Code.ModuleGrowth

/-! Valid code: every instruction fits where it stands, at any time while code is built. -/

namespace LoopLang.Code

/-- Bodies without a terminator can still be added to. -/
def Unended (body : List Instruction) : Prop :=
  ∀ instruction ∈ body, instruction.isTerminator = false

/-- Nothing ends an empty body. -/
theorem Unended.nil : Unended [] := List.forall_mem_nil _

/-- An instruction that goes on does not end the body that it makes up. -/
theorem Unended.single {instruction : Instruction} (goes : instruction.isTerminator = false) :
    Unended [instruction] :=
  fun _ member => List.mem_singleton.mp member ▸ goes

/-- A body is not ended by its parts if none of them is. -/
theorem Unended.append {first second : List Instruction} (begun : Unended first)
    (ended : Unended second) :
    Unended (first ++ second) :=
  fun instruction member => (List.mem_append.mp member).elim (begun instruction) (ended instruction)

/-- A block has a terminator exactly if its body has one: slots are none. -/
theorem Block.isTerminated_eq (block : Block) :
    block.isTerminated = block.body.any (·.isTerminator) := by
  rw [Block.body, Block.isTerminated, List.any_filter]
  congr 1
  funext instruction
  cases instruction <;> rfl

/-- A body is open exactly if its block is seen to have no terminator. -/
theorem Module.isTerminated_iff {module : Module} {block : BlockRef} {body : List Instruction}
    (found : module.body? block = some body) :
    module.isTerminated block = false ↔ Unended body := by
  obtain ⟨function, owner, inside⟩ := Option.bind_eq_some_iff.mp found
  obtain ⟨standing, held, rfl⟩ := Option.map_eq_some_iff.mp inside
  simp [Module.isTerminated, owner, held, Block.isTerminated_eq, Unended]

/-- A block that a jump may go to: it exists, and it is not the first one. -/
def Function.IsTarget (function : Function) (label : String) : Prop :=
  (∃ body, function.body? label = some body) ∧ ∃ first, function.start? = some first ∧ first ≠ label

/-- What an instruction keeps to behind those that stand before it in its block. -/
structure Instruction.Fits (module : Module) (function : Function) (before : List Instruction)
    (instruction : Instruction) : Prop where
  unended : Unended before
  operands : ∀ operand ∈ instruction.operands, operand.IsDefined function.parameters before
  targets : ∀ target ∈ instruction.targets, function.IsTarget target
  accesses : ∀ slot ∈ instruction.accessed?, slot ∈ function.slots
  typed : instruction.IsTyped module function

/-- Every instruction of a body fits behind those before it. -/
def Module.Admits (module : Module) (function : Function) (body : List Instruction) : Prop :=
  ∀ before instruction after, body = before ++ instruction :: after →
    instruction.Fits module function before

/-- Every instruction of a module fits where it stands, slots apart. -/
def Module.Valid (module : Module) : Prop :=
  ∀ block function body, module.function? block.function = some function →
    module.body? block = some body → module.Admits function body

/-- A jump may still go where it could go before. -/
theorem Function.Grows.isTarget {function later : Function} (grows : function.Grows later)
    {label : String} (target : function.IsTarget label) : later.IsTarget label := by
  obtain ⟨⟨body, found⟩, first, start, apart⟩ := target
  obtain ⟨more, kept⟩ := grows.bodies label body found
  exact ⟨⟨_, kept⟩, first, grows.start first start, apart⟩

/-- Kinds that fit go on fitting: a callee keeps its signature. -/
theorem Module.Grows.isTyped {module later : Module} (grows : module.Grows later)
    {function grown : Function} (inside : function.Grows grown) {instruction : Instruction}
    (typed : instruction.IsTyped module function) :
    instruction.IsTyped later grown := by
  cases instruction with
  -- Only calls look at other functions, and returns at the result of this one.
  | call result callee arguments =>
    obtain ⟨target, found, kinds, answer⟩ := typed
    obtain ⟨kept, held, same⟩ := grows.functions callee target found
    exact ⟨kept, held, same.parameters ▸ kinds, same.result ▸ answer⟩
  | returnVoid => exact inside.result.trans typed
  | returnValue value => exact typed.trans inside.result.symm
  | _ => exact typed

/-- What fits goes on fitting. -/
theorem Instruction.Fits.grow {module later : Module} (grows : module.Grows later)
    {function grown : Function} (inside : function.Grows grown) {before : List Instruction}
    {instruction : Instruction} (fits : instruction.Fits module function before) :
    instruction.Fits later grown before where
  unended := fits.unended
  operands := inside.parameters ▸ fits.operands
  targets := fun target member => inside.isTarget (fits.targets target member)
  accesses := fun slot member => inside.slots slot (fits.accesses slot member)
  typed := grows.isTyped inside fits.typed

namespace Module

/-- Nothing stands in an empty body. -/
theorem admits_nil (module : Module) (function : Function) : module.Admits function [] := by
  intro before instruction after split
  simp at split

/-- A body gets longer by what fits behind it. -/
theorem Admits.concat {module : Module} {function : Function} {body : List Instruction}
    {instruction : Instruction} (admits : module.Admits function body)
    (fits : instruction.Fits module function body) :
    module.Admits function (body ++ [instruction]) := by
  intro before other after split
  rcases List.eq_nil_or_concat after with rfl | ⟨shorter, last, rfl⟩
  -- The instruction looked at is the new one.
  · obtain ⟨rfl, same⟩ := List.append_inj' split rfl
    cases same
    exact fits
  · have parts : body ++ [instruction] = (before ++ other :: shorter) ++ [last] := by
      simpa using split
    exact admits before other shorter (List.append_inj' parts rfl).1

/-- What is admitted goes on being admitted. -/
theorem Admits.grow {module later : Module} (grows : module.Grows later)
    {function grown : Function} (inside : function.Grows grown) {body : List Instruction}
    (admits : module.Admits function body) :
    later.Admits grown body :=
  fun before instruction after split => (admits before instruction after split).grow grows inside

/-- Code stays valid if the body of each block is empty or one that was there, perhaps with one more
instruction that fits. -/
theorem Valid.grow {module later : Module} (valid : module.Valid) (grows : module.Grows later)
    (bodies : ∀ block body, later.body? block = some body → body = [] ∨
      module.body? block = some body ∨ ∃ old instruction, module.body? block = some old ∧
      body = old ++ [instruction] ∧ ∀ function, later.function? block.function = some function →
      instruction.Fits later function old) :
    later.Valid := by
  intro block function body found inside
  -- A body that was there before is admitted in the function as it is now.
  have kept : ∀ old, module.body? block = some old → later.Admits function old := by
    intro old before
    obtain ⟨earlier, held, _⟩ := Option.bind_eq_some_iff.mp before
    obtain ⟨grown, same, larger⟩ := grows.functions _ earlier held
    rw [found] at same
    cases same
    exact (valid block earlier old held before).grow grows larger
  rcases bodies block body inside with rfl | before | ⟨old, instruction, before, rfl, fits⟩
  · exact later.admits_nil function
  · exact kept body before
  · exact (kept old before).concat (fits function found)

/-- A module without functions is valid. -/
theorem Valid.empty : Module.empty.Valid := by
  intro block function body found
  simp [Module.empty, function?] at found

/-- Code stays valid when a block gets an instruction that fits behind what stands there. -/
theorem Valid.append {module : Module} (valid : module.Valid) {block : BlockRef} {base : String}
    {make : String → Instruction} (plain : Function.IsPlain make)
    (fits : ∀ function body name, module.function? block.function = some function →
      module.body? block = some body → (make name).Fits module function body) :
    (module.append block base make).2.Valid := by
  have grows := module.append_grows block base plain
  refine valid.grow grows fun other body found => ?_
  rw [module.body?_append block base plain] at found
  split at found
  · rename_i here
    subst here
    obtain ⟨old, before, rfl⟩ := Option.map_eq_some_iff.mp found
    refine .inr (.inr ⟨old, _, before, rfl, fun function held => ?_⟩)
    obtain ⟨earlier, present, _⟩ := Option.bind_eq_some_iff.mp before
    obtain ⟨grown, same, larger⟩ := grows.functions _ earlier present
    rw [held] at same
    cases same
    exact (fits earlier old _ present before).grow grows larger
  · exact .inr (.inl found)

/-- Code stays valid when a slot is reserved. -/
theorem Valid.addSlot {module : Module} (valid : module.Valid) (owner : Name) (base : String)
    (kind : ValueKind) :
    (module.addSlot owner base kind).2.Valid :=
  valid.grow (addSlot_grows base kind module owner) fun block body found =>
    .inr (.inl (by rwa [body?_addSlot] at found))

/-- Code stays valid when a function gets another block. -/
theorem Valid.addBlock {module : Module} (valid : module.Valid) (tidy : module.Tidy) {owner : Name}
    {function : Function} (found : module.function? owner = some function) (base : String) :
    (module.addBlock owner base).2.Valid := by
  refine valid.grow (tidy.addBlock_grows base owner) fun block body inside => ?_
  rw [tidy.body?_addBlock base found] at inside
  -- The new block is empty, all others are as before.
  split at inside
  · exact .inl (Option.some.inj inside).symm
  · exact .inr (.inl inside)

/-- Code stays valid when a function is added. -/
theorem Valid.addFunction {module : Module} (valid : module.Valid) (tidy : module.Tidy)
    (base : Name) (parameters : List (String × ValueKind)) (result : ExactKind) :
    (module.addFunction base parameters result).2.Valid :=
  valid.grow (tidy.addFunction_grows base parameters result) fun block body found =>
    .inr (.inl (by rwa [tidy.body?_addFunction base parameters result] at found))

/-- A body that admits all its instructions and is not open ends in its only terminator. -/
theorem Admits.ended {module : Module} {function : Function} {body : List Instruction}
    (admits : module.Admits function body) (ended : ¬ Unended body) :
    ∃ front last, body = front ++ [last] ∧ last.isTerminator = true ∧ Unended front := by
  rcases List.eq_nil_or_concat body with rfl | ⟨front, last, rfl⟩
  · exact absurd (by simp [Unended]) ended
  · have front_open := (admits front last [] (by simp)).unended
    refine ⟨front, last, by simp, ?_, front_open⟩
    -- If the last one were no terminator, there would be none at all.
    cases final : last.isTerminator with
    | true => rfl
    | false =>
      refine absurd (fun instruction member => ?_) ended
      rw [List.concat_eq_append] at member
      rcases List.mem_append.mp member with old | new
      · exact front_open instruction old
      · rw [List.mem_singleton.mp new, final]

end Module

/-- Nothing else reserves a slot. -/
theorem Instruction.eq_alloca {instruction : Instruction}
    (reserves : instruction.reserved?.isSome) :
    ∃ name kind, instruction = .alloca name kind := by
  cases instruction <;> simp [reserved?] at reserves ⊢

/-- With slots in front, a block is made of its slots and its body. -/
theorem Function.SlotsInFront.split {function : Function} (front : function.SlotsInFront)
    {block : Block} (member : block ∈ function.blocks) :
    ∃ slots, block.instructions = slots ++ block.body ∧
      ∀ instruction ∈ slots, instruction.reserved?.isSome := by
  -- Where nothing is reserved, the body of a block is the whole of it.
  have whole : ∀ instructions : List Instruction,
      (∀ instruction ∈ instructions, instruction.reserved? = none) →
      instructions.filter (·.reserved?.isNone) = instructions := by
    intro instructions others
    exact List.filter_eq_self.mpr fun instruction inside => by rw [others instruction inside]; rfl
  cases blocks : function.blocks with
  | nil =>
    rw [blocks] at member
    cases member
  | cons entry rest =>
    simp only [SlotsInFront, blocks] at front
    obtain ⟨⟨slots, body, split, reserve, others⟩, later⟩ := front
    rw [blocks] at member
    -- The first block is split behind its slots, any other in front of all.
    rcases List.mem_cons.mp member with rfl | after
    · refine ⟨slots, ?_, reserve⟩
      have none_left : slots.filter (·.reserved?.isNone) = [] :=
        List.filter_eq_nil_iff.mpr fun instruction inside => by
          have held := reserve instruction inside
          cases reserved : instruction.reserved? with
          | none => simp [reserved] at held
          | some slot => simp
      rw [split, Block.body, split, List.filter_append, none_left, whole body others,
        List.nil_append]
    · exact ⟨[], by rw [Block.body, whole _ (later block after), List.nil_append], by simp⟩

/-- What is defined behind some instructions is defined behind more of them. -/
theorem Operand.IsDefined.behind {parameters : List (String × ValueKind)}
    {before : List Instruction} {operand : Operand}
    (defined : operand.IsDefined parameters before) (front : List Instruction) :
    operand.IsDefined parameters (front ++ before) := by
  cases operand with
  | register name kind =>
    -- Only registers need a definition: a parameter, or an earlier instruction.
    rcases defined with parameter | ⟨earlier, member, result⟩
    · exact .inl parameter
    · exact .inr ⟨earlier, List.mem_append_right _ member, result⟩
  | _ => trivial

/-- What is defined stays defined while more instructions follow and the parameters are the same. -/
theorem Operand.IsDefined.before {parameters others : List (String × ValueKind)}
    {body : List Instruction} {operand : Operand} (defined : operand.IsDefined parameters body)
    (same : others = parameters) (rest : List Instruction) :
    operand.IsDefined others (body ++ rest) := by
  cases operand with
  | register name kind =>
    rcases defined with parameter | ⟨earlier, member, result⟩
    · exact .inl (same ▸ parameter)
    · exact .inr ⟨earlier, List.mem_append_left _ member, result⟩
  | _ => trivial

/-- A block of a tidy function is found under its label. -/
theorem Function.Tidy.block?_eq {function : Function} (tidy : function.Tidy) {block : Block}
    (member : block ∈ function.blocks) : function.block? block.label = some block := by
  have distinct := tidy.labels
  unfold Function.block?
  generalize function.blocks = blocks at member distinct
  induction blocks with
  | nil => cases member
  | cons first rest ih =>
    obtain ⟨outside, distinct⟩ := List.nodup_cons.mp distinct
    rcases List.mem_cons.mp member with rfl | later
    · simp
    · have apart : first.label ≠ block.label := fun same =>
        outside (List.mem_map.mpr ⟨block, later, same.symm⟩)
      rw [List.find?_cons_of_neg (by simpa using apart)]
      exact ih later distinct

/-- A target of a jump is one of the blocks behind the first one. -/
theorem Function.IsTarget.mem_tail {function : Function} {label : String}
    (target : function.IsTarget label) :
    ∃ other ∈ function.blocks.tail, other.label = label := by
  obtain ⟨⟨body, found⟩, first, start, apart⟩ := target
  obtain ⟨other, held, _⟩ := Option.map_eq_some_iff.mp found
  have member := block?_mem held
  have named := block?_label held
  cases blocks : function.blocks with
  | nil =>
    rw [blocks] at member
    cases member
  | cons entry rest =>
    rw [blocks] at member
    rcases List.mem_cons.mp member with rfl | later
    -- The first block has the label that the target has not.
    · have entered : other.label = first := by simpa [start?, blocks] using start
      exact absurd (entered.symm.trans named) apart
    · exact ⟨other, later, named⟩

/-- A block of a tidy module is found where it is. -/
theorem Module.Tidy.body?_eq {module : Module} (tidy : module.Tidy) {function : Function}
    (inside : function ∈ module.functions) {block : Block} (member : block ∈ function.blocks) :
    module.body? ⟨function.name, block.label⟩ = some block.body := by
  simp [body?, tidy.function?_eq inside, Function.body?,
    (tidy.functions function inside).block?_eq member]

/-- An instruction of a block is a slot, about which nothing is to be said, or it fits behind a part
of the body. -/
theorem Module.Admits.fits {module : Module} {function : Function} {block : Block}
    (admits : module.Admits function block.body) (front : function.SlotsInFront)
    (member : block ∈ function.blocks) {before after : List Instruction}
    {instruction : Instruction} (split : block.instructions = before ++ instruction :: after) :
    instruction.reserved?.isSome ∨ ∃ slots rest,
      before = slots ++ rest ∧ instruction.Fits module function rest := by
  obtain ⟨slots, parts, reserve⟩ := front.split member
  rw [parts] at split
  -- The instruction stands behind the slots or is one of them.
  rcases List.append_eq_append_iff.mp split with ⟨rest, rfl, same⟩ | ⟨rest, rfl, same⟩
  · exact .inr ⟨slots, rest, rfl, admits rest instruction after same⟩
  -- Before the end of the slots there are slots only.
  · cases rest with
    | nil =>
      exact .inr ⟨before, [], by simp, admits [] instruction after (by simpa using same.symm)⟩
    | cons first rest =>
      obtain ⟨rfl, _⟩ := List.cons.inj same
      exact .inl (reserve _ (by simp))

/-- Valid code is well-formed once every function has a block and every block its terminator. -/
theorem Module.Valid.wellFormed {module : Module} (valid : module.Valid) (tidy : module.Tidy)
    (started : ∀ function ∈ module.functions, function.blocks ≠ [])
    (ended : ∀ block body, module.body? block = some body → ¬ Unended body) :
    module.WellFormed := by
  intro function inside
  have inner := tidy.functions function inside
  -- A block of the module is the one found under its name, which is where validity speaks of it.
  have admits : ∀ block ∈ function.blocks, module.Admits function block.body := fun block member =>
    valid ⟨function.name, block.label⟩ function _ (tidy.function?_eq inside)
      (tidy.body?_eq inside member)
  -- Every instruction is a slot, of which nothing is asked, or fits to what stands in front of it.
  have each : ∀ block ∈ function.blocks, ∀ instruction ∈ block.instructions,
      instruction.reserved?.isSome ∨ ∃ rest, instruction.Fits module function rest := by
    intro block member instruction within
    obtain ⟨before, after, split⟩ := List.append_of_mem within
    exact ((admits block member).fits inner.slotsInFront member split).imp id
      fun ⟨_, rest, _, fits⟩ => ⟨rest, fits⟩
  exact {
    started := started function inside
    terminated := by
      intro block member
      obtain ⟨slots, parts, reserve⟩ := inner.slotsInFront.split member
      -- The block has ended, with a terminator behind instructions that are none.
      obtain ⟨front, last, whole, final, front_open⟩ :=
        (admits block member).ended (ended _ _ (tidy.body?_eq inside member))
      refine ⟨slots ++ front,
        last, by rw [parts, whole, List.append_assoc], final, fun instruction within => ?_⟩
      rcases List.mem_append.mp within with slot | body
      · obtain ⟨name, kind, rfl⟩ := Instruction.eq_alloca (reserve instruction slot)
        rfl
      · exact front_open instruction body
    -- Slots lead nowhere, read nothing and have no operands, so only the fitting ones count.
    targets := by
      intro block member instruction within target goes
      rcases each block member instruction within with slot | ⟨rest, fits⟩
      · obtain ⟨name, kind, rfl⟩ := Instruction.eq_alloca slot
        cases goes
      · exact (fits.targets target goes).mem_tail
    operands := by
      intro block member before instruction after split operand used
      rcases (admits block member).fits inner.slotsInFront member
        split with slot | ⟨front, rest, rfl, fits⟩
      · obtain ⟨name, kind, rfl⟩ := Instruction.eq_alloca slot
        cases used
      · exact (fits.operands operand used).behind front
    accesses := by
      intro block member instruction within slot accessed
      rcases each block member instruction within with reserved | ⟨rest, fits⟩
      · obtain ⟨name, kind, rfl⟩ := Instruction.eq_alloca reserved
        cases accessed
      · exact fits.accesses slot accessed
    typed := by
      intro block member instruction within
      rcases each block member instruction within with slot | ⟨rest, fits⟩
      · obtain ⟨name, kind, rfl⟩ := Instruction.eq_alloca slot
        trivial
      · exact fits.typed
    slotsInFront := inner.slotsInFront
    distinct := inner.distinct }

end LoopLang.Code
