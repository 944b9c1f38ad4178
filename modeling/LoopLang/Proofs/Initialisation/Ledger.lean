import LoopLang.Proofs.Code.Validity

/-! Ledgers: which slots hold a value whenever a block is entered, and how code that is built on
keeps to that. -/

namespace LoopLang.Code

/-- Some of the instructions store to a slot. -/
def Stores (instructions : List Instruction) (slot : String) : Prop :=
  ∃ value kind, .store value kind slot ∈ instructions

/-- The slot that an instruction reads. -/
def Instruction.loaded? : Instruction → Option String
  | load _ _ slot => some slot
  | _ => none

/-- The label of the block where a function starts. -/
def Module.start? (module : Module) (name : Name) : Option String :=
  (module.function? name).bind Function.start?

/-- What is promised of the blocks that there are: the slots that hold a value whenever the block is
entered. -/
structure Ledger where
  promised : BlockRef → Option (List String)

namespace Ledger

/-- A later ledger promises the same of the blocks that there were. -/
def Grows (ledger later : Ledger) : Prop :=
  ∀ block names, ledger.promised block = some names → later.promised block = some names

/-- A slot holds a value behind some instructions of a block: that is promised, or one of them
stores to it. -/
def Secures (ledger : Ledger) (block : BlockRef) (before : List Instruction) (slot : String) :
    Prop :=
  (∃ names ∈ ledger.promised block, slot ∈ names) ∨ Stores before slot

/--
What an instruction keeps to behind those before it: the slot that it reads holds a value, and so do
all slots that are promised where it may go.
-/
structure Admits (ledger : Ledger) (block : BlockRef) (before : List Instruction)
    (instruction : Instruction) : Prop where
  loads : ∀ slot ∈ instruction.loaded?, ledger.Secures block before slot
  targets : ∀ target ∈ instruction.targets, ∃ names ∈ ledger.promised ⟨block.function, target⟩,
    ∀ slot ∈ names, ledger.Secures block before slot

/-- Code in which every instruction keeps to a ledger, by which nothing is promised where a function
starts. -/
structure Keeps (ledger : Ledger) (module : Module) : Prop where
  tidy : module.Tidy
  known : ∀ block, ∀ names ∈ ledger.promised block, ∃ body, module.body? block = some body
  admits : ∀ block body, module.body? block = some body → ∀ before instruction after,
    body = before ++ instruction :: after → ledger.Admits block before instruction
  starts : ∀ name label, module.start? name = some label →
    ∀ names ∈ ledger.promised ⟨name, label⟩, names = []

/-- Something is promised of one more block. -/
def promise (ledger : Ledger) (block : BlockRef) (names : List String) : Ledger where
  promised other := if other = block then some names else ledger.promised other

variable {ledger later : Ledger} {block : BlockRef} {before : List Instruction}

/-- A ledger as it is promises what it promises. -/
theorem Grows.refl (ledger : Ledger) : ledger.Grows ledger := fun _ _ => id

/-- What is promised twice is promised. -/
theorem Grows.trans {middle : Ledger} (first : ledger.Grows middle) (second : middle.Grows later) :
    ledger.Grows later :=
  fun block names held => second block names (first block names held)

/-- A slot that holds a value does so by a later ledger, and behind more instructions. -/
theorem Secures.mono (grows : ledger.Grows later) {slot : String}
    (secured : ledger.Secures block before slot) (more : List Instruction) :
    later.Secures block (before ++ more) slot := by
  rcases secured with ⟨names, held, member⟩ | ⟨value, kind, member⟩
  · exact .inl ⟨names, grows block names held, member⟩
  · exact .inr ⟨value, kind, List.mem_append_left _ member⟩

/-- Behind one more instruction a slot holds a value if it did so before, or if the instruction
stores to it. -/
theorem Secures.of_append {instruction : Instruction} {slot : String}
    (secured : ledger.Secures block (before ++ [instruction]) slot) :
    ledger.Secures block before slot ∨ ∃ value kind, instruction = .store value kind slot := by
  -- Promised to the block, stored earlier, or stored by the last instruction.
  rcases secured with promised | ⟨value, kind, member⟩
  · exact .inl (.inl promised)
  · rcases List.mem_append.mp member with old | new
    · exact .inl (.inr ⟨value, kind, old⟩)
    · exact .inr ⟨value, kind, (List.mem_singleton.mp new).symm⟩

/-- An instruction keeps to a later ledger, too. -/
theorem Admits.mono (grows : ledger.Grows later) {instruction : Instruction}
    (admitted : ledger.Admits block before instruction) :
    later.Admits block before instruction where
  loads := fun slot member => by simpa using (admitted.loads slot member).mono grows []
  targets := fun target member => by
    obtain ⟨names, held, secured⟩ := admitted.targets target member
    exact ⟨names, grows _ names held,
      fun slot listed => by simpa using (secured slot listed).mono grows []⟩

/-- One more promise takes back none that was made. -/
theorem grows_promise (names : List String) (fresh : ledger.promised block = none) :
    ledger.Grows (ledger.promise block names) := by
  intro other listed held
  have apart : other ≠ block := fun same => by simp [same, fresh] at held
  simpa only [promise, if_neg apart] using held

end Ledger

/-! Where functions start while code is built on. -/

/-- A change that does not change where its function starts changes no start. -/
theorem Module.start?_inFunction (module : Module) (name : Name)
    {change : Function → String × Function}
    (keeps : ∀ function, (change function).2.name = function.name)
    (starts : ∀ function, (change function).2.start? = function.start?) (other : Name) :
    (module.inFunction name change).2.start? other = module.start? other := by
  simp only [start?, module.function?_inFunction name other change keeps]
  -- Other functions are not touched, and this one starts where it did.
  split
  · rename_i here
    subst here
    cases module.function? other with
    | none => rfl
    | some function => exact starts function
  · rfl

/-- An instruction at the end of a block does not change where a function starts. -/
theorem Function.start?_append (function : Function) (label base : String)
    (make : String → Instruction) :
    (function.append label base make).2.start? = function.start? := by
  simp only [start?, append, updateBlock, List.head?_map]
  -- A changed block keeps its label.
  cases function.blocks.head? with
  | none => rfl
  | some block =>
    simp only [Option.map_some]
    split <;> rfl

/-- A slot in front does not change where a function starts. -/
theorem Function.start?_addSlot (function : Function) (base : String) (kind : ValueKind) :
    (function.addSlot base kind).2.start? = function.start? := by
  simp only [start?, addSlot]
  cases function.blocks <;> rfl

/-- A new block is where its function starts if it is the first one. -/
theorem Module.start?_addBlock (module : Module) {owner : Name} {function : Function}
    (found : module.function? owner = some function) (base : String) (other : Name) :
    (module.addBlock owner base).2.start? other =
      if other = owner then some (function.start?.getD (module.addBlock owner base).1)
        else module.start? other := by
  simp only [start?, addBlock,
    module.function?_inFunction owner other (fun function => function.addBlock base) fun _ => rfl]
  split
  · rw [found, inFunction_fresh found]
    -- The new block is the first one only if there was none.
    cases blocks : function.blocks <;> simp [Function.start?, Function.addBlock, blocks]
  · rfl

/-- Behind a store at its end a block stores to the slot. -/
theorem Module.stores_append (module : Module) {block : BlockRef} {value : Operand}
    {kind : ValueKind} {slot : String} {body : List Instruction}
    (stands : (module.append block "" fun _ => .store value kind slot).2.body? block = some body) :
    Stores body slot := by
  rw [module.body?_append block "" ⟨fun _ => rfl, fun _ => .inl rfl⟩ block, if_pos rfl] at stands
  obtain ⟨before, _, rfl⟩ := Option.map_eq_some_iff.mp stands
  exact ⟨value, kind, List.mem_append_right _ List.mem_cons_self⟩

namespace Ledger

variable {ledger : Ledger} {module : Module}

/-- Code still keeps to a ledger when an instruction is appended that does so behind what stands
there. -/
theorem Keeps.append (keeps : ledger.Keeps module) {block : BlockRef} {base : String}
    {make : String → Instruction} (plain : Function.IsPlain make)
    (admitted : ∀ body name, module.body? block = some body →
      ledger.Admits block body (make name)) :
    ledger.Keeps (module.append block base make).2 where
  tidy := keeps.tidy.append block base plain
  known := fun other names held => by
    -- Blocks only get longer, so the ones that something is promised of are still there.
    obtain ⟨body, found⟩ := keeps.known other names held
    obtain ⟨more, kept⟩ := (module.append_grows block base plain).body? found
    exact ⟨_, kept⟩
  admits := by
    intro other body found before instruction after split
    rw [module.body?_append block base plain] at found
    by_cases here : other = block
    · rw [if_pos here] at found
      subst here
      obtain ⟨old, stood, rfl⟩ := Option.map_eq_some_iff.mp found
      rcases List.eq_nil_or_concat after with rfl | ⟨shorter, last, rfl⟩
      -- The instruction looked at is the new one.
      · obtain ⟨rfl, same⟩ := List.append_inj' split rfl
        cases same
        exact admitted old _ stood
      -- An instruction that was there stands behind what it stood behind.
      · have parts : old ++ [make (module.append other base make).1] =
            (before ++ instruction :: shorter) ++ [last] := by
          simpa using split
        exact keeps.admits other old stood before instruction shorter (List.append_inj' parts rfl).1
    · rw [if_neg here] at found
      exact keeps.admits other body found before instruction after split
  starts := fun name label starts => keeps.starts name label (by
    rwa [Module.append, module.start?_inFunction block.function (fun _ => rfl)
      fun function => function.start?_append block.label base make] at starts)

/-- Code still keeps to a ledger when a slot is reserved: nothing is said of it yet. -/
theorem Keeps.addSlot (keeps : ledger.Keeps module) (owner : Name) (base : String)
    (kind : ValueKind) :
    ledger.Keeps (module.addSlot owner base kind).2 where
  tidy := keeps.tidy.addSlot base kind owner
  known := fun block names held => by
    rw [Module.body?_addSlot]
    exact keeps.known block names held
  admits := fun block body found => keeps.admits block body (by rwa [Module.body?_addSlot] at found)
  starts := fun name label starts => keeps.starts name label (by
    rwa [Module.addSlot, module.start?_inFunction owner (fun _ => rfl)
      fun function => function.start?_addSlot base kind] at starts)

/-- Anything may be promised of a new block, unless its function starts there. -/
theorem Keeps.addBlock (keeps : ledger.Keeps module) {owner : Name} {function : Function}
    (found : module.function? owner = some function) (base : String) (names : List String)
    (later : names = [] ∨ function.blocks ≠ []) :
    ledger.Grows (ledger.promise ⟨owner, (module.addBlock owner base).1⟩ names) ∧
      (ledger.promise ⟨owner, (module.addBlock owner base).1⟩ names).Keeps
        (module.addBlock owner base).2 := by
  have absent := keeps.tidy.addBlock_fresh base owner
  -- What is promised is promised of blocks that there are, and the new one was not there.
  have fresh : ledger.promised ⟨owner, (module.addBlock owner base).1⟩ = none := by
    cases held : ledger.promised ⟨owner, (module.addBlock owner base).1⟩ with
    | none => rfl
    | some names =>
      obtain ⟨body, stands⟩ := keeps.known _ names held
      rw [absent] at stands
      cases stands
  have grows := grows_promise names fresh
  have bodies := keeps.tidy.body?_addBlock base found
  refine ⟨grows, keeps.tidy.addBlock base owner, fun block listed held => ?_,
    fun block body stands before instruction after split => ?_,
      fun name label starts listed held => ?_⟩
  · rw [bodies]
    by_cases here : block = ⟨owner, (module.addBlock owner base).1⟩
    · exact ⟨[], if_pos here⟩
    · rw [if_neg here]
      exact keeps.known block listed (by simpa only [promise, if_neg here] using held)
  · rw [bodies] at stands
    by_cases here : block = ⟨owner, (module.addBlock owner base).1⟩
    -- Nothing stands in the new block.
    · rw [if_pos here] at stands
      cases stands
      simp at split
    · rw [if_neg here] at stands
      exact (keeps.admits block body stands before instruction after split).mono grows
  · rw [module.start?_addBlock found] at starts
    by_cases here : (⟨name, label⟩ : BlockRef) = ⟨owner, (module.addBlock owner base).1⟩
    -- A function with blocks starts in one that was there already.
    · obtain ⟨rfl, rfl⟩ : name = owner ∧ label = (module.addBlock owner base).1 := by
        simpa using here
      obtain rfl : names = listed := by simpa [promise] using held
      refine later.resolve_right fun started => ?_
      obtain ⟨entry, rest, blocks⟩ := List.exists_cons_of_ne_nil started
      have member : entry ∈ function.blocks := by simp [blocks]
      have stands := keeps.tidy.body?_eq (Module.function?_mem found) member
      have labelled : entry.label = (module.addBlock name base).1 := by
        simpa [Function.start?, blocks] using starts
      rw [Module.function?_name found, labelled, absent] at stands
      cases stands
    · have kept : listed ∈ ledger.promised ⟨name, label⟩ := by
        simpa only [promise, if_neg here] using held
      refine keeps.starts name label ?_ listed kept
      split at starts
      · rename_i owns
        subst owns
        -- Only a function without blocks starts in the new one.
        cases first : function.start? with
        | none => exact absurd (by simpa [first] using starts.symm) here
        | some entry => simpa [Module.start?, found, first] using starts
      · exact starts

/-- Nothing is promised of the block in which a function starts. -/
theorem Keeps.starts_bare (keeps : ledger.Keeps module) {function : Function}
    (inside : function ∈ module.functions) {block : Block}
    (first : function.blocks.head? = some block) {names : List String}
    (promised : ledger.promised ⟨function.name, block.label⟩ = some names) : names = [] := by
  refine keeps.starts function.name block.label ?_ names promised
  simp [Module.start?, keeps.tidy.function?_eq inside, Function.start?, first]

/-- Code still keeps to a ledger when a function without blocks is added. -/
theorem Keeps.addFunction (keeps : ledger.Keeps module) (base : Name)
    (parameters : List (String × ValueKind)) (result : ExactKind) :
    ledger.Keeps (module.addFunction base parameters result).2 where
  tidy := keeps.tidy.addFunction base parameters result
  -- A new function has no blocks, so all bodies are those from before.
  known := fun block names held => by
    rw [keeps.tidy.body?_addFunction]
    exact keeps.known block names held
  admits := fun block body found =>
    keeps.admits block body (by rwa [keeps.tidy.body?_addFunction] at found)
  starts := fun name label starts => by
    rw [Module.start?, keeps.tidy.function?_addFunction] at starts
    split at starts
    -- The new function starts nowhere yet.
    · cases starts
    · exact keeps.starts name label starts

/-- Nothing need be promised where there is no code. -/
theorem Keeps.empty : (⟨fun _ => none⟩ : Ledger).Keeps .empty where
  tidy := .empty
  known := nofun
  admits := fun block body found => by cases found
  starts := nofun

end Ledger

end LoopLang.Code
