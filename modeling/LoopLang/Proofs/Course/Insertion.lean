import LoopLang.Proofs.Course.Passage
import Mathlib.Data.List.Nodup

/-!
Emission by an index into the current block: instructions are inserted behind as many others as
there were when the index was set. Every act that may be performed leaves the index at the end of
the block, so that inserting there comes to appending.
-/

namespace LoopLang

open Code (Instruction Module Name)

/-- A place for an instruction: behind so many others of its block. -/
structure Anchor where
  block : BlockRef
  index : Nat
  deriving DecidableEq, Repr

namespace Code

namespace Function

/-- Puts an instruction at an index of a block, under a fresh name made from the wanted one. -/
def insert (function : Function) (label base : String) (index : Nat) (make : String → Instruction) :
    String × Function :=
  let (name, names) := function.names.register base
  let put := fun (block : Block) =>
    { block with instructions := block.instructions.take index ++ make name ::
      block.instructions.drop index }
  (name, { function.updateBlock label put with names })

/-- Behind all instructions of a block one is inserted as it is appended. -/
theorem insert_length {function : Function} (labels : (function.blocks.map (·.label)).Nodup)
    {label base : String} {block : Block} (found : function.block? label = some block)
    (make : String → Instruction) :
    function.insert label base block.instructions.length make =
      function.append label base make := by
  have same : ∀ other ∈ function.blocks, other.label = label → other = block := by
    intro other member here
    have standing := block?_mem found
    exact List.inj_on_of_nodup_map labels member standing (here.trans (block?_label found).symm)
  unfold insert append updateBlock
  simp only [Prod.mk.injEq, Function.mk.injEq, true_and, and_true]
  -- Only the block itself has the label, so that all other blocks are as they were in both.
  refine List.map_congr_left fun other member => ?_
  split
  · rename_i here
    rw [same other member here, List.take_length, List.drop_length]
  · rfl

/-- A new block takes the place of no other one. -/
theorem block?_addBlock {function : Function} {base label : String} {block : Block}
    (found : function.block? label = some block) :
    (function.addBlock base).2.block? label = some block := by
  unfold block? at found
  simp [addBlock, block?, List.find?_append, found]

/-- Slots are put in front of the first block only. -/
theorem block?_addSlot {function : Function} {base label : String} {kind : ValueKind}
    (apart : function.start? ≠ some label) :
    (function.addSlot base kind).2.block? label = function.block? label := by
  cases blocks : function.blocks with
  | nil => simp [addSlot, block?, blocks]
  | cons first rest =>
    -- The slot goes into the first block, which has another label.
    have other : first.label ≠ label := by simpa [start?, blocks] using apart
    simp [addSlot, block?, blocks, other]

end Function

namespace Module

/-- The block that a reference stands for. -/
def block? (module : Module) (block : BlockRef) : Option Block :=
  (module.function? block.function).bind (·.block? block.label)

/-- The number of instructions of a block. -/
def size (module : Module) (block : BlockRef) : Nat :=
  ((module.block? block).map (·.instructions.length)).getD 0

/-- The first block of a function. -/
def opening? (module : Module) (owner : Name) : Option BlockRef :=
  ((module.function? owner).bind (·.start?)).map (⟨owner, ·⟩)

/-- The end of a block. -/
def tip (module : Module) (block : BlockRef) : Anchor := ⟨block, module.size block⟩

/-- Puts an instruction at a place, under a fresh name made from the wanted one. -/
def insert (module : Module) (place : Anchor) (base : String) (make : String → Instruction) :
    String × Module :=
  module.inFunction place.block.function fun function =>
    function.insert place.block.label base place.index make

variable {module : Module} {block : BlockRef}

/-- Changes of a function that make the same of the one that there is come to the same. -/
theorem inFunction_congr (tidy : module.Tidy) {name : Name} {function : Function}
    (found : module.function? name = some function) {change other : Function → String × Function}
    (same : change function = other function) :
    module.inFunction name change = module.inFunction name other := by
  unfold inFunction updateFunction
  rw [found]
  simp only [Option.map_some, Option.getD_some, same, Prod.mk.injEq, Module.mk.injEq,
    true_and, and_true]
  refine List.map_congr_left fun standing member => ?_
  split
  · rename_i here
    -- No other function has its name.
    have first := tidy.function?_eq member
    rw [here, found] at first
    rw [← Option.some.inj first, same]
  · rfl

/-- At the end of a block an instruction is inserted as it is appended. -/
theorem insert_tip (tidy : module.Tidy) {standing : Block}
    (found : module.block? block = some standing) (base : String) (make : String → Instruction) :
    module.insert (module.tip block) base make = module.append block base make := by
  obtain ⟨function, owner, inside⟩ := Option.bind_eq_some_iff.mp found
  -- The index at the end of a block is the number of its instructions.
  have size : module.size block = standing.instructions.length := by rw [Module.size, found]; rfl
  refine inFunction_congr tidy owner ?_
  show function.insert block.label base (module.size block) make = _
  rw [size]
  exact Function.insert_length (tidy.functions function (function?_mem owner)).labels inside make

/-- What a change of one function makes of its blocks. -/
theorem block?_inFunction (name : Name) {change : Function → String × Function}
    (keeps : ∀ function, (change function).2.name = function.name) :
    (module.inFunction name change).2.block? block =
      if block.function = name then (module.function? name).bind fun function =>
        (change function).2.block? block.label
      else module.block? block := by
  unfold block?
  rw [function?_inFunction module name block.function change keeps]
  split
  · cases module.function? name <;> rfl
  · rfl

/-- A block with a body is there. -/
theorem block?_of_body? {body : List Instruction}
    (found : module.body? block = some body) : ∃ standing, module.block? block = some standing := by
  obtain ⟨function, owner, inside⟩ := Option.bind_eq_some_iff.mp found
  obtain ⟨standing, held, -⟩ := Option.map_eq_some_iff.mp inside
  exact ⟨standing, by simp [block?, owner, held]⟩

/-- A block that an instruction is emitted into is longer by that instruction. -/
theorem size_append {base : String} {make : String → Instruction} {standing : Block}
    (found : module.block? block = some standing) :
    (module.append block base make).2.size block = module.size block + 1 := by
  obtain ⟨function, owner, inside⟩ := Option.bind_eq_some_iff.mp found
  let add := fun (block : Block) =>
    { block with instructions := block.instructions ++ [make (function.names.register base).1] }
  -- The block is found with one instruction more.
  have longer : (module.append block base make).2.block? block = some (add standing) := by
    rw [append, block?_inFunction block.function fun _ => rfl, if_pos rfl, owner]
    show (function.updateBlock block.label add).block? block.label = _
    rw [Function.block?_updateBlock function block.label block.label add fun _ => rfl,
      if_pos rfl, inside]
    rfl
  simp [size, longer, found, add]

/-- Blocks that are there keep their size where a block is added. -/
theorem size_addBlock {owner : Name} {base : String} {standing : Block}
    (found : module.block? block = some standing) :
    (module.addBlock owner base).2.size block = module.size block := by
  -- A new block stands behind all others, and does not hide the one looked for.
  have same : (module.addBlock owner base).2.block? block = module.block? block := by
    rw [addBlock, block?_inFunction owner fun _ => rfl]
    split
    · rename_i here
      obtain ⟨function, at_, inside⟩ := Option.bind_eq_some_iff.mp found
      rw [← here, at_, found]
      exact Function.block?_addBlock inside
    · rfl
  rw [size, size, same]

/-- And where a function is. -/
theorem size_addFunction {base : Name} {parameters : List (String × ValueKind)}
    {result : ExactKind} {standing : Block} (found : module.block? block = some standing) :
    (module.addFunction base parameters result).2.size block = module.size block := by
  -- The new function stands behind those that are there, so a block that was found is still found.
  have same : (module.addFunction base parameters result).2.block? block = module.block? block := by
    obtain ⟨function, at_, inside⟩ := Option.bind_eq_some_iff.mp found
    have kept : (module.addFunction base parameters result).2.function? block.function =
        some function := by
      unfold function? at at_
      simp [addFunction, function?, List.find?_append, at_]
    rw [block?, kept, block?, at_]
  rw [size, size, same]

/-- Where a slot is reserved all blocks but the first one of its function keep their size. -/
theorem size_addSlot {owner : Name} {base : String} {kind : ValueKind}
    (apart : module.opening? owner ≠ some block) :
    (module.addSlot owner base kind).2.size block = module.size block := by
  -- Only the opening block of the function gets a slot.
  have same : (module.addSlot owner base kind).2.block? block = module.block? block := by
    rw [addSlot, block?_inFunction owner fun _ => rfl]
    split
    · rename_i here
      subst here
      unfold block?
      cases found : module.function? block.function with
      | none => rfl
      | some function =>
        refine Function.block?_addSlot fun first => apart ?_
        simp [opening?, found, first]
    · rfl
  rw [size, size, same]

end Module

end Code

/-- A builder that inserts by an index: its place is none before it has been put anywhere. -/
structure Inserter where
  builder : Builder
  place? : Option Anchor

/-- Instructions are inserted at the end of the current block. -/
def Builder.InsertsAt (builder : Builder) (place? : Option Anchor) : Prop :=
  ∀ block, builder.block? = some block → place? = some (builder.code.tip block)

namespace Inserter

/--
What an act does where instructions are inserted by an index. The index goes up by one with each of
them, and it is set to the end of a block that emission goes to. A slot moves everything in the
first block of its function, so that the index is set again there.
-/
def perform (inserter : Inserter) (act : Act) : Inserter :=
  let ⟨builder, place?⟩ := inserter
  let behind := act.perform builder
  match act with
  | .emit base make =>
    match place? with
    | some place =>
      ⟨{ builder with code := (builder.code.insert place base make).2 },
        some { place with index := place.index + 1 }⟩
    | none => inserter
  -- A slot in front of the block would leave the index one too small, so it is put to the end
  -- again.
  | .reserve .. =>
    ⟨behind, place?.map fun place =>
      if builder.scopes.function?.bind builder.code.opening? = some place.block
        then behind.code.tip place.block
      else place⟩
  -- A frame with a block moves the place there, one without leaves it.
  | .push block _ => ⟨behind, block.map builder.code.tip <|> place?⟩
  | .moveTo block =>
    ⟨behind, if (builder.scopes.moveTo block).isOk then some (builder.code.tip block) else place?⟩
  -- Behind a frame the place goes back to the end of the block around it.
  | .pop =>
    match builder.scopes.pop with
    | .ok scopes => ⟨behind, (scopes.current?.bind (·.block)).map builder.code.tip <|> place?⟩
    | .error _ => ⟨behind, place?⟩
  | .addBlock .. | .addFunction .. | .count | .note _ | .declare .. | .statement _
  | .statements _ => ⟨behind, place?⟩

/-- What some acts do, one after the other. -/
def performAll (inserter : Inserter) (acts : List Act) : Inserter := acts.foldl perform inserter

end Inserter

namespace Act

variable {builder : Builder} {place? : Option Anchor}

/-- What is emitted leaves the open frames as they are. -/
theorem emit_scopes (base : String) (make : String → Instruction) :
    ((emit base make).perform builder).scopes = builder.scopes := by
  simp only [perform]
  split <;> rfl

/-- And so does a slot. -/
theorem reserve_scopes (base : String) (kind : ValueKind) :
    ((reserve base kind).perform builder).scopes = builder.scopes := by
  simp only [perform]
  split <;> rfl

/--
Inserting by the index does what the acts say, and leaves the index at the end of the current block,
if it was there and if the act may be performed.
-/
theorem insert_refines {act : Act} (proper : act.Proper builder)
    (inserts : builder.InsertsAt place?) :
    (Inserter.perform ⟨builder, place?⟩ act).builder = act.perform builder ∧
      (act.perform builder).InsertsAt (Inserter.perform ⟨builder, place?⟩ act).place? := by
  have sound := proper.sound
  -- What is there of the current block.
  have standing : ∀ block, builder.block? = some block → ∃ found,
      builder.code.block? block = some found := by
    intro block current
    obtain ⟨body, found⟩ := sound.body? current
    exact Module.block?_of_body? found
  cases act with
  | emit base make =>
    -- Something is emitted where a block is current only, at whose end the index is.
    obtain ⟨here, current, -⟩ := proper.ready trivial
    obtain ⟨found, held⟩ := standing here current
    have cursor := sound.aligned here current
    have same : Inserter.perform ⟨builder, place?⟩ (.emit base make) =
        ⟨(emit base make).perform builder,
          some { builder.code.tip here with index := builder.code.size here + 1 }⟩ := by
      simp only [Inserter.perform, perform, inserts here current, cursor,
        Module.insert_tip sound.tidy held]
      rfl
    rw [same]
    refine ⟨rfl, fun block now => ?_⟩
    rw [Builder.block?, emit_scopes] at now
    cases current.symm.trans now
    simp only [perform, cursor, Module.tip, Module.size_append held]
  | reserve base kind =>
    refine ⟨rfl, fun block current => ?_⟩
    have current : builder.block? = some block := by
      rwa [Builder.block?, reserve_scopes] at current
    simp only [Inserter.perform, inserts block current, Option.map_some, Module.tip]
    -- In the first block the index is set again; any other block is as long as before.
    split
    · rfl
    · rename_i elsewhere
      simp only [perform]
      split
      · rename_i owner here
        rw [here] at elsewhere
        rw [Module.size_addSlot elsewhere]
      · rfl
  | addBlock owner base =>
    refine ⟨rfl, fun block current => ?_⟩
    obtain ⟨found, held⟩ := standing block current
    simp only [Inserter.perform, perform, inserts block current, Module.tip,
      Module.size_addBlock held]
  | addFunction base parameters result =>
    refine ⟨rfl, fun block current => ?_⟩
    obtain ⟨found, held⟩ := standing block current
    simp only [Inserter.perform, perform, inserts block current, Module.tip,
      Module.size_addFunction held]
  | moveTo block =>
    refine ⟨rfl, fun other current => ?_⟩
    -- Without a frame there is nothing to move, and no current block either.
    cases frames : builder.scopes.frames with
    | nil =>
      simp [perform, settle, Scopes.moveTo, frames, Builder.block?, Scopes.current?] at current
    | cons frame outer =>
      simp only [perform, settle, Scopes.moveTo, frames] at current
      cases current
      simp [perform, settle, Inserter.perform, Scopes.moveTo, frames, Except.isOk, Except.toBool]
  | declare name binding =>
    refine ⟨rfl, fun block current => ?_⟩
    cases declared : builder.scopes.declare name binding with
    | error _ =>
      simp only [Inserter.perform, perform, settle, declared] at current ⊢
      exact inserts block current
    | ok scopes =>
      obtain ⟨frame, outer, opened, _, _, frames⟩ := Builder.declare_ok declared
      simp only [Inserter.perform, perform, settle, declared] at current ⊢
      refine inserts block (Eq.trans ?_ current)
      simp [Builder.block?, Scopes.current?, opened, frames]
  | push block options =>
    refine ⟨rfl, fun other current => ?_⟩
    -- A frame without a block has none that is current.
    cases block <;> cases current
    rfl
  | pop =>
    -- What is current behind it is the frame below, to whose block emission goes back.
    cases popped : builder.scopes.pop with
    | error _ =>
      simp only [Inserter.perform, perform, settle, popped]
      exact ⟨trivial, inserts⟩
    | ok scopes =>
      simp only [Inserter.perform, perform, settle, popped]
      refine ⟨trivial, fun block current => ?_⟩
      obtain ⟨frame, innermost, here⟩ := Option.bind_eq_some_iff.mp current
      have there : scopes.current? = some frame := innermost
      simp [there, here]
  | count | note _ | statement _ | statements _ => exact ⟨rfl, inserts⟩

/-- So it does for all acts of a compilation, one after the other. -/
theorem insertAll_refines {acts : List Act} (proper : AllProper builder acts)
    (inserts : builder.InsertsAt place?) :
    (Inserter.performAll ⟨builder, place?⟩ acts).builder = performAll builder acts ∧
      (performAll builder acts).InsertsAt (Inserter.performAll ⟨builder, place?⟩ acts).place? := by
  induction acts generalizing builder place? with
  | nil => exact ⟨rfl, inserts⟩
  | cons act rest ih =>
    -- That the act may be performed is known, so it need not be shown again here.
    obtain ⟨same, further⟩ := insert_refines (proper builder act .here) inserts
    obtain ⟨later, moved, step⟩ : ∃ later moved,
      Inserter.perform ⟨builder, place?⟩ act = ⟨later, moved⟩ :=
        ⟨_, _, rfl⟩
    rw [step] at same further
    subst same
    simp only [Inserter.performAll, List.foldl_cons, step]
    exact ih (fun moment next meets => proper moment next (.later meets)) further

end Act

end LoopLang
