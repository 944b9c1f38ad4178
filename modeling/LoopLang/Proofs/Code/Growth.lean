import LoopLang.Proofs.Code.Lookup

/-! Growth of code: a function or module only gets more, under names of their own, and loses
nothing. -/

namespace LoopLang.Code

namespace Function

/-- What a function had is still there later, at the same places. -/
structure Grows (function later : Function) : Prop where
  name : later.name = function.name
  parameters : later.parameters = function.parameters
  result : later.result = function.result
  used : ∀ name ∈ function.names.used, name ∈ later.names.used
  start : ∀ label, function.start? = some label → later.start? = some label
  slots : ∀ slot ∈ function.slots, slot ∈ later.slots
  bodies : ∀ label body, function.body? label = some body → ∃ more,
    later.body? label = some (body ++ more)

/-- A function as it is has lost nothing. -/
theorem Grows.refl (function : Function) : function.Grows function where
  name := rfl
  parameters := rfl
  result := rfl
  used := fun _ member => member
  start := fun _ found => found
  slots := fun _ member => member
  bodies := fun _ body found => ⟨[], by simpa using found⟩

/-- What is kept twice is kept. -/
theorem Grows.trans {function middle later : Function} (first : function.Grows middle)
    (second : middle.Grows later) : function.Grows later where
  name := second.name.trans first.name
  parameters := second.parameters.trans first.parameters
  result := second.result.trans first.result
  used := fun name member => second.used name (first.used name member)
  start := fun label found => second.start label (first.start label found)
  slots := fun slot member => second.slots slot (first.slots slot member)
  bodies := fun label body found => by
    -- What the second step adds to a body stands behind what the first one has added.
    obtain ⟨more, held⟩ := first.bodies label body found
    obtain ⟨rest, kept⟩ := second.bodies label _ held
    exact ⟨more ++ rest, by rw [kept, List.append_assoc]⟩

/-- Slots in front, and names that are all different and all taken. -/
structure Tidy (function : Function) : Prop where
  slotsInFront : function.SlotsInFront
  distinct : function.definedNames.Nodup
  used : ∀ name ∈ function.definedNames, Name.text name ∈ function.names.used

/-- A name that was free is not defined in a tidy function. -/
theorem Tidy.register_not_mem {function : Function} (tidy : function.Tidy) (base : String) :
    (function.names.register base).1 ∉ function.definedNames :=
  fun member => function.names.register_fresh base (tidy.used _ member)

/-- A label that was free belongs to no block of a tidy function. -/
theorem Tidy.body?_register {function : Function} (tidy : function.Tidy) (base : String) :
    function.body? (function.names.register base).1 = none := by
  cases found : function.block? (function.names.register base).1 with
  | none => simp [body?, found]
  | some block =>
    -- The label of a block is a name in use, and the register gives a fresh one.
    have member := label_mem_definedNames (block?_mem found)
    rw [block?_label found] at member
    exact absurd member (tidy.register_not_mem base)

/-- Tidiness when the names that are defined only grow by one that was free. -/
theorem Tidy.of_perm {function later : Function} {base : String} (tidy : function.Tidy)
    (slotsInFront : later.SlotsInFront)
    (names : later.names = (function.names.register base).2)
    (defined : later.definedNames.Perm function.definedNames ∨
      later.definedNames.Perm ((function.names.register base).1 :: function.definedNames)) :
    later.Tidy := by
  -- Names in use stay so, whatever has been registered.
  have kept : ∀ name ∈ function.definedNames, Name.text name ∈ later.names.used := by
    intro name member
    rw [names, Names.register_used]
    exact List.mem_cons_of_mem _ (tidy.used name member)
  rcases defined with same | more
  · exact ⟨slotsInFront, same.nodup_iff.mpr tidy.distinct,
      fun name member => kept name (same.mem_iff.mp member)⟩
  -- A registered name is not among those defined before.
  · refine ⟨slotsInFront, more.nodup_iff.mpr ?_, fun name member => ?_⟩
    · exact List.nodup_cons.mpr ⟨tidy.register_not_mem base, tidy.distinct⟩
    · rcases List.mem_cons.mp (more.mem_iff.mp member) with new | old
      · rw [names, Names.register_used, new]
        exact List.mem_cons_self
      · exact kept name old

/-- The labels of a tidy function's blocks are all different. -/
theorem Tidy.labels {function : Function} (tidy : function.Tidy) :
    (function.blocks.map Block.label).Nodup := by
  have inner : (function.blocks.flatMap Block.definedNames).Nodup :=
    (List.nodup_append.mp tidy.distinct).2.1
  refine List.Nodup.sublist ?_ inner
  -- Every block defines its label first.
  induction function.blocks with
  | nil => exact List.Sublist.refl _
  | cons block rest ih =>
    simp only [List.map_cons, List.flatMap_cons, Block.definedNames, List.cons_append]
    exact (ih.trans (List.sublist_append_right _ _)).cons_cons _

/-- How an instruction made under a fresh name may use it: it defines that name or none, and
reserves no slot. -/
structure IsPlain (make : String → Instruction) : Prop where
  reserved : ∀ name, (make name).reserved? = none
  defined : ∀ name, (make name).defined? = none ∨ (make name).defined? = some name

/-- Appending to one block adds the new name to those that the blocks define. -/
theorem definedNames_update_perm {label : String} (extra : List String) (change : Block → Block)
    (adds : ∀ block, (change block).definedNames = block.definedNames ++ extra)
    {blocks : List Block} (distinct : (blocks.map Block.label).Nodup)
    (present : ∃ block ∈ blocks, block.label = label) :
    ((blocks.map fun block => if block.label = label then change block else block).flatMap
      Block.definedNames).Perm (extra ++ blocks.flatMap Block.definedNames) := by
  -- Labels are apart, so at most one block is changed: this one or a later one.
  induction blocks with
  | nil => simp at present
  | cons block rest ih =>
    obtain ⟨outside, distinct⟩ := List.nodup_cons.mp distinct
    by_cases here : block.label = label
    -- No later block has this label, so the rest stays as it is.
    · have unchanged : (rest.map fun block => if block.label = label then change block
          else block) = rest := by
        refine (List.map_congr_left fun other member => ?_).trans (List.map_id rest)
        have apart : other.label ≠ label := fun same =>
          outside (List.mem_map.mpr ⟨other, member, same.trans here.symm⟩)
        simp [apart]
      simp only [List.map_cons, if_pos here, unchanged, List.flatMap_cons, adds, List.append_assoc]
      exact List.perm_append_comm_assoc ..
    -- The block is among the rest, and its new names are moved to the front of all.
    · obtain ⟨other, member, named⟩ := present
      have later : ∃ other ∈ rest, other.label = label := by
        rcases List.mem_cons.mp member with same | member
        · exact absurd (same ▸ named) here
        · exact ⟨other, member, named⟩
      simp only [List.map_cons, if_neg here, List.flatMap_cons]
      exact ((ih distinct later).append_left _).trans (List.perm_append_comm_assoc ..)

/-- Appending an instruction that reserves nothing keeps slots in front. -/
theorem SlotsInFront.append {function : Function} (front : function.SlotsInFront)
    (label base : String) {make : String → Instruction} (plain : IsPlain make) :
    (function.append label base make).2.SlotsInFront := by
  -- The new instruction only ever joins the part of a block that reserves nothing.
  have none_reserved : ∀ block : Block,
      (∀ instruction ∈ block.instructions, instruction.reserved? = none) →
      ∀ instruction ∈ (if block.label = label then
          { block with instructions :=
            block.instructions ++ [make (function.names.register base).1] }
        else block).instructions, instruction.reserved? = none := by
    intro block held instruction member
    split at member
    · rcases List.mem_append.mp member with old | new
      · exact held instruction old
      · rw [List.mem_singleton.mp new]
        exact plain.reserved _
    · exact held instruction member
  -- The first block has its slots in front, and the others have none.
  cases blocks : function.blocks with
  | nil => simp [SlotsInFront, Function.append, updateBlock, blocks]
  | cons entry rest =>
    simp only [SlotsInFront, blocks] at front
    simp only [SlotsInFront, Function.append, updateBlock, blocks, List.map_cons]
    obtain ⟨⟨slots, body, split, reserve, others⟩, later⟩ := front
    refine ⟨⟨slots, ?_⟩, ?_⟩
    · by_cases here : entry.label = label
      · refine ⟨body ++ [make (function.names.register base).1], by simp [here, split], reserve, ?_⟩
        intro instruction member
        rcases List.mem_append.mp member with old | new
        · exact others instruction old
        · rw [List.mem_singleton.mp new]
          exact plain.reserved _
      · exact ⟨body, by simp [here, split], reserve, others⟩
    -- In the other blocks nothing is reserved, before and behind.
    · intro block member
      obtain ⟨old, held, rfl⟩ := List.mem_map.mp member
      exact none_reserved old (later old held)

/-- Appending an instruction loses nothing. -/
theorem append_grows (function : Function) (label base : String) {make : String → Instruction}
    (plain : IsPlain make) : function.Grows (function.append label base make).2 where
  name := rfl
  parameters := rfl
  result := rfl
  used := fun name member => by
    show name ∈ (function.names.register base).2.used
    rw [Names.register_used]
    exact List.mem_cons_of_mem _ member
  start := fun start found => by
    -- The first block keeps its label, also when it is the one that is extended.
    cases blocks : function.blocks with
    | nil => simp [start?, blocks] at found
    | cons entry rest =>
      have entered : entry.label = start := by simpa [start?, blocks] using found
      simp only [start?, append, updateBlock, blocks, List.map_cons, List.head?_cons,
        Option.map_some]
      split <;> simpa using entered
  slots := fun slot member => by rwa [slots_append function label base plain.reserved]
  bodies := fun other body found => by
    rw [body?_append function label base other plain.reserved]
    split
    -- The block at hand gets one instruction more, any other one nothing.
    · rename_i here
      rw [← here, found]
      exact ⟨_, rfl⟩
    · exact ⟨[], by simpa using found⟩

/-- Appending an instruction keeps a function tidy. -/
theorem Tidy.append {function : Function} (tidy : function.Tidy) (label base : String)
    {make : String → Instruction} (plain : IsPlain make) :
    (function.append label base make).2.Tidy := by
  -- How the block with that label changes.
  let add := fun (block : Block) =>
    { block with instructions := block.instructions ++ [make (function.names.register base).1] }
  have slotsInFront := tidy.slotsInFront.append label base plain
  by_cases present : ∃ block ∈ function.blocks, block.label = label
  · have adds : ∀ block : Block, (add block).definedNames =
        block.definedNames ++ (make (function.names.register base).1).defined?.toList := by
      intro block
      simp only [add, Block.definedNames, List.filterMap_append, List.cons_append]
      rcases plain.defined (function.names.register base).1 with nothing | own
      · simp [nothing]
      · simp [own]
    -- The defined names of the function change as those of the one block do.
    have blocks := definedNames_update_perm _ add adds tidy.labels present
    have defined : (function.append label base make).2.definedNames.Perm
        ((make (function.names.register base).1).defined?.toList ++ function.definedNames) :=
      (blocks.append_left _).trans (List.perm_append_comm_assoc ..)
    refine tidy.of_perm slotsInFront rfl ?_
    -- An instruction defines the name registered for it or none at all.
    rcases plain.defined (function.names.register base).1 with nothing | own
    · exact .inl (by simpa [nothing] using defined)
    · exact .inr (by simpa [own] using defined)
  -- Without a block of that label nothing changes but the names in use.
  · have unchanged : (function.append label base make).2.blocks = function.blocks := by
      refine (List.map_congr_left fun block member => ?_).trans (List.map_id function.blocks)
      have apart : block.label ≠ label := fun same => present ⟨block, member, same⟩
      simp [apart]
    refine tidy.of_perm slotsInFront rfl (.inl ?_)
    show (function.parameters.map Prod.fst ++
      (function.append label base make).2.blocks.flatMap Block.definedNames).Perm _
    rw [unchanged]
    exact List.Perm.refl _

/-- Reserving a slot loses nothing. -/
theorem addSlot_grows (function : Function) (base : String) (kind : ValueKind) :
    function.Grows (function.addSlot base kind).2 where
  name := rfl
  parameters := rfl
  result := rfl
  used := fun name member => by
    show name ∈ (function.names.register base).2.used
    rw [Names.register_used]
    exact List.mem_cons_of_mem _ member
  start := fun start found => by
    cases blocks : function.blocks with
    | nil => simp [start?, blocks] at found
    | cons entry rest => simpa [start?, addSlot, blocks] using found
  slots := fun slot member => by
    cases blocks : function.blocks with
    -- Without blocks there is no slot that could be lost.
    | nil => simp [Function.slots, blocks] at member
    | cons entry rest =>
      rw [slots_addSlot function base kind (by simp [blocks])]
      exact List.mem_cons_of_mem _ member
  bodies := fun label body found => ⟨[], by rw [body?_addSlot, found, List.append_nil]⟩

/-- Reserving a slot keeps a function tidy. -/
theorem Tidy.addSlot {function : Function} (tidy : function.Tidy) (base : String)
    (kind : ValueKind) :
    (function.addSlot base kind).2.Tidy := by
  cases blocks : function.blocks with
  -- Without an entry block no slot is added, only a name is registered.
  | nil =>
    refine tidy.of_perm (by simp [SlotsInFront, Function.addSlot, blocks]) rfl (.inl ?_)
    simp [definedNames, Function.addSlot, blocks]
  | cons entry rest =>
    have front := tidy.slotsInFront
    simp only [SlotsInFront, blocks] at front
    obtain ⟨⟨slots, body, split, reserve, others⟩, later⟩ := front
    refine tidy.of_perm ?_ rfl (.inr ?_)
    · simp only [SlotsInFront, Function.addSlot, blocks]
      -- The new slot is the first one, the others and the rest stand behind it.
      refine ⟨⟨.alloca (function.names.register base).1 kind :: slots,
        body, by simp [split], ?_, others⟩, later⟩
      intro instruction member
      rcases List.mem_cons.mp member with new | old
      · rw [new]
        rfl
      · exact reserve instruction old
    -- The new name stands behind the parameters and the first label.
    · simp only [definedNames, Function.addSlot, blocks, List.flatMap_cons, Block.definedNames,
        List.filterMap_cons, Instruction.defined?, Instruction.reserved?, List.cons_append]
      exact ((List.Perm.swap ..).append_left _).trans List.perm_middle

/-- A new block loses nothing, if its label was free. -/
theorem addBlock_grows {function : Function} (tidy : function.Tidy) (base : String) :
    function.Grows (function.addBlock base).2 where
  name := rfl
  parameters := rfl
  result := rfl
  used := fun name member => by
    show name ∈ (function.names.register base).2.used
    rw [Names.register_used]
    exact List.mem_cons_of_mem _ member
  start := fun start found => by
    cases blocks : function.blocks with
    | nil => simp [start?, blocks] at found
    | cons entry rest => simpa [start?, addBlock, blocks] using found
  slots := fun slot member => by rwa [slots_addBlock]
  bodies := fun label body found => by
    -- The label of the new block is fresh, so no other block is shadowed by it.
    have free := tidy.body?_register base
    have apart : label ≠ (function.names.register base).1 := by
      rintro rfl
      rw [free] at found
      exact absurd found (by simp)
    exact ⟨[], by simpa [body?_addBlock function base label free, apart] using found⟩

/-- A new block keeps a function tidy. -/
theorem Tidy.addBlock {function : Function} (tidy : function.Tidy) (base : String) :
    (function.addBlock base).2.Tidy := by
  refine tidy.of_perm ?_ rfl (.inr ?_)
  · have front := tidy.slotsInFront
    cases blocks : function.blocks with
    -- The first block of a function has no slots yet.
    | nil =>
      simp only [SlotsInFront, Function.addBlock, blocks, List.nil_append]
      exact ⟨⟨[], [], rfl, by simp, by simp⟩, by simp⟩
    | cons entry rest =>
      simp only [SlotsInFront, blocks] at front
      simp only [SlotsInFront, Function.addBlock, blocks, List.cons_append]
      refine ⟨front.1, fun block member => ?_⟩
      -- A later block has no slots, and the new one is empty.
      rcases List.mem_append.mp member with old | new
      · exact front.2 block old
      · simp [List.mem_singleton.mp new]
  · simp only [definedNames, Function.addBlock, List.flatMap_append, List.flatMap_cons,
      List.flatMap_nil,
      Block.definedNames, List.filterMap_nil, List.append_nil, ← List.append_assoc]
    exact List.perm_append_singleton _ _

end Function

end LoopLang.Code
