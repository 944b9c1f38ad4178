import LoopLang.Proofs.Initialisation.Ledger
import LoopLang.Proofs.Lowering.Growth

/-! Frames over a ledger: the variables that are visible hold values where code is emitted. -/

namespace LoopLang

open Code (Name Instruction Module Ledger)

/--
What a frame keeps to, given the slots that are visible in it: those of its function hold values
where it emits, and its loop goes where no others are promised.
-/
structure Frame.Secured (ledger : Ledger) (code : Module) (slots : List Slot) (frame : Frame) :
    Prop where
  held : ∃ block body, frame.block = some block ∧ frame.function = some block.function ∧
    code.body? block = some body ∧
    ∀ slot ∈ slots, slot.function = frame.home → ledger.Secures block body slot.name
  loops : ∀ target, frame.nextRound = some target ∨ frame.loopExit = some target →
    target.function = frame.home ∧
      ∃ names ∈ ledger.promised target, ∀ name ∈ names, ⟨frame.home, name⟩ ∈ slots

/-- Frames each of which keeps to what is visible in it; one that opens no function belongs to that
of the next one. -/
def Secured (ledger : Ledger) (code : Module) : List Frame → Prop
  | [] => True
  | frame :: outer => frame.Secured ledger code ((frame :: outer).flatMap Frame.slots) ∧
    (frame.isFunction = false → ∀ next ∈ outer.head?, next.home = frame.home) ∧
    Secured ledger code outer

section

variable {ledger larger : Ledger} {code later : Module}

/-- The function that a frame belongs to is that of the block where it stands. -/
theorem Frame.Secured.home_eq {slots : List Slot} {frame : Frame}
    (secured : frame.Secured ledger code slots) {block : BlockRef}
    (here : frame.block = some block) : frame.home = block.function := by
  obtain ⟨stands, _, same, owner, _⟩ := secured.held
  cases same.symm.trans here
  rw [Frame.home, owner, Option.getD_some]

/-- So it belongs to some function. -/
theorem Frame.Secured.owner {slots : List Slot} {frame : Frame}
    (secured : frame.Secured ledger code slots) : frame.function = some frame.home := by
  obtain ⟨_, _, _, owner, _⟩ := secured.held
  rw [Frame.home, owner, Option.getD_some]

/-- A frame goes on keeping to what is visible while code and ledger grow. -/
theorem Frame.Secured.mono {slots : List Slot} {frame : Frame}
    (secured : frame.Secured ledger code slots) (ledgers : ledger.Grows larger)
    (grows : code.Grows later) : frame.Secured larger later slots where
  held := by
    obtain ⟨block, body, here, owner, found, held⟩ := secured.held
    -- The block of the frame may have grown behind, and what it holds it keeps.
    obtain ⟨more, kept⟩ := grows.body? found
    exact ⟨block, _, here, owner, kept,
      fun slot member same => (held slot member same).mono ledgers more⟩
  loops := fun target goes => by
    obtain ⟨same, names, promised, listed⟩ := secured.loops target goes
    exact ⟨same, names, ledgers _ _ promised, listed⟩

/-- So do all of them. -/
theorem Secured.mono {frames : List Frame} (secured : Secured ledger code frames)
    (ledgers : ledger.Grows larger) (grows : code.Grows later) : Secured larger later frames := by
  induction frames with
  | nil => trivial
  | cons frame outer ih =>
    obtain ⟨head, belongs, rest⟩ := secured
    exact ⟨head.mono ledgers grows, belongs, ih rest⟩

/-- Behind the innermost frame, the next one goes on where values are held that it needs. -/
theorem Secured.resume {frame : Frame} {outer : List Frame}
    (secured : Secured ledger code (frame :: outer)) :
    Secured ledger code (Builder.resume frame outer) := by
  cases outer with
  | nil => trivial
  | cons next rest =>
    obtain ⟨inner, belongs, around, encloses, further⟩ := secured
    cases opens : frame.isFunction with
    | true => simpa only [Builder.resume, opens, if_true] using ⟨around, encloses, further⟩
    | false =>
      -- What is visible around the frame is visible in it, too.
      have same : next.home = frame.home := belongs opens next rfl
      simp only [Builder.resume, opens, Bool.false_eq_true, if_false]
      obtain ⟨block, body, here, _, found, held⟩ := inner.held
      have owner := around.owner.trans (congrArg some (same.trans (inner.home_eq here)))
      refine ⟨⟨⟨block, body, here, owner, found, fun slot member belongs => ?_⟩, around.loops⟩,
        encloses, further⟩
      exact held slot (List.mem_append_right _ member) (Eq.trans belongs same)

/-- The loop that a jump means goes where nothing is promised that is not visible. -/
theorem Secured.loopFrame {frame found : Frame} {outer : List Frame} {label : Option String}
    (secured : Secured ledger code (frame :: outer))
    (meant : Scopes.loopFrameIn label (frame :: outer) = some found) (target : BlockRef)
    (goes : found.nextRound = some target ∨ found.loopExit = some target) :
    target.function = frame.home ∧ ∃ names ∈ ledger.promised target, ∀ name ∈ names,
      ⟨frame.home, name⟩ ∈ (frame :: outer).flatMap Frame.slots := by
  -- By induction on the frames: those around a function are not looked at.
  induction outer generalizing frame with
  | nil =>
    unfold Scopes.loopFrameIn at meant
    split at meant
    · cases meant
      exact secured.1.loops target goes
    · split at meant <;> simp [Scopes.loopFrameIn] at meant
  | cons next rest ih =>
    unfold Scopes.loopFrameIn at meant
    split at meant
    · cases meant
      exact secured.1.loops target goes
    · split at meant
      · cases meant
      -- The frame opens no function, so the next one belongs to the same function.
      · rename_i plain
        have same : next.home = frame.home := secured.2.1 (by simpa using plain) next rfl
        obtain ⟨belongs, names, promised, listed⟩ := ih secured.2.2 meant
        exact ⟨belongs.trans same, names, promised, fun name member =>
          List.mem_append_right frame.slots (same ▸ listed name member)⟩

end

/-- A name without a slot brings no slot. -/
theorem Builder.declare_slots {scopes later : Scopes} {name : String} {binding : Binding}
    (declared : scopes.declare name binding = .ok later) (none_stored : binding.slot? = none) :
    later.frames.flatMap Frame.slots = scopes.frames.flatMap Frame.slots := by
  obtain ⟨frame, outer, opened, _, _, frames⟩ := declare_ok declared
  simp [frames, opened, Frame.slots, List.filterMap_append, none_stored]

namespace Builder

/--
A builder on its way in a function, with the variables that are visible there: code keeps to a
ledger, and frames to what is visible in them.
-/
structure Settled (builder : Builder) (ledger : Ledger) (owner : Name) (visible : List String) :
    Prop where
  keeps : ledger.Keeps builder.code
  frames : Secured ledger builder.code builder.scopes.frames
  aligned : builder.scopes.cursor = builder.block?
  here : ∃ block, builder.block? = some block ∧ block.function = owner
  owned : ∀ slot ∈ builder.scopes.frames.flatMap Frame.slots,
    ∃ function, builder.code.function? slot.function = some function
  visible : ∀ name, name ∈ visible ↔ ⟨owner, name⟩ ∈ builder.scopes.frames.flatMap Frame.slots

namespace Settled

variable {builder : Builder} {ledger larger : Ledger} {owner : Name} {visible : List String}

/-- The innermost frame belongs to the function at hand. -/
theorem head (settled : builder.Settled ledger owner visible) :
    ∃ frame outer, builder.scopes.frames = frame :: outer ∧ frame.home = owner := by
  obtain ⟨block, current, belongs⟩ := settled.here
  obtain ⟨frame, innermost, stands⟩ := Option.bind_eq_some_iff.mp current
  obtain ⟨outer, opened⟩ := List.head?_eq_some_iff.mp innermost
  -- Code goes to the block of the innermost frame, which belongs to the function.
  have secured := settled.frames
  rw [opened] at secured
  exact ⟨frame, outer, opened, (secured.1.home_eq stands).trans belongs⟩

/-- Its frames keep to what is visible in them, the innermost one in the function at hand. -/
theorem opened (settled : builder.Settled ledger owner visible) {frame : Frame} {outer : List Frame}
    (opened : builder.scopes.frames = frame :: outer) :
    Secured ledger builder.code (frame :: outer) ∧ frame.home = owner := by
  obtain ⟨_, _, same, belongs⟩ := settled.head
  obtain ⟨rfl, rfl⟩ := List.cons.inj (opened.symm.trans same)
  exact ⟨opened ▸ settled.frames, belongs⟩

/-- Code is emitted into the function at hand. -/
theorem function? (settled : builder.Settled ledger owner visible) :
    builder.scopes.function? = some owner := by
  obtain ⟨frame, outer, opened, belongs⟩ := settled.head
  obtain ⟨secured, _⟩ := settled.opened opened
  simp only [Scopes.function?, Scopes.current?, opened, List.head?_cons, Option.bind_some,
    secured.1.owner, belongs]

/-- Code is emitted into a block of the function at hand, where all visible variables hold
values. -/
theorem cursor (settled : builder.Settled ledger owner visible) :
    ∃ block body, builder.scopes.cursor = some block ∧ block.function = owner ∧
    builder.code.body? block = some body ∧
      ∀ name ∈ visible, ledger.Secures block body name := by
  obtain ⟨frame, outer, opened, belongs⟩ := settled.head
  obtain ⟨secured, _⟩ := settled.opened opened
  obtain ⟨block, body, stands, _, found, held⟩ := secured.1.held
  refine ⟨block, body, ?_, (secured.1.home_eq stands).symm.trans belongs, found,
    fun name member => ?_⟩
  -- Emission is where the innermost frame says.
  · rw [settled.aligned, block?, Scopes.current?, opened]
    exact stands
  · exact held ⟨owner, name⟩ (opened ▸ (settled.visible name).mp member) belongs.symm

/-- A builder stays settled while its code grows and keeps to a larger ledger. -/
theorem withCode (settled : builder.Settled ledger owner visible) {code : Module}
    (grows : builder.code.Grows code) (ledgers : ledger.Grows larger) (keeps : larger.Keeps code) :
    { builder with code }.Settled larger owner visible where
  keeps := keeps
  frames := settled.frames.mono ledgers grows
  aligned := settled.aligned
  here := settled.here
  -- Functions stay under their names when the code grows.
  owned := fun slot member => by
    obtain ⟨function, found⟩ := settled.owned slot member
    obtain ⟨grown, kept, _⟩ := grows.functions _ _ found
    exact ⟨grown, kept⟩
  visible := settled.visible

/-- Debug lines and the count of blocks are no part of what is said. -/
theorem other (settled : builder.Settled ledger owner visible) (log : List String)
    (blockCount : Nat) :
    Settled { builder with scopes := { builder.scopes with log }, blockCount } ledger
      owner visible :=
  ⟨settled.keeps, settled.frames, settled.aligned, settled.here, settled.owned, settled.visible⟩

/-- Emission moves to a block where exactly the visible variables are promised to hold values. -/
theorem moveTo (settled : builder.Settled ledger owner visible) {block : BlockRef}
    {scopes : Scopes} (moved : builder.scopes.moveTo block = .ok scopes)
    (belongs : block.function = owner) (promised : ledger.promised block = some visible) :
    { builder with scopes }.Settled ledger owner visible := by
  obtain ⟨frame, outer, opened, frames, cursor⟩ := moveTo_ok moved
  obtain ⟨secured, owns⟩ := settled.opened opened
  obtain ⟨body, found⟩ := settled.keeps.known block visible promised
  have owned := settled.owned
  have listed := settled.visible
  rw [opened] at owned listed
  have function : block.function = frame.home := belongs.trans owns.symm
  refine ⟨settled.keeps, ?_, ?_, ⟨block, ?_, belongs⟩, ?_, ?_⟩
  · rw [frames]
    refine ⟨⟨⟨block, body, rfl, secured.1.owner.trans (congrArg some function.symm), found,
      fun slot member same => ?_⟩, secured.1.loops⟩, secured.2.1, secured.2.2⟩
    -- What is visible is what was promised of the block.
    have same : slot.function = owner := Eq.trans same owns
    exact .inl ⟨visible, promised, (listed slot.name).mpr (same ▸ member)⟩
  · simp only [block?, Scopes.current?, frames, cursor, List.head?_cons, Option.bind_some]
  · simp only [block?, Scopes.current?, frames, List.head?_cons, Option.bind_some]
  · rw [frames]
    exact owned
  · rw [frames]
    exact listed

/-- A name is declared, with a slot that holds a value where code is emitted or without one. -/
theorem declare (settled : builder.Settled ledger owner visible) {name : String}
    {binding : Binding} {scopes : Scopes}
    (declared : builder.scopes.declare name binding = .ok scopes)
    (own : ∀ slot ∈ binding.slot?, slot.function = owner ∧ ∀ block ∈ builder.scopes.cursor, ∀ body,
      builder.code.body? block = some body → ledger.Secures block body slot.name) :
    { builder with scopes }.Settled ledger owner
      (visible ++ (binding.slot?.map Slot.name).toList) := by
  obtain ⟨frame, outer, opened, _, cursor, frames⟩ := declare_ok declared
  obtain ⟨secured, owns⟩ := settled.opened opened
  obtain ⟨block, current, belongs⟩ := settled.here
  have at_ : frame.block = some block := by simpa [block?, Scopes.current?, opened] using current
  have owned := settled.owned
  have listed := settled.visible
  rw [opened] at owned listed
  -- The slots that are visible are those that were, and that of the new name.
  have slots (slot : Slot) : slot ∈
      ({ frame with symbols := frame.symbols ++ [(name, binding)] } :: outer).flatMap
      Frame.slots ↔ slot ∈ (frame :: outer).flatMap Frame.slots ∨ slot ∈ binding.slot? := by
    simp only [List.flatMap_cons, Frame.slots, List.filterMap_append, List.mem_append,
      List.filterMap_cons, List.filterMap_nil]
    cases binding.slot? <;> simp [or_assoc, or_comm, eq_comm]
  refine ⟨settled.keeps, ?_, ?_, ⟨block, ?_, belongs⟩, fun slot member => ?_, fun other => ?_⟩
  · rw [frames]
    refine ⟨⟨?_, fun target goes => ?_⟩, secured.2.1, secured.2.2⟩
    -- Only the innermost frame has one more slot, which holds a value where it emits.
    · obtain ⟨stands, body, here, owner, found, held⟩ := secured.1.held
      refine ⟨stands, body, here, owner, found, fun slot member same => ?_⟩
      rcases (slots slot).mp member with old | new
      · exact held slot old same
      · exact (own slot new).2 stands
          (settled.aligned.trans (current.trans (at_.symm.trans here))) body found
    -- Its loop goes where it went, and still no more is promised there than is visible.
    · obtain ⟨inside, names, promised, within⟩ := secured.1.loops target goes
      exact ⟨inside, names, promised, fun name member => (slots _).mpr (.inl (within name member))⟩
  · rw [show ({ builder with scopes } : Builder).scopes.cursor = builder.scopes.cursor from cursor,
      settled.aligned]
    simp only [block?, Scopes.current?, opened, frames, List.head?_cons, Option.bind_some]
  · simpa only [block?, Scopes.current?, frames, List.head?_cons, Option.bind_some] using at_
  · rw [frames] at member
    rcases (slots slot).mp member with old | new
    · exact owned slot old
    -- The new slot belongs to the function that code is emitted into.
    · obtain ⟨stands, body, here, _, found, _⟩ := secured.1.held
      obtain ⟨standing, held, _⟩ := Option.bind_eq_some_iff.mp found
      exact ⟨standing, by rw [(own slot new).1, ← owns, secured.1.home_eq here]; exact held⟩
  · rw [frames, slots, List.mem_append, listed]
    refine or_congr_right ⟨fun member => ?_, fun member => ?_⟩
    · obtain ⟨slot, held, rfl⟩ := Option.map_eq_some_iff.mp (Option.mem_toList.mp member)
      have function : slot.function = owner := (own slot held).1
      exact function ▸ held
    · exact Option.mem_toList.mpr (Option.map_eq_some_iff.mpr ⟨_, member, rfl⟩)

/-- A frame without names is opened, where all variables of its function that are visible hold
values. -/
theorem push (settled : builder.Settled ledger owner visible) {inner : Name} {more : List String}
    {block : BlockRef} {options : FrameOptions}
    (function : (options.function <|> some owner) = some inner)
    (encloses : options.isFunction = false → inner = owner) (belongs : block.function = inner)
    (held : ∃ body, builder.code.body? block = some body ∧ ∀ name ∈ more,
      ledger.Secures block body name)
    (loops : ∀ target, options.nextRound = some target ∨ options.loopExit = some target →
      target.function = inner ∧ ∃ names ∈ ledger.promised target, names ⊆ more)
    (listed : ∀ name, name ∈ more ↔ ⟨inner, name⟩ ∈ builder.scopes.frames.flatMap Frame.slots) :
    { builder with scopes := builder.scopes.push (some block) options }.Settled ledger
      inner more := by
  subst belongs
  obtain ⟨body, found, held⟩ := held
  have opened : (builder.scopes.current?.bind Frame.function) = some owner := settled.function?
  -- A frame without a function of its own has that of the frame around it.
  have belongs : (Frame.opened (some block) options builder.scopes.current?).function =
      some block.function := by
    show (options.function <|> builder.scopes.current?.bind Frame.function) = some block.function
    rw [opened, function]
  have home : (Frame.opened (some block) options builder.scopes.current?).home =
      block.function := by
    rw [Frame.home, belongs, Option.getD_some]
  refine ⟨settled.keeps, ⟨⟨⟨block, body, rfl, belongs, found, fun slot member same => ?_⟩,
    fun target goes => ?_⟩, fun plain next member => ?_, settled.frames⟩, rfl, ⟨block, rfl, rfl⟩,
    settled.owned, listed⟩
  -- The frame has no names yet, so what is visible in it stands in the frames around it.
  · have member : slot ∈ builder.scopes.frames.flatMap Frame.slots := member
    exact held slot.name ((listed _).mpr ((same.trans home) ▸ member))
  · rw [home]
    obtain ⟨inside, names, promised, within⟩ := loops target goes
    exact ⟨inside, names, promised, fun name member => (listed name).mp (within member)⟩
  -- Only the frame of a function may belong to another one than the frame around it.
  · obtain ⟨frame, outer, frames, owns⟩ := settled.head
    have same : next = frame := by
      rw [frames] at member
      cases member
      rfl
    exact same ▸ owns.trans ((encloses plain).symm.trans home.symm)

/-- The frame of a nested block is opened, which belongs to the function at hand. -/
theorem pushBlock (settled : builder.Settled ledger owner visible) (block : BlockRef)
    (options : FrameOptions) (plain : options.function = none ∧ options.isFunction = false)
    (belongs : block.function = owner)
    (held : ∃ body, builder.code.body? block = some body ∧ ∀ name ∈ visible,
      ledger.Secures block body name)
    (loops : ∀ target, options.nextRound = some target ∨ options.loopExit = some target →
      target.function = owner ∧ ∃ names ∈ ledger.promised target, names ⊆ visible) :
    { builder with scopes := builder.scopes.push (some block) options }.Settled ledger
      owner visible :=
  settled.push (by rw [plain.1]; rfl) (fun _ => rfl) belongs held loops settled.visible

/-- A function without blocks is added, to which no visible slot belongs. -/
theorem addFunction (settled : builder.Settled ledger owner visible) (base : Name)
    (parameters : List (String × ValueKind)) (result : ExactKind) :
    Settled { builder with code := (builder.code.addFunction base parameters result).2 } ledger
      owner visible ∧ (builder.code.addFunction base parameters result).2.function?
          (builder.code.addFunction base parameters result).1.name =
        some (builder.code.addFunction base parameters result).1 ∧
      ∀ slot ∈ builder.scopes.frames.flatMap Frame.slots,
        slot.function ≠ (builder.code.addFunction base parameters result).1.name := by
  have tidy := settled.keeps.tidy
  refine ⟨settled.withCode (tidy.addFunction_grows base parameters result) (.refl _)
    (settled.keeps.addFunction base parameters result), ?_, fun slot member same => ?_⟩
  · exact (tidy.function?_addFunction base _ parameters result).trans (if_pos rfl)
  -- The functions of visible slots were there before.
  · obtain ⟨function, held⟩ := settled.owned slot member
    rw [show slot.function = (builder.code.names.registerName base).1 from same,
      tidy.function?_registerName] at held
    cases held

/-- The first block of a function is made and its frame is opened, in which nothing is visible of it
yet. -/
theorem openFunction (settled : builder.Settled ledger owner visible) {name : Name}
    {function : Code.Function} (found : builder.code.function? name = some function)
    (apart : ∀ slot ∈ builder.scopes.frames.flatMap Frame.slots, slot.function ≠ name)
    (base : String) (options : FrameOptions) (owns : options.function = some name)
    (opens : options.isFunction = true)
    (plain : options.nextRound = none ∧ options.loopExit = none) :
    let (label, code) := builder.code.addBlock name base
    ∃ larger, ledger.Grows larger ∧ Settled { builder with code } larger owner visible ∧
      Settled { builder with code, scopes := builder.scopes.push (some ⟨name, label⟩) options }
      larger name [] := by
  -- Nothing is promised where the function begins, and nothing is visible of it.
  obtain ⟨grows, keeps⟩ := settled.keeps.addBlock found base [] (.inl rfl)
  have begun := settled.withCode (settled.keeps.tidy.addBlock_grows base name) grows keeps
  obtain ⟨body, stands⟩ := keeps.known ⟨name, (builder.code.addBlock name base).1⟩ [] (if_pos rfl)
  refine ⟨_, grows, begun,
    begun.push (by rw [owns]; rfl) (fun other => by simp [opens] at other) rfl
    ⟨body, stands, nofun⟩ (fun target goes => by simp [plain] at goes) fun other => ?_⟩
  exact ⟨nofun, fun member => absurd rfl (apart _ member)⟩

/-- The innermost frame is closed, and the variables around it are visible again. -/
theorem pop {inner : Name} {last : List String} (settled : builder.Settled ledger inner last)
    {frame next : Frame} {outer : List Frame}
    (opened : builder.scopes.frames = frame :: next :: outer) (belongs : next.home = owner)
    (encloses : frame.isFunction = true ∨ inner = owner)
    (listed : ∀ name, name ∈ visible ↔ ⟨owner, name⟩ ∈ (next :: outer).flatMap Frame.slots) :
    ∃ scopes, builder.scopes.pop = .ok scopes ∧
    { builder with scopes }.Settled ledger owner visible := by
  obtain ⟨scopes, popped, frames, aligned⟩ := pop_ok opened
  obtain ⟨secured, inside⟩ := settled.opened opened
  have owned := settled.owned
  rw [opened] at owned
  have slots : scopes.frames.flatMap Frame.slots = (next :: outer).flatMap Frame.slots :=
    frames ▸ resume_slots ..
  -- Code goes on where a block has ended, yet behind a function where the code around it stood.
  obtain ⟨goes, block, current, stands, owns⟩ : ∃ goes block, scopes.current? = some goes ∧
      goes.block = some block ∧ block.function = owner := by
    rw [Scopes.current?, frames]
    cases starts : frame.isFunction with
    | true =>
      obtain ⟨block, _, here, _⟩ := secured.2.2.1.held
      exact ⟨next,
        block, by simp [resume, starts], here, (secured.2.2.1.home_eq here).symm.trans belongs⟩
    | false =>
      obtain ⟨block, _, here, _⟩ := secured.1.held
      refine ⟨{ next with block := frame.block }, block, by simp [resume, starts], here, ?_⟩
      exact ((secured.1.home_eq here).symm.trans inside).trans
        (encloses.resolve_left (by simp [starts]))
  have here : ({ builder with scopes } : Builder).block? = some block := by
    rw [block?, current]
    exact stands
  refine ⟨scopes, popped, settled.keeps, ?_, ?_, ⟨block, here, owns⟩, fun slot member => ?_,
    fun name => ?_⟩
  · rw [frames]
    exact secured.resume
  · rw [here]
    exact (aligned goes current).trans stands
  · rw [slots] at member
    exact owned slot (List.mem_append_right frame.slots member)
  · rw [slots]
    exact listed name

end Settled

end Builder

end LoopLang
