import LoopLang.Proofs.Scope.Frames

/-! Builders on their way: what holds of every one of them, and what a later one keeps of an earlier
one. -/

namespace LoopLang

open Code (Module Instruction Unended)

namespace Builder

/-- The block that the innermost frame emits into. -/
def block? (builder : Builder) : Option BlockRef := builder.scopes.current?.bind Frame.block

/-- A block that has no terminator yet. -/
def HasOpen (builder : Builder) (block : BlockRef) : Prop :=
  ∃ body, builder.code.body? block = some body ∧ Unended body

/-- A frame is open, and its block has no terminator yet. -/
def Ready (builder : Builder) : Prop := ∃ block, builder.block? = some block ∧ builder.HasOpen block

/-- What holds at any time: valid code, and frames that fit it and each other. -/
structure Sound (builder : Builder) : Prop where
  tidy : builder.code.Tidy
  valid : builder.code.Valid
  aligned : ∀ block ∈ builder.block?, builder.scopes.cursor = some block
  fits : ∀ frame ∈ builder.scopes.frames, frame.Fits builder.code
  enclosed : Enclosed builder.scopes.frames
  separate : (builder.scopes.frames.flatMap Frame.slots).Nodup

/-- The frames stay open, and only the innermost one goes on in another block and gets new names. -/
def Continues (more : List (String × Binding)) : List Frame → List Frame → Prop
  | [], later => later = [] ∧ more = []
  | frame :: outer, later =>
    ∃ block, later = { frame with block, symbols := frame.symbols ++ more } :: outer

/-- Where frames are open, code is emitted somewhere. -/
theorem Sound.not_adrift {builder : Builder} (sound : builder.Sound) :
    builder.scopes.isAdrift = false := by
  cases opened : builder.scopes.frames with
  | nil => simp [Scopes.isAdrift, opened]
  | cons frame outer =>
    -- Every frame has a block, and code goes to that of the innermost one.
    obtain ⟨block, _, here, _⟩ := (sound.fits frame (by simp [opened])).placed
    have emits := sound.aligned block (by simp [block?, Scopes.current?, opened, here])
    simp [Scopes.isAdrift, emits]

/-- The block that the innermost frame emits into is in the code, so that it can be looked at. -/
theorem Sound.body? {builder : Builder} (sound : builder.Sound) {block : BlockRef}
    (here : builder.block? = some block) : ∃ body, builder.code.body? block = some body := by
  obtain ⟨frame, innermost, emits⟩ := Option.bind_eq_some_iff.mp here
  obtain ⟨own, body, same, _, found⟩ := (sound.fits frame (List.mem_of_head? innermost)).placed
  cases emits.symm.trans same
  exact ⟨body, found⟩

/-- What a later builder keeps of an earlier one: code is added to the current block and to new ones
only. -/
structure Grows (builder later : Builder) : Prop where
  code : builder.code.Grows later.code
  frames : ∃ more, Continues more builder.scopes.frames later.scopes.frames
  moved : ∀ block ∈ later.block?, builder.block? = some block ∨ builder.code.body? block = none
  others : ∀ block body, builder.code.body? block = some body → builder.block? ≠ some block →
    later.code.body? block = some body

/-- Frames go on as they are. -/
theorem Continues.refl (frames : List Frame) : Continues [] frames frames := by
  cases frames with
  | nil => exact ⟨rfl, rfl⟩
  | cons frame outer => exact ⟨frame.block, by simp⟩

/-- What goes on twice goes on, with the names of both parts of the way. -/
theorem Continues.trans {first second : List (String × Binding)} {frames middle later : List Frame}
    (begun : Continues first frames middle) (ended : Continues second middle later) :
    Continues (first ++ second) frames later := by
  -- Only the innermost frame changes, so its two additions stand in a row.
  cases frames with
  | nil =>
    obtain ⟨rfl, rfl⟩ := begun
    exact ended
  | cons frame outer =>
    obtain ⟨_, rfl⟩ := begun
    obtain ⟨block, rfl⟩ := ended
    exact ⟨block, by simp⟩

/-- A builder as it is has lost nothing. -/
theorem Grows.refl (builder : Builder) : builder.Grows builder where
  code := .refl _
  frames := ⟨[], .refl _⟩
  moved := fun _ here => .inl here
  others := fun _ _ found _ => found

/-- A block that is not current stays so: emission moves to new blocks only. -/
theorem Grows.elsewhere {builder later : Builder} (grows : builder.Grows later) {block : BlockRef}
    {body : List Instruction} (found : builder.code.body? block = some body)
    (other : builder.block? ≠ some block) : later.block? ≠ some block := by
  intro here
  -- Code goes on in the block at hand or in a new one.
  rcases grows.moved block here with same | absent
  · exact other same
  · rw [found] at absent
    exact absurd absent (by simp)

/-- What is kept twice is kept. -/
theorem Grows.trans {builder middle later : Builder} (first : builder.Grows middle)
    (second : middle.Grows later) :
    builder.Grows later where
  code := first.code.trans second.code
  frames := by
    obtain ⟨_, begun⟩ := first.frames
    obtain ⟨_, ended⟩ := second.frames
    exact ⟨_, begun.trans ended⟩
  moved := fun block here => by
    -- A block that is new to the second step is new to both.
    rcases second.moved block here with same | absent
    · exact first.moved block same
    · exact .inr (first.code.body?_eq_none absent)
  others := fun block body found other =>
    second.others block body (first.others block body found other) (first.elsewhere found other)

/-- A builder is still sound when its code grows and stays tidy and valid. -/
theorem Sound.withCode {builder : Builder} (sound : builder.Sound) {code : Module}
    (grows : builder.code.Grows code) (tidy : code.Tidy) (valid : code.Valid) :
    { builder with code }.Sound where
  tidy := tidy
  valid := valid
  aligned := sound.aligned
  fits := fun frame member => (sound.fits frame member).grow grows
  enclosed := sound.enclosed
  separate := sound.separate

/-- Growth goes on when code is added to the current block and to new ones only. -/
theorem Grows.withCode {base builder : Builder} (kept : base.Grows builder) {code : Module}
    (grows : builder.code.Grows code)
    (others : ∀ block body, builder.code.body? block = some body → builder.block? ≠ some block →
      code.body? block = some body) : base.Grows { builder with code } :=
  kept.trans {
    code := grows
    frames := ⟨[], .refl _⟩
    moved := fun _ here => .inl here
    others := others }

/-- Debug lines change nothing else. -/
theorem Sound.note {builder : Builder} (sound : builder.Sound) (line : String) :
    { builder with scopes := builder.scopes.note line }.Sound :=
  ⟨sound.tidy, sound.valid, sound.aligned, sound.fits, sound.enclosed, sound.separate⟩

/-- Debug lines change nothing else. -/
theorem Grows.note {base builder : Builder} (kept : base.Grows builder) (line : String) :
    base.Grows { builder with scopes := builder.scopes.note line } :=
  ⟨kept.code, kept.frames, kept.moved, kept.others⟩

/-- Emission moves to another block of the innermost frame. -/
theorem moveTo_ok {scopes later : Scopes} {block : BlockRef}
    (moved : scopes.moveTo block = .ok later) :
    ∃ frame outer, scopes.frames = frame :: outer ∧
      later.frames = { frame with block := some block } :: outer ∧ later.cursor = some block := by
  unfold Scopes.moveTo at moved
  split at moved
  · cases moved
  · rename_i frame outer opened
    cases moved
    exact ⟨frame, outer, opened, rfl, rfl⟩

/-- A builder that emits into another block of its function is sound. -/
theorem Sound.moveTo {builder : Builder} (sound : builder.Sound) {block here : BlockRef}
    {scopes : Scopes} (moved : builder.scopes.moveTo block = .ok scopes)
    (current : builder.block? = some here) (same : block.function = here.function)
    (placed : ∃ body, builder.code.body? block = some body) :
    { builder with scopes }.Sound := by
  obtain ⟨frame, outer, opened, frames, cursor⟩ := moveTo_ok moved
  -- The innermost frame moves within its function, all others stay.
  have owner : frame.block = some here := by simpa [block?, Scopes.current?, opened] using current
  have fits := sound.fits
  have enclosed := sound.enclosed
  have separate := sound.separate
  rw [opened] at fits enclosed separate
  refine ⟨sound.tidy, sound.valid, fun found member => ?_, fun other member => ?_, ?_, ?_⟩
  -- The cursor moves together with the frame.
  · have same : block = found := by simpa [block?, Scopes.current?, frames] using member
    exact cursor.trans (congrArg some same)
  · rw [frames] at member
    rcases List.mem_cons.mp member with rfl | outside
    -- In its new block the frame still belongs to the same function.
    · have inside := fits frame (by simp)
      exact inside.moved (same.trans (inside.home_eq owner).symm) placed
    · exact fits other (List.mem_cons_of_mem _ outside)
  · rw [frames]
    exact enclosed.replace rfl rfl
  · rw [frames]
    exact separate

/-- A name is declared in the innermost frame. -/
theorem declare_ok {scopes later : Scopes} {name : String} {binding : Binding}
    (declared : scopes.declare name binding = .ok later) :
    ∃ frame outer, scopes.frames = frame :: outer ∧ frame.has name = false ∧
    later.cursor = scopes.cursor ∧
      later.frames = { frame with symbols := frame.symbols ++ [(name, binding)] } :: outer := by
  unfold Scopes.declare at declared
  split at declared
  · cases declared
  · rename_i frame outer opened
    split at declared
    · cases declared
    · rename_i new
      cases declared
      exact ⟨frame, outer, opened, by simpa using new, rfl, rfl⟩

/-- A builder with one more name is sound, if the binding fits and brings no slot that another
variable has. -/
theorem Sound.declare {builder : Builder} (sound : builder.Sound) {name : String}
    {binding : Binding} {here : BlockRef} {scopes : Scopes}
    (declared : builder.scopes.declare name binding = .ok scopes)
    (current : builder.block? = some here) (fits : binding.Fits builder.code here.function)
    (own : ∀ slot ∈ binding.slot?, slot ∉ builder.scopes.frames.flatMap Frame.slots) :
    { builder with scopes }.Sound := by
  obtain ⟨frame, outer, opened, _, cursor, frames⟩ := declare_ok declared
  have owner : frame.block = some here := by simpa [block?, Scopes.current?, opened] using current
  have inside := sound.fits
  have enclosed := sound.enclosed
  have separate := sound.separate
  rw [opened] at inside enclosed separate own
  -- The code is the same, and the innermost frame has one name more.
  refine ⟨sound.tidy, sound.valid, fun found member => ?_, fun other member => ?_, ?_, ?_⟩
  -- Neither the frame nor the cursor moves.
  · have same : frame.block = some found := by simpa [block?, Scopes.current?, frames] using member
    rw [show ({ builder with scopes } : Builder).scopes.cursor = builder.scopes.cursor from cursor]
    exact sound.aligned found (by simp [block?, Scopes.current?, opened, same])
  · rw [frames] at member
    rcases List.mem_cons.mp member with rfl | outside
    · have before := inside frame (by simp)
      refine ⟨before.placed, fun entry listed => ?_, before.nextRound, before.loopExit,
        before.loop, before.result⟩
      -- The new name fits, and the others did before.
      rcases List.mem_append.mp listed with old | new
      · exact before.bindings entry old
      · rw [List.mem_singleton.mp new]
        exact (before.home_eq owner).symm ▸ fits
    · exact inside other (List.mem_cons_of_mem _ outside)
  · rw [frames]
    exact enclosed.replace rfl rfl
  · rw [frames]
    simp only [List.flatMap_cons, Frame.slots, List.filterMap_append,
      List.append_assoc] at separate own ⊢
    -- The slot of the new name is none of those that other names have.
    cases slot : binding.slot? with
    | none => simpa [slot] using separate
    | some slot' =>
      simp only [List.filterMap_cons, slot, List.filterMap_nil]
      exact (List.perm_middle.nodup_iff).mpr (List.nodup_cons.mpr ⟨own slot' slot, separate⟩)

/-- A frame is opened inside the others. -/
theorem Sound.push {builder : Builder} (sound : builder.Sound) {block : BlockRef}
    {options : FrameOptions}
    (fits : (Frame.opened (some block) options builder.scopes.current?).Fits builder.code)
    (enclosed : Enclosed
      (Frame.opened (some block) options builder.scopes.current? :: builder.scopes.frames)) :
    { builder with scopes := builder.scopes.push (some block) options }.Sound where
  tidy := sound.tidy
  valid := sound.valid
  aligned := fun found member => by
    have same : block = found := by
      simpa [block?, Scopes.current?, Scopes.push, Scopes.note, Frame.opened] using member
    exact congrArg some same
  fits := fun frame member => by
    -- The new frame has to fit; those around it have not changed.
    rcases List.mem_cons.mp member with rfl | old
    · exact fits
    · exact sound.fits frame old
  enclosed := enclosed
  separate := sound.separate

/-- The frames around one that is closed: the next one goes on where it ended, unless it was that of
a function. -/
def resume (frame : Frame) : List Frame → List Frame
  | [] => []
  | next :: rest => (if frame.isFunction then next else { next with block := frame.block }) :: rest

/-- The innermost frame is closed, and code is emitted where the next one goes on. -/
theorem pop_ok {scopes : Scopes} {frame : Frame} {outer : List Frame}
    (opened : scopes.frames = frame :: outer) :
    ∃ later, scopes.pop = .ok later ∧ later.frames = resume frame outer ∧
      ∀ next ∈ later.current?, later.cursor = next.block := by
  unfold Scopes.pop
  rw [opened]
  -- The frame around goes on, and the cursor moves to its block.
  cases outer with
  | nil =>
    refine ⟨_, rfl, rfl, fun found member => ?_⟩
    simp [Scopes.current?, Scopes.note] at member
  | cons next rest =>
    refine ⟨_, rfl, rfl, fun found member => ?_⟩
    simp only [Scopes.current?, Scopes.note, List.head?_cons, Option.mem_def,
      Option.some.injEq] at member
    rw [← member]
    rfl

/-- Frames around one that is closed go on without new names. -/
theorem resume_continues (frame : Frame) (outer : List Frame) :
    Continues [] outer (resume frame outer) := by
  cases outer with
  | nil => exact ⟨rfl, rfl⟩
  | cons next rest =>
    -- Behind a function the code goes on where it was left, behind a block where the block ended.
    cases opens : frame.isFunction with
    | true => exact ⟨next.block, by simp [resume, opens]⟩
    | false => exact ⟨frame.block, by simp [resume, opens]⟩

/-- Frames around one that is closed have the slots that they had. -/
theorem resume_slots (frame : Frame) (outer : List Frame) :
    (resume frame outer).flatMap Frame.slots = outer.flatMap Frame.slots := by
  cases outer with
  | nil => rfl
  | cons next rest => cases opens : frame.isFunction <;> simp [resume, opens, Frame.slots]

/-- Frames around one that is closed still enclose each other. -/
theorem resume_enclosed {frame : Frame} {outer : List Frame}
    (enclosed : Enclosed (frame :: outer)) :
    Enclosed (resume frame outer) := by
  cases outer with
  | nil => trivial
  | cons next rest =>
    -- The frame of a function gives nothing back, any other one gives back its block.
    cases opens : frame.isFunction with
    | true => simpa only [resume, opens, if_true] using enclosed.2
    | false =>
      obtain ⟨same, enclosed⟩ := enclosed
      rw [if_neg (by simp [opens])] at same
      obtain ⟨_, _, shape, _⟩ := same
      cases shape
      simp only [resume, opens, Bool.false_eq_true, if_false]
      exact enclosed.replace rfl rfl

/-- Frames around one that is closed still say what is so in the code. -/
theorem resume_fits {code : Module} {frame : Frame} {outer : List Frame}
    (enclosed : Enclosed (frame :: outer)) (fits : ∀ other ∈ frame :: outer, other.Fits code) :
    ∀ other ∈ resume frame outer, other.Fits code := by
  cases outer with
  | nil => exact fun _ member => absurd member List.not_mem_nil
  | cons next rest =>
    have around : ∀ other ∈ next :: rest, other.Fits code :=
      fun other member => fits other (.tail _ member)
    -- Behind a function the frame around stands where it stood.
    cases opens : frame.isFunction with
    | true => simpa only [resume, opens, if_true] using around
    | false =>
      have same := enclosed.1
      rw [if_neg (by simp [opens])] at same
      obtain ⟨_, _, shape, owner⟩ := same
      cases shape
      intro other member
      simp only [resume, opens, Bool.false_eq_true, if_false] at member
      rcases List.mem_cons.mp member with rfl | later
      -- The next frame goes on in the block of the closed one, which is of the same function.
      · have closed := fits frame List.mem_cons_self
        obtain ⟨block, body, here, _, found⟩ := closed.placed
        rw [here]
        exact (around next List.mem_cons_self).moved
          ((closed.home_eq here).symm.trans owner.symm) ⟨body, found⟩
      · exact around other (.tail _ later)

/-- What was there at the start and is not current is left alone in a frame that is opened at
another block. -/
theorem Grows.others_within {base builder inner : Builder} (kept : base.Grows builder)
    {block : BlockRef}
    {options : FrameOptions} (target : base.block? = some block ∨ base.code.body? block = none)
    (grows : Grows { builder with scopes := builder.scopes.push (some block) options } inner)
      (found : BlockRef)
    (body : List Instruction) (held : base.code.body? found = some body)
    (other : base.block? ≠ some found) :
    inner.code.body? found = some body := by
  refine grows.others found body (kept.others found body held other) fun here => ?_
  have same : block = found := by
    simpa [block?, Scopes.current?, Scopes.push, Scopes.note, Frame.opened] using here
  subst same
  -- The block of the frame is where the builder stood, or is new, so it is not the one at hand.
  rcases target with current | absent
  · exact other current
  · rw [held] at absent
    exact absurd absent (by simp)

/-- A frame that was opened is closed: emission goes on where it ended, or behind a function where
it was before. -/
theorem Sound.pop {base builder inner : Builder} (kept : base.Grows builder) {block : BlockRef}
    {options : FrameOptions} (target : base.block? = some block ∨ base.code.body? block = none)
    (grows : Grows { builder with scopes := builder.scopes.push (some block) options } inner)
    (sound : inner.Sound) :
    ∃ scopes, inner.scopes.pop = .ok scopes ∧ { inner with scopes }.Sound ∧ base.Grows
    { inner with scopes } ∧
      Continues [] builder.scopes.frames scopes.frames ∧
      ({ inner with scopes } : Builder).block? = if options.isFunction then builder.block?
      else inner.block? := by
  obtain ⟨more, last, frames⟩ := grows.frames
  have enclosed := sound.enclosed
  have fits := sound.fits
  have separate := sound.separate
  rw [frames] at enclosed fits separate
  -- There is a frame to be closed, that which was pushed.
  obtain ⟨scopes, popped, resumed, aligned⟩ := pop_ok frames
  have continues :=
    resume_continues { Frame.opened (some block) options builder.scopes.current? with
      block := last, symbols := [] ++ more } builder.scopes.frames
  have current : ({ inner with scopes } : Builder).block? =
      if options.isFunction then builder.block? else inner.block? := by
    simp only [block?, Scopes.current?, resumed, frames]
    -- Without a frame around it, the closed frame must have been that of a function.
    cases around : builder.scopes.frames <;> cases opens : options.isFunction <;>
      simp_all [resume, Frame.opened, Scopes.push, Scopes.note, Enclosed]
  refine ⟨scopes, popped, ⟨sound.tidy, sound.valid, fun found member => ?_, ?_, ?_, ?_⟩, ?_,
    resumed ▸ continues, current⟩
  -- The cursor is where the frame is that comes to the top.
  · obtain ⟨next, innermost, here⟩ := Option.bind_eq_some_iff.mp member
    exact (aligned next innermost).trans here
  · exact resumed ▸ resume_fits enclosed fits
  · exact resumed ▸ resume_enclosed enclosed
  · rw [resumed, resume_slots]
    rw [List.flatMap_cons] at separate
    exact (List.nodup_append.mp separate).2.1
  -- What has grown inside has grown outside too.
  · obtain ⟨earlier, before⟩ := kept.frames
    refine ⟨kept.code.trans grows.code, ⟨earlier ++ [], resumed ▸ before.trans continues⟩,
      fun found member => ?_,
      fun found body held other => kept.others_within target grows found body held other⟩
    rw [current] at member
    -- Behind a function the builder is back where it was; else it stays where the contents ended.
    cases opens : options.isFunction with
    | true => exact kept.moved found (by simpa [opens] using member)
    | false =>
      rcases grows.moved found (by simpa [opens] using member) with start | absent
      · have begun : block = found := by
          simpa [block?, Scopes.current?, Scopes.push, Scopes.note, Frame.opened] using start
        exact begun ▸ target
      · exact .inr (kept.code.body?_eq_none absent)

end Builder

end LoopLang
