import LoopLang.Proofs.Isolation.Frames
import LoopLang.Proofs.Lowering.Nesting

/-! Lowering in two sessions at once: the steps of building end alike, up to a renaming. -/

namespace LoopLang

open Code (Name Operand Instruction Function)

/-- Failures of one class at one place: only their words may differ. -/
def Failure.Alike : Failure → Failure → Prop
  | .refused cause place, .refused other there => cause.category = other.category ∧ place = there
  | .fault breach, .fault other => breach = other
  | _, _ => False

/-- Two builders on their way through the same tree, a new one and one that had functions before. -/
structure Builder.Abreast (old : List Function) (naming : Renaming) (owner : Name)
    (fresh later : Builder) : Prop where
  code : naming.Alongside old fresh.code later.code
  frames : naming.Stacks owner fresh.scopes.frames later.scopes.frames
  aligned : fresh.scopes.cursor = fresh.block?
  alignedToo : later.scopes.cursor = later.block?

namespace Builder

variable {old : List Function} {naming : Renaming} {owner inner : Name} {fresh later : Builder}

/-- Names are bound alike. -/
theorem Abreast.lookup (abreast : fresh.Abreast old naming owner later) (name : String) :
    Option.Rel naming.Bindings (fresh.scopes.lookup name) (later.scopes.lookup name) :=
  abreast.frames.lookup name

/-- Code is emitted into functions that stand for each other. -/
theorem Abreast.function? (abreast : fresh.Abreast old naming owner later) :
    ∃ other, fresh.scopes.function? = some owner ∧ later.scopes.function? = some other ∧
    naming.functions owner other := by
  -- Both innermost frames have a function, and these correspond.
  obtain ⟨frame, standing, outer, around, opened, too, same⟩ := abreast.frames.head
  obtain ⟨other, named, held⟩ := same.functions
  refine ⟨other, ?_, ?_, held⟩
  · simp only [Scopes.function?, Scopes.current?, opened, List.head?_cons, Option.bind_some,
      same.function]
  · simp only [Scopes.function?, Scopes.current?, too, List.head?_cons, Option.bind_some, named]

/-- Code is emitted into blocks that stand for each other. -/
theorem Abreast.cursors (abreast : fresh.Abreast old naming owner later) :
    ∃ block standing, fresh.scopes.cursor = some block ∧ later.scopes.cursor = some standing ∧
      naming.Refs owner block standing := by
  -- In both runs code goes to the block of the innermost frame.
  obtain ⟨frame, other, outer, around, opened, too, same⟩ := abreast.frames.head
  obtain ⟨block, standing, here, there, blocks⟩ := same.block
  refine ⟨block, standing, ?_, ?_, blocks⟩
  · rw [abreast.aligned, Builder.block?, Scopes.current?, opened]
    exact here
  · rw [abreast.alignedToo, Builder.block?, Scopes.current?, too]
    exact there

/-- So emission is adrift in neither of them. -/
theorem Abreast.not_adrift (abreast : fresh.Abreast old naming owner later) :
    fresh.scopes.isAdrift = false ∧ later.scopes.isAdrift = false := by
  obtain ⟨block, standing, here, there, -⟩ := abreast.cursors
  exact ⟨by simp [Scopes.isAdrift, here], by simp [Scopes.isAdrift, there]⟩

/-- Some frame is open in both. -/
theorem Abreast.depth (abreast : fresh.Abreast old naming owner later) :
    later.scopes.depth = 0 ↔ fresh.scopes.depth = 0 := by
  obtain ⟨frame, other, outer, around, opened, too, -⟩ := abreast.frames.head
  simp [Scopes.depth, opened, too]

/-- Frames of functions that stand for each other are opened in both. -/
theorem Abreast.push (abreast : fresh.Abreast old naming owner later) {block other : BlockRef}
    {options others : FrameOptions}
    (frames : ∀ frame standing, naming.Frames owner frame standing → naming.Frames inner
      (Frame.opened (some block) options (some frame))
        (Frame.opened (some other) others (some standing)))
    (belongs : options.isFunction = true ∨ (options.isFunction = false ∧ inner = owner)) :
    Abreast old naming inner { fresh with scopes := fresh.scopes.push (some block) options }
      { later with scopes := later.scopes.push (some other) others } := by
  obtain ⟨frame, standing, outer, around, opened, too, same⟩ := abreast.frames.head
  have entered := frames frame standing same
  have related := abreast.frames
  refine ⟨abreast.code, ?_, rfl, rfl⟩
  show naming.Stacks inner
      (Frame.opened (some block) options fresh.scopes.frames.head? :: fresh.scopes.frames)
    (Frame.opened (some other) others later.scopes.frames.head? :: later.scopes.frames)
  rw [opened, too] at related ⊢
  -- The frame of a function may belong to any function, another one belongs to that of the frame
  -- around it.
  obtain starts | ⟨plain, rfl⟩ := belongs
  · exact .function entered starts related
  · exact .block entered plain related

/-- Innermost frames are closed in both, and code goes on in the frames around them. -/
theorem Abreast.pop (abreast : fresh.Abreast old naming inner later) {frame other : Frame}
    {outer around : List Frame} (opened : fresh.scopes.frames = frame :: outer)
    (too : later.scopes.frames = other :: around) (rest : naming.Stacks owner outer around)
    (belongs : frame.isFunction = true ∨ inner = owner) :
    ∃ scopes others, fresh.scopes.pop = .ok scopes ∧ later.scopes.pop = .ok others ∧
      Abreast old naming owner { fresh with scopes } { later with scopes := others } := by
  obtain ⟨first, second, _, _, closed, closedToo, same⟩ := abreast.frames.head
  obtain ⟨rfl, rfl⟩ := List.cons.inj (opened.symm.trans closed)
  obtain ⟨rfl, rfl⟩ := List.cons.inj (too.symm.trans closedToo)
  -- A frame is around the innermost one in both, for the stacks around it are the same.
  obtain ⟨next, standing, further, beyond, rfl, rfl, nexts⟩ := rest.head
  -- Code goes on where a block has ended, yet behind a function where the code around it stood.
  have resumes : naming.Stacks owner (resume frame (next :: further))
      (resume other (standing :: beyond)) := by
    simp only [resume, same.isFunction]
    cases starts : frame.isFunction with
    | true => simpa only [if_true] using rest
    | false =>
      obtain rfl : inner = owner := belongs.resolve_left (by simp [starts])
      obtain ⟨block, at_, here, there, blocks⟩ := same.block
      rw [here, there]
      simpa only [Bool.false_eq_true, if_false] using rest.replace (nexts.moveTo blocks) rfl
  obtain ⟨scopes, popped, frames, aligned⟩ := pop_ok opened
  obtain ⟨others, poppedToo, framesToo, alignedToo⟩ := pop_ok too
  refine ⟨scopes, others, popped, poppedToo, ⟨abreast.code, frames ▸ framesToo ▸ resumes, ?_, ?_⟩⟩
  · obtain ⟨last, held⟩ : ∃ last, scopes.current? = some last :=
      ⟨_, by rw [Scopes.current?, frames]; rfl⟩
    rw [aligned last held, Builder.block?, held]
    rfl
  · obtain ⟨last, held⟩ : ∃ last, others.current? = some last :=
      ⟨_, by rw [Scopes.current?, framesToo]; rfl⟩
    rw [alignedToo last held, Builder.block?, held]
    rfl

end Builder

namespace Lowering

variable {α β γ δ : Type} {old : List Function} {owner : Name} {naming larger : Renaming}

/-- How two computations end alike: with related answers or with failures of one class, and abreast
in any case. -/
def Meet (old : List Function) (owner : Name) (naming : Renaming)
    (related : Renaming → α → β → Prop) :
    Except Failure α × Builder → Except Failure β × Builder → Prop
  | (.ok answer, fresh), (.ok other, later) =>
    ∃ larger, naming.Grows larger ∧ fresh.Abreast old larger owner later ∧
      related larger answer other
  | (.error failure, fresh), (.error other, later) =>
    failure.Alike other ∧ ∃ larger, naming.Grows larger ∧ fresh.Abreast old larger owner later
  | _, _ => False

/-- Two computations that end alike from any builders that are abreast. -/
def Coincide (old : List Function) (owner : Name) (naming : Renaming) (first : Lowering α)
    (second : Lowering β) (related : Renaming → α → β → Prop) : Prop :=
  ∀ larger, naming.Grows larger → ∀ fresh later : Builder, fresh.Abreast old larger owner later →
    Meet old owner larger related (first.outcome fresh) (second.outcome later)

namespace Coincide

variable {first : Lowering α} {second : Lowering β} {related : Renaming → α → β → Prop}

/-- Answers that are related now and under more names coincide. -/
theorem pure {answer : α} {other : β}
    (held : ∀ larger, naming.Grows larger → related larger answer other) :
    Coincide old owner naming (Pure.pure answer) (Pure.pure other) related :=
  fun larger grows _ _ abreast => ⟨larger, .refl _, abreast, held larger grows⟩

/-- Refusals of one category do. -/
theorem refuse {cause other : Cause} (place : Location) (same : cause.category = other.category) :
    Coincide old owner naming (Lowering.refuse cause place) (Lowering.refuse other place) related :=
  fun larger _ _ _ abreast => ⟨⟨same, rfl⟩, larger, .refl _, abreast⟩

/-- So do equal faults. -/
theorem stop (fault : Fault) :
    Coincide old owner naming (Lowering.stop fault) (Lowering.stop fault) related :=
  fun larger _ _ _ abreast => ⟨rfl, larger, .refl _, abreast⟩

/-- Behind refusals of one class nothing follows. -/
theorem refuse_bind {cause other : Cause} {place : Location} {next : γ → Lowering α}
    {following : δ → Lowering β} (same : cause.category = other.category) :
    Coincide old owner naming (Lowering.refuse cause place >>= next)
      (Lowering.refuse other place >>= following) related :=
  fun larger _ _ _ abreast => ⟨⟨same, rfl⟩, larger, .refl _, abreast⟩

/-- Neither does anything behind a fault. -/
theorem stop_bind {fault : Fault} {next : γ → Lowering α} {following : δ → Lowering β} :
    Coincide old owner naming (Lowering.stop fault >>= next)
      (Lowering.stop fault >>= following) related :=
  fun larger _ _ _ abreast => ⟨rfl, larger, .refl _, abreast⟩

/-- Computations end alike one after the other, if what follows does so for all answers that are
related. -/
theorem bind {next : α → Lowering γ} {following : β → Lowering δ}
    {results : Renaming → γ → δ → Prop} (parts : Coincide old owner naming first second related)
    (rest : ∀ larger, naming.Grows larger → ∀ answer other, related larger answer other →
      Coincide old owner larger (next answer) (following other) results) :
    Coincide old owner naming (first >>= next) (second >>= following) results := by
  intro larger grows fresh later abreast
  have ends := parts larger grows fresh later abreast
  simp only [outcome_bind]
  -- Either both first parts fail, or both succeed and what follows ends alike.
  generalize first.outcome fresh = left, second.outcome later = right at ends ⊢
  obtain ⟨failure | answer, begun⟩ := left <;> obtain ⟨other | other, started⟩ := right
  · exact ends
  · exact ends.elim
  · exact ends.elim
  -- What the second parts relate is related on top of what the first parts have related.
  · obtain ⟨further, more, middle, held⟩ := ends
    have following_ends :=
      rest further (grows.trans more) answer other held further (.refl _) begun started middle
    dsimp only
    generalize (next answer).outcome begun = left,
      (following other).outcome started = right at following_ends ⊢
    obtain ⟨failure | result, finish⟩ := left <;> obtain ⟨another | another, finished⟩ := right
    · exact ⟨following_ends.1, following_ends.2.imp fun _ last => ⟨more.trans last.1, last.2⟩⟩
    · exact following_ends
    · exact following_ends
    · exact following_ends.imp fun _ last => ⟨more.trans last.1, last.2⟩

/-- What follows may depend on the open frames, which are those of builders that are abreast. -/
theorem scopes {next : Scopes → Lowering α} {following : Scopes → Lowering β}
    (rest : ∀ larger, naming.Grows larger → ∀ fresh later : Builder,
      fresh.Abreast old larger owner later → Coincide old owner larger (next fresh.scopes)
        (following later.scopes) related) :
    Coincide old owner naming (Lowering.scopes >>= next) (Lowering.scopes >>= following) related :=
  fun larger grows fresh later abreast =>
    rest larger grows fresh later abreast larger (.refl _) fresh later abreast

/-- Debug lines are no part of what is compared. -/
theorem note (line other : String) :
    Coincide old owner naming (Lowering.note line) (Lowering.note other) fun _ _ _ => True := by
  intro larger _ _ _ abreast
  refine ⟨larger, .refl _, ?_, trivial⟩
  exact ⟨abreast.code, abreast.frames, abreast.aligned, abreast.alignedToo⟩

/-- The innermost frames stand for each other. -/
theorem currentFrame : Coincide old owner naming Lowering.currentFrame Lowering.currentFrame
    fun larger => larger.Frames owner := by
  refine .scopes fun larger grows fresh later abreast => ?_
  obtain ⟨frame, other, outer, around, opened, too, same⟩ := abreast.frames.head
  simp only [Scopes.current?, opened, too, List.head?_cons]
  exact .pure fun _ grows => same.mono grows

/-- So do the functions around. -/
theorem currentFunction :
    Coincide old owner naming Lowering.currentFunction Lowering.currentFunction
    fun larger function other => function = owner ∧ larger.functions owner other := by
  refine .scopes fun larger grows fresh later abreast => ?_
  obtain ⟨other, named, renamed, held⟩ := abreast.function?
  rw [named, renamed]
  exact .pure fun _ grows => ⟨rfl, grows.functions _ _ held⟩

/-- Their results are of one kind. -/
theorem enclosingFunction :
    Coincide old owner naming Lowering.enclosingFunction Lowering.enclosingFunction
    fun _ function other => function.2 = other.2 := by
  refine .scopes fun larger grows fresh later abreast => ?_
  have found := abreast.frames.functionFrame
  unfold Scopes.functionFrame?
  generalize fresh.scopes.frames.find? (·.isFunction) = first,
    later.scopes.frames.find? (·.isFunction) = second at found ⊢
  cases found with
  | none => exact .stop _
  | @some frame other same =>
    obtain ⟨results, named, renamed⟩ := same
    obtain ⟨_, _, _ | function, _, result, _, _, _, _⟩ := frame
    · cases named
    · obtain ⟨_, _, _ | another, _, _, _, _, _, _⟩ := other
      · cases renamed
      · obtain rfl := results
        rename_i result _ _ _ _
        -- A body is lowered for a definite result only.
        rcases result with _ | _ | result | _
        all_goals first | exact .stop _ | exact .pure fun _ _ => rfl

/-- The current blocks stand for each other. -/
theorem cursor :
    Coincide old owner naming Lowering.cursor Lowering.cursor fun larger => larger.Refs owner := by
  refine .scopes fun larger grows fresh later abreast => ?_
  obtain ⟨block, standing, here, there, blocks⟩ := abreast.cursors
  rw [here, there]
  exact .pure fun _ grows => blocks.mono grows

/-- Emission goes on alike behind code that is built alike. -/
theorem abreast_code {fresh later : Builder} (abreast : fresh.Abreast old naming owner later)
    (grows : naming.Grows larger) {code another : Code.Module}
    (along : larger.Alongside old code another) :
    Builder.Abreast old larger owner { fresh with code } { later with code := another } :=
  ⟨along, abreast.frames.mono grows, abreast.aligned, abreast.alignedToo⟩

/-- An instruction is emitted in both, on names that stand for each other. -/
theorem emit (base another : String) {make create : String → Instruction}
    (alike : ∀ larger, naming.Grows larger → ∀ name other, larger.locals owner name other →
      larger.Instructions owner (make name) (create other)) :
    Coincide old owner naming (Lowering.emit base make) (Lowering.emit another create)
      fun larger => larger.locals owner := by
  refine .bind .cursor fun larger grows block other blocks further more fresh later abreast => ?_
  obtain ⟨belongs, functions, labels⟩ := blocks.mono more
  -- The names that the two functions give become a pair.
  obtain ⟨last, grown, along, named⟩ :=
    abreast.code.append base another (belongs ▸ functions) (belongs ▸ labels)
    (belongs ▸ fun last grown => alike last ((grows.trans more).trans grown))
  exact ⟨last, grown, abreast_code abreast grown along, belongs ▸ named⟩

/-- Instructions that stand for each other are emitted alike. -/
theorem emitUnnamed {instruction other : Instruction}
    (same : naming.Instructions owner instruction other) :
    Coincide old owner naming (Lowering.emitUnnamed instruction) (Lowering.emitUnnamed other)
      fun _ _ _ => True :=
  .bind (.emit _ _ fun _ grows _ _ _ => same.mono grows) fun _ _ _ _ _ => .pure fun _ _ => trivial

/-- Of blocks that stand for each other either both have an end or neither has. -/
theorem isTerminated : Coincide old owner naming Lowering.isTerminated Lowering.isTerminated
    fun _ ended other => ended = other := by
  refine .bind .cursor fun larger grows block other blocks further more fresh later abreast => ?_
  obtain ⟨belongs, functions, labels⟩ := blocks.mono more
  exact ⟨further, .refl _, abreast,
    (abreast.code.isTerminated (belongs ▸ functions) (belongs ▸ labels)).symm⟩

/-- So they are ended alike. -/
theorem terminate {instruction other : Instruction}
    (same : naming.Instructions owner instruction other) :
    Coincide old owner naming (Lowering.terminate instruction) (Lowering.terminate other)
      fun _ _ _ => True := by
  refine .bind .isTerminated fun larger grows ended another held => ?_
  cases held
  dsimp only
  split
  -- Behind a terminator nothing may be emitted, in neither of the two.
  · exact .stop_bind
  · exact .emitUnnamed (same.mono grows)

/-- Slots are reserved alike, whatever they are called. -/
theorem createSlot (base : String) (kind : ValueKind) :
    Coincide old owner naming (Lowering.createSlot base kind) (Lowering.createSlot base kind)
      fun larger slot other => slot.function = owner ∧ larger.Slots slot other := by
  refine .bind .currentFunction
    fun larger grows function other held further more fresh later abreast => ?_
  obtain ⟨rfl, related⟩ := held
  -- The slots are reserved in corresponding functions, and become a pair.
  obtain ⟨last, grown, along, named⟩ :=
    abreast.code.addSlot (more.functions _ _ related) base base kind
  exact ⟨last, grown, abreast_code abreast grown along, rfl,
    grown.functions _ _ (more.functions _ _ related), named⟩

/-- An empty block is appended to functions that stand for each other. -/
theorem addBlock {function other : Name} (related : naming.functions function other)
    (base another : String) :
    Coincide old owner naming (Lowering.addBlock function base) (Lowering.addBlock other another)
      fun larger => larger.Refs function := by
  intro larger grows fresh later abreast
  -- The labels of the new blocks become a pair.
  obtain ⟨last, grown, along, named⟩ :=
    abreast.code.addBlock (grows.functions _ _ related) base another
  exact ⟨last, grown, abreast_code abreast grown along, rfl,
    grown.functions _ _ (grows.functions _ _ related), named⟩

/-- The wanted labels may differ, for their endings count the blocks of all programs so far. -/
theorem createBlock (base another : String) :
    Coincide old owner naming (Lowering.createBlock base) (Lowering.createBlock another)
      fun larger => larger.Refs owner := by
  refine .scopes fun larger grows fresh later abreast => ?_
  obtain ⟨other, named, renamed, held⟩ := abreast.function?
  rw [named, renamed]
  exact .addBlock held base another

/-- Functions are created alike, whatever they are called. -/
theorem createFunction (base : Name) (wanted : List (String × ValueKind)) (result : ExactKind) :
    Coincide old owner naming (Lowering.createFunction base wanted result)
      (Lowering.createFunction base wanted result) fun larger => larger.Functions := by
  intro larger grows fresh later abreast
  obtain ⟨last, grown, along, pairs⟩ := abreast.code.addFunction base wanted result
  exact ⟨last, grown, abreast_code abreast grown along, pairs.toFunctions⟩

/-- The endings count the groups of blocks so far, and so they differ. -/
theorem nextSuffix :
    Coincide old owner naming Lowering.nextSuffix Lowering.nextSuffix fun _ _ _ => True := by
  intro larger _ _ _ abreast
  refine ⟨larger, .refl _, ?_, trivial⟩
  exact ⟨abreast.code, abreast.frames, abreast.aligned, abreast.alignedToo⟩

/-- Code goes on in blocks that stand for each other. -/
theorem moveTo {block other : BlockRef} (blocks : naming.Refs owner block other) :
    Coincide old owner naming (Lowering.moveTo block) (Lowering.moveTo other)
      fun _ _ _ => True := by
  intro larger grows fresh later abreast
  obtain ⟨frame, standing, outer, around, opened, too, same⟩ := abreast.frames.head
  have frames := abreast.frames
  rw [opened, too] at frames
  -- In an open frame a move always succeeds.
  have moved (builder : Builder) (block : BlockRef) {frame : Frame} {outer : List Frame}
      (opened : builder.scopes.frames = frame :: outer) : (Lowering.moveTo block).outcome builder =
        (.ok (), { builder with
          scopes := { builder.scopes with
            frames := { frame with block := some block } :: outer, cursor := some block } }) := by
    show (setScopes _ (builder.scopes.moveTo block)).outcome builder = _
    simp only [Scopes.moveTo, opened]
    rfl
  rw [moved fresh block opened, moved later other too]
  exact ⟨larger, .refl _,
    ⟨abreast.code, frames.replace (same.moveTo (blocks.mono grows)) rfl, rfl, rfl⟩, trivial⟩

/-- A name is declared in both, or taken in both. -/
theorem declare (name : String) {binding other : Binding}
    (bindings : naming.Bindings binding other) (place : Location) :
    Coincide old owner naming (Lowering.declare name binding place)
      (Lowering.declare name other place) fun _ _ _ => True := by
  intro larger grows fresh later abreast
  obtain ⟨frame, standing, outer, around, opened, too, same⟩ := abreast.frames.head
  have frames := abreast.frames
  rw [opened, too] at frames
  have declared (builder : Builder) (binding : Binding) {frame : Frame} {outer : List Frame}
      (opened : builder.scopes.frames = frame :: outer) :
        (Lowering.declare name binding place).outcome builder =
        if frame.has name then (.error (.refused (.alreadyDefined name) place), builder)
        else
          let frames := { frame with symbols := frame.symbols ++ [(name, binding)] } :: outer
          (.ok (), { builder with
            scopes := Scopes.note { builder.scopes with frames }
              s!"declare '{name}' = {binding.display}" }) := by
    show (setScopes _ (builder.scopes.declare name binding)).outcome builder = _
    simp only [Scopes.declare, opened]
    split <;> rfl
  rw [declared fresh binding opened, declared later other too, same.has name]
  -- The same names are taken in both frames.
  split
  · exact ⟨⟨rfl, rfl⟩, larger, .refl _, abreast⟩
  · refine ⟨larger, .refl _,
      ⟨abreast.code, frames.replace (same.declare name (bindings.mono grows)) rfl, ?_, ?_⟩, trivial⟩
    · exact abreast.aligned.trans (by simp [Builder.block?, Scopes.current?, opened, Scopes.note])
    · exact abreast.alignedToo.trans (by simp [Builder.block?, Scopes.current?, too, Scopes.note])

/-- Contents that end alike do so in frames of their own, which are closed behind them. -/
theorem withFrame {inner : Name} {block other : BlockRef} {options others : FrameOptions}
    (frames : ∀ larger, naming.Grows larger → ∀ frame standing, larger.Frames owner frame standing →
      larger.Frames inner (Frame.opened (some block) options (some frame))
        (Frame.opened (some other) others (some standing)))
    (belongs : options.isFunction = true ∨ (options.isFunction = false ∧ inner = owner))
    (nested : Nested first) (nestedToo : Nested second)
    (bodies : Coincide old inner naming first second related) :
    Coincide old owner naming (Lowering.withFrame (some block) options first)
      (Lowering.withFrame (some other) others second) related := by
  intro larger grows fresh later abreast
  have entered := abreast.push (frames larger grows) belongs
  have ends := bodies larger grows _ _ entered
  -- Behind the contents the frames are those in front of them, and the one that was opened.
  obtain ⟨more, last, opened⟩ :=
    (nested.nests { fresh with scopes := fresh.scopes.push (some block) options }
      (.inr rfl)).continues
  obtain ⟨further, lastToo, too⟩ :=
    (nestedToo.nests { later with scopes := later.scopes.push (some other) others }
      (.inr rfl)).continues
  have closes (bound : Renaming) (held : larger.Grows bound) (result : Except Failure α)
    (answer : Except Failure β)
      {begun started : Builder} (middle : begun.Abreast old bound inner started)
      (opened : begun.scopes.frames = { Frame.opened (some block) options fresh.scopes.current? with
        block := last, symbols := [] ++ more } :: fresh.scopes.frames)
      (too : started.scopes.frames = { Frame.opened (some other) others later.scopes.current? with
        block := lastToo, symbols := [] ++ further } :: later.scopes.frames) :
      ∃ finish finished, closeFrame result begun = (result, finish) ∧
        closeFrame answer started = (answer, finished) ∧
        finish.Abreast old bound owner finished := by
    obtain ⟨scopes, left, popped, poppedToo, outside⟩ :=
      middle.pop opened too (abreast.frames.mono held)
      (belongs.imp id And.right)
    obtain ⟨goes_on, goes_onToo⟩ := outside.not_adrift
    refine ⟨_, _, ?_, ?_, outside⟩
    · simp only [closeFrame, popped, show scopes.isAdrift = false from goes_on,
        Bool.false_eq_true, if_false]
    · simp only [closeFrame, poppedToo, show left.isAdrift = false from goes_onToo,
        Bool.false_eq_true, if_false]
  -- The frames are closed whether the contents have failed or not.
  rw [withFrame_outcome, withFrame_outcome]
  generalize first.outcome { fresh with scopes := fresh.scopes.push (some block) options } = left,
    second.outcome { later with scopes := later.scopes.push (some other) others } =
    right at ends opened too ⊢
  obtain ⟨failure | answer, begun⟩ := left <;> obtain ⟨another | another, started⟩ := right
  · obtain ⟨alike, bound, held, middle⟩ := ends
    obtain ⟨finish, finished, closed, closedToo, outside⟩ := closes bound held (.error failure)
      (.error another) middle opened too
    rw [closed, closedToo]
    exact ⟨alike, bound, held, outside⟩
  · exact ends.elim
  · exact ends.elim
  · obtain ⟨bound, held, middle, answers⟩ := ends
    obtain ⟨finish, finished, closed, closedToo, outside⟩ :=
      closes bound held (.ok answer) (.ok another)
      middle opened too
    rw [closed, closedToo]
    exact ⟨bound, held, outside, answers⟩

end Coincide

end Lowering

end LoopLang
