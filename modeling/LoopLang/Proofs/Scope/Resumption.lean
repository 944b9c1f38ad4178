import LoopLang.Proofs.Lowering.Growth
import LoopLang.Proofs.Scope.Refinement

/-! Where emission goes on behind balanced stretches of operations on the open frames. -/

namespace LoopLang

open Scopes (Answer Operation)

/--
A part of a well-nested sequence of operations: one operation on the innermost frame, or a balanced
stretch, which opens a frame, goes through further parts, and closes the frame.
-/
inductive Passage
  | moveTo (block : BlockRef)
  | declare (name : String) (binding : Binding)
  | lookup (name : String)
  | visibleNames
  | stretch (block : BlockRef) (options : FrameOptions) (inside : List Passage)

namespace Passage

mutual

/-- The operations of one part. -/
def operations : Passage → List Operation
  | moveTo block => [.moveTo block]
  | declare name binding => [.declare name binding]
  | lookup name => [.lookup name]
  | visibleNames => [.visibleNames]
  | stretch block options inside => .push block options :: (operationsAll inside ++ [.pop])

/-- The operations of some parts, one part after the other. -/
def operationsAll : List Passage → List Operation
  | [] => []
  | passage :: rest => passage.operations ++ operationsAll rest

end

mutual

/-- The block where the innermost frame stands behind one part, if it stood in the given block in
front of it. -/
def blockBehind (block : BlockRef) : Passage → BlockRef
  | moveTo target => target
  | stretch start options inside =>
    if options.isFunction then block else blockBehindAll start inside
  | declare .. | lookup _ | visibleNames => block

/-- The block where the innermost frame stands behind some parts, read from the first to the
last. -/
def blockBehindAll (block : BlockRef) : List Passage → BlockRef
  | [] => block
  | passage :: rest => blockBehindAll (passage.blockBehind block) rest

end

end Passage

namespace Scopes

/-- How many frames of their own operations leave open where some are open already; they may close
no others. -/
def Operation.openBehind : Nat → List Operation → Option Nat
  | count, [] => some count
  | count, .push .. :: rest => openBehind (count + 1) rest
  | 0, .pop :: _ => none
  | count + 1, .pop :: rest => openBehind count rest
  | count, .moveTo _ :: rest | count, .declare .. :: rest | count, .lookup _ :: rest
  | count, .visibleNames :: rest =>
    openBehind count rest

/-- Operations are well nested if they close every frame that they open, and no other one. -/
def Operation.WellNested (operations : List Operation) : Prop := openBehind 0 operations = some 0

end Scopes

namespace Passage

open Scopes.Operation (openBehind WellNested)

mutual

/-- One part leaves open what was open. -/
theorem openBehind_operations : ∀ (passage : Passage) (count : Nat) (rest : List Operation),
    openBehind count (passage.operations ++ rest) = openBehind count rest
  | moveTo _, _, _ | declare .., _, _ | lookup _, _, _ | visibleNames, _, _ => by
    simp only [operations, List.cons_append, List.nil_append, openBehind]
  -- What a stretch opens it closes behind its inner passages.
  | stretch block options inside, count, rest => by
    rw [operations, List.cons_append, List.append_assoc, openBehind,
      openBehind_operationsAll inside]
    rfl
termination_by structural passage => passage

/-- So do some parts. -/
theorem openBehind_operationsAll :
    ∀ (passages : List Passage) (count : Nat) (rest : List Operation),
    openBehind count (operationsAll passages ++ rest) = openBehind count rest
  | [], _, _ => rfl
  | passage :: others, count, rest => by
    rw [operationsAll, List.append_assoc, openBehind_operations passage,
      openBehind_operationsAll others]
termination_by structural passages => passages

end

/-- The operations of parts at several levels, where behind each level but the last one a frame is
closed. -/
def operationsOfLevels : List Passage → List (List Passage) → List Operation
  | inner, [] => operationsAll inner
  | inner, next :: outer => operationsAll inner ++ .pop :: operationsOfLevels next outer

/-- Operations that close as many frames as are open come in parts at one level more than those. -/
theorem exists_levels {operations : List Operation} {count : Nat}
    (closes : openBehind count operations = some 0) :
    ∃ inner outer, outer.length = count ∧ operations = operationsOfLevels inner outer := by
  induction operations generalizing count with
  | nil =>
    cases closes
    exact ⟨[], [], rfl, rfl⟩
  | cons operation rest ih =>
    -- An operation on the innermost frame is a part of the innermost level.
    have within (passage : Passage) (is : passage.operations = [operation])
      (closes : openBehind count rest = some 0) :
        ∃ inner outer, outer.length = count ∧
        operation :: rest = operationsOfLevels inner outer := by
      obtain ⟨inner, outer, length, rfl⟩ := ih closes
      refine ⟨passage :: inner, outer, length, ?_⟩
      cases outer <;> simp [operationsOfLevels, operationsAll, is]
    cases operation with
    | moveTo block => exact within (.moveTo block) rfl (by simpa [openBehind] using closes)
    | declare name binding =>
      exact within (.declare name binding) rfl (by simpa [openBehind] using closes)
    | lookup name => exact within (.lookup name) rfl (by simpa [openBehind] using closes)
    | visibleNames => exact within .visibleNames rfl (by simpa [openBehind] using closes)
    | push block options =>
      -- The innermost level is the inside of a stretch, which is a part of the next level.
      obtain ⟨inside, levels, length, rfl⟩ := ih closes
      obtain ⟨inner, outer, rfl⟩ := List.exists_cons_of_length_eq_add_one length
      refine ⟨.stretch block options inside :: inner, outer, Nat.succ.inj length, ?_⟩
      cases outer <;> simp [operationsOfLevels, operationsAll, operations]
    -- A pop ends the innermost level, and what follows belongs to the next one.
    | pop =>
      cases count with
      | zero => cases closes
      | succ count =>
        obtain ⟨inner, outer, length, rfl⟩ := ih closes
        exact ⟨[], inner :: outer, congrArg (· + 1) length, rfl⟩

/-- Well-nested operations are those that come in parts. -/
theorem wellNested_iff {operations : List Operation} :
    WellNested operations ↔ ∃ passages, operations = operationsAll passages := by
  constructor
  · intro nested
    -- No frame is left open, so there are no levels but the outermost one.
    obtain ⟨inner, outer, length, rfl⟩ := exists_levels nested
    cases List.length_eq_zero_iff.mp length
    exact ⟨inner, rfl⟩
  · rintro ⟨passages, rfl⟩
    have kept := openBehind_operationsAll passages 0 []
    rw [List.append_nil] at kept
    exact kept

end Passage

namespace Scopes

/-- The frames behind a sequence of operations, where those that fail change nothing. -/
def performAll (scopes : Scopes) (operations : List Operation) : Scopes :=
  (Operation.run perform scopes operations).2

/-- Operations are performed one after the other. -/
theorem performAll_cons (scopes : Scopes) (operation : Operation) (rest : List Operation) :
    scopes.performAll (operation :: rest) = (scopes.perform operation).2.performAll rest := rfl

/-- Two stretches of operations are performed in a row. -/
theorem performAll_append (scopes : Scopes) (first second : List Operation) :
    scopes.performAll (first ++ second) = (scopes.performAll first).performAll second := by
  induction first generalizing scopes with
  | nil => rfl
  | cons operation rest ih => exact ih _

/-- Each frame stands in a block, and code is emitted where the innermost one does, if there is
one. -/
structure Synced (scopes : Scopes) : Prop where
  placed : ∀ frame ∈ scopes.frames, frame.block.isSome
  emits : ∀ frame ∈ scopes.current?, scopes.cursor = frame.block

/-- Every operation keeps code and frames at one place. -/
theorem Synced.perform {scopes : Scopes} (synced : scopes.Synced) (operation : Operation) :
    (scopes.perform operation).2.Synced := by
  -- What fails leaves the stack as it was.
  have settled {answer : Answer} {result : Except ScopeError Scopes}
      (succeeds : ∀ later, result = .ok later → later.Synced) :
        (scopes.settle answer result).2.Synced := by
    cases result with
    | ok later => exact succeeds later rfl
    | error _ => exact synced
  have placed := synced.placed
  cases operation with
  | push block options =>
    refine ⟨fun frame inside => ?_, fun frame opened => ?_⟩
    · rcases List.mem_cons.mp inside with rfl | around
      · rfl
      · exact placed frame around
    · cases opened
      rfl
  | pop =>
    refine settled fun later popped => ?_
    cases opened : scopes.frames with
    | nil =>
      rw [Scopes.pop, opened] at popped
      cases popped
    | cons frame outer =>
      obtain ⟨closed, pops, resumed, emits⟩ := Builder.pop_ok opened
      cases popped.symm.trans pops
      rw [opened] at placed
      refine ⟨fun other inside => ?_, emits⟩
      rw [resumed] at inside
      -- The frame around the closed one may go on in the block where that one stood.
      cases outer with
      | nil => cases inside
      | cons next rest =>
        rcases List.mem_cons.mp inside with rfl | around
        · split
          · exact placed next (.tail _ (.head _))
          · exact placed frame (.head _)
        · exact placed other (.tail _ (.tail _ around))
  -- The frame and the builder move together.
  | moveTo block =>
    refine settled fun later moved => ?_
    obtain ⟨frame, outer, opened, frames, cursor⟩ := Builder.moveTo_ok moved
    rw [opened] at placed
    refine ⟨fun other inside => ?_, fun next innermost => ?_⟩
    · rw [frames] at inside
      rcases List.mem_cons.mp inside with rfl | around
      · rfl
      · exact placed other (.tail _ around)
    · rw [Scopes.current?, frames] at innermost
      cases innermost
      exact cursor
  -- A declaration moves neither of them.
  | declare name binding =>
    refine settled fun later declared => ?_
    obtain ⟨frame, outer, opened, _, cursor, frames⟩ := Builder.declare_ok declared
    have emits := synced.emits frame (by rw [Scopes.current?, opened]; rfl)
    rw [opened] at placed
    refine ⟨fun other inside => ?_, fun next innermost => ?_⟩
    · rw [frames] at inside
      rcases List.mem_cons.mp inside with rfl | around
      · exact placed frame (.head _)
      · exact placed other (.tail _ around)
    · rw [Scopes.current?, frames] at innermost
      cases innermost
      exact cursor.trans emits
  | lookup name => exact synced
  | visibleNames => exact synced

/-- So does every sequence of operations. -/
theorem Synced.performAll {scopes : Scopes} (synced : scopes.Synced) (operations : List Operation) :
    (scopes.performAll operations).Synced := by
  induction operations generalizing scopes with
  | nil => exact synced
  | cons operation rest ih => exact ih (synced.perform operation)

/-- Without a frame there is nothing to compare. -/
theorem Synced.empty : Scopes.empty.Synced where
  placed := fun _ inside => absurd inside List.not_mem_nil
  emits := fun _ opened => by cases opened

end Scopes

namespace Passage

open Scopes.Operation (WellNested)

variable {scopes : Scopes} {frame : Frame} {outer : List Frame}

/-- A frame that is opened is the innermost one. -/
theorem push_frames (scopes : Scopes) (block : BlockRef) (options : FrameOptions) :
    (scopes.push (some block) options).frames =
      Frame.opened (some block) options scopes.current? :: scopes.frames := rfl

/-- A stretch leaves the innermost frame as it was, but for the block that it goes on in. -/
theorem performAll_stretch (opened : scopes.frames = frame :: outer) (block : BlockRef)
    (options : FrameOptions) {inside : List Passage}
    (within : ∃ symbols,
      ((scopes.push (some block) options).performAll (operationsAll inside)).frames =
        { Frame.opened (some block) options scopes.current? with
          block := some (blockBehindAll block inside), symbols } :: scopes.frames) :
    (scopes.performAll (.push block options :: (operationsAll inside ++ [.pop]))).frames =
      { frame with
        block := if options.isFunction then frame.block else some (blockBehindAll block inside) } ::
          outer := by
  obtain ⟨symbols, frames⟩ := within
  obtain ⟨closed, pops, resumed, _⟩ := Builder.pop_ok frames
  have closes : (scopes.performAll (.push block options :: (operationsAll inside ++ [.pop]))) =
      closed := by
    rw [Scopes.performAll_cons, Scopes.performAll_append, Scopes.performAll_cons]
    show (Scopes.settle _ .closed (Scopes.pop _)).2 = closed
    rw [Scopes.perform, pops]
    rfl
  rw [closes, resumed, opened, Builder.resume]
  -- Only the frame of a function is closed without a trace.
  show (if options.isFunction then frame else _) :: outer = _
  split <;> rfl

mutual

/-- One part changes the innermost frame only, which then stands in the block behind the part. -/
theorem performAll_operations : ∀ (passage : Passage) {scopes : Scopes} {frame : Frame}
    {outer : List Frame} {here : BlockRef}, scopes.frames = frame :: outer →
    frame.block = some here →
      ∃ symbols, (scopes.performAll passage.operations).frames =
        { frame with block := some (passage.blockBehind here), symbols } :: outer
  -- Within the frame only its block and its names can change.
  | moveTo block, scopes, frame, outer, _, opened, _ => by
    refine ⟨frame.symbols, ?_⟩
    simp only [operations, Scopes.performAll, Operation.run, Scopes.perform, Scopes.moveTo, opened,
      Scopes.settle]
    rfl
  | declare name binding, scopes, frame, outer, _, opened, placed => by
    simp only [operations, Scopes.performAll, Operation.run, Scopes.perform, Scopes.declare, opened,
      blockBehind, ← placed]
    split
    · exact ⟨frame.symbols, opened⟩
    · exact ⟨_, rfl⟩
  | lookup _, _, frame, _, _, opened, placed | visibleNames, _, frame, _, _, opened, placed => by
    rw [blockBehind, ← placed]
    exact ⟨frame.symbols, opened⟩
  -- A frame that is opened and closed again gives back its block, unless it is a function's.
  | stretch block options inside, scopes, frame, outer, _, opened, placed => by
    have frames := performAll_stretch opened block options
      (performAll_operationsAll inside (push_frames scopes block options) rfl)
    rw [blockBehind, apply_ite some, ← placed]
    exact ⟨frame.symbols, frames⟩
termination_by structural passage => passage

/-- So do some parts. -/
theorem performAll_operationsAll : ∀ (passages : List Passage) {scopes : Scopes} {frame : Frame}
    {outer : List Frame} {here : BlockRef}, scopes.frames = frame :: outer →
    frame.block = some here →
      ∃ symbols, (scopes.performAll (operationsAll passages)).frames =
        { frame with block := some (blockBehindAll here passages), symbols } :: outer
  | [], _, frame, _, _, opened, placed => by
    rw [blockBehindAll, ← placed]
    exact ⟨frame.symbols, opened⟩
  -- The next passage begins in the block where this one has ended.
  | passage :: rest, scopes, frame, outer, _, opened, placed => by
    obtain ⟨_, first⟩ := performAll_operations passage opened placed
    obtain ⟨symbols, further⟩ := performAll_operationsAll rest first rfl
    rw [operationsAll, Scopes.performAll_append]
    exact ⟨symbols, further⟩
termination_by structural passages => passages

end

end Passage

namespace Scopes

/-- How emission goes on behind balanced stretches of operations, from frames of which the given one
is the innermost. -/
structure Resumes (scopes : Scopes) (frame : Frame) (outer : List Frame) : Prop where
  /-- Behind a stretch in the frame of a function, the frames and the place of emission are what
  they were. -/
  function : ∀ block options inside, options.isFunction = true → Operation.WellNested inside →
    (scopes.performAll (.push block options :: (inside ++ [.pop]))).frames = scopes.frames ∧
      (scopes.performAll (.push block options :: (inside ++ [.pop]))).cursor = scopes.cursor
  /-- Behind another stretch, the frame around it and emission go on in the block behind the parts
  inside. -/
  nested : ∀ block options (inside : List Passage), options.isFunction = false →
    (scopes.performAll (.push block options :: (Passage.operationsAll inside ++ [.pop]))).frames =
        { frame with block := some (Passage.blockBehindAll block inside) } :: outer ∧
      (scopes.performAll (.push block options :: (Passage.operationsAll inside ++ [.pop]))).cursor =
        some (Passage.blockBehindAll block inside)
  /-- All that is well nested comes in such parts. -/
  parts : ∀ inside, Operation.WellNested inside → ∃ passages,
    inside = Passage.operationsAll passages
  /-- At every moment code is emitted where the innermost frame stands. -/
  synced : ∀ operations, (scopes.performAll operations).Synced

/-- Emission goes on in the right block behind every balanced stretch, whatever was done in front of
it. -/
theorem performAll_resumes (before : List Operation) {frame : Frame} {outer : List Frame}
    (opened : (empty.performAll before).frames = frame :: outer) :
    Resumes (empty.performAll before) frame outer := by
  generalize start : empty.performAll before = scopes at opened
  -- The cursor stands where the innermost frame does, after every operation.
  have synced : ∀ operations, (scopes.performAll operations).Synced :=
    (start ▸ Synced.empty.performAll before : scopes.Synced).performAll
  have emits (operations : List Operation) {innermost : Frame} {rest : List Frame}
      (frames : (scopes.performAll operations).frames = innermost :: rest) :
      (scopes.performAll operations).cursor = innermost.block :=
    (synced operations).emits innermost (by rw [current?, frames]; rfl)
  -- Nested passages in between leave the outer frames alone.
  have stretches (block : BlockRef) (options : FrameOptions) (inside : List Passage) :=
    Passage.performAll_stretch opened block options
      (Passage.performAll_operationsAll inside (Passage.push_frames scopes block options) rfl)
  refine {
    function := fun block options inside function nested => ?_
    nested := fun block options inside other => ?_
    parts := fun inside => Passage.wellNested_iff.mp
    synced := synced }
  · obtain ⟨passages, rfl⟩ := Passage.wellNested_iff.mp nested
    have frames := stretches block options passages
    rw [if_pos function] at frames
    exact ⟨frames.trans opened.symm, (emits _ frames).trans (emits [] opened).symm⟩
  · have frames := stretches block options inside
    rw [if_neg (by simp [other])] at frames
    exact ⟨frames, emits _ frames⟩

/-- A block of a function. -/
def blockOf (function label : String) : BlockRef := ⟨.text function, label⟩

/-- Inside a block: an arm that ends elsewhere, a function that moves on as well, and a name. -/
def insideBlock : List Passage := [
  .stretch (blockOf "entry" "if_then") {} [.moveTo (blockOf "entry" "if_merge")],
  .stretch (blockOf "f" "entry") { isFunction := true } [.moveTo (blockOf "f" "loop_end")],
  .declare "x" (.var .void none)]

/-- Behind that block, code is emitted where the arm ended. -/
theorem insideBlock_resumes :
    (empty.performAll [.push (blockOf "entry" "entry") { isFunction := true }]).frames =
        [Frame.opened (some (blockOf "entry" "entry")) { isFunction := true } none] ∧
      ((empty.performAll [.push (blockOf "entry" "entry") { isFunction := true }]).performAll
        (.push (blockOf "entry" "entry")
          {} :: (Passage.operationsAll insideBlock ++ [.pop]))).cursor =
          some (blockOf "entry" "if_merge") := by
  -- The frame of the function is the only one around.
  have opened : (empty.performAll [.push (blockOf "entry" "entry") { isFunction := true }]).frames =
      [Frame.opened (some (blockOf "entry" "entry")) { isFunction := true } none] := rfl
  exact ⟨opened, ((performAll_resumes _ opened).nested (blockOf "entry" "entry")
    {} insideBlock rfl).2⟩

end Scopes

end LoopLang
