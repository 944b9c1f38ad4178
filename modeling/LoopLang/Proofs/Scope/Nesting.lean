import LoopLang.Proofs.Lowering.Growth
import LoopLang.Proofs.Scope.Reachable

/-! Runs of operations on the open frames in which every frame that is opened is closed again. -/

namespace LoopLang.Scopes

open Builder (Continues)

/-- Lines that say that a frame is opened or closed. -/
def IsFrameLine (line : String) : Prop :=
  ∃ rest, line = "push scope #" ++ rest ∨ line = "pop scope #" ++ rest

/-- A line that begins with another letter is none of those. -/
theorem not_isFrameLine {line : String} (other : line.toList.head? ≠ some 'p') :
    ¬ IsFrameLine line := by
  rintro ⟨rest, rfl | rfl⟩ <;> simp at other

/--
What a run of operations makes of scopes, if each frame that it opens is closed by one later step of
the same run. The frame that is closed is the one that was opened, so the frame opened last is
closed first. Other lines than those of the frames may be noted, and what is declared is definite.
-/
inductive Nests : Scopes → Scopes → Prop
  | done (scopes : Scopes) : Nests scopes scopes
  | moveTo {scopes middle later : Scopes} {block : BlockRef}
      (moved : scopes.moveTo block = .ok middle) (rest : Nests middle later) : Nests scopes later
  | declare {scopes middle later : Scopes} {name : String} {binding : Binding}
      (definite : binding.IsDefinite) (declared : scopes.declare name binding = .ok middle)
      (rest : Nests middle later) : Nests scopes later
  | note {scopes later : Scopes} {line : String} (plain : ¬ IsFrameLine line)
      (rest : Nests (scopes.note line) later) : Nests scopes later
  | frame {scopes inner middle later : Scopes} (block : BlockRef) (options : FrameOptions)
      {last : Option BlockRef} {symbols : List (String × Binding)}
      (inside : Nests (scopes.push (some block) options) inner)
      (same : inner.frames =
        { Frame.opened (some block) options scopes.current? with block := last, symbols } ::
          scopes.frames)
      (popped : inner.pop = .ok middle) (rest : Nests middle later) : Nests scopes later

/-- Emission that moves on changes the innermost frame only. -/
theorem moveTo_continues {scopes later : Scopes} {block : BlockRef}
    (moved : scopes.moveTo block = .ok later) :
    Continues [] scopes.frames later.frames := by
  obtain ⟨frame, outer, opened, frames, _⟩ := Builder.moveTo_ok moved
  rw [opened, frames]
  exact ⟨some block, by simp⟩

/-- A name that is declared is added to the innermost frame only. -/
theorem declare_continues {scopes later : Scopes} {name : String} {binding : Binding}
    (declared : scopes.declare name binding = .ok later) :
    Continues [(name, binding)] scopes.frames later.frames := by
  obtain ⟨frame, outer, opened, _, _, frames⟩ := Builder.declare_ok declared
  rw [opened, frames]
  exact ⟨frame.block, rfl⟩

/-- A frame that is closed is gone, and the one around it may go on in another block. -/
theorem pop_continues {scopes later : Scopes} {frame : Frame} {outer : List Frame}
    (opened : scopes.frames = frame :: outer) (popped : scopes.pop = .ok later) :
    Continues [] outer later.frames := by
  obtain ⟨closed, pops, frames, _⟩ := Builder.pop_ok opened
  cases popped.symm.trans pops
  rw [frames]
  exact Builder.resume_continues frame outer

/-- Where a frame is closed and code goes on, it is emitted somewhere, as it was within the
frame. -/
theorem pop_placed {scopes later : Scopes} (popped : scopes.pop = .ok later)
    (goes_on : later.isAdrift = false) (placed : scopes.cursor.isSome) : later.cursor.isSome := by
  unfold Scopes.pop at popped
  split at popped
  · cases popped
  -- Without a frame around it the cursor stays where it was.
  · cases popped
    exact placed
  · cases popped
    simpa [isAdrift, Scopes.note] using goes_on

namespace Nests

/-- A run goes on where another one ends. -/
theorem trans {scopes middle later : Scopes} (first : Nests scopes middle)
    (second : Nests middle later) :
    Nests scopes later := by
  induction first with
  | done => exact second
  | moveTo moved _ ih => exact .moveTo moved (ih second)
  | declare definite declared _ ih => exact .declare definite declared (ih second)
  | note plain _ ih => exact .note plain (ih second)
  -- What follows is appended behind the closed frame, not inside it.
  | frame block options inside same popped _ _ ih =>
    exact .frame block options inside same popped (ih second)

/-- A run leaves the frames that were open, in their order; only the innermost one moves on and gets
names. -/
theorem continues {scopes later : Scopes} (nests : Nests scopes later) :
    ∃ more, Continues more scopes.frames later.frames := by
  induction nests with
  | done => exact ⟨[], .refl _⟩
  | moveTo moved _ ih => exact ih.imp fun _ rest => (moveTo_continues moved).trans rest
  | declare _ declared _ ih =>
    exact ih.elim fun _ rest => ⟨_, (declare_continues declared).trans rest⟩
  | note _ _ ih => exact ih
  -- The inside is gone with its frame, so only the closing and what follows count.
  | frame block options _ same popped _ _ ih =>
    exact ih.imp fun _ rest => (pop_continues same popped).trans rest

/-- A run in a frame of its own can be closed: behind it the frame that was opened is the innermost
one. -/
theorem within {scopes inner : Scopes} {block : BlockRef} {options : FrameOptions}
    (inside : Nests (scopes.push (some block) options) inner) :
    ∃ middle, inner.pop = .ok middle ∧ Nests scopes middle := by
  obtain ⟨more, last, frames⟩ := inside.continues
  obtain ⟨middle, popped, _⟩ := Builder.pop_ok frames
  exact ⟨middle, popped, .frame block options inside frames popped (.done middle)⟩

/-- A run keeps the number of open frames. -/
theorem depth {scopes later : Scopes} (nests : Nests scopes later) :
    later.depth = scopes.depth := by
  obtain ⟨more, continues⟩ := nests.continues
  unfold Scopes.depth
  -- Frames are the same but for the innermost one, so there are as many.
  cases opened : scopes.frames with
  | nil => rw [opened] at continues; rw [continues.1]
  | cons frame outer =>
    rw [opened] at continues
    obtain ⟨_, frames⟩ := continues
    simp only [frames, List.length_cons]

/-- A run from scopes that lowering can reach ends in such scopes. -/
theorem reachable {scopes later : Scopes} (nests : Nests scopes later)
    (reachable : scopes.Reachable) :
    later.Reachable := by
  -- Each move is one of those that reachable scopes are made by.
  induction nests with
  | done => exact reachable
  | moveTo moved _ ih => exact ih (.moveTo reachable moved)
  | declare definite declared _ ih => exact ih (.declare reachable definite declared)
  | note _ _ ih => exact ih (.log reachable _)
  | frame block options _ _ popped _ inside rest =>
    exact rest (.pop (inside (.push reachable block options)) popped)

end Nests

end LoopLang.Scopes
