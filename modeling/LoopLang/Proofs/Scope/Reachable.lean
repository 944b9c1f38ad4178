import LoopLang.Scope.Stack

/-! Scopes that lowering can reach: the names in them are bound as declarations bind them. -/

namespace LoopLang

/-- A variable has a slot exactly if its kind has values, and a function has an exact result. -/
def Binding.IsDefinite : Binding → Prop
  | .var kind slot => slot.isSome = kind.value?.isSome
  | .fn _ result _ => result.isExact = true

namespace Scopes

/-- A frame that is opened is the innermost one. -/
@[simp]
theorem push_frames (scopes : Scopes) (block : Option BlockRef) (options : FrameOptions) :
    (scopes.push block options).frames =
      Frame.opened block options scopes.current? :: scopes.frames := by
  cases block <;> rfl

/-- Code is emitted into the block of a frame that is opened. -/
@[simp]
theorem push_cursor (scopes : Scopes) (block : Option BlockRef) (options : FrameOptions) :
    (scopes.push block options).cursor = block := by
  cases block <;> rfl

/-- What the operations on scopes make of no frames, if every name is bound definitely. -/
inductive Reachable : Scopes → Prop
  | empty : Reachable .empty
  | push {scopes : Scopes} (reachable : Reachable scopes) (block : Option BlockRef)
      (options : FrameOptions) : Reachable (scopes.push block options)
  | pop {scopes later : Scopes} (reachable : Reachable scopes) (popped : scopes.pop = .ok later) :
      Reachable later
  | moveTo {scopes later : Scopes} (reachable : Reachable scopes) {block : BlockRef}
      (moved : scopes.moveTo block = .ok later) : Reachable later
  | declare {scopes later : Scopes} (reachable : Reachable scopes) {name : String}
      {binding : Binding} (definite : binding.IsDefinite)
      (declared : scopes.declare name binding = .ok later) :
      Reachable later
  /-- Debug lines come and go. -/
  | log {scopes : Scopes} (reachable : Reachable scopes) (log : List String) :
      Reachable { scopes with log }

/-- Every name in the frames is bound definitely. -/
def Definite (scopes : Scopes) : Prop :=
  ∀ frame ∈ scopes.frames, ∀ entry ∈ frame.symbols, entry.2.IsDefinite

/-- Closing a frame leaves the symbols of the others. -/
theorem Definite.pop {scopes later : Scopes} (definite : scopes.Definite)
    (popped : scopes.pop = .ok later) : later.Definite := by
  unfold Scopes.pop at popped
  split at popped
  · cases popped
  · cases popped
    intro frame member
    cases member
  · rename_i frame outer rest opened
    cases popped
    intro other member entry inside
    -- The frame that is gone on with has the symbols that it had.
    have outside : ∀ entry ∈ outer.symbols, entry.2.IsDefinite := definite outer (by simp [opened])
    rcases List.mem_cons.mp member with rfl | later
    · cases kind : frame.isFunction <;> exact outside entry (by simpa [kind] using inside)
    · exact definite other (by simp [opened, later]) entry inside

/-- Whatever lowering can reach is definite. -/
theorem Reachable.definite {scopes : Scopes} (reachable : scopes.Reachable) : scopes.Definite := by
  -- Only a declaration adds a binding, and what it adds is definite.
  induction reachable with
  | empty =>
    intro frame member
    cases member
  -- A new frame has no bindings.
  | push _ block options ih =>
    intro frame member entry inside
    rw [push_frames] at member
    rcases List.mem_cons.mp member with rfl | old
    · cases inside
    · exact ih frame old entry inside
  | pop _ popped ih => exact ih.pop popped
  -- A frame that moves keeps its bindings.
  | moveTo _ moved ih =>
    rename_i scopes later block
    unfold Scopes.moveTo at moved
    split at moved
    · cases moved
    · rename_i frame rest opened
      cases moved
      intro other member entry inside
      rcases List.mem_cons.mp member with rfl | old
      · exact ih frame (by simp [opened]) entry inside
      · exact ih other (by simp [opened, old]) entry inside
  | declare _ definite declared ih =>
    unfold Scopes.declare at declared
    split at declared
    · cases declared
    · rename_i frame rest opened
      split at declared
      · cases declared
      · cases declared
        intro other member entry inside
        rcases List.mem_cons.mp member with rfl | old
        -- In the innermost frame the new binding is the last one.
        · rcases List.mem_append.mp inside with before | new
          · exact ih frame (by simp [opened]) entry before
          · rw [List.mem_singleton.mp new]
            exact definite
        · exact ih other (by simp [opened, old]) entry inside
  | log _ lines ih => exact ih

end Scopes

end LoopLang
