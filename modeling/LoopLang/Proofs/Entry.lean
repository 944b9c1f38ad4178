import LoopLang.Proofs.Lowering.Nesting
import LoopLang.Proofs.Session

/-! Entries: how the function that a program becomes is opened, filled and closed. -/

namespace LoopLang

open Code (Name Function)

namespace Lowering

/-- Behind a frame that no other one is around, no frame is open. -/
theorem closeFrame_last {α : Type} (result : Except Failure α) {builder : Builder} {frame : Frame}
    (opened : builder.scopes.frames = [frame]) :
    (closeFrame result builder).1 = result ∧ (closeFrame result builder).2.code = builder.code := by
  have popped : builder.scopes.pop =
      .ok ({ builder.scopes with frames := [] }.note "pop scope #1") := by
    simp only [Scopes.pop, opened]
  simp [closeFrame, popped, Scopes.isAdrift, Scopes.note]

/-- The function that a program becomes, and the builder in which it has been created. -/
def createEntry (name : Name) (builder : Builder) : Function × Builder :=
  let (function, code) := builder.code.addFunction name [] .void
  let scopes := builder.scopes.note s!"function '{function.name.display}' : {function.typeText}"
  (function, { builder with code, scopes })

/-- The function that a program becomes, and the builder in which the contents of its body are
lowered. -/
def openEntry (name : Name) (builder : Builder) : Function × Builder :=
  let (function, builder) := createEntry name builder
  let (label, code) := builder.code.addBlock function.name "entry"
  let options : FrameOptions :=
    { function := some function.name, isFunction := true, result := some (.exact function.result) }
  (function,
    { builder with code, scopes := builder.scopes.push (some ⟨function.name, label⟩) options })

/-- What stands within the frame of a program's function. -/
def entryContents (function : Function) (body : Lowering Unit) : Lowering Unit := do
  storeParameters function.parameters []
  body
  closeFunction function.result

/-- A program is lowered within the frame of its function, which is closed in any case. -/
theorem lowerEntry_outcome {document : Document} {name : Name}
    (named : readName document = pure name) (body : Lowering Unit) (builder : Builder) :
    (lowerEntry document body).outcome builder =
      let (function, start) := openEntry name builder
      let (result, finish) := (entryContents function body).outcome start
      let (result, finish) := closeFrame result finish
      (result.map fun _ => function.name, finish) := by
  -- The function and its frame come first, and the frame is closed in any case.
  have creates : (createTypedFunction name [] .void).outcome builder =
      (.ok (createEntry name builder).1, (createEntry name builder).2) := rfl
  have lowers : (lowerFunctionBody (createEntry name builder).1 [] body).outcome
        (createEntry name builder).2 =
      closeFrame
        ((entryContents (openEntry name builder).1 body).outcome (openEntry name builder).2).1
        ((entryContents (openEntry name builder).1 body).outcome (openEntry name builder).2).2 :=
    rfl
  simp only [lowerEntry, named, pure_bind, outcome_bind, creates, lowers]
  rcases closeFrame
    ((entryContents (openEntry name builder).1 body).outcome (openEntry name builder).2).1
    ((entryContents (openEntry name builder).1 body).outcome (openEntry name builder).2).2
    with ⟨_ | _, _⟩ <;> rfl

/-- The frame of a program's function is the only one where no other one was open. -/
theorem openEntry_frames (name : Name) {builder : Builder} (closed : builder.scopes.frames = []) :
    (openEntry name builder).2.scopes.frames = [Frame.opened (some ⟨(openEntry name builder).1.name,
      ((builder.code.addFunction name [] .void).2.addBlock
        (openEntry name builder).1.name "entry").1⟩)
        { function := some (openEntry name builder).1.name, isFunction := true
          result := some (.exact (openEntry name builder).1.result) } none] := by
  simp only [openEntry, createEntry, Scopes.push, Scopes.note, Scopes.current?, closed,
    List.head?_nil]

/-- What stands within the frame of a program's function closes the frames that it opens. -/
theorem entryContents_nested (function : Function) {body : Lowering Unit} (nested : Nested body) :
    Nested (entryContents function body) :=
  .functionContents function [] nested

/-- Where no frame is open, the result and the code of a program are those of what stands within its
frame. -/
theorem lowerEntry_contents {document : Document} {name : Name}
    (named : readName document = pure name) {body : Lowering Unit} (nested : Nested body)
    {builder : Builder} (closed : builder.scopes.frames = []) :
    ((lowerEntry document body).outcome builder).1 =
        ((entryContents (openEntry name builder).1 body).outcome (openEntry name builder).2).1.map
          (fun _ => (openEntry name builder).1.name) ∧
      ((lowerEntry document body).outcome builder).2.code =
        ((entryContents (openEntry name builder).1 body).outcome
          (openEntry name builder).2).2.code := by
  -- Behind the contents the frame of the function is the only one, as it was in front of them.
  have nests := (entryContents_nested (openEntry name builder).1 nested).nests
    (openEntry name builder).2 (.inr rfl)
  obtain ⟨more, last, opened⟩ := nests.continues
    |>.imp fun _ continues => openEntry_frames name closed ▸ continues
  rw [lowerEntry_outcome named]
  have only := closeFrame_last
    ((entryContents (openEntry name builder).1 body).outcome (openEntry name builder).2).1 opened
  exact ⟨congrArg (Except.map fun _ => (openEntry name builder).1.name) only.1, only.2⟩

end Lowering

namespace Session

/-- Compiling is lowering in the builder of the session. -/
theorem compile_outcome (session : Session) (tree : Tree) :
    (session.compile tree).1 =
      ((tree.lowerProgram session.settings.entryName).outcome session.builder).1 ∧
      (session.compile tree).2.builder =
        ((tree.lowerProgram session.settings.entryName).outcome session.builder).2 := by
  rw [compile_eq]
  -- The session keeps what the builder has become, whether the lowering failed or not.
  rcases (tree.lowerProgram session.settings.entryName).outcome session.builder with ⟨_ | _, _⟩ <;>
    exact ⟨rfl, rfl⟩

end Session

end LoopLang
