import LoopLang.Proofs.History
import LoopLang.Proofs.Typing.Statement

/-! Sessions compile the programs that are well-typed, and no others. -/

namespace LoopLang

/-- Lowering a program decides whether it is well-typed, if its function can have a name. -/
theorem Program.lower_decides {start : Builder} (sound : start.Sound)
    (closed : start.scopes.frames = []) (name : Document) (program : Program) :
    (program.toTree.lowerProgram name).Ends start
      (fun _ _ => Lowering.IsName name ∧ program.WellTyped)
      (fun _ _ => Lowering.IsName name → ¬ program.WellTyped) := by
  have ends := @Lowering.lowerEntry_ends start sound name
    (Tree.list (Statement.toTrees program.body)).lowerBody
    (fun _ _ => Lowering.IsName name ∧ program.WellTyped)
    (fun _ => Lowering.IsName name → ¬ program.WellTyped)
  refine (ends (fun named function created creates entry begun begins => ?_) fun unnamed _ named =>
    absurd named unnamed).imp (fun _ _ held => held.2) fun _ _ held => held.2
  obtain ⟨opened, _, makes, _, _, _, _, stores⟩ := begins.opened
  -- Only the frame of the entry is open, and it has no names yet.
  have none_open : opened.scopes.frames = [] := by rw [makes.scopes, creates.frames, closed]
  have pushed : Shows (opened.pushed entry (Lowering.functionOptions function)).scopes.frames
      [⟨.function .void, []⟩] :=
    .cons ⟨⟨rfl, rfl, congrArg (some ∘ Kind.exact) creates.result⟩, rfl⟩ (none_open ▸ .nil)
  have shown : Shows begun.scopes.frames [⟨.function .void, []⟩] :=
    @Builder.Stores.shows _ _ function.parameters [] stores _ _ _ pushed
  -- So the statements are judged in a context without any names.
  refine (Statement.lowerStatements_judges program.body begins.stage shown).imp
    (fun _ ended held => ⟨held.1, ?_⟩)
    fun _ _ held => ⟨held.1, fun _ ⟨after, stand⟩ => held.2 after stand⟩
  intro _ _
  obtain ⟨after, stand, _⟩ := held.2
  exact ⟨named, after, stand⟩

namespace Session

/--
Whatever a session has compiled before, it compiles a program of the grammar exactly if the program
is well-typed. Settings by which its function can have no name are the exception: with them, none is
compiled.
-/
theorem compile_wellTyped {overrides : Document} {debug : Bool} {session : Session}
    (started : Session.start overrides debug = .ok session) (history : List Tree)
    (program : Program) :
    (Lowering.IsName session.settings.entryName →
      (((session.compileAll history).2.compile program.toTree).1.isOk = true ↔ program.WellTyped)) ∧
    (¬ Lowering.IsName session.settings.entryName →
      ((session.compileAll history).2.compile program.toTree).1.isOk = false) := by
  have sound : session.builder.Sound := start_builder started ▸ .empty
  have same := session.compileAll_settings history
  obtain ⟨sound, _⟩ := compileAll_grows sound history
  -- No earlier program has left a frame open.
  have depth : (session.compileAll history).2.builder.scopes.depth = 0 := by
    rw [compileAll_depth, start_builder started]
    rfl
  have decides := program.lower_decides sound
    (List.length_eq_zero_iff.mp depth) session.settings.entryName
  unfold Lowering.Ends at decides
  rw [compile_eq, same]
  revert decides
  rcases (program.toTree.lowerProgram session.settings.entryName).outcome
    (session.compileAll history).2.builder with ⟨failure | entry, finish⟩
  -- A refusal means that the program is not well typed.
  · exact fun refused =>
      ⟨fun named => ⟨nofun, fun typed => absurd typed (refused named)⟩, fun _ => rfl⟩
  -- Success means that it is, and that the entry has a name.
  · exact fun ⟨named, typed⟩ =>
      ⟨fun _ => ⟨fun _ => typed, fun _ => rfl⟩, fun unnamed => absurd named unnamed⟩

/-- A function that doubles a number, and a loop that it is called in. -/
def doubling : Program := ⟨[
  .function .start ⟨.start, "twice"⟩ [⟨.start, "x", .num⟩] .start
    [.return .start (some (.binary .start .add (.identifier .start "x") (.identifier .start "x")))]
    .num,
  .loop .start (.boolean .start true) .start [
    .declare .start ⟨.start, "y"⟩ none (.call .start ⟨.start, "twice"⟩ [.number .start 1.0]),
    .break .start none] none]⟩

/-- That program is well-typed, and one that breaks out of no loop is not, as a session finds that
has compiled it. -/
theorem doubling_wellTyped : ∃ session, Session.start (.object []) false = .ok session ∧
    doubling.WellTyped ∧ ¬ stray.WellTyped := by
  have started : Session.start (.object []) false = .ok ⟨Settings.default, false, .empty, none⟩ :=
    rfl
  have named : Lowering.IsName Settings.default.entryName := trivial
  -- Both programs are compiled, and the answers tell whether the rules hold.
  have accepts := (compile_wellTyped started [] doubling).1 named
  have refuses := (compile_wellTyped started [doubling.toTree] stray).1 named
  refine ⟨_, started, accepts.mp (by decide +kernel), fun typed => ?_⟩
  have compiled := refuses.mpr typed
  revert compiled
  decide +kernel

end Session

end LoopLang
