import LoopLang.Proofs.Entry
import LoopLang.Proofs.History
import LoopLang.Proofs.Initialisation.Execution
import LoopLang.Proofs.Initialisation.Statement

/-! Definite initialisation: in whatever a session compiles, no variable is read before it has a
value. -/

namespace LoopLang

open Code (Name Ledger)

namespace Lowering

variable {ledger : Ledger} {builder : Builder}

/-- The function of a program begins where nothing is visible and nothing is promised. -/
theorem openEntry_settled (name : Name) (keeps : ledger.Keeps builder.code)
    (closed : builder.scopes.frames = []) :
    ∃ larger : Ledger, (openEntry name builder).2.Settled larger
      (openEntry name builder).1.name [] := by
  have created := keeps.addFunction name [] .void
  have found := (keeps.tidy.function?_addFunction name _ [] .void).trans (if_pos rfl)
  -- The entry block is new, and nothing is promised for it.
  obtain ⟨-, begun⟩ := created.addBlock found "entry" [] (.inl rfl)
  obtain ⟨body, stands⟩ := begun.known _ [] (if_pos rfl)
  have frames := openEntry_frames name closed
  refine ⟨_, begun, ?_, ?_, ?_, ?_, ?_⟩
  -- The only frame is that of the function, in which no name stands.
  · rw [frames]
    exact ⟨⟨⟨_, body, rfl, rfl,
      stands, by simp [Frame.slots, Frame.opened]⟩, by simp [Frame.opened]⟩, by simp, trivial⟩
  · rw [Builder.block?, Scopes.current?, frames]
    rfl
  · exact ⟨_, by rw [Builder.block?, Scopes.current?, frames]; rfl, rfl⟩
  · rw [frames]
    simp [Frame.slots, Frame.opened]
  · rw [frames]
    simp [Frame.slots, Frame.opened]

/-- A program leaves code that keeps to a ledger, whether it succeeds or fails. -/
theorem lowerEntry_keeps (document : Document) {body : Lowering Unit} (nested : Nested body)
    (flows : FlowsAnywhere body) (keeps : ledger.Keeps builder.code)
    (closed : builder.scopes.frames = []) :
    ∃ later : Ledger, later.Keeps ((lowerEntry document body).outcome builder).2.code := by
  have named (name : Name) (read : readName document = pure name) :
      ∃ later : Ledger, later.Keeps ((lowerEntry document body).outcome builder).2.code := by
    obtain ⟨larger, settled⟩ := openEntry_settled name keeps closed
    have contents : Flows (openEntry name builder).1.name [] larger
        (entryContents (openEntry name builder).1 body) :=
      .functionContents _ _ _ _ [] flows
    have ends := contents larger [] (.refl _) (List.Subset.refl _) _ settled
    -- What the function becomes is decided once its contents are lowered.
    rw [(lowerEntry_contents read nested closed).2]
    unfold Ends at ends
    generalize (entryContents (openEntry name builder).1 body).outcome
      (openEntry name builder).2 = ended at ends ⊢
    obtain ⟨failure | answer, finish⟩ := ended
    · exact ends
    · obtain ⟨later, _, _, _, finished⟩ := ends
      exact ⟨later, finished.keeps⟩
  cases document with
  -- A list or a table is no name, so nothing is created at all.
  | list items => exact ⟨ledger, keeps⟩
  | object entries => exact ⟨ledger, keeps⟩
  | null | boolean | integer | number | moment | text => exact named _ rfl

end Lowering

/-- So does any tree that is lowered as a program. -/
theorem Tree.lowerProgram_keeps {ledger : Ledger} {builder : Builder} (entry : Document)
    (tree : Tree) (keeps : ledger.Keeps builder.code) (closed : builder.scopes.frames = []) :
    ∃ later : Ledger, later.Keeps ((lowerProgram entry tree).outcome builder).2.code := by
  unfold lowerProgram
  split
  · exact Lowering.lowerEntry_keeps entry (lower_nested_all.2.2.1 _).narrow
      (lower_flows_all.2.2.1 _) keeps closed
  · exact ⟨ledger, keeps⟩

namespace Session

/-- The code of a session keeps to a ledger, whatever it compiles. -/
theorem compileAll_keeps {ledger : Ledger} {session : Session}
    (keeps : ledger.Keeps session.builder.code) (closed : session.builder.scopes.frames = [])
    (trees : List Tree) :
    ∃ later : Ledger, later.Keeps (session.compileAll trees).2.builder.code := by
  -- By induction on the trees: each of them is lowered where no frame is open.
  induction trees generalizing session ledger with
  | nil => exact ⟨ledger, keeps⟩
  | cons tree rest ih =>
    obtain ⟨later, next⟩ := tree.lowerProgram_keeps session.settings.entryName keeps closed
    rw [← (session.compile_outcome tree).2] at next
    exact ih next (List.length_eq_zero_iff.mp
      ((compile_depth session tree).trans (congrArg List.length closed)))

/--
In whatever a session has compiled, with or without success, every execution of a function reads a
slot only behind a store to it by the same call, although all slots are reserved at the start of the
function.
-/
theorem compileAll_initialises {overrides : Document} {debug : Bool} {session : Session}
    (started : Session.start overrides debug = .ok session) (trees : List Tree) :
    (session.compileAll trees).2.builder.code.Initialises := by
  have new := start_builder started
  -- A new session has no code, so the ledger begins without any promise.
  have nothing : (⟨fun _ => none⟩ : Ledger).Keeps session.builder.code := by
    rw [new]
    exact .empty
  obtain ⟨later, keeps⟩ := compileAll_keeps nothing (by rw [new]; rfl) trees
  exact keeps.initialises

/-- A function that answers its argument. -/
def echo : Program :=
  ⟨[.function .start ⟨.start, "f"⟩ [⟨.start, "b", .bool⟩] .start
    [.return .start (some (.identifier .start "b"))] .bool]⟩

/-- The block that the function becomes. -/
def echoed : Code.Block :=
  ⟨"entry", [.alloca "argument.b" .bool, .store (.register "b" .bool) .bool "argument.b",
    .load "b.1" .bool "argument.b", .returnValue (.register "b.1" .bool)]⟩

/-- In front of the read, the block reserves the slot and stores the argument. -/
theorem executes_echoed (module : Code.Module) (function : Code.Function) :
    Code.Executes module ⟨function, echoed.instructions, [("b", .boolean true)], []⟩
      ⟨⟨function, echoed.instructions.drop 2, [("b", .boolean true)],
        [("argument.b", some (.boolean true))]⟩, []⟩
      [echoed.instructions.take 2] := by
  let passed : List (String × Value) := [("b", .boolean true)]
  have reserves : Code.Configuration.step module ⟨⟨function, echoed.instructions, passed, []⟩, []⟩ =
      .running ⟨⟨function, echoed.instructions.drop 1, passed, [("argument.b", none)]⟩, []⟩ := rfl
  have stores : Code.Configuration.step module
      ⟨⟨function, echoed.instructions.drop 1, passed, [("argument.b", none)]⟩, []⟩ =
      .running ⟨⟨function, echoed.instructions.drop 2, passed,
        [("argument.b", some (.boolean true))]⟩, []⟩ := rfl
  have reserved := Code.Executes.step .start rfl reserves
  exact .step reserved rfl stores

/-- Behind a program that fails, a call of the function comes to where it reads its argument, which
it has stored. -/
theorem echo_initialises : ∃ session, Session.start (.object []) false = .ok session ∧
    ∃ function start configuration performed,
      (session.compileAll [stray.toTree, echo.toTree]).2.builder.code.function?
        (.text "f") = some function ∧
      Code.Activation.start? function [.boolean true] = some start ∧
      Code.Executes (session.compileAll [stray.toTree, echo.toTree]).2.builder.code start
        configuration [performed] ∧
      configuration.active.rest = echoed.instructions.drop 2 ∧
      Code.Stores performed "argument.b" ∧ configuration.active.Holds "argument.b" := by
  have started : Session.start (.object []) false = .ok ⟨Settings.default, false, .empty, none⟩ :=
    rfl
  -- An earlier program failed in the middle of a function, and this one is compiled behind it.
  have compiled : ((compileAll ⟨Settings.default, false, .empty, none⟩
      [stray.toTree, echo.toTree]).2.builder.code.function?
      (.text "f")).map (fun function => (function.parameters, function.blocks)) =
        some ([("b", .bool)], [echoed]) := by
    decide +kernel
  obtain ⟨function, found, same⟩ := Option.map_eq_some_iff.mp compiled
  obtain ⟨parameters, blocks⟩ := Prod.mk.inj same
  have starts : Code.Activation.start? function [.boolean true] =
      some ⟨function, echoed.instructions, [("b", .boolean true)], []⟩ := by
    simp [Code.Activation.start?, parameters, blocks]
  -- The argument is stored in its slot before anything is loaded.
  have executes := executes_echoed (compileAll ⟨Settings.default, false, .empty, none⟩
    [stray.toTree, echo.toTree]).2.builder.code function
  exact ⟨_, started, function, _, _, _, found, starts, executes, rfl,
    compileAll_initialises started _ _ function found _ _ starts _ _ _ executes _ _ _ _ rfl⟩

end Session

end LoopLang
