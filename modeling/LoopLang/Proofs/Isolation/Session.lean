import LoopLang.Proofs.Entry
import LoopLang.Proofs.History
import LoopLang.Proofs.Isolation.Statement

/-! Isolation: what a session has compiled before decides about nothing but the names of what it
compiles next. -/

namespace LoopLang

open Code (Name Function Module)

namespace Renaming

/-- Results that are the same: functions that stand for each other, or failures of one class at one
place. -/
def Answers (naming : Renaming) : Except Failure Name → Except Failure Name → Prop
  | .ok entry, .ok other => naming.functions entry other
  | .error failure, .error other => failure.Alike other
  | _, _ => False

end Renaming

namespace Lowering

variable {old : List Function} {naming : Renaming} {fresh later : Builder}

/-- How two builders without open frames end: with the same results, and with code that is built
alongside. -/
def Part (old : List Function) (first second : Except Failure Name × Builder) : Prop :=
  ∃ naming : Renaming, naming.Alongside old first.2.code second.2.code ∧
    naming.Answers first.1 second.1

/-- Bodies of programs are opened alike in builders without open frames. -/
theorem openEntry_abreast (name : Name) (along : naming.Alongside old fresh.code later.code)
    (closed : fresh.scopes.frames = []) (closedToo : later.scopes.frames = []) :
    ∃ larger : Renaming, larger.Functions (openEntry name fresh).1 (openEntry name later).1 ∧
      (openEntry name fresh).2.Abreast old larger (openEntry name fresh).1.name
        (openEntry name later).2 := by
  -- The function and its first block are new in both, whatever they are called.
  obtain ⟨created, _, along, pairs⟩ := along.addFunction name [] .void
  obtain ⟨larger, grown, along, labels⟩ := along.addBlock pairs.names "entry" "entry"
  have functions := pairs.toFunctions.mono grown
  refine ⟨larger, functions, ⟨along, ?_, ?_, ?_⟩⟩
  · rw [openEntry_frames name closed, openEntry_frames name closedToo]
    exact .program ⟨⟨_, _, rfl, rfl, rfl, functions.names, labels⟩, .nil, rfl,
      ⟨_, rfl, functions.names⟩, rfl,
      congrArg (some ∘ Kind.exact) functions.result.symm, rfl, rfl, .none, .none⟩
  · rw [Builder.block?, Scopes.current?, openEntry_frames name closed]
    rfl
  · rw [Builder.block?, Scopes.current?, openEntry_frames name closedToo]
    rfl

/-- The function of a program is built in both builders, whatever else is there already. -/
theorem lowerEntry_parts (document : Document) {body : Lowering Unit} (nested : Nested body)
    (isolated : Isolated old body) (along : naming.Alongside old fresh.code later.code)
    (closed : fresh.scopes.frames = []) (closedToo : later.scopes.frames = []) :
    Part old ((lowerEntry document body).outcome fresh)
      ((lowerEntry document body).outcome later) := by
  have named (name : Name) (read : readName document = pure name) :
      Part old ((lowerEntry document body).outcome fresh)
      ((lowerEntry document body).outcome later) := by
    obtain ⟨larger, functions, abreast⟩ := openEntry_abreast name along closed closedToo
    have ends := Coincide.functionContents functions [] isolated larger (.refl _) _ _ abreast
    -- Its frame is the only one, so the program ends as its contents do.
    obtain ⟨result, code⟩ := lowerEntry_contents read nested closed
    obtain ⟨resultToo, codeToo⟩ := lowerEntry_contents read nested closedToo
    rw [Part, result, code, resultToo, codeToo]
    change Meet _ _ _ _ ((entryContents _ body).outcome _)
      ((entryContents _ body).outcome _) at ends
    generalize (entryContents (openEntry name fresh).1 body).outcome
      (openEntry name fresh).2 = left,
      (entryContents (openEntry name later).1 body).outcome
      (openEntry name later).2 = right at ends ⊢
    obtain ⟨failure | _, begun⟩ := left <;> obtain ⟨another | _, started⟩ := right
    · obtain ⟨alike, bound, _, outside⟩ := ends
      exact ⟨bound, outside.code, alike⟩
    · exact ends.elim
    · exact ends.elim
    · obtain ⟨bound, grown, outside, _⟩ := ends
      exact ⟨bound, outside.code, grown.functions _ _ functions.names⟩
  cases document with
  -- A list or a table is no name: both sessions fail in front of everything.
  | list items => exact ⟨naming, along, rfl⟩
  | object entries => exact ⟨naming, along, rfl⟩
  | null | boolean | integer | number | moment | text => exact named _ rfl

end Lowering

namespace Tree

open Lowering

/-- Lowering any tree as a program ends alike in builders without open frames. -/
theorem lowerProgram_parts {old : List Function} {naming : Renaming} {fresh later : Builder}
    (entry : Document) (tree : Tree) (along : naming.Alongside old fresh.code later.code)
    (closed : fresh.scopes.frames = []) (closedToo : later.scopes.frames = []) :
    Part old ((lowerProgram entry tree).outcome fresh)
      ((lowerProgram entry tree).outcome later) := by
  unfold lowerProgram
  -- What is no program is refused before anything is created.
  split
  · exact lowerEntry_parts entry (lower_nested_all.2.2.1 _).narrow
      ((lower_isolated_all old).2.2.1 _) along closed closedToo
  · exact ⟨naming, along, rfl, rfl⟩

end Tree

namespace Session

/-- What is visible to a program before it declares anything: no name, no loop and no function. -/
def ShowsNothing (session : Session) : Prop :=
  (∀ name, session.builder.scopes.lookup name = none) ∧ session.builder.scopes.visibleNames = [] ∧
    (∀ label, session.builder.scopes.loopFrame? label = none) ∧
    session.builder.scopes.function? = none

/-- Nothing is visible where no frame is open. -/
theorem showsNothing {session : Session} (closed : session.builder.scopes.frames = []) :
    session.ShowsNothing := by
  refine ⟨fun name => ?_, ?_, fun label => ?_, ?_⟩ <;>
    simp [Scopes.lookup, Scopes.visibleNames, Scopes.loopFrame?, Scopes.loopFrameIn,
      Scopes.function?, Scopes.current?, closed]

/-- Behind any history a program is built alongside the one that a new session builds. -/
theorem compileAll_parts {overrides : Document} {debug : Bool} {session : Session}
    (started : Session.start overrides debug = .ok session) (history : List Tree) (tree : Tree) :
    ((session.compileAll history).2).builder.scopes.frames = [] ∧
    ∃ naming : Renaming,
      naming.Alongside (session.compileAll history).2.builder.code.functions
        (session.compile tree).2.builder.code
        ((session.compileAll history).2.compile tree).2.builder.code ∧
      naming.Answers (session.compile tree).1 ((session.compileAll history).2.compile tree).1 := by
  have new := start_builder started
  have closed := compileAll_closed started history
  have along : Renaming.nothing.Alongside
      (session.compileAll history).2.builder.code.functions session.builder.code
      (session.compileAll history).2.builder.code :=
    new ▸ .empty (compileAll_sound started history).tidy.named
  have parts := Tree.lowerProgram_parts session.settings.entryName tree along
    (by rw [new]; rfl) closed
  -- Compiling changes no settings, so the wanted name is the same.
  have settings := compileAll_settings session history
  obtain ⟨results, builders⟩ := session.compile_outcome tree
  obtain ⟨resultsToo, buildersToo⟩ := (session.compileAll history).2.compile_outcome tree
  rw [settings] at resultsToo buildersToo
  rw [results, builders, resultsToo, buildersToo]
  exact ⟨closed, parts⟩

/--
How compiling in one session stands to compiling the same tree in another: nothing is visible there
before, and what the tree adds behind the functions of that session is what it creates here, up to a
one-to-one renaming of functions, labels and values. If the tree is refused, it is refused in both,
with an error of the same class at the same place.
-/
def CompilesAlike (session before : Session) (tree : Tree) : Prop :=
  before.ShowsNothing ∧
  ∃ (naming : Renaming) (created : List Function), naming.OneToOne ∧
    (before.compile tree).2.builder.code.functions = before.builder.code.functions ++ created ∧
    List.Forall₂ naming.Functions (session.compile tree).2.builder.code.functions created ∧
    (∀ name other, naming.functions name other →
      name ∈ (session.compile tree).2.builder.code.functions.map Function.name ∧
      other ∈ created.map Function.name) ∧
    naming.Answers (session.compile tree).1 (before.compile tree).1

/--
What a session has compiled before, with or without success, decides about nothing but names: behind
any history a tree is compiled as in the new session.
-/
theorem compile_isolated {overrides : Document} {debug : Bool} {session : Session}
    (started : Session.start overrides debug = .ok session) (history : List Tree) (tree : Tree) :
    session.CompilesAlike (session.compileAll history).2 tree := by
  obtain ⟨closed, naming, along, answers⟩ := compileAll_parts started history tree
  -- All that the renaming relates has been created by this tree.
  obtain ⟨created, split, alike⟩ := along.created
  refine ⟨showsNothing closed, naming, created, along.unique, split,
    alike.imp fun _ _ pairs => pairs.toFunctions,
    fun name other related => ⟨along.known name other related, ?_⟩, answers⟩
  obtain ⟨_, another, _, found, _⟩ := along.find_created related alike
  exact List.mem_map.mpr
    ⟨another, List.mem_of_find?_eq_some found, by simpa using List.find?_some found⟩

/-- Behind a refused program a loop is compiled as in a new session. -/
theorem sample_isolated :
    ∃ session, Session.start (.object []) false = .ok session ∧
      session.CompilesAlike (session.compileAll [stray.toTree, sample]).2 sample := by
  have started : Session.start (.object []) false = .ok ⟨Settings.default, false, .empty, none⟩ :=
    rfl
  exact ⟨_, started, compile_isolated started [stray.toTree, sample] sample⟩

end Session

end LoopLang
