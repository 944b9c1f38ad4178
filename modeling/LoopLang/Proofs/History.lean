import LoopLang.Proofs.Lowering.Nesting
import LoopLang.Proofs.Session
import LoopLang.Session.Run

/-! Histories: what the programs that a session has compiled one after another leave behind. -/

namespace LoopLang

open Code (Module Name)

namespace Code.Module

/-- A block of some function has no terminator. -/
def HasUnterminated (module : Module) : Prop :=
  ∃ function ∈ module.functions, ∃ block ∈ function.blocks, block.isTerminated = false

/-- In tidy code every block can be found, so one without a terminator can be. -/
theorem Tidy.hasUnterminated_iff {module : Module} (tidy : module.Tidy) :
    module.HasUnterminated ↔ ∃ block body, module.body? block = some body ∧ Unended body := by
  constructor
  -- Names are apart, so the block is the one that is found under its label.
  · rintro ⟨function, inside, block, member, unterminated⟩
    have owner := tidy.function?_eq inside
    have found : module.body? ⟨function.name, block.label⟩ = some block.body := by
      simp [body?, owner, Function.body?, (tidy.functions function inside).block?_eq member]
    refine ⟨_, _, found, (isTerminated_iff found).mp ?_⟩
    simpa [isTerminated, owner,
      (tidy.functions function inside).block?_eq member] using unterminated
  · rintro ⟨block, body, found, body_open⟩
    obtain ⟨function, owner, inside⟩ := Option.bind_eq_some_iff.mp found
    obtain ⟨standing, held, rfl⟩ := Option.map_eq_some_iff.mp inside
    refine ⟨function, function?_mem owner, standing, Function.block?_mem held, ?_⟩
    rw [Block.isTerminated_eq]
    simpa [Unended] using body_open

/-- Code is found to be unfinished only where a block is, and no code with such a block is found to
be fit. -/
theorem verify_unterminated (module : Module) :
    (module.HasUnterminated → ∃ defect, module.verify = .error defect) ∧
      (module.verify = .error .unterminatedBlock → module.HasUnterminated) := by
  have seen : module.functions.all Function.isTerminated = false ↔ module.HasUnterminated := by
    simp [HasUnterminated, Function.isTerminated]
  unfold verify checkNames
  constructor
  · intro unterminated
    -- A function without a proper name is complained about first.
    cases module.misnomer? with
    | some value => exact ⟨_, rfl⟩
    | none => exact ⟨.unterminatedBlock, by simp [bind, Except.bind, seen.mpr unterminated]⟩
  · intro refused
    cases finished : module.functions.all Function.isTerminated with
    | false => exact seen.mp finished
    | true =>
      -- Where every block has its terminator, only other defects are left to complain about.
      cases named : module.misnomer? with
      | some value => simp [named, bind, Except.bind] at refused
      | none =>
        simp only [named, bind, Except.bind, finished, Bool.not_true, Bool.false_eq_true,
          if_false] at refused
        split at refused
        · cases refused
        · split at refused
          · cases refused
          · split at refused <;> cases refused

end Code.Module

namespace Session

/-- Compiles programs one after another, whether each of them succeeds or fails. -/
def compileAll (session : Session) : List Tree → List (Except Failure Name) × Session
  | [] => ([], session)
  | program :: rest =>
    let (result, next) := session.compile program
    let (results, last) := next.compileAll rest
    (result :: results, last)

end Session

/-! What is kept. -/

namespace Session

/-- The builder of a session stays sound and grows, whatever is compiled. -/
theorem compile_grows {session : Session} (sound : session.builder.Sound) (program : Tree) :
    (session.compile program).2.builder.Sound ∧ session.builder.Grows
      (session.compile program).2.builder := by
  have ends := Lowering.lowerProgram_ends sound session.settings.entryName program
  unfold Lowering.Ends at ends
  rw [compile_eq]
  revert ends
  -- Both ends of the lowering leave a sound builder behind.
  rcases (program.lowerProgram session.settings.entryName).outcome session.builder with ⟨_ | _, _⟩
  · exact fun held => ⟨held.1, held.2.1⟩
  · exact fun held => ⟨held.sound, held.grows⟩

/-- Compiling changes no settings. -/
theorem compile_settings (session : Session) (program : Tree) :
    (session.compile program).2.settings = session.settings := by
  rw [compile_eq]
  rcases (program.lowerProgram session.settings.entryName).outcome
    session.builder with ⟨_ | _, _⟩ <;> rfl

/-- It does so over any number of programs. -/
theorem compileAll_grows {session : Session} (sound : session.builder.Sound)
    (programs : List Tree) :
    (session.compileAll programs).2.builder.Sound ∧
      session.builder.code.Grows (session.compileAll programs).2.builder.code := by
  induction programs generalizing session with
  | nil => exact ⟨sound, .refl _⟩
  | cons program rest ih =>
    obtain ⟨next, first⟩ := compile_grows sound program
    obtain ⟨last, others⟩ := ih next
    exact ⟨last, first.code.trans others⟩

/-- Compiling any number of programs changes no settings either. -/
theorem compileAll_settings (session : Session) (programs : List Tree) :
    (session.compileAll programs).2.settings = session.settings := by
  induction programs generalizing session with
  | nil => rfl
  | cons program rest ih => exact (ih _).trans (compile_settings session program)

end Session

/-! The open frames. -/

namespace Lowering

variable {α : Type}

/--
However a computation ends, the frames that are open behind it are those that were open before it,
in the same order: what it has opened in between it has closed again, the frame opened last before
the others.
-/
structure Balances (action : Lowering α) (start : Builder) : Prop where
  nests : start.scopes.Nests (action.outcome start).2.scopes
  frames : ∃ more, Builder.Continues more start.scopes.frames (action.outcome start).2.scopes.frames
  depth : (action.outcome start).2.scopes.depth = start.scopes.depth

/-- What closes the frames that it opens leaves those that were open, if it has a block to begin
in. -/
theorem Nested.balances {action : Lowering α} {anywhere : Bool} (nested : Nested action anywhere)
    (start : Builder) (may : anywhere = true ∨ start.scopes.cursor.isSome) :
    action.Balances start := by
  have nests := nested.nests start may
  exact ⟨nests, nests.continues, nests.depth⟩

/-- The frame that stays open is one too many. -/
theorem Strands.not_balances {action : Lowering α} {start : Builder}
    (strands : action.Strands start) :
    ¬ action.Balances start := by
  rintro ⟨-, -, depth⟩
  rw [strands] at depth
  simp [Scopes.depth] at depth

/-- So a nested block leaves the frames that were open exactly where it has a block to begin in. -/
theorem inBlock_balances_iff {body : Lowering α} (nested : Nested body) (start : Builder) :
    (inBlock body).Balances start ↔ start.scopes.cursor.isSome := by
  refine ⟨fun balances => ?_, fun placed => (Nested.inBlock nested).balances start (.inr placed)⟩
  cases here : start.scopes.cursor with
  | some block => rfl
  | none => exact absurd balances (inBlock_strands body here).not_balances

end Lowering

namespace Session

/-- Compiling a program leaves as many frames open as there were. -/
theorem compile_depth (session : Session) (program : Tree) :
    (session.compile program).2.builder.scopes.depth = session.builder.scopes.depth := by
  have balances := (Tree.lowerProgram_nested session.settings.entryName program).balances
    session.builder (.inl rfl)
  rw [compile_eq, ← balances.depth]
  rcases (program.lowerProgram session.settings.entryName).outcome
    session.builder with ⟨_ | _, _⟩ <;> rfl

/-- Compiling programs leaves as many frames open as there were. -/
theorem compileAll_depth (session : Session) (programs : List Tree) :
    (session.compileAll programs).2.builder.scopes.depth = session.builder.scopes.depth := by
  induction programs generalizing session with
  | nil => rfl
  | cons program rest ih => exact (ih _).trans (compile_depth session program)

section Started

variable {overrides : Document} {debug : Bool} {session : Session}
  (started : Session.start overrides debug = .ok session)

include started

/-- Behind any programs, with whatever result, what a session has built is sound. -/
theorem compileAll_sound (programs : List Tree) : (session.compileAll programs).2.builder.Sound :=
  (compileAll_grows (start_builder started ▸ .empty) programs).1

/-- Behind any programs no frame is open. -/
theorem compileAll_closed (programs : List Tree) :
    (session.compileAll programs).2.builder.scopes.frames = [] :=
  List.length_eq_zero_iff.mp
    ((compileAll_depth session programs).trans (by rw [start_builder started]; rfl))

end Started

open Lowering LoopLang.Tree in
/--
Each way to lower a part of a tree, whatever that part is and wherever it is lowered, leaves the
frames that were open before, however it ends. The exception is a nested block, or an arm of a
branch, where code is emitted nowhere: it opens a frame, and that is all. No program begins so, and
no frame is open behind any program that a session has compiled.
-/
theorem lowering_balances (start : Builder) :
    (∀ tree, (lowerStatement tree).Balances start ↔ (tree.IsBlock → start.scopes.cursor.isSome)) ∧
    (∀ tree, (lowerArm tree).Balances start ↔ (tree.IsArm → start.scopes.cursor.isSome)) ∧
    (∀ content, (inBlock (lowerBody content)).Balances start ↔ start.scopes.cursor.isSome) ∧
    (∀ content, start.scopes.cursor = none → (inBlock (lowerBody content)).Strands start) ∧
    (∀ content, (lowerBody content).Balances start) ∧
    (∀ condition consequent alternate,
      (lowerChoice condition (lowerArm consequent)
        (secondArm? alternate (lowerArm alternate))).Balances start) ∧
    (∀ condition label content, (lowerLoop condition label (lowerBody content)).Balances start) ∧
    (∀ place name arguments result content,
      (lowerFunction place name arguments result (lowerBody content)).Balances start) ∧
    (∀ name content, (lowerEntry name (lowerBody content)).Balances start) ∧
    ∀ overrides debug session programs, Session.start overrides debug = .ok session →
      (session.compileAll programs).2.builder.scopes.depth = 0 := by
  obtain ⟨statement, arm, body, _⟩ := lower_nested_all
  have choice_nested (condition consequent alternate : Tree) : Nested
      (lowerChoice condition (lowerArm consequent)
      (secondArm? alternate (lowerArm alternate))) true :=
    .choice (arm consequent) (secondArm_nested (arm alternate))
  refine ⟨fun tree => ?_, fun tree => ?_,
    fun content => inBlock_balances_iff (body content).narrow start,
    fun content => inBlock_strands _, fun content => (body content).balances start (.inl rfl),
    fun condition consequent alternate =>
      (choice_nested condition consequent alternate).balances start (.inl rfl),
    fun condition label content => ?_, fun place name arguments result content => ?_,
    fun name content => ?_, fun overrides debug session programs started => ?_⟩
  · by_cases block : tree.IsBlock
    -- A block statement is the one that is lowered in a frame of its own.
    · cases tree <;> first | exact block.elim | skip
      exact (inBlock_balances_iff (body _).narrow start).trans (by simp [IsBlock])
    · simp [block, ((statement tree).2 block).balances start (.inl rfl)]
  · unfold lowerArm
    split
    · exact (inBlock_balances_iff (choice_nested _ _ _).narrow start).trans (by simp [IsArm])
    · exact (inBlock_balances_iff (body _).narrow start).trans (by simp [IsArm])
    · rename_i noBranch noBlock
      have refused : Nested (refuse (.notABlock tree.typeName) tree.place : Lowering Unit) true :=
        .refuse _ _
      refine iff_of_true (refused.balances start (.inl rfl)) fun other => ?_
      cases tree with
      | ifStatement => exact (noBranch _ _ _ _ rfl).elim
      | blockStatement => exact (noBlock _ _ rfl).elim
      | _ => exact other.elim
  · have nested : Nested (lowerLoop condition label (lowerBody content)) true :=
      .loop (body content).narrow
    exact nested.balances start (.inl rfl)
  · have nested : Nested (lowerFunction place name arguments result (lowerBody content)) true :=
      .function place name arguments result (body content).narrow
    exact nested.balances start (.inl rfl)
  · have nested : Nested (lowerEntry name (lowerBody content)) true :=
      .entry name (body content).narrow
    exact nested.balances start (.inl rfl)
  -- A new session has no open frames, and no program leaves one.
  · rw [compileAll_depth, start_builder started]
    rfl

/-- No frame is open behind the sample, which opens those of two functions and a loop. -/
theorem sample_balances : ∃ session, Session.start (.object []) false = .ok session ∧
    (session.compileAll [sample]).2.builder.scopes.depth = 0 :=
  ⟨_, rfl, (lowering_balances .empty).2.2.2.2.2.2.2.2.2 (.object []) false _ [sample] rfl⟩

/-- Where nothing has been lowered yet, an empty block leaves a frame open. -/
theorem empty_block_strands :
    ((Tree.blockStatement .start (.list [])).lowerStatement.outcome .empty).1 = .error
      (.fault .noBlock) ∧
      ((Tree.blockStatement .start (.list [])).lowerStatement.outcome .empty).2.scopes.depth = 1 :=
  ⟨rfl, rfl⟩

end Session

/-! What failures leave behind. -/

/-- Where no frame is open, nothing that is there already is built on. -/
theorem Builder.Grows.hasOpen {builder later : Builder} (grows : builder.Grows later)
    (closed : builder.scopes.frames = []) {block : BlockRef} (block_open : builder.HasOpen block) :
    later.HasOpen block := by
  obtain ⟨body, found, body_open⟩ := block_open
  have nowhere : builder.block? = none := by simp [Builder.block?, Scopes.current?, closed]
  exact ⟨body, grows.others block body found (by simp [nowhere]), body_open⟩

namespace Session

/-- A session between two programs: its code is sound, no frame is open, and a program's function
has a name. -/
structure Idle (session : Session) : Prop where
  sound : session.builder.Sound
  closed : session.builder.scopes.frames = []
  named : Lowering.IsName session.settings.entryName

/-- A new session is idle. -/
theorem Idle.of_start {overrides : Document} {debug : Bool} {session : Session}
    (started : Session.start overrides debug = .ok session)
    (named : Lowering.IsName session.settings.entryName) :
    session.Idle :=
  ⟨start_builder started ▸ .empty, by rw [start_builder started]; rfl, named⟩

/-- A program keeps every block unfinished that is so, and makes a new one so exactly if it
fails. -/
theorem Idle.compile {session : Session} (idle : session.Idle) (program : Program) :
    (session.compile program.toTree).2.Idle ∧
      ((∃ block, (session.compile program.toTree).2.builder.HasOpen block) ↔
        (∃ block, session.builder.HasOpen block) ∨ ∃ failure,
          (session.compile program.toTree).1 = .error failure) := by
  have closed : (session.compile program.toTree).2.builder.scopes.frames = [] :=
    List.length_eq_zero_iff.mp
      ((compile_depth session program.toTree).trans (congrArg List.length idle.closed))
  have ends := Lowering.lowerProgram_ends idle.sound session.settings.entryName program.toTree
  unfold Lowering.Ends at ends
  rw [compile_eq] at closed ⊢
  -- A failure leaves an open block behind; a success leaves open what was so before.
  rcases ran : (program.toTree.lowerProgram session.settings.entryName).outcome session.builder
    with ⟨failure | entry, finish⟩ <;> rw [ran] at ends closed
  · obtain ⟨sound, _, _, leaves⟩ := ends
    refine ⟨⟨sound, closed, idle.named⟩, fun _ => .inr ⟨failure, rfl⟩, fun _ => ?_⟩
    exact leaves .start _ rfl idle.named
  · refine ⟨⟨ends.sound, closed, idle.named⟩,
      fun ⟨block, block_open⟩ => .inl ⟨block, ends.opens block block_open⟩, ?_⟩
    rintro (⟨block, block_open⟩ | ⟨failure, failed⟩)
    · exact ⟨block, ends.grows.hasOpen idle.closed block_open⟩
    · cases failed

/-- Behind programs some block is unfinished exactly if one was so before, or one of the programs
has failed. -/
theorem Idle.compileAll {session : Session} (idle : session.Idle) (programs : List Program) :
    (session.compileAll (programs.map Program.toTree)).2.Idle ∧
      ((∃ block, (session.compileAll (programs.map Program.toTree)).2.builder.HasOpen block) ↔
        (∃ block, session.builder.HasOpen block) ∨
          ∃ failure, .error failure ∈ (session.compileAll (programs.map Program.toTree)).1) := by
  induction programs generalizing session with
  | nil =>
    exact ⟨idle, .inl, fun held => held.elim id fun ⟨_, member⟩ => absurd member List.not_mem_nil⟩
  | cons program rest ih =>
    obtain ⟨next, step⟩ := idle.compile program
    obtain ⟨last, run⟩ := ih next
    refine ⟨last, run.trans ?_⟩
    show _ ↔ _ ∨ ∃ failure, .error failure ∈ (session.compile program.toTree).1 :: _
    rw [step, or_assoc]
    simp only [List.mem_cons, exists_or, eq_comm (a := Except.error _)]
    rfl

/-- A call that fits is refused where the code is defective. -/
theorem run_of_defective {session : Session} {name : Option String} {arguments : List Argument}
    {function : Code.Function} {defect : Code.Defect} (steps : Nat)
    (found : session.functionToRun name = .ok function)
    (fits : arguments.length = function.parameters.length)
    (defective : session.builder.code.verify = .error defect) :
    session.run steps name arguments = .error (.defective defect) := by
  unfold run
  rw [found]
  simp only [bind, Except.bind, fits, ne_eq, not_true_eq_false, if_false, defective]
  rfl

/-- Looking up a function does not look at its code. -/
theorem functionToRun_ne_defective (session : Session) (name : Option String)
    (defect : Code.Defect) :
    session.functionToRun name ≠ .error (.defective defect) := by
  unfold functionToRun functionNamed
  -- Whether a name is given or not, the module is not verified at this point.
  split
  · split
    · exact nofun
    · split <;> exact nofun
  · exact nofun
  · exact nofun

/-- A call is refused for a defect only where the code has it. -/
theorem defective_of_run {session : Session} {name : Option String} {arguments : List Argument}
    {steps : Nat} {defect : Code.Defect}
    (refused : session.run steps name arguments = .error (.defective defect)) :
    session.builder.code.verify = .error defect := by
  unfold run at refused
  cases found : session.functionToRun name with
  | error error =>
    rw [found] at refused
    cases refused
    exact absurd found (functionToRun_ne_defective session name defect)
  | ok function =>
    rw [found] at refused
    simp only [bind, Except.bind, throw, throwThe, MonadExceptOf.throw, pure,
      Except.pure] at refused
    split at refused
    · cases refused
    · delta Except.mapError at refused
      cases verified : session.builder.code.verify with
      | error found => simpa [verified] using refused
      | ok _ =>
        -- Behind the check of the code there are other reasons only.
        simp only [verified] at refused
        split at refused
        · cases refused
        · split at refused
          · split at refused <;> cases refused
          · cases refused

/--
Where a program's function can have a name, the code of a session has a block without a terminator
exactly if one of the programs so far has failed. So the code is found unfit, and no call that fits
is run, once a program has failed, and neither is ever refused for a missing terminator before. A
program that fails leaves the function of the last program what it was.
-/
theorem compileAll_poisons {overrides : Document} {debug : Bool} {session : Session}
    (started : Session.start overrides debug = .ok session)
    (named : Lowering.IsName session.settings.entryName) (programs : List Program) :
    let results := (session.compileAll (programs.map Program.toTree)).1
    let after := (session.compileAll (programs.map Program.toTree)).2
    (after.builder.code.HasUnterminated ↔ ∃ failure, .error failure ∈ results) ∧
    ((∃ failure, .error failure ∈ results) → ∃ defect, after.builder.code.verify = .error defect ∧
      ∀ steps name arguments function, after.functionToRun name = .ok function →
        arguments.length = function.parameters.length →
        after.run steps name arguments = .error (.defective defect)) ∧
    ((¬ ∃ failure, .error failure ∈ results) →
      after.builder.code.verify ≠ .error .unterminatedBlock ∧
      ∀ steps name arguments, after.run steps name arguments ≠ .error
      (.defective .unterminatedBlock)) ∧
    ∀ program failure next, after.compile (Program.toTree program) = (.error failure, next) →
      next.entry = after.entry := by
  intro results after
  obtain ⟨idle, unfinished⟩ := (Idle.of_start started named).compileAll programs
  have poisoned : after.builder.code.HasUnterminated ↔ ∃ failure, .error failure ∈ results := by
    refine idle.sound.tidy.hasUnterminated_iff.trans (unfinished.trans (or_iff_right ?_))
    -- At the start there was no code at all.
    rintro ⟨block, body, found, _⟩
    rw [start_builder started] at found
    cases found
  obtain ⟨seen, real⟩ := after.builder.code.verify_unterminated
  refine ⟨poisoned, fun failed => ?_, fun succeeded => ?_, fun program failure next failed => ?_⟩
  · obtain ⟨defect, defective⟩ := seen (poisoned.mpr failed)
    exact ⟨defect, defective, fun steps name arguments function found fits =>
      run_of_defective steps found fits defective⟩
  · have fit : after.builder.code.verify ≠ .error .unterminatedBlock := fun refused =>
      succeeded (poisoned.mp (real refused))
    exact ⟨fit, fun steps name arguments refused => fit (defective_of_run refused)⟩
  · rw [compile_eq] at failed
    rcases ran : (program.toTree.lowerProgram after.settings.entryName).outcome
      after.builder with ⟨_ | _, _⟩ <;> rw [ran] at failed <;> cases failed
    rfl

/-- A program that fails is one of those that have failed. -/
theorem failed_of_isOk {session : Session} {program : Tree} {rest : List Tree}
    (fails : (session.compile program).1.isOk = false) :
    ∃ failure, .error failure ∈ (session.compileAll (program :: rest)).1 := by
  cases ran : (session.compile program).1 with
  -- The answer of the first program is the first answer.
  | error failure => exact ⟨failure, List.mem_cons.mpr (.inl ran.symm)⟩
  | ok entry =>
    rw [ran] at fails
    cases fails

/-- A program that breaks out of no loop. -/
def stray : Program := ⟨[.break .start none]⟩

/-- Behind a program that fails, another one that succeeds leaves the code unfit. -/
theorem stray_poisons : ∃ session, Session.start (.object []) false = .ok session ∧
    Lowering.IsName session.settings.entryName ∧
    ∃ defect, (session.compileAll ([stray, ⟨[]⟩].map Program.toTree)).2.builder.code.verify =
      .error defect := by
  have started : Session.start (.object []) false = .ok ⟨Settings.default, false, .empty, none⟩ :=
    rfl
  have named : Lowering.IsName Settings.default.entryName := trivial
  obtain ⟨_, refuses, _, _⟩ := compileAll_poisons started named [stray, ⟨[]⟩]
  -- The jump out of nothing fails, and leaves a block without an end.
  obtain ⟨defect, defective, _⟩ := refuses (failed_of_isOk (by decide +kernel))
  exact ⟨_, started, named, defect, defective⟩

/-- Settings that call the function of a program by a list, which is no name. -/
def namedByList : Document := .object [("project", .object [("entry", .list [])])]

/-- Without a name for its function a program fails, and yet the code has no block without a
terminator. -/
theorem unnamed_not_poisoned : ∃ session, Session.start namedByList false = .ok session ∧
    (∃ failure, .error failure ∈ (session.compileAll [Program.toTree ⟨[]⟩]).1) ∧
    ¬ (session.compileAll [Program.toTree ⟨[]⟩]).2.builder.code.HasUnterminated ∧
    (session.compileAll [Program.toTree ⟨[]⟩]).2.builder.code.verify = .ok () := by
  refine ⟨_, rfl, failed_of_isOk (by decide +kernel), ?_, rfl⟩
  rintro ⟨function, inside, _⟩
  cases inside

end Session

end LoopLang
