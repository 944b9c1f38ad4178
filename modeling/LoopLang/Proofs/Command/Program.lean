import LoopLang.Proofs.Compilation
import LoopLang.Proofs.Execution.Program
import LoopLang.Proofs.Isolation.Extension
import LoopLang.Proofs.Layout.Names

/-! One program in a new session: what it can be refused for, and what its functions cannot be run
for. -/

namespace LoopLang

open Code (Function Module Name)

/-- Where no function is misnamed, code is unfit for other reasons. -/
theorem Code.Module.verify_ne_misnamed {module : Module} (texts : module.misnomer? = none)
    (sort : String) :
    module.verify ≠ .error (.misnamed sort) := by
  unfold verify checkNames
  rw [texts]
  show (if _ then _ else if _ then _ else if _ then _ else if _ then _ else _) ≠ _
  -- Every check in turn passes or finds a defect of its own.
  repeat' split
  all_goals exact nofun

namespace Session

variable {session after : Session} {steps : Nat} {name : Option String} {error : RunError}

/-- Looking up a function fails with a diagnostic where no function is misnamed. -/
theorem functionToRun_error (texts : session.builder.code.misnomer? = none)
    (missing : session.functionToRun name = .error error) : error.diagnostic?.isSome := by
  unfold functionToRun functionNamed at missing
  rw [texts] at missing
  -- Either a name was given, or the last program compiled is meant.
  split at missing
  · split at missing
    · cases missing
    · cases missing
      rfl
  · cases missing
  · cases missing
    rfl

/-- What can be wrong with a call without arguments where no function is misnamed. -/
theorem run_error (texts : session.builder.code.misnomer? = none)
    (refused : session.run steps name [] = .error error) :
    error.diagnostic?.isSome ∨ (∃ defect, error = .defective defect) ∨
    (∃ name, error = .nameNotPlain name) ∨
      error = .outOfSteps ∨ ∃ function,
        session.functionToRun name = .ok function ∧ function.parameters = [] ∧
        session.builder.code.run steps function.name [] = .stuck := by
  unfold run at refused
  -- The function is looked for first; whatever fails there is shown to the user.
  cases found : session.functionToRun name with
  | error cause =>
    rw [found] at refused
    cases refused
    exact .inl (functionToRun_error texts found)
  | ok function =>
    rw [found] at refused
    simp only [bind, Except.bind, throw, throwThe, MonadExceptOf.throw, pure, Except.pure,
      List.zip_nil_right, List.mapM_nil] at refused
    split at refused
    · cases refused
      exact .inl rfl
    -- No arguments are given, so a function with parameters has been refused above.
    · rename_i fits
      have fits : function.parameters = [] := by simpa [eq_comm] using fits
      -- Code is checked as a whole before any of it is run.
      cases verified : session.builder.code.verify with
      | error defect =>
        rw [verified] at refused
        cases refused
        exact .inr (.inl ⟨defect, rfl⟩)
      | ok _ =>
        rw [verified] at refused
        dsimp only [Except.mapError] at refused
        split at refused
        · cases refused
          exact .inr (.inr (.inl ⟨_, rfl⟩))
        -- The function is run, and a result is no error.
        · cases ran : session.builder.code.run steps function.name [] with
          | finished result =>
            rw [ran] at refused
            cases refused
          | stuck => exact .inr (.inr (.inr (.inr ⟨function, rfl, fits, ran⟩)))
          | outOfSteps =>
            rw [ran] at refused
            cases refused
            exact .inr (.inr (.inr (.inl rfl)))

/-- The function that is to be run is one of the code. -/
theorem mem_of_functionToRun {function : Function}
    (found : session.functionToRun name = .ok function) :
    session.builder.code.function? function.name = some function := by
  -- Whatever name has led to the function, it is found under its own.
  have named {handle : Name} (found : session.builder.code.function? handle = some function) :
      session.builder.code.function? function.name = some function := by
    have same : function.name = handle := by simpa using List.find?_some found
    rwa [same]
  unfold functionToRun at found
  split at found
  · exact named (functionNamed_ok_iff.mp found)
  · rename_i entered
    cases found
    obtain ⟨handle, -, found⟩ := Option.bind_eq_some_iff.mp entered
    exact named found
  · cases found

/-- A program is refused in a new session for nothing but a cause that has a diagnostic. -/
theorem compile_new_error {program : Program} {failure : Failure} {called : String}
    (new : session.builder = .empty) (named : session.settings.entryName = .text called)
    (failed : session.compile program.toTree = (.error failure, after)) :
    ∃ cause place, failure = .refused cause place := by
  have isName : Lowering.IsName session.settings.entryName := by
    rw [named]
    trivial
  have regular := Lowering.lowerProgram_regular .empty .empty isName program
  rw [← new] at regular
  -- On a regular tree the failures are refusals, which have a cause and a place.
  obtain ⟨-, cause, place, refused, -⟩ := compile_fails regular (congrArg Prod.fst failed)
  exact ⟨cause, place, refused⟩

/-- However a program ends that a new session compiles, no function is misnamed. -/
theorem compile_new_texts {program : Program} {result : Except Failure Name} {called : String}
    (new : session.builder = .empty) (named : session.settings.entryName = .text called)
    (compiled : session.compile program.toTree = (result, after)) :
    after.builder.code.misnomer? = none := by
  have texts := compile_misnomer? named (by rw [new]; rfl) program.toTree
  rwa [compiled] at texts

/-- The functions of a program that a new session has compiled are run without breaking a rule of
the machine. -/
theorem run_ne_stuck {program : Program} {entry : Name} (new : session.builder = .empty)
    (compiled : session.compile program.toTree = (.ok entry, after)) {function : Function}
    (found : after.builder.code.function? function.name = some function)
    (bare : function.parameters = []) :
    after.builder.code.run steps function.name [] ≠ .stuck := by
  have yields := new ▸ compile_yields compiled
  have completes := (Lowering.lowerProgram_ends .empty _ program.toTree).of_yields yields
  obtain ⟨functions, -, handles, -, simulates⟩ :=
    (program.lower_simulates .empty rfl _).of_yields yields
  have leads : after.builder.Leads after.builder.code :=
    ⟨completes.sound.tidy, completes.sound.valid, .refl _⟩
  -- Whatever stands in the code has come of a function of the program.
  have member : function.name ∈ functions.map Prod.fst := by
    have inside : function.name ∈ after.builder.code.handles :=
      List.mem_map_of_mem (List.mem_of_find?_eq_some found)
    rwa [handles] at inside
  obtain ⟨⟨handle, closure⟩, inside, same⟩ := List.mem_map.mp member
  dsimp only at same
  subst same
  have simulates (fuel : Nat) := simulates _ leads fuel _ inside
  obtain ⟨other, also, -, -, kinds⟩ := (simulates 0).fits
  cases found.symm.trans also
  refine (Simulates.runs_iff simulates ?_).2.1 steps
  rw [← kinds, bare]
  rfl

/-- What can be wrong with a call without arguments of a function of a program that a new session
has compiled. -/
theorem run_new_error {program : Program} {entry : Name} {called : String}
    (new : session.builder = .empty) (named : session.settings.entryName = .text called)
    (compiled : session.compile program.toTree = (.ok entry, after))
    (refused : after.run steps name [] = .error error) :
    error.diagnostic?.isSome ∨ (∃ defect, error = .defective defect) ∨
    (∃ name, error = .nameNotPlain name) ∨
      error = .outOfSteps := by
  -- A run that breaks a rule of the machine is the only other way, and there is no such run.
  rcases run_error (compile_new_texts new named compiled) refused with
    diagnosed | defective | notPlain | unfinished | ⟨function, found, bare, stuck⟩
  · exact .inl diagnosed
  · exact .inr (.inl defective)
  · exact .inr (.inr (.inl notPlain))
  · exact .inr (.inr (.inr unfinished))
  · exact absurd stuck (run_ne_stuck new compiled (mem_of_functionToRun found) bare)

end Session

end LoopLang
