import LoopLang.Proofs.Execution.Statement
import LoopLang.Proofs.History

/-! Sessions compile programs to code that does what they do. -/

namespace LoopLang

open Code (Lasts Module Name)

section Runs

variable {code : Module} {handle : Name} {closure : Closure} {arguments : List Value}

/-- Without fuel nothing is asked of the code but that it can be called. -/
theorem Simulates.zero (fits : Matches code handle closure) : Simulates code 0 handle closure :=
  ⟨fits, fun _ _ _ _ _ _ _ => (rfl : Lasts code 0 _)⟩

/--
Where the code of a function does what its closure does however deep calls nest, it has the results
that the closure has and no others. It never breaks a rule of the machine, and the closure always
means something.
-/
theorem Simulates.runs_iff (simulates : ∀ fuel, Simulates code fuel handle closure)
    (kinds : arguments.map Value.kind = closure.parameters.map Parameter.kind) :
    (∀ result, (∃ steps, code.run steps handle arguments = .finished result) ↔
      ∃ fuel, closure.run fuel arguments = .ok result) ∧
    (∀ steps, code.run steps handle arguments ≠ .stuck) ∧
    ∀ fuel, closure.run fuel arguments ≠ .error .meaningless := by
  obtain ⟨function, begun, found, starts⟩ := (simulates 0).fits.starts kinds
  have run : ∀ steps, code.run steps handle arguments = Code.runFrom code steps ⟨begun, []⟩ :=
    fun steps => by
      simp only [Module.run, found, Option.bind_some, starts]
  -- As much fuel as steps tells how a run of that many steps goes.
  have settles : ∀ fuel, (∃ steps result, closure.run fuel arguments = .ok result ∧
      code.run steps handle arguments = .finished result) ∨
      closure.run fuel arguments = .error .outOfFuel ∧ code.run fuel handle arguments =
      .outOfSteps := fun fuel => by
    have settles := (simulates fuel).runs function arguments begun [] found kinds starts
    unfold Settles at settles
    split at settles
    · rename_i result evaluated
      obtain ⟨steps, finished⟩ := settles.1.finished
      exact .inl ⟨steps, result, evaluated, (run steps).trans finished⟩
    · exact .inr ⟨‹_›, (run fuel).trans settles⟩
    · exact settles.elim
  -- Two runs that end come to the same end.
  have unique : ∀ {steps others one other}, code.run steps handle arguments = one →
      code.run others handle arguments = other → one ≠ .outOfSteps → other ≠ .outOfSteps →
      one = other := by
    intro steps others one other first second
    rw [run] at first second
    exact Code.runFrom_unique first second
  -- Each of the four statements compares the two ways in which that can be.
  refine ⟨fun result => ⟨fun ⟨steps, finished⟩ => ?_, fun ⟨fuel, evaluated⟩ => ?_⟩,
    fun steps stuck => ?_, fun fuel wrong => ?_⟩
  · rcases settles steps with ⟨others, other, evaluated, also⟩ | ⟨_, lasts⟩
    · cases unique finished also (by simp) (by simp)
      exact ⟨steps, evaluated⟩
    · cases finished.symm.trans lasts
  · rcases settles fuel with ⟨steps, other, also, finished⟩ | ⟨cut, _⟩
    · cases evaluated.symm.trans also
      exact ⟨steps, finished⟩
    · cases evaluated.symm.trans cut
  · rcases settles steps with ⟨others, other, _, finished⟩ | ⟨_, lasts⟩
    · cases unique stuck finished (by simp) (by simp)
    · cases stuck.symm.trans lasts
  · rcases settles fuel with ⟨_, _, evaluated, _⟩ | ⟨cut, _⟩
    · cases wrong.symm.trans evaluated
    · cases wrong.symm.trans cut

end Runs

/--
A program is lowered to functions for it and for the functions that are declared in it, in their
order. Whatever comes of the code, they do what those do.
-/
theorem Program.lower_simulates {start : Builder} (sound : start.Sound)
    (closed : start.scopes.frames = []) (name : Document) (program : Program) :
    (program.toTree.lowerProgram name).Ends start
      (fun entry finish => ∃ functions : List (Name × Closure),
        functions.map Prod.snd = program.closures ∧
        finish.code.handles = start.code.handles ++ functions.map Prod.fst ∧
        (functions.map Prod.fst).head? = some entry ∧
        ∀ code, finish.Leads code → ∀ fuel, ∀ pair ∈ functions, Simulates code fuel pair.1 pair.2)
      fun _ _ => True := by
  have ends := @Lowering.lowerEntry_ends start sound name
    (Tree.list (Statement.toTrees program.body)).lowerBody
    (fun entry finish => ∃ functions : List (Name × Closure),
      functions.map Prod.snd = program.closures ∧
      finish.code.handles = start.code.handles ++ functions.map Prod.fst ∧
      (functions.map Prod.fst).head? = some entry ∧
      ∀ code, finish.Leads code → ∀ fuel, ∀ pair ∈ functions, Simulates code fuel pair.1 pair.2)
        (fun _ => True)
  refine (ends (fun _ function created creates entry begun begins => ?_) fun _ _ => trivial).imp
    (fun _ _ held => held.2) fun _ _ held => held.2
  -- The body is performed in the function of the program, with no functions in sight.
  refine (Statement.lowerStatements_performs program.body [] begins.stage).imp
    (fun _ ended held => ⟨held.1, fun finish closes => ?_⟩) fun _ _ held => held
  obtain ⟨⟨_, _, inside⟩, behind, performed⟩ := held
  obtain ⟨added, belong, handles, enacts⟩ :=
    @Lowering.Begins.enacts created begun ended finish function program.main entry
    begins creates.found creates.kinds creates.result behind _ performed inside.kept.code
    closes.closed
  refine ⟨(function.name, program.main) :: added, congrArg (program.main :: ·) belong, ?_, rfl,
    fun code leads fuel => ?_⟩
  · rw [handles, creates.handles, List.append_assoc]
    rfl
  obtain ⟨fit, enacts⟩ := enacts code leads
  -- Nothing is visible outside of a program.
  have known : ∀ fuel, Knows (Simulates code fuel) created.scopes.frames program.main.visible :=
    fun fuel => by
      rw [creates.frames, closed]
      exact nofun
  -- Without fuel nothing has to be shown; one call deeper the functions do what those do that they
  -- call.
  induction fuel with
  | zero => exact fun pair member => .zero (fit pair member)
  | succ fuel ih => exact enacts fuel (known fuel) ih

namespace Session

/--
Whatever a session compiles before a program and after it, the functions that its code gets for the
program and for each function that is declared in it, in the order of their declarations, do what
the program says. For arguments of the kinds of the parameters a run of the code finishes with a
result exactly if calling the function does so directly. No such run breaks a rule of the machine,
nor does such a call meet anything without meaning.
-/
theorem compile_runs {overrides : Document} {debug : Bool} {session after : Session}
    {entry : Name} (started : Session.start overrides debug = .ok session) (history : List Tree)
    (program : Program)
    (compiled : (session.compileAll history).2.compile program.toTree = (.ok entry, after)) :
    ∃ functions : List (Name × Closure), functions.map Prod.snd = program.closures ∧
      after.builder.code.handles = (session.compileAll history).2.builder.code.handles ++
        functions.map Prod.fst ∧
      (functions.map Prod.fst).head? = some entry ∧
      ∀ later handle closure, (handle, closure) ∈ functions → ∀ arguments : List Value,
        arguments.map Value.kind = closure.parameters.map Parameter.kind →
        (∀ result, (∃ steps, (after.compileAll later).2.builder.code.run steps handle arguments =
          .finished result) ↔ ∃ fuel, closure.run fuel arguments = .ok result) ∧
        (∀ steps, (after.compileAll later).2.builder.code.run steps handle arguments ≠ .stuck) ∧
        ∀ fuel, closure.run fuel arguments ≠ .error .meaningless := by
  have begun : session.builder.Sound := start_builder started ▸ .empty
  obtain ⟨sound, _⟩ := compileAll_grows begun history
  -- Between two compilations no frame is open.
  have depth : (session.compileAll history).2.builder.scopes.depth = 0 := by
    rw [compileAll_depth, start_builder started]
    rfl
  have yields := compile_yields compiled
  obtain ⟨functions, belong, handles, first, simulates⟩ :=
    (program.lower_simulates sound (List.length_eq_zero_iff.mp depth) _).of_yields yields
  refine ⟨functions, belong, handles, first, fun later handle closure member arguments kinds => ?_⟩
  have completes := (Lowering.lowerProgram_ends sound _ program.toTree).of_yields yields
  -- What is compiled later only adds to the code.
  obtain ⟨last_sound, grows⟩ := compileAll_grows completes.sound later
  exact Simulates.runs_iff
    (fun fuel => simulates _ ⟨last_sound.tidy, last_sound.valid, grows⟩ fuel _ member) kinds

/-- A function that calls itself unless its argument holds. -/
def settle : Closure where
  name := some "settle"
  parameters := [⟨.start, "x", .bool⟩]
  body := [
    .when .start (.identifier .start "x") .start [.return .start (some (.identifier .start "x"))],
    .return .start (some (.call .start ⟨.start, "settle"⟩ [.boolean .start true]))]
  result := .bool
  around := []

/-- A program with that function. -/
def settling : Program :=
  ⟨[.function .start ⟨.start, "settle"⟩ settle.parameters .start settle.body settle.result]⟩

/-- The code of that function answers what the function does, which is found by calling it
directly. -/
theorem settling_runs : ∃ session entry after, Session.start (.object []) false = .ok session ∧
    session.compile settling.toTree = (.ok entry, after) ∧
    ∃ handle ∈ after.builder.code.handles, ∃ steps,
      after.builder.code.run steps handle [.boolean false] = .finished (some (.boolean true)) := by
  have started : Session.start (.object []) false = .ok ⟨Settings.default, false, .empty, none⟩ :=
    rfl
  have succeeds : (Session.compile ⟨Settings.default, false, .empty, none⟩ settling.toTree).1.isOk =
      true := by
    decide +kernel
  obtain ⟨entry, after, compiled⟩ := compiled_of_isOk succeeds
  obtain ⟨functions, belong, handles, _, runs⟩ := compile_runs started [] settling compiled
  have member : settle ∈ functions.map Prod.snd := by
    rw [belong]
    exact List.mem_cons_of_mem _ List.mem_cons_self
  obtain ⟨⟨handle, _⟩, member, rfl⟩ := List.mem_map.mp member
  -- Calling the function directly is a computation.
  have finishes := (runs [] handle settle member [.boolean false] rfl).1 (some (.boolean true))
  refine ⟨_, entry, after, started, compiled, handle, ?_, finishes.mpr ⟨2, rfl⟩⟩
  rw [handles]
  exact List.mem_append_right _ (List.mem_map_of_mem member)

end Session

end LoopLang
