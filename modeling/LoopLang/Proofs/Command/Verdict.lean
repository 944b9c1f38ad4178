import LoopLang.Proofs.Command.Settings

/-! Verdicts: what a job of the command comes to, by the results of parsing, compiling and running
its program. -/

namespace LoopLang.Command

/-- What a command tells its user when a program cannot be compiled or run. -/
inductive Message
  | diagnostic (diagnostic : Diagnostic)
  | defect (defect : Code.Defect)

/-- What the steps of a command come to. -/
inductive Verdict
  | success
  | failure (message : Message)
  /-- The level of optimisation or the code model is none that there is. -/
  | outOfRange
  /-- The function to run has a name outside the plain alphabet. -/
  | notPlain (name : String)
  /-- The function does not end within the steps that it may take. -/
  | unfinished

/-- How a command ends with a verdict. -/
def Verdict.ending : Verdict → Ending
  | success => .status 0
  | failure _ => .status 1
  | outOfRange => .escape (.start .outOfRange)
  | notPlain name => .escape (.run (.nameNotPlain name))
  | unfinished => .escape (.run .outOfSteps)

/-- What an error of a run comes to, unless it is one that no run meets here. -/
def verdictOf? (error : RunError) : Option Verdict :=
  match error with
  | .defective defect => some (.failure (.defect defect))
  | .nameNotPlain name => some (.notPlain name)
  | .outOfSteps => some .unfinished
  | error => error.diagnostic?.map fun diagnostic => .failure (.diagnostic diagnostic)

namespace Job

/-- The job of a command on the contents of a file. -/
def ofFile (options : Options) (path : Path) (content : String) : Job :=
  ⟨options, String.ofList (unifyLineEnds content.toList), path.text⟩

/-- The files that a job is to write. -/
def outputs (job : Job) (settings : Settings) : List String :=
  (job.options.object.filter (· ≠ "")).toList ++
    match treePath? settings with
    | .ok path => path.toList
    | .error _ => []

/-- A program is parsed, and a new session compiles it. -/
def Compiles (job : Job) (settings : Settings) (session : Session) : Prop :=
  ∃ program start entry, Program.parse job.source = .ok program ∧ Session.start
    (.object settings) false = .ok start ∧ start.compile program.toTree = (.ok entry, session)

/-- Object code is asked for. -/
def WantsObject (job : Job) : Prop := ∃ path, job.options.object = some path ∧ path ≠ ""

/-- The function that a job runs, which is that of the program if the given name is empty. -/
def called? (name : String) : Option String := if name = "" then none else some name

/-- What comes of the code of a program: whether it is fit to be written, and how the run ends that
is asked for. -/
inductive Uses (job : Job) (steps : Nat) (session : Session) : Verdict → Prop
  | unfit {defect : Code.Defect} (wanted : job.WantsObject)
      (unfit : session.builder.code.verify = .error defect) :
      Uses job steps session (.failure (.defect defect))
  | unasked (fit : job.WantsObject → session.builder.code.verify = .ok ())
      (unasked : job.options.run = none) :
      Uses job steps session .success
  | ran {name : String} {result : Option Value}
      (fit : job.WantsObject → session.builder.code.verify = .ok ())
      (asked : job.options.run = some name)
      (ran : session.run steps (called? name) [] = .ok result) :
      Uses job steps session .success
  | failed {name : String} {error : RunError} {verdict : Verdict}
      (fit : job.WantsObject → session.builder.code.verify = .ok ())
      (asked : job.options.run = some name)
      (failed : session.run steps (called? name) [] = .error error)
      (told : verdictOf? error = some verdict) :
      Uses job steps session verdict

/-- What comes of a job: a program is parsed, compiled in a new session, and used. -/
inductive ComesTo (job : Job) (steps : Nat) (settings : Settings) : Verdict → Prop
  | notParsed {error : ParseError} (failed : Program.parse job.source = .error error) :
      ComesTo job steps settings (.failure (.diagnostic error.diagnostic))
  | outOfRange {program : Program} (parsed : Program.parse job.source = .ok program)
      (outside : ¬ settings.InRange) :
      ComesTo job steps settings .outOfRange
  | refused {program : Program} {start after : Session} {cause : Cause} {place : Location}
      (inRange : settings.InRange) (parsed : Program.parse job.source = .ok program)
      (started : Session.start (.object settings) false = .ok start)
      (refused : start.compile program.toTree = (.error (.refused cause place), after)) :
      ComesTo job steps settings (.failure (.diagnostic (cause.diagnostic place)))
  | compiled {session : Session} {verdict : Verdict} (inRange : settings.InRange)
      (compiles : job.Compiles settings session) (uses : job.Uses steps session verdict) :
      ComesTo job steps settings verdict

variable {job : Job} {steps : Nat} {session : Session} {verdict other : Verdict}
  {settings : Settings}

/-- Where object code is to be put is a file that a job is to write. -/
theorem mem_outputs_of_object {path : String} (asked : job.options.object = some path)
    (named : path ≠ "") :
    path ∈ job.outputs settings := by
  unfold outputs
  exact List.mem_append_left _ (by simp [asked, Option.filter, named])

/-- So is where plain settings ask for the tree to be put. -/
theorem mem_outputs_of_tree {entry model tree : String} {level : Int} {debug : Bool}
    (named : tree ≠ "") :
    tree ∈ job.outputs (.plain entry level model debug tree) := by
  unfold outputs
  rw [Settings.treePath?_plain]
  exact List.mem_append_right _ (by simp [named])

/-- The code of a program is used in one way. -/
theorem Uses.unique (uses : job.Uses steps session verdict) (also : job.Uses steps session other) :
    verdict = other := by
  cases uses <;> cases also <;> simp_all

/-- A program is compiled to one session. -/
theorem Compiles.unique {later : Session} (compiles : job.Compiles settings session)
    (also : job.Compiles settings later) :
    session = later := by
  obtain ⟨program, start, entry, parsed, started, compiled⟩ := compiles
  obtain ⟨same, begun, answer, parsed_too, started_too, compiled_too⟩ := also
  -- Parsing, starting and compiling are functions, so each stage has one result.
  cases parsed.symm.trans parsed_too
  cases started.symm.trans started_too
  cases compiled.symm.trans compiled_too
  rfl

/-- A program that is compiled is not refused. -/
theorem Compiles.not_refused {program : Program} {start after : Session} {cause : Cause}
    {place : Location} (compiles : job.Compiles settings session)
    (parsed : Program.parse job.source = .ok program)
    (started : Session.start (.object settings) false = .ok start) :
    start.compile program.toTree ≠ (.error (.refused cause place), after) := by
  obtain ⟨same, begun, answer, parsed_too, started_too, compiled⟩ := compiles
  -- The stages that went well are the same as those that failed.
  cases parsed.symm.trans parsed_too
  cases started.symm.trans started_too
  rw [compiled]
  exact nofun

/-- A job comes to one verdict. -/
theorem ComesTo.unique (comes : job.ComesTo steps settings verdict)
    (also : job.ComesTo steps settings other) :
    verdict = other := by
  -- Parsing, the range of the settings and compiling each go one way, so that both derivations take
  -- the same one.
  cases comes with
  | notParsed failed =>
    cases also with
    | notParsed again =>
      cases failed.symm.trans again
      rfl
    | outOfRange parsed _ => cases failed.symm.trans parsed
    | refused _ parsed _ _ => cases failed.symm.trans parsed
    | compiled _ compiles _ =>
      obtain ⟨program, _, _, parsed, _⟩ := compiles
      cases failed.symm.trans parsed
  -- Settings are in range or not, so this excludes the stages behind the start.
  | outOfRange parsed outside =>
    cases also with
    | notParsed failed => cases failed.symm.trans parsed
    | outOfRange _ _ => rfl
    | refused inside _ _ _ | compiled inside _ _ => exact absurd inside outside
  -- The same session compiles the same program, so it is refused for the same cause.
  | refused inside parsed started refused =>
    cases also with
    | notParsed failed => cases failed.symm.trans parsed
    | outOfRange _ outside => exact absurd inside outside
    | refused _ again begun also =>
      cases parsed.symm.trans again
      cases started.symm.trans begun
      cases refused.symm.trans also
      rfl
    | compiled _ compiles _ => exact absurd refused (compiles.not_refused parsed started)
  -- What is compiled is one session, and that is used in one way.
  | compiled inside compiles uses =>
    cases also with
    | notParsed failed =>
      obtain ⟨program, _, _, parsed, _⟩ := compiles
      cases failed.symm.trans parsed
    | outOfRange _ outside => exact absurd inside outside
    | refused _ parsed started refused => exact absurd refused (compiles.not_refused parsed started)
    | compiled _ again uses_too =>
      cases compiles.unique again
      exact uses.unique uses_too

/-- A job has settings out of range exactly if it gets so far as to look at them. -/
theorem comesTo_outOfRange_iff : job.ComesTo steps settings .outOfRange ↔
    (∃ program, Program.parse job.source = .ok program) ∧ ¬ settings.InRange := by
  constructor
  · intro comes
    cases comes with
    | outOfRange parsed outside => exact ⟨⟨_, parsed⟩, outside⟩
    | compiled _ _ uses =>
      -- No error of a run is about settings.
      cases uses with
      | @failed name error _ _ _ _ told =>
        cases error <;> simp [verdictOf?, RunError.diagnostic?] at told
  · rintro ⟨⟨program, parsed⟩, outside⟩
    exact .outOfRange parsed outside

end Job

end LoopLang.Command
