import LoopLang.Proofs.Command.Effect
import LoopLang.Proofs.Command.Program
import LoopLang.Proofs.Command.Verdict

/-! Runs of the command: each step does its part of the job or tells why not, and the status says
which of the two. -/

namespace LoopLang.Command

open Effect

namespace Job

/-- The message of a failure is the last thing that a command prints, or the only complaint. -/
def Shows (job : Job) (verdict : Verdict) (console : Console) : Prop :=
  match verdict with
  | .failure (.diagnostic diagnostic) =>
    ∃ before, console.output = before ++ [diagnostic.report job.source job.fileName .plain]
  | .failure (.defect defect) => console.complaints = [.defective defect]
  | _ => True

/-- A command stops with one of some verdicts, and shows the message of a failure. -/
def Stops (job : Job) (comes : Verdict → Prop) (ending : Ending) (console : Console) : Prop :=
  ∃ verdict, comes verdict ∧ ending = verdict.ending ∧ job.Shows verdict console

variable {job : Job} {steps : Nat} {session : Session} {settings : Settings}

section Steps

variable {console : Console} {names : List String} {comes : Verdict → Prop}

/-- A diagnostic that is reported is shown. -/
theorem report_ends {α : Type} {done : α → Console → Prop} {diagnostic : Diagnostic}
    (reported : comes (.failure (.diagnostic diagnostic))) :
    (job.report diagnostic).Ends console done (job.Stops comes) := by
  unfold report
  rw [bind_ends, print_ends, finish_ends]
  exact ⟨_, reported, rfl, console.output, rfl⟩

variable (ready : console.Ready names)

include ready

/-- Code that is refused is complained about. -/
theorem refuse_stops {α : Type} {done : α → Console → Prop} {defect : Code.Defect}
    (named : ∀ sort, defect ≠ .misnamed sort) (refused : comes (.failure (.defect defect))) :
    (refuse defect).Ends console done (job.Stops comes) := by
  rw [refuse_ends named]
  refine ⟨_, refused, rfl, ?_⟩
  -- The complaint is the only one, as nothing has been said before.
  show console.complaints ++ _ = _
  rw [ready.silent]
  rfl

/-- A source is parsed, or the parse error is reported. -/
theorem parse_ends : job.parse.Ends console
    (fun tree later => later.Ready names ∧ ∃ program,
      Program.parse job.source = .ok program ∧ tree = program.toTree)
    (job.Stops (job.ComesTo steps settings)) := by
  refine (ready.log job _).bind fun _ _ ready => ?_
  -- The text is refused with a diagnostic, or there is a tree.
  split
  · exact report_ends (.notParsed ‹_›)
  · exact (ready.log job _).bind fun _ _ ready => ⟨ready, _, ‹_›, rfl⟩

/-- Code in which no function is misnamed is shown, if that is wanted. -/
theorem showCode_ends {stopped : Ending → Console → Prop}
    (texts : session.builder.code.misnomer? = none) :
    (job.showCode session).Ends console (fun _ later => later.Ready names) stopped := by
  unfold showCode
  split
  · refine (ready.log job _).bind fun _ _ ready => ?_
    -- Names are texts, so the code can be written down.
    have written : session.builder.code.checkNames = .ok () := by
      unfold Code.Module.checkNames
      rw [texts]
    simp only [written]
    exact (ready.printLine _).bind fun _ _ ready => ready.log job _
  · exact ready

/-- Object code is written, if that is wanted and the code is fit. -/
theorem writeObject_ends (texts : session.builder.code.misnomer? = none)
    (outputs : ∀ path ∈ job.options.object, path ≠ "" → path ∈ names) :
    (job.writeObject session).Ends console
      (fun _ later => later.Ready names ∧ (job.WantsObject → session.builder.code.verify = .ok ()))
      (job.Stops (job.Uses steps session)) := by
  unfold writeObject
  split
  · rename_i unasked
    exact ⟨ready, fun ⟨path, asked, _⟩ => nomatch unasked.symm.trans asked⟩
  -- An empty path counts as none.
  · rename_i unnamed
    refine ⟨ready, fun ⟨path, asked, named⟩ => ?_⟩
    cases unnamed.symm.trans asked
    exact absurd rfl named
  · rename_i path named asked
    cases verified : session.builder.code.verify with
    -- Defective code is refused, and this cannot be for a name that is no text.
    | error defect =>
      refine refuse_stops ready (fun sort same => ?_) (.unfit ⟨path, asked, named⟩ verified)
      exact session.builder.code.verify_ne_misnamed texts sort (same ▸ verified)
    | ok _ =>
      refine (ready.write (outputs path asked named) _).bind fun _ _ ready => ?_
      exact (ready.log job _).imp (fun _ _ ready => ⟨ready, fun _ => rfl⟩) fun _ _ ended => ended

/-- A function of a program that a new session has compiled is run, if that is wanted, and otherwise
the command tells why not. -/
theorem runFunction_ends (texts : session.builder.code.misnomer? = none)
    (fit : job.WantsObject → session.builder.code.verify = .ok ())
    (told : ∀ name error, session.run steps name [] = .error error → error.diagnostic?.isSome ∨
      (∃ defect, error = .defective defect) ∨ (∃ name, error = .nameNotPlain name) ∨
      error = .outOfSteps) :
    (job.runFunction steps session).Ends console
      (fun _ later => later.Ready names ∧ job.Uses steps session .success)
      (job.Stops (job.Uses steps session)) := by
  unfold runFunction
  -- Nothing may be asked to be run, which is a success.
  split
  · exact ⟨ready, .unasked fit ‹_›⟩
  · rename_i name asked
    refine (ready.log job _).bind fun _ _ ready => ?_
    cases ran : session.run steps (if name = "" then none else some name) [] with
    -- The result is printed if there is one.
    | ok result =>
      have finished : job.Uses steps session .success := .ran fit asked ran
      cases result with
      | none => exact ⟨ready, finished⟩
      | some value =>
        exact (ready.printLine _).imp (fun _ _ ready => ⟨ready, finished⟩) fun _ _ ended => ended
    -- What went wrong is told, or is no failure of the program's own.
    | error error =>
      have failed {verdict : Verdict}
          (told : verdictOf? error = some verdict) : job.Uses steps session verdict :=
        .failed fit asked ran told
      -- Each of the four kinds of errors has its own verdict.
      rcases told _ _ ran with diagnosed | ⟨defect, rfl⟩ | ⟨name, rfl⟩ | rfl
      · cases error with
        | nothingToRun | noSuchFunction _ _ | argumentCount _ _ _ => exact report_ends (failed rfl)
        | nameWithoutLength _ | integerTooLarge | defective _ | nameNotPlain _ | stuck
        | outOfSteps => cases diagnosed
      · refine refuse_stops ready (fun sort same => ?_) (failed rfl)
        exact session.builder.code.verify_ne_misnamed texts sort
          (same ▸ Session.defective_of_run ran)
      · exact ⟨_, failed rfl, rfl, trivial⟩
      · exact ⟨_, failed rfl, rfl, trivial⟩

section Plain

variable {entry model dump : String} {level : Int} {debug : Bool}

/-- The tree is written, if that is wanted. -/
theorem writeTree_ends {stopped : Ending → Console → Prop} {tree : Tree}
    (outputs : dump ≠ "" → dump ∈ names) :
    (job.writeTree (.plain entry level model debug dump) tree).Ends console
      (fun _ later => later.Ready names) stopped := by
  unfold writeTree
  rw [Settings.treePath?_plain]
  refine bind_ends.mpr (orEscape_ok_ends.mpr ?_)
  split
  · exact ready
  · rename_i path asked
    -- An empty path counts as none.
    obtain ⟨named, rfl⟩ : dump ≠ "" ∧ dump = path := by
      by_cases unnamed : dump = "" <;> simp_all
    exact (ready.write (outputs named) _).bind fun _ _ ready => ready.log job _

/-- A program is compiled in a new session, or what it is refused for is reported; none is without
settings in range. -/
theorem compile_ends {program : Program} (parsed : Program.parse job.source = .ok program) :
    (job.compile (.plain entry level model debug dump) program.toTree).Ends console
      (fun session later => later.Ready names ∧
        (Settings.plain entry level model debug dump).InRange ∧
        ∃ called, Session.compile
          ⟨.plain entry level model debug dump, debug, .empty, none⟩ program.toTree =
          (.ok called, session))
      (job.Stops (job.ComesTo steps (.plain entry level model debug dump))) := by
  unfold Job.compile
  refine (ready.log job _).bind fun _ _ ready => ?_
  by_cases inRange : (Settings.plain entry level model debug dump).InRange
  · have started := inRange.start
    rw [started]
    refine bind_ends.mpr (orEscape_ok_ends.mpr ?_)
    -- Debug lines are printed in both cases, before an error is reported.
    rcases compiled : Session.compile
      ⟨.plain entry level model debug dump, debug, .empty, none⟩ program.toTree
      with ⟨failure | called, after⟩
    · obtain ⟨cause, place, rfl⟩ := Session.compile_new_error rfl rfl compiled
      exact (ready.printLines _).bind fun _ _ ready =>
        report_ends (.refused inRange parsed started compiled)
    · exact (ready.printLines _).bind fun _ _ ready => ⟨ready, inRange, called, rfl⟩
  -- Settings are looked at only behind a program that has been parsed.
  · rw [Settings.start_outOfRange inRange]
    refine bind_ends.mpr (orEscape_error_ends.mpr ?_)
    exact ⟨_, .outOfRange parsed inRange, rfl, trivial⟩

end Plain

end Steps

/-- With plain settings a job comes to its verdict step by step, where it can write what it is to
write. -/
theorem steps_ends {entry model dump : String} {level : Int} {debug : Bool} {console : Console}
    (ready : console.Ready (job.outputs (.plain entry level model debug dump))) :
    Ends (do
        let tree ← job.parse
        job.writeTree (.plain entry level model debug dump) tree
        let session ← job.compile (.plain entry level model debug dump) tree
        job.showCode session
        job.writeObject session
        job.runFunction steps session
        job.log "Compilation process finished.") console
      (fun _ _ => job.ComesTo steps (.plain entry level model debug dump) .success)
      (job.Stops (job.ComesTo steps (.plain entry level model debug dump))) := by
  -- The text is parsed, its tree is written if that is asked for, and the program is compiled.
  refine (parse_ends ready).bind fun _ _ ⟨ready, program, parsed, same⟩ => ?_
  subst same
  refine (writeTree_ends ready mem_outputs_of_tree).bind fun _ _ ready => ?_
  refine (compile_ends ready parsed).bind fun session _ ⟨ready, inRange, called, compiled⟩ => ?_
  have compiles : job.Compiles (.plain entry level model debug dump) session :=
    ⟨program, _, called, parsed, inRange.start, compiled⟩
  have texts : session.builder.code.misnomer? = none := Session.compile_new_texts rfl rfl compiled
  -- From here on the code is used, and what that comes to is what the job does.
  have used {ending : Ending} {later : Console}
    (stops : job.Stops (job.Uses steps session) ending later) :
      job.Stops (job.ComesTo steps (.plain entry level model debug dump)) ending later :=
    stops.imp fun _ ⟨uses, told⟩ => ⟨.compiled inRange compiles uses, told⟩
  refine (showCode_ends ready texts).bind fun _ _ ready => ?_
  -- The code must be readable for an object, and then a function may be run.
  refine ((writeObject_ends ready texts fun _ => mem_outputs_of_object).imp (fun _ _ held => held)
    fun _ _ => used).bind fun _ _ ⟨ready, fit⟩ => ?_
  refine ((runFunction_ends ready texts fit fun name error =>
    Session.run_new_error rfl rfl compiled).imp
    (fun _ _ held => held) fun _ _ => used).bind fun _ _ ⟨ready, uses⟩ => ?_
  exact (ready.log job _).imp (fun _ _ _ => .compiled inRange compiles uses) fun _ _ ended => ended

/-- With values of the default sorts in its settings, a job of the command comes to its verdict,
whatever the options are. -/
theorem perform_ends (steps : Nat) {files : FileTree} {input content : String} {options : Options}
    (found : files.file? (files.resolve input) = some content)
    (loaded : files.settings (files.resolve input).parent = .ok settings)
    (sorts : settings.HasDefaultSorts)
    (writable : files.Offers
      ((ofFile options (files.resolve input) content).outputs (applyOptions options settings))) :
    (perform steps input options).Ends ⟨[], [], files⟩
      (fun _ _ => (ofFile options (files.resolve input) content).ComesTo steps
        (applyOptions options settings) .success)
      ((ofFile options (files.resolve input) content).Stops
        ((ofFile options (files.resolve input) content).ComesTo steps
          (applyOptions options settings))) := by
  -- Settings of the default sorts are given by their five values.
  obtain ⟨entry, level, model, debug, dump, rfl⟩ := Settings.exists_plain loaded sorts
  unfold perform
  refine bind_ends.mpr (get_ends.mpr ?_)
  dsimp only
  rw [found]
  refine bind_ends.mpr ?_
  rw [loaded, orEscape_ok_ends]
  rw [Settings.applyOptions_plain] at writable ⊢
  exact steps_ends ⟨rfl, writable⟩

end Job

/-- The message of a failure is the last thing that is printed, or the only complaint. -/
def Report.Shows (report : Report) (job : Job) : Message → Prop
  | .diagnostic diagnostic =>
    ∃ before, report.output = before ++ diagnostic.report job.source job.fileName .plain
  | .defect defect => report.complaints = [.defective defect]

/--
How a command is to report on a job: status 0 is for success and nothing else, status 1 is for
failures, each of which is shown, and no status is left to anything else. Only where the settings
are out of range, the name of the function is not plain or its run does not end there is no status
at all.
-/
structure Report.Tells (report : Report) (job : Job) (steps : Nat) (settings : Settings) :
    Prop where
  success : report.ending = .status 0 ↔ job.ComesTo steps settings .success
  failure : report.ending = .status 1 ↔ ∃ message, job.ComesTo steps settings (.failure message)
  shown : ∀ message, job.ComesTo steps settings (.failure message) → report.Shows job message
  others : ∀ status, report.ending = .status status → status = 0 ∨ status = 1
  escape : (∃ escape, report.ending = .escape escape) ↔
    ((∃ program, Program.parse job.source = .ok program) ∧ ¬ settings.InRange) ∨
      (∃ name, job.ComesTo steps settings (.notPlain name)) ∨ job.ComesTo steps settings .unfinished

/-- What is printed last ends the output. -/
theorem join_concat (texts : List String) (last : String) :
    String.join (texts ++ [last]) = String.join texts ++ last := by
  simp [String.join]

section Run

variable {steps : Nat} {files : FileTree} {arguments : List String}

/-- A report says how the steps of the command have ended, and what they have left. -/
theorem run_of_ends {done : Unit → Console → Prop} {stopped : Ending → Console → Prop}
    (ends : (fromArguments steps arguments).Ends ⟨[], [], files⟩ done stopped) :
    ∃ console : Console, (run steps files arguments).output = String.join console.output ∧
      (run steps files arguments).complaints = console.complaints ∧
      ((run steps files arguments).ending = .status 0 ∧ done () console ∨
        stopped (run steps files arguments).ending console) := by
  unfold Ends at ends
  unfold run
  revert ends
  -- Whatever the program has printed by then is what the report shows.
  rcases (fromArguments steps arguments).run.run ⟨[], [], files⟩ with ⟨ending | _, console⟩
  · exact fun ends => ⟨console, rfl, rfl, .inr ends⟩
  · exact fun ends => ⟨console, rfl, rfl, .inl ⟨rfl, ends⟩⟩

/-- A command that does nothing but complain ends with the status of its complaint. -/
theorem run_of_complaint {complaint : Complaint} {status : Nat}
    (ends : (fromArguments steps arguments).Ends ⟨[], [], files⟩ (fun _ _ => False)
      fun ending later => ending = .status status ∧ later.complaints = [complaint]) :
    (run steps files arguments).ending = .status status ∧ (run steps files arguments).complaints =
      [complaint] := by
  -- The program ends in this way only, so what it said is the complaint.
  obtain ⟨console, -, complaints, ⟨-, never⟩ | ⟨ending, told⟩⟩ := run_of_ends ends
  · exact never.elim
  · exact ⟨ending, complaints.trans told⟩

/-- A job that comes to a verdict, with the ending and the message that belong to it, is reported as
it should be. -/
theorem Report.Tells.of_verdict {report : Report} {job : Job} {settings : Settings}
    {verdict : Verdict} (comes : job.ComesTo steps settings verdict)
    (ending : report.ending = verdict.ending)
    (shows : ∀ message, verdict = .failure message → report.Shows job message) :
    report.Tells job steps settings := by
  -- A job comes to one verdict only, so all clauses speak of this one.
  have only {other : Verdict} : job.ComesTo steps settings other ↔ other = verdict :=
    ⟨fun also => also.unique comes, fun same => same ▸ comes⟩
  have range := @Job.comesTo_outOfRange_iff job steps settings
  refine ⟨?_, ?_, fun message failed => shows message (only.mp failed).symm,
    fun status same => ?_, ?_⟩
  · rw [only, ending]
    cases verdict <;> simp [Verdict.ending]
  · simp only [only, ending]
    cases verdict <;> simp [Verdict.ending]
  · rw [ending] at same
    cases verdict <;> simp_all [Verdict.ending]
  · rw [← range]
    simp only [only, ending]
    cases verdict <;> simp [Verdict.ending]

/--
The command ends in a defined status. Arguments that cannot be read end it with status 2, and so
does an input that does not exist. With any options, any settings of the default sorts, any text in
the input and outputs that can be written, it ends with status 0 if the text is parsed, compiled and
used as asked for, and with status 1 and a message if not; what escapes instead are settings out of
range, names that are not plain, and runs without an end.
-/
theorem run_tells (steps : Nat) (files : FileTree) (arguments : List String) :
    (∀ error, readArguments arguments = .error (.usage error) →
      (run steps files arguments).ending = .status 2 ∧ (run steps files arguments).complaints =
        [.usage error]) ∧
    ∀ input options, readArguments arguments = .ok (input, options) →
      (files.file? (files.resolve input) = none →
        (run steps files arguments).ending = .status 2 ∧ (run steps files arguments).complaints =
          [.notFound input]) ∧
      ∀ content settings, files.file? (files.resolve input) = some content →
        files.settings (files.resolve input).parent = .ok settings → settings.HasDefaultSorts →
        files.Offers ((Job.ofFile options (files.resolve input) content).outputs
          (applyOptions options settings)) →
        (run steps files arguments).Tells (Job.ofFile options (files.resolve input) content) steps
          (applyOptions options settings) := by
  refine ⟨fun error refused => ?_, fun input options accepted => ?_⟩
  -- Arguments that are refused end the command with the second status.
  · refine run_of_complaint ?_
    unfold fromArguments
    rw [refused]
    exact complain_ends.mpr ⟨rfl, rfl⟩
  have performs : fromArguments steps arguments = perform steps input options := by
    unfold fromArguments
    rw [accepted]
  refine ⟨fun missing => ?_, fun content settings found loaded sorts writable => ?_⟩
  -- So does a file that is not there.
  · refine run_of_complaint ?_
    rw [performs]
    unfold perform
    refine bind_ends.mpr (get_ends.mpr ?_)
    dsimp only
    rw [missing]
    exact complain_ends.mpr ⟨rfl, rfl⟩
  · have ends := Job.perform_ends steps found loaded sorts writable
    rw [← performs] at ends
    -- Behind the last step there is success; whatever stops the command in front of it comes with
    -- its verdict.
    obtain ⟨console, output, complaints, ⟨ending, comes⟩ | ⟨verdict, comes, ending, shown⟩⟩ :=
      run_of_ends ends
    · exact .of_verdict comes ending nofun
    · refine .of_verdict comes ending fun message failed => ?_
      subst failed
      cases message with
      | diagnostic diagnostic =>
        obtain ⟨before, printed⟩ := shown
        exact ⟨String.join before, by rw [output, printed, join_concat]⟩
      | defect defect => exact complaints.trans shown

end Run

/-- One file with some text, in the working directory. -/
def oneFile (text : String) : FileTree := ⟨[(["a.x"], text)], [], []⟩

/-- Files next to that one can be written. -/
theorem oneFile_offers (text : String) {names : List String}
    (targets : ∀ name ∈ names, ∃ path, (oneFile text).target name = .ok path) :
    (oneFile text).Offers names := ⟨rfl, targets⟩

/-- A function is run behind the object code that it has been compiled to, and the status tells how
that went. -/
theorem oneFile_told : ∃ options, readArguments ["a.x", "-O2", "--obj", "a.o", "-r", "f"] = .ok
    ("a.x", options) ∧
    (run 9 (oneFile "fn f() -> num { return 1; }") ["a.x", "-O2", "--obj", "a.o", "-r", "f"]).Tells
      (Job.ofFile options ["a.x"] "fn f() -> num { return 1; }") 9
        (applyOptions options .default) := by
  have accepted : readArguments ["a.x", "-O2", "--obj", "a.o", "-r", "f"] =
      .ok ("a.x", { run := some "f", object := some "a.o", level := some 2 }) := rfl
  have sorts : Settings.default.HasDefaultSorts := fun _ _ value given => ⟨value, given, rfl⟩
  refine ⟨_, accepted, ((run_tells 9 (oneFile _) _).2 "a.x" _ accepted).2 _ .default rfl
    rfl sorts ?_⟩
  refine oneFile_offers _ fun name member => ?_
  -- The object code is all that is to be written.
  have outputs : name ∈ ["a.o"] := member
  rw [List.mem_singleton.mp outputs]
  exact ⟨["a.o"], rfl⟩

/-- With a level that there is not a failure escapes, although the arguments, the settings and the
input are fine. -/
theorem oneFile_escapes : ∃ options, readArguments ["a.x", "-O", "9"] = .ok ("a.x", options) ∧
    (oneFile "").file? ((oneFile "").resolve "a.x") = some "" ∧
    (oneFile "").settings ((oneFile "").resolve "a.x").parent = .ok .default ∧
    Settings.default.HasDefaultSorts ∧
    (oneFile "").Offers ((Job.ofFile options ["a.x"] "").outputs (applyOptions options .default)) ∧
    (run 0 (oneFile "") ["a.x", "-O", "9"]).ending = .escape (.start .outOfRange) := by
  -- There are no outputs, as neither a tree nor code is asked for.
  refine ⟨{ level := some 9 }, rfl, rfl, rfl, fun _ _ value given => ⟨value, given, rfl⟩,
    oneFile_offers "" ?_, ?_⟩
  · exact fun name member => absurd (show name ∈ [] from member) List.not_mem_nil
  · decide +kernel

end LoopLang.Command
