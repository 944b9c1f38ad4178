import LoopLang.Command.Run
import LoopLang.Proofs.Files.Write

/-! How the steps of a command end, and how they follow each other. -/

namespace LoopLang.Command

namespace Effect

variable {α β : Type} {console : Console}

/-- However a step ends, its answer or the way in which it ends the command is as wanted, and so is
what it leaves. -/
def Ends (effect : Effect α) (console : Console) (done : α → Console → Prop)
    (stopped : Ending → Console → Prop) : Prop :=
  match effect.run.run console with
  | (.ok answer, later) => done answer later
  | (.error ending, later) => stopped ending later

variable {effect : Effect α} {next : α → Effect β} {done wanted : α → Console → Prop}
  {stopped told : Ending → Console → Prop}

/-- Less may be wanted of both ends. -/
theorem Ends.imp (ends : effect.Ends console done stopped)
    (goes : ∀ answer later, done answer later → wanted answer later)
    (ending : ∀ ending later, stopped ending later → told ending later) :
    effect.Ends console wanted told := by
  unfold Ends at *
  split <;> simp_all

/-- How two steps end, one after the other. -/
theorem bind_ends {done : β → Console → Prop} : (effect >>= next).Ends console done stopped ↔
    effect.Ends console (fun answer later => (next answer).Ends later done stopped) stopped := by
  -- The second step is taken with what the first one leaves, unless that has ended the command.
  have runs : (effect >>= next).run.run console =
      match effect.run.run console with
      | (.ok answer, later) => (next answer).run.run later
      | (.error ending, later) => (.error ending, later) := by
    show (match effect.run.run console with
      | (result, later) => (ExceptT.bindCont next result).run later) = _
    rcases effect.run.run console with ⟨_ | _, _⟩ <;> rfl
  unfold Ends
  rw [runs]
  rcases effect.run.run console with ⟨_ | _, _⟩ <;> exact Iff.rfl

/-- Two steps end as wanted, if the second one does behind whatever the first one leaves. -/
theorem Ends.bind {done : β → Console → Prop} (first : effect.Ends console wanted stopped)
    (second : ∀ answer later, wanted answer later → (next answer).Ends later done stopped) :
    (effect >>= next).Ends console done stopped :=
  bind_ends.mpr (first.imp second fun _ _ ended => ended)

/-! How each of the small steps ends. -/

/-- An answer leaves the console as it is. -/
@[simp] theorem pure_ends {answer : α} :
    (pure answer : Effect α).Ends console done stopped ↔ done answer console :=
  Iff.rfl

/-- A command that is finished ends as it says. -/
@[simp] theorem finish_ends {ending : Ending} :
    (finish ending : Effect α).Ends console done stopped ↔ stopped ending console :=
  Iff.rfl

/-- A text is printed behind the others. -/
@[simp] theorem print_ends {text : String} {done : Unit → Console → Prop} :
    (print text).Ends console done stopped ↔
    done () { console with output := console.output ++ [text] } := Iff.rfl

/-- A complaint is printed behind the others, and ends the command with its status. -/
@[simp] theorem complain_ends {complaint : Complaint} {status : Nat} :
    (complain complaint status : Effect α).Ends console done stopped ↔
      stopped (.status status) { console with complaints := console.complaints ++ [complaint] } :=
  Iff.rfl

/-- The console is seen as it stands. -/
@[simp] theorem get_ends {done : Console → Console → Prop} :
    (get : Effect Console).Ends console done stopped ↔ done console console :=
  Iff.rfl

/-- A value is no reason to escape. -/
@[simp] theorem orEscape_ok_ends {ε : Type} {wrap : ε → Escape} {value : α} :
    (orEscape wrap (.ok value)).Ends console done stopped ↔ done value console := Iff.rfl

/-- An error escapes from the command. -/
@[simp] theorem orEscape_error_ends {ε : Type} {wrap : ε → Escape} {error : ε} :
    (orEscape wrap (.error error) : Effect α).Ends console done stopped ↔
    stopped (.escape (wrap error)) console := Iff.rfl

/-- Code that is not fit to run for another reason than a misnamed function is complained about. -/
theorem refuse_ends {defect : Code.Defect} (named : ∀ sort, defect ≠ .misnamed sort) :
    (refuse defect : Effect α).Ends console done stopped ↔
      stopped (.status 1)
        { console with complaints := console.complaints ++ [.defective defect] } := by
  cases defect with
  | misnamed sort => exact absurd rfl (named sort)
  | _ => exact Iff.rfl

/-- A file that can be written is written. -/
theorem write_ends {name content : String} {files : FileTree} {done : Unit → Console → Prop}
    (written : console.files.write name content = .ok files) :
    (write name content).Ends console done stopped ↔ done () { console with files } := by
  unfold write
  rw [bind_ends, get_ends, bind_ends, written]
  exact Iff.rfl

end Effect

/-- A command that has complained about nothing so far, and can write files of the given names. -/
structure Console.Ready (console : Console) (names : List String) : Prop where
  silent : console.complaints = []
  offers : console.files.Offers names

namespace Console.Ready

open Effect

variable {console : Console} {names : List String} {stopped : Ending → Console → Prop}
  (ready : console.Ready names)

include ready

/-- Printing leaves a command ready. -/
theorem printLine (line : String) :
    (Effect.printLine line).Ends console (fun _ later => later.Ready names) stopped :=
  print_ends.mpr ⟨ready.silent, ready.offers⟩

/-- So does printing any number of lines. -/
theorem printLines (lines : List String) :
    (lines.forM fun line => Effect.printLine (debugMark ++ line)).Ends console
    (fun _ later => later.Ready names) stopped := by
  induction lines generalizing console with
  | nil => exact ready
  | cons line rest ih => exact (ready.printLine _).bind fun _ _ ready => ih ready

/-- So does a line about progress, whether or not it is printed. -/
theorem log (job : Job) (line : String) :
    (job.log line).Ends console (fun _ later => later.Ready names) stopped := by
  unfold Job.log
  split
  · exact ready
  · exact ready.printLine line

/-- So does writing one of the files. -/
theorem write {name : String} (member : name ∈ names) (content : String) :
    (Effect.write name content).Ends console (fun _ later => later.Ready names) stopped := by
  obtain ⟨after, written, offers⟩ := ready.offers.write member content
  exact (write_ends written).mpr ⟨ready.silent, offers⟩

end Console.Ready

end LoopLang.Command
