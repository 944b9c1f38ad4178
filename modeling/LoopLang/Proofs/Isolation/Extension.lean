import LoopLang.Proofs.Execution.Extension
import LoopLang.Proofs.Isolation.Session

/-! Extension: the functions of a session stay what they are, whatever it compiles later. -/

namespace LoopLang

open Code (Name Function Module)

namespace Session

/-- Trees are compiled one after another, those of a second list behind those of the first. -/
theorem compileAll_append (session : Session) (first second : List Tree) :
    (session.compileAll (first ++ second)).2 =
      ((session.compileAll first).2.compileAll second).2 := by
  induction first generalizing session with
  | nil => rfl
  | cons tree rest ih => exact ih (session.compile tree).2

/-- What is compiled later comes behind all functions that are there already. -/
theorem compileAll_created {overrides : Document} {debug : Bool} {session : Session}
    (started : Session.start overrides debug = .ok session) (history later : List Tree) :
    ∃ created, ((session.compileAll history).2.compileAll later).2.builder.code.functions =
      (session.compileAll history).2.builder.code.functions ++ created := by
  -- By induction on the later trees: each of them gets longer the history of the next ones.
  induction later generalizing history with
  | nil => exact ⟨[], (List.append_nil _).symm⟩
  | cons tree rest ih =>
    obtain ⟨_, naming, along, _⟩ := compileAll_parts started history tree
    obtain ⟨first, split, _⟩ := along.created
    obtain ⟨others, further⟩ := ih (history ++ [tree])
    rw [compileAll_append] at further
    refine ⟨first ++ others, ?_⟩
    rw [← List.append_assoc, ← split]
    exact further

/-- A function is found by its name exactly where the code has it. -/
theorem functionNamed_ok_iff {session : Session} {name : String} {function : Function} :
    session.functionNamed name = .ok function ↔
    session.builder.code.function? (.text name) = some function := by
  unfold functionNamed
  -- A name that is absent is refused, with a hint or without.
  split
  · rename_i found
    simp [found]
  · rename_i absent
    split <;> simp [absent]

/-- A function that answers a truth value. -/
def truth : Program :=
  ⟨[.function .start ⟨.start, "f"⟩ [] .start [.return .start (some (.boolean .start true))] .bool]⟩

end Session

end LoopLang
