import LoopLang.Proofs.Blame.Session
import LoopLang.Proofs.Compilation
import LoopLang.Proofs.Entry
import LoopLang.Proofs.Jumps.Enclosing
import LoopLang.Proofs.Typing.Program

/-! Jumps over sessions: every one that is compiled leads to the loop that the text gives, or is
refused where there is none. -/

namespace LoopLang

namespace Typing

/-- The labels of the loops around a place, innermost first, up to the function that it is in. -/
def Context.loops : Context → List (Option String)
  | [] => []
  | layer :: outer =>
    match layer.role with
    | .function _ => []
    | .loop label => label :: loops outer
    | .block => loops outer

namespace Context

variable {context : Context}

/-- A loop of the innermost function is one of those around a place. -/
theorem HasLoop.isAimed {label : Option String} (meant : context.HasLoop label) :
    Jump.isAimed context.loops label = true := by
  obtain ⟨layer, member, written, role, fits⟩ := meant
  refine List.any_eq_true.mpr ⟨written, ?_, by rcases fits with rfl | rfl <;> simp⟩
  -- By induction on the frames, up to that of the function.
  induction context with
  | nil => cases member
  | cons first outer ih =>
    cases kind : first.role with
    -- The frame of the function is the last one that counts, and it is no loop.
    | function result =>
      simp only [own, kind, List.mem_singleton] at member
      cases (member ▸ kind).symm.trans role
    -- A loop is either the one that is meant, or it stands inside of that one.
    | loop label =>
      simp only [own, kind, List.mem_cons] at member
      simp only [loops, kind, List.mem_cons]
      rcases member with rfl | later
      · cases kind.symm.trans role
        exact .inl rfl
      · exact .inr (ih later)
    | block =>
      simp only [own, kind, List.mem_cons] at member
      simp only [loops, kind]
      rcases member with rfl | later
      · cases kind.symm.trans role
      · exact ih later

/-- A name that is declared leaves the loops as they are. -/
theorem loops_declare (context : Context) (name : String) (declared : Declared) :
    (context.declare name declared).loops = context.loops := by
  cases context <;> rfl

end Context

mutual

/-- By each jump that may stand where it does some loop is meant. -/
theorem Stands.aimed :
    ∀ {context after : Context} {statement : Statement}, Stands context statement after →
    statement.strays context.loops = [] ∧ after.loops = context.loops
  -- A name may be added to the context, which leaves its loops as they are.
  | context, _, _, .function _ _ _ _ inside => ⟨inside.aimed.1, context.loops_declare _ _⟩
  | context, _, _, .declare .. => ⟨rfl, context.loops_declare _ _⟩
  | _, _, _, .block _ inside => ⟨inside.aimed.1, rfl⟩
  | _, _, _, .returnNothing .. => ⟨rfl, rfl⟩
  | _, _, _, .return .. => ⟨rfl, rfl⟩
  | _, _, _, .when _ _ _ inside => ⟨inside.aimed.1, rfl⟩
  | _, _, _, .choose _ _ _ _ inside otherwise =>
    ⟨List.append_eq_nil_iff.mpr ⟨inside.aimed.1, otherwise.aimed.1⟩, rfl⟩
  | _, _, _, .loop _ _ _ inside => ⟨inside.aimed.1, rfl⟩
  -- A jump stands only where the loop that it means is around it.
  | _, _, _, .break _ meant => ⟨if_pos meant.isAimed, rfl⟩
  | _, _, _, .continue _ meant => ⟨if_pos meant.isAimed, rfl⟩
  | _, _, _, .evaluate _ => ⟨rfl, rfl⟩

/-- So it is by those in a row of statements. -/
theorem StandAll.aimed :
    ∀ {context after : Context} {body : List Statement}, StandAll context body after →
    Statement.straysOf context.loops body = [] ∧ after.loops = context.loops
  | _, _, _, .nil _ => ⟨rfl, rfl⟩
  | _, _, _, .cons first others => by
    obtain ⟨here, same⟩ := first.aimed
    obtain ⟨behind, last⟩ := others.aimed
    exact ⟨List.append_eq_nil_iff.mpr ⟨here, same ▸ behind⟩, last.trans same⟩

end

end Typing

/-- No jump of a well-typed program is stray. -/
theorem Program.WellTyped.strays_eq_nil {program : Program} (typed : program.WellTyped) :
    program.strays = [] :=
  typed.elim fun _ stand => stand.aimed.1

namespace Session

/-- How jumps are compiled when a session compiles a program. -/
structure ResolvesJumps (session : Session) (program : Program) : Prop where
  /--
  The outcome and all code are the same as if no frame were searched: a jump leads to the end or the
  next round of the first loop that it means among those around it in the text of its function, and
  is refused exactly if there is none.
  -/
  lexical : session.compile program.toTree = session.compileLexically program.toTree
  /-- In front of the condition of a loop the open frames are those around the loop; that of its
  body is opened later. -/
  conditions : ∀ (label : Option String) (start : Builder),
    Builder.Continues [] start.scopes.frames
    ((Lowering.openLoop label).outcome start).2.scopes.frames
  /-- Where a node is found to be malformed, it is a jump by which no loop is meant. -/
  malformed : ∀ cause place, (session.compile program.toTree).1 = .error (.refused cause place) →
    cause.category = .malformedNode → ∃ jump label,
    cause = .noLoop jump label ∧ ⟨jump, place, label⟩ ∈ program.strays
  /-- No program is compiled in which there is such a jump. -/
  compiled : ∀ entry, (session.compile program.toTree).1 = .ok entry → program.strays = []

/-- Whatever trees a session has compiled, its scopes are such that lowering can reach them. -/
theorem compileAll_reachable {session : Session} (reachable : session.builder.scopes.Reachable)
    (trees : List Tree) :
    (session.compileAll trees).2.builder.scopes.Reachable := by
  induction trees generalizing session with
  | nil => exact reachable
  | cons tree rest ih =>
    -- However the first one ends, it has closed the frames that it has opened.
    have kept : (session.compile tree).2.builder.scopes.Reachable := by
      rw [(session.compile_outcome tree).2]
      exact (Tree.lowerProgram_nested _ tree).keeps _ reachable
    exact ih kept

/-- Searching frames for loops comes to the same as handing them down. -/
theorem compile_lexical (session : Session) (tree : Tree) :
    session.compile tree = session.compileLexically tree := by
  unfold compile
  rw [tree.lowerProgramWithin_eq]
  rfl

/-- A program is refused as malformed for a stray jump only. -/
theorem compile_malformed {session : Session} (sound : session.builder.Sound)
    (reachable : session.builder.scopes.Reachable) {program : Program} {cause : Cause}
    {place : Location}
    (failed : (session.compile program.toTree).1 = .error (.refused cause place))
    (malformed : cause.category = .malformedNode) :
    ∃ jump label, cause = .noLoop jump label ∧ ⟨jump, place, label⟩ ∈ program.strays := by
  rw [(session.compile_outcome program.toTree).1] at failed
  by_cases named : Lowering.IsName session.settings.entryName
  · have ends := Lowering.lowerProgram_regular sound reachable named program
    unfold Lowering.Ends at ends
    split at ends <;> rename_i outcome <;> rw [outcome] at failed <;> cases failed
    obtain ⟨-, _, _, same, regular⟩ := ends
    cases same
    exact regular.of_malformed malformed
  -- A program whose function can have no name is not refused for anything in it.
  · obtain ⟨fault, stopped⟩ : ∃ fault,
      (program.toTree.lowerProgram session.settings.entryName).outcome session.builder =
        (.error (.fault fault), session.builder) := Lowering.lowerEntry_unnamed named _
    cases (congrArg Prod.fst stopped).symm.trans failed

/--
Whatever trees a session has compiled, it resolves the jumps of a program by the text: each leads to
the end or the next round of the innermost loop around it in its own function that it means, and it
is malformed where there is none.
-/
theorem compile_resolvesJumps {overrides : Document} {debug : Bool} {session : Session}
    (started : Session.start overrides debug = .ok session) (earlier : List Tree)
    (program : Program) :
    (session.compileAll earlier).2.ResolvesJumps program := by
  have sound : session.builder.Sound := start_builder started ▸ .empty
  have reachable : session.builder.scopes.Reachable := start_builder started ▸ .empty
  have current := (compileAll_grows sound earlier).1
  have closed : (session.compileAll earlier).2.builder.scopes.frames = [] :=
    List.length_eq_zero_iff.mp
      ((compileAll_depth session earlier).trans (by rw [start_builder started]; rfl))
  refine ⟨compile_lexical _ _, fun label start =>
    (Scopes.continues_absorbs.openLoop label).outcome start (.inl rfl),
    fun cause place => compile_malformed current (compileAll_reachable reachable earlier),
      fun entry compiled => ?_⟩
  -- What is compiled is well-typed, so that each of its jumps has a loop that it means.
  rw [((session.compileAll earlier).2.compile_outcome program.toTree).1] at compiled
  have decides := program.lower_decides current closed
    (session.compileAll earlier).2.settings.entryName
  unfold Lowering.Ends at decides
  split at decides <;> rename_i outcome <;> rw [outcome] at compiled <;> cases compiled
  exact decides.2.strays_eq_nil

/-- A loop with a label around a function that has a loop of its own, around a loop that is left
with the first one, and a jump. -/
def labelled : Program := ⟨[
  .loop .start (.boolean .start true) .start [
    .function .start ⟨.start, "f"⟩ [] .start [
      .loop .start (.boolean .start true) .start [.break .start none] none] .void,
    .loop .start (.boolean .start true) .start [.break .start (some ⟨.start, "outer"⟩)] none,
    .continue .start none] (some ⟨.start, "outer"⟩)]⟩

/-- The inner loop is left for where the outer one ends, and behind it the outer one goes on. -/
theorem labelled_resolvesJumps : ∃ session, Session.start (.object []) false = .ok session ∧
    (session.compileAll []).2.ResolvesJumps labelled ∧
    (session.compile labelled.toTree).1.isOk = true ∧
      (session.compile labelled.toTree).2.builder.code.body? ⟨.text "entry", "loop_body.2"⟩ =
        some [.jump "loop_end.0"] ∧
        (session.compile labelled.toTree).2.builder.code.body? ⟨.text "entry", "loop_end.2"⟩ =
          some [.jump "loop_cond.0"] ∧
          (session.compile labelled.toTree).2.builder.code.body?
            ⟨.text "f", "loop_body.1"⟩ = some [.jump "loop_end.1"] := by
  have started : Session.start (.object []) false = .ok ⟨Settings.default, false, .empty, none⟩ :=
    rfl
  -- Both jumps of the outer function leave the loop that has the label; the one of the inner
  -- function stays in its own.
  exact ⟨_, started, compile_resolvesJumps started
    [] labelled, by decide +kernel, by decide +kernel, by decide +kernel, by decide +kernel⟩

end Session

end LoopLang
