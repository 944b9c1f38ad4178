import LoopLang.Proofs.Entry
import LoopLang.Proofs.History
import LoopLang.Proofs.Layout.Code
import LoopLang.Proofs.Layout.Slots

/-! Layout over sessions: where slots stand at every moment of a compilation, and how many there are
behind it. -/

namespace LoopLang

open Code (Function Module Name)

/-- No jump and no branch leads back to the first block, so that its slots are reserved once in a
call. -/
def Code.Function.EntersOnce (function : Function) : Prop :=
  ∀ block ∈ function.blocks, ∀ instruction ∈ block.instructions, ∀ target ∈ instruction.targets,
    function.start? ≠ some target

/-- Where code will be valid, no instruction that stands in it leads back to a first block. -/
theorem Code.Module.Valid.entersOnce {module later : Module} (valid : later.Valid)
    (tidy : module.Tidy) (grows : module.Grows later) {function : Function}
    (member : function ∈ module.functions) : function.EntersOnce := by
  intro block inside instruction stands target leads start
  obtain ⟨grown, found, more⟩ := grows.functions function.name function (tidy.function?_eq member)
  obtain ⟨rest, body⟩ := grows.body? (tidy.body?_eq member inside)
  -- What leads somewhere is no slot, so that it stands in the body of its block.
  have within : instruction ∈ block.body := by
    refine List.mem_filter.mpr ⟨stands, ?_⟩
    cases instruction <;> first | rfl | cases leads
  obtain ⟨before, after, split⟩ := List.append_of_mem (List.mem_append_left rest within)
  have fits := valid ⟨function.name, block.label⟩ grown _ found body before instruction after split
  obtain ⟨-, first, begins, apart⟩ := fits.targets target leads
  exact apart (Option.some.inj (begins.symm.trans (more.start target start)))

namespace Lowering

/-- A program reserves slots in the functions that it creates, as planned, and in no other one. -/
theorem lowerProgram_reserves {start : Builder} (tidy : start.code.Tidy)
    (closed : start.scopes.frames = []) (entry : Document) (tree : Tree) :
    (tree.lowerProgram entry).Ends start (fun _ finish => ∃ created : List (Name × List ValueKind),
      created.map Prod.snd = tree.slotPlans.map List.reverse ∧
        finish.code.slotKinds = start.code.slotKinds ++ created) fun _ _ => True := by
  unfold Tree.lowerProgram
  split
  · rename_i place content
    unfold lowerEntry
    have named : (readName entry).Ends start (fun _ finish => finish = start) fun _ _ => True :=
      (readName_ends entry).imp (fun _ _ held => held.2) fun _ _ _ => trivial
    -- Reading the name of the entry function changes nothing.
    refine .bind named fun name _ same => ?_
    subst same
    refine .bind (Lays.createTypedFunction_introduces tidy name [] .void)
      fun function created introduced => ?_
    -- Nothing is declared around a program.
    have outline : created.scopes.outline = [] := by
      rw [Scopes.outline, Scopes.tables, introduced.frames, closed]; rfl
    obtain ⟨behind, contents⟩ := Tree.lower_lays_all.2.2.1 content function.name [[]]
    have contents : Lays function.name created.scopes.outline.opened
        (content.planBody [[]]) behind content.lowerBody := by
      -- So the body is planned from one frame without any names.
      rwa [outline]
    refine .bind (Lays.functionBody created introduced.tidy introduced.found introduced.arity
      contents) fun _ finish filled => ?_
    -- The function and those inside of it are all that is created.
    obtain ⟨-, more, planned, kinds⟩ :=
      Module.Reserves.function introduced.slots introduced.tidy introduced.grows filled.2
        function.name
    exact ⟨more, planned, by simpa [SlotPlan.function] using kinds⟩
  · trivial

end Lowering

namespace Session

/-- How code is laid out while a session compiles a tree. -/
structure LaysOut (session : Session) (tree : Tree) : Prop where
  /--
  The session has come step by step to where the compilation begins, and goes on step by step
  however that ends. At every moment on the way each function holds what was put into it, its slots
  in front, and its first block is entered once.
  -/
  moments : ∃ before during, Builder.empty.Steps before session.builder ∧
    session.builder.Steps during (session.compile tree).2.builder ∧
      ∀ done rest moment, during = done ++ rest → session.builder.Steps done moment →
        moment.Steps rest (session.compile tree).2.builder →
          ∀ function ∈ moment.code.functions,
          function.LaidOut (before ++ done) ∧ function.EntersOnce
  /-- Where it succeeds, each new function has the slots that are planned for it, the last one
  first; the others keep theirs. -/
  slots : ∀ entry, (session.compile tree).1 = .ok entry →
    (session.compile tree).2.builder.code.functions.map
    (fun function => function.slots.map Prod.snd) =
      session.builder.code.functions.map (fun function => function.slots.map Prod.snd) ++
      tree.slotPlans.map List.reverse

/-- However the compilation of a tree ends, nothing is put into the code but what lowering may put
there. -/
theorem compile_comesTo_of {session : Session} {tree : Tree} {allowed : Placement → Prop}
    (takes : Lowering.Takes allowed (tree.lowerProgram session.settings.entryName)) :
    session.builder.ComesTo allowed (session.compile tree).2.builder := by
  have takes := takes session.builder
  rw [(session.compile_outcome tree).2]
  unfold Lowering.Ends at takes
  split at takes <;> rename_i finish outcome <;> rw [outcome]
  · exact takes
  -- On a failure frames are closed behind the moment of it, which places nothing.
  · obtain ⟨moment, before, behind, -⟩ := takes
    exact before.trans behind.comesTo

/-- Compiling a tree goes step by step, however it ends. -/
theorem compile_comesTo (session : Session) (tree : Tree) :
    session.builder.ComesTo Placement.Any (session.compile tree).2.builder :=
  compile_comesTo_of (tree.lowerProgram_takes session.settings.entryName)

/-- So does compiling any number of trees. -/
theorem compileAll_comesTo (session : Session) (trees : List Tree) :
    session.builder.ComesTo Placement.Any (session.compileAll trees).2.builder := by
  induction trees generalizing session with
  | nil => exact .refl _
  | cons tree rest ih => exact (session.compile_comesTo tree).trans (ih _)

/--
Whatever trees a session has compiled and with whatever result, while it compiles another one slots
stand in front of the first block of their function and nowhere else, the last one first, and all
other instructions stand in the order in which they were emitted. Behind a success each function has
one slot for each of its parameters and for each variable of its own body that is not `void`.
-/
theorem compile_laysOut {overrides : Document} {debug : Bool} {session : Session}
    (started : Session.start overrides debug = .ok session) (earlier : List Tree) (tree : Tree) :
    (session.compileAll earlier).2.LaysOut tree := by
  have sound : session.builder.Sound := start_builder started ▸ .empty
  have current := (compileAll_grows sound earlier).1
  have later := (compile_grows current tree).1
  refine ⟨?_, fun entry compiled => ?_⟩
  -- At any moment the code is what the placements up to then have made of the empty module.
  · obtain ⟨before, steps, -⟩ := session.compileAll_comesTo earlier
    obtain ⟨during, goes_on, -⟩ := (session.compileAll earlier).2.compile_comesTo tree
    rw [start_builder started] at steps
    refine ⟨before, during, steps, goes_on,
      fun done rest moment _ reached left function member => ?_⟩
    -- The records of the steps so far are those from the start, for nothing was placed before.
    have records := Module.Records.empty.steps (steps.trans reached)
    rw [List.nil_append] at records
    exact ⟨records.laidOut member,
      later.valid.entersOnce records.tidy (left.grows records.tidy).2 member⟩
  -- When the compilation succeeds, the new functions have the slots that the tree plans for them.
  · have closed : (session.compileAll earlier).2.builder.scopes.frames = [] :=
      List.length_eq_zero_iff.mp
        ((compileAll_depth session earlier).trans (by rw [start_builder started]; rfl))
    have reserves := Lowering.lowerProgram_reserves current.tidy closed
      (session.compileAll earlier).2.settings.entryName tree
    obtain ⟨result, builder⟩ := (session.compileAll earlier).2.compile_outcome tree
    rw [builder]
    rw [result] at compiled
    -- A failure contradicts that the tree has been compiled.
    unfold Lowering.Ends at reserves
    split at reserves <;> rename_i outcome <;> rw [outcome] at compiled ⊢
    · obtain ⟨created, planned, kinds⟩ := reserves
      have kinds := congrArg (List.map Prod.snd) kinds
      simpa [Module.slotKinds, planned, Function.comp_def] using kinds
    · cases compiled

/-- The sample needs a slot for the variable within its loop, and one for the parameter of its
function. -/
theorem sample_laysOut : ∃ session, Session.start (.object []) false = .ok session ∧
    ((session.compileAll [sample]).2.compile sample).1.isOk = true ∧
    (session.compileAll [sample]).2.LaysOut sample ∧
      sample.slotPlans = [[.num], [.num]] := by
  have started : Session.start (.object []) false = .ok ⟨Settings.default, false, .empty, none⟩ :=
    rfl
  have succeeds : ((compileAll ⟨Settings.default, false, .empty, none⟩ [sample]).2.compile
      sample).1.isOk = true := by
    decide +kernel
  exact ⟨_, started, succeeds, compile_laysOut started [sample] sample, by decide +kernel⟩

end Session

end LoopLang
