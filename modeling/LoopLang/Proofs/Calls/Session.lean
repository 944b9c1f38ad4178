import LoopLang.Proofs.Calls.Numbering
import LoopLang.Proofs.Calls.Statement
import LoopLang.Proofs.Execution.Program
import LoopLang.Proofs.Isolation.Extension
import LoopLang.Proofs.Layout.Session

/-!
The functions that a program adds to a session: one for the program and one for each declaration,
with calls between them as the text has them, whatever names are used twice.
-/

namespace LoopLang

open Code (Function Instruction Module Name)

/-- Lowering a program emits its calls, each to the function that its name means there. -/
theorem Program.lower_emits {start : Builder} (tidy : start.code.Tidy)
    (closed : start.scopes.frames = []) {base : Nat} (count : start.code.handles.length = base)
    (name : Document) (program : Program) :
    (program.toTree.lowerProgram name).Ends start
      (fun _ finish => start.Emits base program.calls finish) fun _ _ => True := by
  -- The calls of the body, whatever the program is called.
  obtain ⟨behind, -, inside⟩ := @Statement.lowerStatements_reproduces base program.body .start
  show (Lowering.lowerEntry name (Tree.lowerStatements (Statement.toTrees program.body))).Ends start
      _ _
  have named : (Lowering.readName name).Ends start (fun _ finish => finish = start)
      fun _ _ => True :=
    (Lowering.readName_ends name).imp (fun _ _ held => held.2) fun _ _ _ => trivial
  refine .bind named fun read _ same => ?_
  subst same
  -- The function of the program is the first new one, and has no parameters.
  refine .bind (Lowering.createTypedFunction_numbers tidy
    (count.trans (Nat.add_zero base).symm) read [] .void) fun function created held => ?_
  obtain ⟨introduced, creates, -, numbered⟩ := held
  -- Nothing is declared around a program.
  have declares : created.scopes.Declare created.code base [] := fun name => by
    rw [Scopes.lookup, introduced.frames, closed]
    exact .none
  have one_more : created.code.handles.length = base + 1 := by
    rw [creates.handles, List.length_append, count]
    rfl
  refine .bind (Lowering.functionBody_emits created .start introduced.tidy introduced.found
    introduced.arity numbered
    one_more declares (Statement.lower_nested program.body) inside) fun _ finish filled => ?_
  exact (Builder.Emits.silent creates rfl).trans filled.1

/-- A call that stands in the code was emitted there. -/
theorem Code.Function.LaidOut.emitted {placements : List Placement} {function : Function}
    (laid : function.LaidOut placements) {block : Code.Block} (member : block ∈ function.blocks)
    {instruction : Instruction} (stands : instruction ∈ block.instructions) {callee : Name}
    (calls : instruction.callee? = some callee) :
    .emitted ⟨function.name, block.label⟩ instruction ∈ placements := by
  -- The entry block has its slots in front, all others consist of what was emitted.
  have listed : instruction ∈ Placement.emittedTo placements ⟨function.name, block.label⟩ := by
    cases blocks : function.blocks with
    | nil => simp [blocks] at member
    | cons first rest =>
      rcases List.mem_cons.mp (blocks ▸ member) with rfl | later
      · rw [laid.entry block (by simp [blocks])] at stands
        rcases List.mem_append.mp stands with slot | emitted
        -- Slots call nothing.
        · obtain ⟨_, -, rfl⟩ := List.mem_map.mp slot
          cases calls
        · exact emitted
      · exact laid.others block (by simpa [blocks] using later) ▸ stands
  -- From the row for this block back to the row of all placements.
  obtain ⟨placement, placed, same⟩ := List.mem_filterMap.mp listed
  split at same
  · split at same
    · rename_i here
      cases same
      exact here ▸ placed
    · cases same
  · cases same

/--
A call between functions of the code is one of the text: it stands in the function of the number
that is given there, and names the one that belongs to the declaration that is meant there.
-/
structure CallSite.IsMadeBy (functions : List (Function × Closure)) (call : Name × Name)
    (site : CallSite) : Prop where
  caller : ∃ pair, functions[site.caller]? = some pair ∧ pair.1.name = call.1
  callee : ∃ number pair, site.meant = some (.function number) ∧ functions[number]? = some pair ∧
    pair.1.name = call.2 ∧ pair.2.name = some site.callee

section Added

variable {code : Module} {old : List Function} {pairs : List (Function × Closure)}
  (added : code.functions = old ++ pairs.map Prod.fst)

include added

/-- A number that is counted from the functions on that were there before finds one of those behind
them. -/
theorem Code.Module.exists_of_numbered {number : Nat} {handle : Name}
    (found : code.numbered? old.length number = some handle) :
    ∃ pair, pairs[number]? = some pair ∧ pair.1.name = handle := by
  rw [numbered?, handles, added, List.getElem?_map,
    List.getElem?_append_right (Nat.le_add_right _ _), Nat.add_sub_cancel_left,
    List.getElem?_map, Option.map_map] at found
  exact Option.map_eq_some_iff.mp found

/-- What a call of a program meets in the code are the functions that belong to its closures. -/
theorem CallSite.IsMet.isMadeBy {program : Program}
    (declared : pairs.map Prod.snd = program.closures) {site : CallSite}
    (member : site ∈ program.calls) {call : Name × Name} (met : site.IsMet code old.length call) :
    site.IsMadeBy pairs call := by
  obtain ⟨caller, number, meant, callee⟩ := met
  obtain ⟨pair, found, handle⟩ := Module.exists_of_numbered added callee
  obtain ⟨closure, listed, name⟩ := program.calls_numbered site member number meant
  -- The number stands for a pair of the list, and the pair for the declaration of that number.
  rw [← declared, List.getElem?_map, found] at listed
  cases listed
  exact ⟨Module.exists_of_numbered added caller, number, pair, meant, found, handle, name⟩

/-- Functions of one name have one number. -/
theorem Code.Module.Tidy.number_unique (tidy : code.Tidy) {first second : Nat}
    {one other : Function × Closure} (at_first : pairs[first]? = some one)
    (at_second : pairs[second]? = some other) (same : one.1.name = other.1.name) :
    first = second := by
  -- Names of functions are apart in the whole module, so also among those added.
  have distinct := tidy.distinct
  rw [handles, added, List.map_append, List.map_map] at distinct
  have named_first : (pairs.map (Function.name ∘ Prod.fst))[first]? = some one.1.name := by
    simp [at_first]
  have named_second : (pairs.map (Function.name ∘ Prod.fst))[second]? = some one.1.name := by
    simp [at_second, same]
  exact (List.getElem?_inj (List.getElem?_eq_some_iff.mp named_first).1
    (List.nodup_append.mp distinct).2.1).mp (named_first.trans named_second.symm)

end Added

/-- Functions that come behind others in code, and have the names that are listed for closures,
belong to these one by one. -/
theorem exists_pairs {code : Module} (tidy : code.Tidy) {old created : List Function}
    {named : List (Name × Closure)} (added : code.functions = old ++ created)
    (names : created.map Function.name = named.map Prod.fst)
    (fits : ∀ pair ∈ named, Matches code pair.1 pair.2) :
    ∃ pairs : List (Function × Closure),
      pairs.map Prod.fst = created ∧ pairs.map Prod.snd = named.map Prod.snd ∧
      ∀ pair ∈ pairs, pair.1.result = pair.2.result ∧
        pair.1.parameters.map Prod.snd = pair.2.parameters.map Parameter.kind := by
  have length : created.length = named.length := by simpa using congrArg List.length names
  refine ⟨created.zip (named.map Prod.snd), List.map_fst_zip (by simp [length]),
    List.map_snd_zip (by simp [length]), ?_⟩
  rintro ⟨function, closure⟩ member
  obtain ⟨number, stands⟩ := List.mem_iff_getElem?.mp member
  obtain ⟨first, second⟩ := List.getElem?_zip_eq_some.mp stands
  rw [List.getElem?_map] at second
  obtain ⟨pair, listed, rfl⟩ := Option.map_eq_some_iff.mp second
  -- The name finds the function in the code.
  obtain ⟨found, held, -, result, parameters⟩ := fits pair (List.mem_of_getElem? listed)
  have same : function.name = pair.1 := by simpa [first, listed] using congrArg (·[number]?) names
  rw [← same, tidy.function?_eq
    (added ▸ List.mem_append_right _ (List.mem_of_getElem? first))] at held
  cases held
  exact ⟨result, parameters⟩

/-- What stands in a row corresponds to something in another one. -/
theorem exists_corresponding {α β : Type} {related : α → β → Prop} {items : List α}
    {others : List β} (corresponds : List.Forall₂ related items others) {item : α}
    (member : item ∈ items) : ∃ other ∈ others, related item other := by
  -- Both lists are walked in step.
  induction corresponds with
  | nil => cases member
  | cons first _ ih =>
    rcases List.mem_cons.mp member with rfl | later
    · exact ⟨_, List.mem_cons_self, first⟩
    · obtain ⟨other, stands, held⟩ := ih later
      exact ⟨other, List.mem_cons_of_mem _ stands, held⟩

/-- A call that stands in a function which was not there before was emitted since. -/
theorem Builder.Steps.emitted {before after : Builder} {earlier during : List Placement}
    (records : before.code.Records earlier) (steps : before.Steps during after)
    {function : Function} (member : function ∈ after.code.functions)
    (new : function.name ∉ before.code.handles) {block : Code.Block}
    (inside : block ∈ function.blocks) {instruction : Instruction}
    (stands : instruction ∈ block.instructions) {callee : Name}
    (calls : instruction.callee? = some callee) :
    (function.name, callee) ∈ during.filterMap Placement.call? := by
  -- An instruction of the new function was emitted before these steps or during them.
  rcases List.mem_append.mp
    (((records.steps steps).laidOut member).emitted inside stands calls) with old | since
  -- Into a function that is not there nothing can be emitted.
  · refine absurd ?_ (records.placed _ _ old)
    rw [Module.body?, Module.function?_eq_none.mpr new]
    rfl
  · exact List.mem_filterMap.mpr ⟨_, since, by simp [Placement.call?, calls]⟩

namespace Session

/-- What a program that is compiled adds to the code of a session. -/
structure Links (before after : Session) (program : Program) (entry : Name)
    (functions : List (Function × Closure)) : Prop where
  /-- The functions that are added come behind all others, which stay as they are. -/
  added : after.builder.code.functions = before.builder.code.functions ++ functions.map Prod.fst
  /-- There is one for the program, and one for each declaration in the order of the text. -/
  declared : functions.map Prod.snd = program.closures
  entry : functions.head?.map (·.1.name) = some entry
  signatures : ∀ pair ∈ functions, pair.1.result = pair.2.result ∧
    pair.1.parameters.map Prod.snd = pair.2.parameters.map Parameter.kind
  /-- The calls of the text are emitted in their order, and what is emitted is what stands in the
  code. -/
  emitted : ∃ earlier during,
    Builder.empty.Steps earlier before.builder ∧ before.builder.Steps during after.builder ∧
    (∀ function ∈ after.builder.code.functions, function.LaidOut (earlier ++ during)) ∧
    List.Forall₂ (CallSite.IsMadeBy functions) (during.filterMap Placement.call?) program.calls
  /-- No other calls stand in the functions that are added. -/
  called : ∀ number pair, functions[number]? = some pair → ∀ block ∈ pair.1.blocks,
    ∀ instruction ∈ block.instructions, ∀ callee, instruction.callee? = some callee →
      ∃ site ∈ program.calls, site.caller = number ∧ site.IsMadeBy functions (pair.1.name, callee)

/--
Whatever names a program uses, and whatever a session has compiled before with whatever result, no
two functions of the code have one name. A program that is compiled with success adds a function for
itself and one for each declaration in it, in the order of the text, with the parameters and the
result that are declared. Its calls are emitted one by one as they stand in the text, each of them
to the function whose declaration its name means there, and no others.
-/
theorem compile_links {overrides : Document} {debug : Bool} {session : Session}
    (started : Session.start overrides debug = .ok session) (history : List Tree)
    (program : Program) :
    (∀ trees, (session.compileAll trees).2.builder.code.handles.Nodup) ∧
    ∀ entry after, (session.compileAll history).2.compile program.toTree = (.ok entry, after) →
      ∃ functions, (session.compileAll history).2.Links after program entry functions := by
  refine ⟨fun trees => (compileAll_sound started trees).tidy.distinct,
    fun entry after compiled => ?_⟩
  have sound := compileAll_sound started history
  have closed := compileAll_closed started history
  have yields := compile_yields compiled
  -- What is known of a success: sound code, functions that simulate their closures, and calls as in
  -- the text.
  have completes := (Lowering.lowerProgram_ends sound _ program.toTree).of_yields yields
  have tidy := completes.sound.tidy
  obtain ⟨named, closures, handles, first, simulates⟩ :=
    (program.lower_simulates sound closed _).of_yields yields
  obtain ⟨during, steps, met⟩ :=
    (program.lower_emits sound.tidy closed (List.length_map _) _).of_yields yields
  obtain ⟨earlier, begun, -⟩ := session.compileAll_comesTo history
  rw [start_builder started] at begun
  have records := Module.Records.empty.steps begun
  -- The functions that are added have the names that are listed for the closures.
  obtain ⟨created, added⟩ := compileAll_created started history [program.toTree]
  have last : ((session.compileAll history).2.compileAll [program.toTree]).2 = after :=
    congrArg Prod.snd compiled
  rw [last] at added
  have names : created.map Function.name = named.map Prod.fst := by
    have both : after.builder.code.handles = _ := congrArg (List.map Function.name) added
    rw [handles, List.map_append] at both
    exact (List.append_cancel_left both).symm
  -- Each new function is paired with the closure that it was made from.
  obtain ⟨pairs, rfl, declared, signatures⟩ := exists_pairs tidy added names fun pair member =>
    (simulates _ ⟨tidy, completes.sound.valid, .refl _⟩ 0 pair member).fits
  have declared := declared.trans closures
  -- Calls in the code and in the text correspond one by one.
  have made : List.Forall₂ (CallSite.IsMadeBy pairs)
      (during.filterMap Placement.call?) program.calls := by
    obtain ⟨length, met⟩ := List.forall₂_iff_zip.mp met
    exact List.forall₂_iff_zip.mpr
      ⟨length, fun member => (met member).isMadeBy added declared (List.of_mem_zip member).2⟩
  refine ⟨pairs, added, declared, ?_, signatures,
    ⟨earlier, during, begun, steps,
      fun function member => (records.steps steps).laidOut member, made⟩, ?_⟩
  · rw [← List.head?_map,
      show pairs.map (·.1.name) = named.map Prod.fst by rw [← names, List.map_map]; rfl]
    exact first
  -- A call that stands in a new function has been emitted during this compilation, so it is one of
  -- those.
  · intro number pair at_ block inside instruction stands callee calls
    have member : pair.1 ∈ pairs.map Prod.fst := List.mem_map_of_mem (List.mem_of_getElem? at_)
    have new : pair.1.name ∉ (session.compileAll history).2.builder.code.handles := fun there =>
      (List.nodup_append.mp (handles ▸ tidy.distinct)).2.2 _ there _
        (names ▸ List.mem_map_of_mem member) rfl
    have emitted := steps.emitted records
      (added ▸ List.mem_append_right _ member) new inside stands calls
    obtain ⟨site, in_text, is_made⟩ := exists_corresponding made emitted
    obtain ⟨other, found, same⟩ := is_made.caller
    exact ⟨site, in_text, tidy.number_unique added found at_ same, is_made⟩

/-- A function that calls itself, and another one of its name in a block, which is called there. -/
def namesakes : Program :=
  ⟨[.function .start ⟨.start, "f"⟩ [] .start [.evaluate (.call .start ⟨.start, "f"⟩ [])] .void,
    .block .start [.function .start ⟨.start, "f"⟩ [] .start [] .void,
      .evaluate (.call .start ⟨.start, "f"⟩ [])],
    .evaluate (.call .start ⟨.start, "f"⟩ [])]⟩

/-- Compiled for the second time, its functions get names of their own, and its calls mean what they
say. -/
theorem namesakes_links : ∃ session entry after, Session.start (.object []) false = .ok session ∧
    (session.compileAll [namesakes.toTree]).2.compile namesakes.toTree = (.ok entry, after) ∧
    (∃ functions, (session.compileAll [namesakes.toTree]).2.Links after namesakes entry functions) ∧
    namesakes.calls = [⟨1, "f", some (.function 1)⟩, ⟨0, "f", some (.function 2)⟩,
      ⟨0, "f", some (.function 1)⟩] ∧
    ((session.compileAll [namesakes.toTree, namesakes.toTree]).2.builder.code.handles).map
      Name.display = ["entry", "f", "f.1", "entry.1", "f.2", "f.3"] := by
  have started : Session.start (.object []) false = .ok ⟨Settings.default, false, .empty, none⟩ :=
    rfl
  -- The program is compiled a second time, where all its names are taken.
  have succeeds : ((compileAll ⟨Settings.default, false, .empty, none⟩ [namesakes.toTree]).2.compile
      namesakes.toTree).1.isOk = true := by
    decide +kernel
  obtain ⟨entry, after, compiled⟩ := compiled_of_isOk succeeds
  exact ⟨_, entry, after, started, compiled,
    (compile_links started [namesakes.toTree] namesakes).2 entry after compiled,
    by decide +kernel, by decide +kernel⟩

end Session

end LoopLang
