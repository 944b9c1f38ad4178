import LoopLang.Proofs.Course.Insertion
import LoopLang.Proofs.Course.Tree
import LoopLang.Proofs.Entry
import LoopLang.Proofs.History
import Mathlib.Data.List.Count
import Mathlib.Data.List.Nodup

/-!
What holds at every moment of a compilation: instructions are inserted at the end of the current
block, which is open and belongs to the current function, and no two things in a function have the
same name.
-/

namespace LoopLang

open Code (Instruction Module Name Names)

/-! Where instructions are inserted. -/

/-- Where emission stands while a frame with a block is the innermost one. -/
structure Builder.Placed (builder : Builder) (place? : Option Anchor) (frame : Frame)
    (block : BlockRef) :
    Prop where
  stands : frame.block = some block
  /-- Instructions are inserted at the end of the frame's block. -/
  inserts : place? = some (builder.code.tip block)
  cursor : builder.scopes.cursor = some block
  /-- That block is there, in the frame's function. -/
  owner : frame.function = some block.function
  standing : ∃ found, builder.code.block? block = some found
  /-- This is the function of the innermost function frame. -/
  function : ∃ found, builder.scopes.functionFrame? = some found ∧ found.function = frame.function
  /-- Frames of the same function have blocks of that function. -/
  enclosing : ∀ other ∈ builder.scopes.frames, other.function = frame.function →
    ∃ own found, other.block = some own ∧ own.function = block.function ∧
      builder.code.block? own = some found
  /-- The loop that a jump finds goes to blocks of that function. -/
  loops : ∀ label found, builder.scopes.loopFrame? label = some found →
    ∃ next exit, found.nextRound = some next ∧ found.loopExit = some exit ∧
      next.IsTarget builder.code block.function ∧ exit.IsTarget builder.code block.function

/-- In a sound builder whose instructions go to the end of the current block, emission stands where
it should. -/
theorem Builder.Sound.placed_at {builder : Builder} (sound : builder.Sound)
    {place? : Option Anchor} (inserts : builder.InsertsAt place?) {frame : Frame}
    (current : builder.scopes.current? = some frame) :
    ∃ block, builder.Placed place? frame block := by
  obtain ⟨outer, opened⟩ := List.head?_eq_some_iff.mp current
  have innermost : frame ∈ builder.scopes.frames := opened ▸ List.mem_cons_self
  -- The frame fits to the code: its block exists, and belongs to the function of the frame.
  have fits := sound.fits frame innermost
  obtain ⟨block, body, stands, owner, placed⟩ := fits.placed
  have here : builder.block? = some block := by rw [Builder.block?, current]; exact stands
  have enclosed := sound.enclosed
  rw [opened] at enclosed
  refine ⟨block, stands, inserts _ here, sound.aligned _ here, owner,
    Module.block?_of_body? placed, ?_, fun other member same => ?_, fun label found meant => ?_⟩
  -- Both frames own the functions of their blocks, and these are the same.
  · obtain ⟨found, first, _, member, same⟩ := enclosed.functionFrame
    refine ⟨found, by rw [Scopes.functionFrame?, opened]; exact first, ?_⟩
    rw [(sound.fits found (opened ▸ member)).function_eq, fits.function_eq, same]
  -- Any frame of this function stands in one of its blocks.
  · obtain ⟨own, body, at_, belongs, found⟩ := (sound.fits other member).placed
    obtain ⟨held, found⟩ := Module.block?_of_body? found
    exact ⟨own, held, at_, Option.some.inj (belongs.symm.trans (same.trans owner)), found⟩
  -- The loop is one of this function, so its two blocks are there to be jumped to.
  · rw [Scopes.loopFrame?, opened] at meant
    obtain ⟨member, loop, same⟩ := enclosed.loopFrame meant
    have home : found.home = block.function := same.trans (fits.home_eq stands)
    have fits := sound.fits found (opened ▸ member)
    obtain ⟨next, exit⟩ := fits.loop loop
    obtain ⟨next, going⟩ := Option.isSome_iff_exists.mp next
    obtain ⟨exit, leaving⟩ := Option.isSome_iff_exists.mp exit
    exact ⟨next, exit, going, leaving, home ▸ fits.nextRound next going,
      home ▸ fits.loopExit exit leaving⟩

/-! Names within functions. -/

namespace Code

namespace Names

/-- The search for a free name, round by round: behind a number whose name is taken the next one is
tried. -/
inductive Search (used : List Name) (base : Name) : (count number : Nat) → Prop
  | free {count : Nat} (free : numbered base (count + 1) ∉ used) :
      Search used base count (count + 1)
  | taken {count number : Nat} (taken : numbered base (count + 1) ∈ used)
      (rest : Search used base (count + 1) number) :
    Search used base count number

variable {used : List Name} {base : Name}

/-- A search ends with one number at most. -/
theorem Search.unique {count first second : Nat} (ends : Search used base count first)
    (other : Search used base count second) : first = second := by
  -- At every number the name is free or taken, so both searches take the same turn.
  induction ends with
  | free free =>
    cases other with
    | free _ => rfl
    | taken taken _ => exact absurd taken free
  | taken taken _ ih =>
    cases other with
    | free free => exact absurd taken free
    | taken _ rest => exact ih rest

/-- A search that is given enough tries comes to its end. -/
theorem search_of_free (tries : Nat) :
    ∀ count, numbered base (freeNumber used base tries count) ∉ used →
    Search used base count (freeNumber used base tries count) := by
  -- The induction is on the tries that are left, from any number on.
  induction tries with
  | zero => exact fun _ free => .free free
  | succ tries ih =>
    intro count free
    unfold freeNumber at free ⊢
    split at free
    · rename_i taken
      rw [if_pos taken]
      exact .taken (by simpa using taken) (ih (count + 1) free)
    · rename_i untaken
      rw [if_neg untaken]
      exact .free free

/-- How a wanted name is settled: it stays as it is where it is free, and else a search for a number
ends, which makes the name. -/
structure Settles (names : Names) (base : Name) : Prop where
  free : base ∉ names.used → (names.registerName base).1 = base
  taken : base ∈ names.used → ∃ number,
    (∀ other, Search names.used base (names.counter base) other ↔ other = number) ∧
    (names.registerName base).1 = numbered base number
  fresh : (names.registerName base).1 ∉ names.used

/-- Among finitely many names in use every wanted name is settled. -/
theorem settles (names : Names) (base : Name) : names.Settles base where
  free := fun free => by simp [registerName, free]
  taken := fun taken => by
    -- The search is as long as the list of names in use at most, so it ends.
    have ends := search_of_free names.used.length (names.counter base)
      (freeNumber_free names.used base (names.counter base))
    refine ⟨_, fun other => ⟨fun found => found.unique ends, fun same => same ▸ ends⟩, ?_⟩
    simp [registerName, taken]
  fresh := names.registerName_fresh base

/-- No name is taken twice. -/
theorem register_once {names : Names} (once : names.used.Nodup) (base : String) :
    (names.register base).2.used.Nodup := by
  rw [register_used]
  exact List.nodup_cons.mpr ⟨names.register_fresh base, once⟩

end Names

/-- A character of a name between quotes. -/
def escaped (char : Char) : List Char :=
  if char = '\\' then ['\\', '5', 'c'] else if char = '"' then ['\\', '2', '2'] else [char]

/-- Where a written character ends can be seen. -/
theorem escaped_append {first second : Char} {rest others : List Char}
    (same : escaped first ++ rest = escaped second ++ others) : first = second ∧ rest = others := by
  -- A backslash or a quote is written with a backslash first, and no other character is.
  unfold escaped at same
  grind

/-- Characters can be read back from what is written for them, one after the other. -/
theorem escaped_injective :
    ∀ first second : List Char, first.flatMap escaped = second.flatMap escaped → first = second
  | [], [], _ => rfl
  | [], second :: _, same | second :: _, [], same => by
    -- Each letter is written with one letter at least, so an empty text is no other one.
    have nonempty : escaped second ≠ [] := by
      unfold escaped
      split
      · simp
      · split <;> simp
    simp_all
  | first :: rest, second :: others, same => by
    rw [List.flatMap_cons, List.flatMap_cons] at same
    obtain ⟨rfl, tails⟩ := escaped_append same
    rw [escaped_injective rest others tails]

/-- A name can be read back from what is written for it. -/
theorem quotedName_injective : Function.Injective quotedName := by
  intro first second same
  have written : ∀ name, (quotedName name).toList = ['"'] ++ name.toList.flatMap escaped ++ ['"'] :=
    fun name => String.toList_ofList
  -- Between the quotes stands the escaped name, and escaping can be undone.
  have lists := congrArg String.toList same
  rw [written, written] at lists
  exact String.toList_inj.mp
    (escaped_injective _ _ (List.append_cancel_left (List.append_cancel_right lists)))

/-- A label is written as it is where it does not begin with a quote, and between quotes else. -/
theorem labelText_cases (label : String) :
    (labelText label = label ∧ ∀ rest, label.toList ≠ '"' :: rest) ∨
    labelText label = quotedName label := by
  unfold labelText
  dsimp only
  split
  · exact .inr rfl
  · rename_i first others letters
    -- Quotes are needed for letters that may not stand in a label.
    split
    · rename_i plain
      refine .inl ⟨rfl, fun rest same => ?_⟩
      cases letters.symm.trans same
      simp [isLabelChar] at plain
    · exact .inr rfl

/-- Different labels are written differently: only what is put between quotes begins with one. -/
theorem labelText_injective : Function.Injective labelText := by
  intro first second same
  have quoted : ∀ label, ∃ rest, (quotedName label).toList = '"' :: rest :=
    fun label => ⟨_, String.toList_ofList⟩
  -- A label with quotes begins with one, and a label without quotes does not.
  rcases labelText_cases first with ⟨plain, unquoted⟩ | written <;>
    rcases labelText_cases second with ⟨other, bare⟩ | also
  · rwa [plain, other] at same
  · obtain ⟨rest, begins⟩ := quoted second
    rw [plain, also] at same
    exact absurd (same ▸ begins) (unquoted rest)
  · obtain ⟨rest, begins⟩ := quoted first
    rw [written, other] at same
    exact absurd (same ▸ begins) (bare rest)
  · exact quotedName_injective (by rwa [written, also] at same)

/-- Different names in a function are written differently. -/
theorem localName_injective : Function.Injective localName := by
  intro first second same
  exact quotedName_injective (by simpa [localName] using same)

/-- Within each function no name has been given twice, be it written in the end or not. -/
def Module.GivesOnce (module : Module) : Prop :=
  ∀ function ∈ module.functions, function.names.used.Nodup

namespace Module.GivesOnce

variable {module : Module}

/-- So it stays where a function is changed that gives a new name. -/
theorem inFunction (once : module.GivesOnce) (name : Name) {change : Function → String × Function}
    {base : String}
    (names : ∀ function, (change function).2.names = (function.names.register base).2) :
    (module.inFunction name change).2.GivesOnce := by
  intro function member
  obtain ⟨old, inside, rfl⟩ := List.mem_map.mp member
  -- The changed function gives one more name, all others none.
  split
  · exact names old ▸ Names.register_once (once old inside) base
  · exact once old inside

/-- The names of a new function's parameters are given once each. -/
theorem declared (name : Name) (wanted : List (String × ValueKind)) (result : ExactKind) :
    (Function.declared name wanted result).names.used.Nodup := by
  show (Function.registerParameters .empty wanted).2.used.Nodup
  -- The numbers that unnamed parameters would have are given first, and then the names.
  refine List.foldlRecOn
    (motive := fun state : List (String × ValueKind) × Names => state.2.used.Nodup) wanted _ ?_
    fun _ once entry _ => Names.register_once once entry.1
  exact List.foldlRecOn (motive := fun names : Names => names.used.Nodup) _ _
    (by simp [Names.empty]) fun _ once _ _ =>
      Names.register_once once ""

/-- A new function has only given the names of its parameters. -/
theorem addFunction (once : module.GivesOnce) (base : Name)
    (parameters : List (String × ValueKind)) (result : ExactKind) :
    (module.addFunction base parameters result).2.GivesOnce := by
  intro function member
  rcases List.mem_append.mp member with old | new
  · exact once function old
  · exact List.mem_singleton.mp new ▸ declared _ parameters result

end Module.GivesOnce

/-- The name of a register. -/
def Operand.register? : Operand → Option String
  | register name _ => some name
  | _ => none

/-- The names that an instruction refers to in its function: of registers, of a slot, and of
blocks. -/
def Instruction.referred (instruction : Instruction) : List String :=
  instruction.operands.filterMap Operand.register? ++ (instruction.accessed?.map Prod.fst).toList ++
    instruction.targets

/-- The names within a function are kept apart, as they are and as they are written. -/
structure Function.NamesApart (function : Function) : Prop where
  /-- Parameters, labels, slots and values all have names of their own. -/
  distinct : function.definedNames.Nodup
  taken : ∀ name ∈ function.definedNames, Name.text name ∈ function.names.used
  written : (function.definedNames.map localName).Nodup
  labels : (function.blocks.map fun block => labelText block.label).Nodup
  /-- Every reference is to one definition. -/
  resolved : ∀ block ∈ function.blocks, ∀ instruction ∈ block.instructions,
    ∀ name ∈ instruction.referred, (function.definedNames.map localName).count (localName name) = 1

/-- What an instruction defines is among the names that its function defines. -/
theorem Function.defined_mem {function : Function} {block : Block}
    (member : block ∈ function.blocks) {instruction : Instruction}
    (stands : instruction ∈ block.instructions) {name : String}
    (defined : instruction.defined? = some name) : name ∈ function.definedNames := by
  refine List.mem_append_right _ (List.mem_flatMap.mpr ⟨block, member, ?_⟩)
  exact List.mem_cons_of_mem _ (List.mem_filterMap.mpr ⟨instruction, stands, defined⟩)

/-- An instruction that refers to something is none that reserves a slot. -/
theorem Block.mem_body {block : Block} {instruction : Instruction}
    (stands : instruction ∈ block.instructions) (refers : instruction.referred ≠ []) :
    instruction ∈ block.body := by
  refine List.mem_filter.mpr ⟨stands, ?_⟩
  cases instruction <;> first | rfl | exact absurd rfl refers

/-- In valid code every name that is referred to is defined. -/
theorem Module.Valid.referred {module : Module} (valid : module.Valid) (tidy : module.Tidy)
    {function : Function} (inside : function ∈ module.functions) {block : Block}
    (member : block ∈ function.blocks) {instruction : Instruction}
    (stands : instruction ∈ block.instructions) {name : String}
    (refers : name ∈ instruction.referred) :
    name ∈ function.definedNames := by
  have within := block.mem_body stands (List.ne_nil_of_mem refers)
  obtain ⟨before, after, split⟩ := List.append_of_mem within
  -- An instruction with names in it is no slot, so it fits to what stands in front.
  have fits := valid ⟨function.name, block.label⟩ function _ (tidy.function?_eq inside)
    (tidy.body?_eq inside member) before instruction after split
  rcases List.mem_append.mp refers with refers | target
  · rcases List.mem_append.mp refers with operand | slot
    · obtain ⟨used, listed, named⟩ := List.mem_filterMap.mp operand
      cases used <;> cases named
      -- A register is a parameter, or the result of an instruction in front.
      rcases fits.operands _ listed with parameter | ⟨earlier, standing, result⟩
      · exact List.mem_append_left _ (List.mem_map.mpr ⟨_, parameter, rfl⟩)
      · have above : earlier ∈ block.body := split ▸ List.mem_append_left _ standing
        refine Function.defined_mem member (List.mem_filter.mp above).1 ?_
        have plain := (List.mem_filter.mp above).2
        simp [Instruction.defined?, result, Option.isNone_iff_eq_none.mp plain]
    · obtain ⟨accessed, found, rfl⟩ := Option.map_eq_some_iff.mp (Option.mem_toList.mp slot)
      exact Function.slot_mem_definedNames (fits.accesses accessed found)
  -- A target is the label of a block of the same function.
  · obtain ⟨⟨body, found⟩, -⟩ := fits.targets name target
    obtain ⟨other, held, -⟩ := Option.map_eq_some_iff.mp found
    exact Function.block?_label held ▸ Function.label_mem_definedNames (Function.block?_mem held)

/-- In valid code of tidy functions names are kept apart. -/
theorem Module.Valid.namesApart {module : Module} (valid : module.Valid) (tidy : module.Tidy)
    {function : Function} (inside : function ∈ module.functions) : function.NamesApart where
  distinct := (tidy.functions function inside).distinct
  taken := (tidy.functions function inside).used
  written := (tidy.functions function inside).distinct.map localName_injective
  labels := by
    have distinct := (tidy.functions function inside).labels.map labelText_injective
    rwa [List.map_map] at distinct
  -- A name that an instruction refers to is defined, and it is so once.
  resolved := fun block member instruction stands name refers => by
    rw [List.count_map_of_injective _ _ localName_injective]
    exact List.count_eq_one_of_mem (tidy.functions function inside).distinct
      (valid.referred tidy inside member stands refers)

end Code

/-- No act gives a name within a function that was given before. -/
theorem Act.perform_givesOnce {builder : Builder} (once : builder.code.GivesOnce) (act : Act) :
    (act.perform builder).code.GivesOnce := by
  -- What changes the scopes only leaves the code as it is.
  have settled : ∀ result, (settle builder result).code.GivesOnce :=
    fun result => by cases result <;> exact once
  -- Inside a function no name is given away; only a new function takes one from the module.
  cases act with
  | emit base make =>
    simp only [perform]
    split
    · exact once.inFunction _ fun _ => rfl
    · exact once
  | reserve base kind =>
    simp only [perform]
    split
    · exact once.inFunction _ fun _ => rfl
    · exact once
  | addBlock owner base => exact once.inFunction owner fun _ => rfl
  | addFunction base parameters result => exact once.addFunction base parameters result
  | moveTo block => exact settled _
  | declare name binding => exact settled _
  | pop => exact settled _
  | count | note _ | push _ _ | statement _ | statements _ => exact once

/-- And so for any acts, one after the other. -/
theorem Act.performAll_givesOnce {builder : Builder} (once : builder.code.GivesOnce)
    (acts : List Act) :
    (performAll builder acts).code.GivesOnce := by
  induction acts generalizing builder with
  | nil => exact once
  | cons act rest ih => exact ih (perform_givesOnce once act)

/-! Both over sessions. -/

namespace Session

/-- The acts that the compilation of a tree consists of. -/
def acts (session : Session) (tree : Tree) : List Act :=
  (tree.programCourse session.settings.entryName).acts session.builder

/-- They lead to where the compilation ends, whatever its result is. -/
theorem performAll_acts (session : Session) (tree : Tree) :
    Act.performAll session.builder (session.acts tree) = (session.compile tree).2.builder :=
  ((tree.programCourse session.settings.entryName).reaches session.builder).trans
    (session.compile_outcome tree).2.symm

variable {session : Session} {tree : Tree}

/-- Each of them is performed where it may be. -/
theorem acts_proper (sound : session.builder.Sound) (tree : Tree) :
    Act.AllProper session.builder (session.acts tree) := by
  have leads := tree.programCourse_leads sound session.settings.entryName
  unfold Lowering.Course.Leads at leads
  split at leads
  · exact leads.proper
  · exact leads

/-- A compilation that succeeds is a passage. -/
theorem acts_passage (sound : session.builder.Sound) {entry : Name}
    (compiled : (session.compile tree).1 = .ok entry) :
    Lowering.Passage session.builder (session.acts tree) (session.compile tree).2.builder [] := by
  have leads := tree.programCourse_leads sound session.settings.entryName
  obtain ⟨result, builder⟩ := session.compile_outcome tree
  rw [result] at compiled
  rw [builder]
  unfold Lowering.Course.Leads at leads
  -- The compilation has succeeded, so the course has come to its end.
  split at leads <;> rename_i outcome
  · rw [outcome]
    exact leads
  · rw [outcome] at compiled
    cases compiled

variable {done rest : List Act}

/-- At every moment the builder is sound. -/
theorem moment_sound (sound : session.builder.Sound) (way : session.acts tree = done ++ rest) :
    (Act.performAll session.builder done).Sound := by
  -- At the end the builder is the compiled one; before, the next act is proper.
  cases rest with
  | nil =>
    rw [List.append_nil] at way
    rw [← way, session.performAll_acts tree]
    exact (compile_grows sound tree).1
  | cons next rest =>
    exact (acts_proper sound tree _ next (way ▸ Act.meets_append.mpr (.inr .here))).sound

/--
How emission keeps its place while a session compiles a tree, however that ends. The compilation
consists of acts, and to insert by an index does at every moment in between what they say; emission
stands where it should if a frame is open. Where an instruction is emitted, a slot is reserved, or a
statement begins, a frame is open and its block has no terminator.
-/
structure KeepsPlace (session : Session) (tree : Tree) : Prop where
  ends : Act.performAll session.builder (session.acts tree) = (session.compile tree).2.builder
  moments : ∀ place? done rest, session.acts tree = done ++ rest →
    (Inserter.performAll ⟨session.builder, place?⟩ done).builder =
    Act.performAll session.builder done ∧
      ∀ frame, (Act.performAll session.builder done).scopes.current? = some frame →
        ∃ block, (Act.performAll session.builder done).Placed
          (Inserter.performAll ⟨session.builder, place?⟩ done).place? frame block
  emits : ∀ done next rest, session.acts tree = done ++ next :: rest → next.NeedsOpen →
    ∃ frame block, (Act.performAll session.builder done).scopes.current? = some frame ∧
    frame.block = some block ∧
      (Act.performAll session.builder done).code.isTerminated block = false

/--
Whatever trees a session has compiled and with whatever result, while it compiles another one
emission keeps its place, wherever instructions were inserted before.
-/
theorem compile_keepsPlace {overrides : Document} {debug : Bool} {session : Session}
    (started : Session.start overrides debug = .ok session) (earlier : List Tree) (tree : Tree) :
    (session.compileAll earlier).2.KeepsPlace tree := by
  have sound : session.builder.Sound := start_builder started ▸ .empty
  have current := (compileAll_grows sound earlier).1
  have closed : (session.compileAll earlier).2.builder.scopes.frames = [] :=
    List.length_eq_zero_iff.mp
      ((compileAll_depth session earlier).trans (by rw [start_builder started]; rfl))
  -- Every act of the compilation is proper where it is done.
  have proper := acts_proper current tree
  refine ⟨performAll_acts _ tree, fun place? done rest way => ?_,
    fun done next rest way needs => ?_⟩
  -- Nothing is open yet where the compilation begins.
  · have begins : (session.compileAll earlier).2.builder.InsertsAt place? := by
      intro block at_
      simp [Builder.block?, Scopes.current?, closed] at at_
    -- Then inserting at the index does what appending does, from any place to begin with.
    obtain ⟨same, inserts⟩ := Act.insertAll_refines (fun moment next meets =>
      proper moment next (way ▸ Act.meets_append.mpr (.inl meets))) begins
    exact ⟨same, fun frame innermost => (moment_sound current way).placed_at inserts innermost⟩
  -- An act that needs an open block finds the builder ready.
  · have here := proper _ next (way ▸ Act.meets_append.mpr (.inr .here))
    obtain ⟨block, at_, body, found, body_open⟩ := here.ready needs
    obtain ⟨frame, innermost, stands⟩ := Option.bind_eq_some_iff.mp at_
    exact ⟨frame, block, innermost, stands, (Code.Module.isTerminated_iff found).mpr body_open⟩

/-- The sample opens a frame for its entry function, its other function, and the body of its
loop. -/
theorem sample_keepsPlace : ∃ session, Session.start (.object []) false = .ok session ∧
    (session.compileAll [sample]).2.KeepsPlace sample ∧
      ((session.compileAll [sample]).2.acts sample).countP (· matches .push ..) = 3 := by
  have started : Session.start (.object []) false = .ok ⟨Settings.default, false, .empty, none⟩ :=
    rfl
  exact ⟨_, started, compile_keepsPlace started [sample] sample, by decide +kernel⟩

/--
How names are kept apart while a session compiles a tree, however that ends: at every moment in
between each function has its names apart, none of them was given twice, and any further name that
may be wanted is settled.
-/
structure KeepsNames (session : Session) (tree : Tree) : Prop where
  ends : Act.performAll session.builder (session.acts tree) = (session.compile tree).2.builder
  moments : ∀ done rest, session.acts tree = done ++ rest →
    ∀ function ∈ (Act.performAll session.builder done).code.functions,
      function.NamesApart ∧ function.names.used.Nodup ∧ ∀ base, function.names.Settles base

/-- Whatever a session has compiled, no name has been given twice within a function. -/
theorem compileAll_givesOnce {session : Session} (once : session.builder.code.GivesOnce)
    (trees : List Tree) :
    (session.compileAll trees).2.builder.code.GivesOnce := by
  induction trees generalizing session with
  | nil => exact once
  | cons tree rest ih =>
    exact ih (session.performAll_acts tree ▸ Act.performAll_givesOnce once (session.acts tree))

/-- Whatever trees a session has compiled and with whatever result, while it compiles another one
names are kept apart. -/
theorem compile_keepsNames {overrides : Document} {debug : Bool} {session : Session}
    (started : Session.start overrides debug = .ok session) (earlier : List Tree) (tree : Tree) :
    (session.compileAll earlier).2.KeepsNames tree := by
  have sound : session.builder.Sound := start_builder started ▸ .empty
  have current := (compileAll_grows sound earlier).1
  -- A new session has no functions, so none of its names was given twice.
  have begins : session.builder.code.GivesOnce := by
    rw [start_builder started]
    exact List.forall_mem_nil _
  have once := compileAll_givesOnce begins earlier
  refine ⟨performAll_acts _ tree, fun done rest way function member => ?_⟩
  have moment := moment_sound current way
  exact ⟨moment.valid.namesApart moment.tidy member,
    Act.performAll_givesOnce once done function member, function.names.settles⟩

/-- A program whose variables are called like the blocks of branches, one of which a later block has
to make way for. -/
def clashing : Tree :=
  let declared := .variableDeclaration .start
    (.identifier .start (.text "if_then") (.kindValue .infer)) (.booleanLiteral .start true)
  let branch := fun body =>
    .ifStatement .start (.booleanLiteral .start true) (.blockStatement .start (.list body)) .null
  .program .start (.list [declared, branch [declared], branch []])

/-- The block of the second branch gets a number behind the one that it would have. -/
theorem clashing_keepsNames : ∃ session, Session.start (.object []) false = .ok session ∧
    (session.compileAll []).2.KeepsNames clashing ∧ (session.compile clashing).1.isOk = true ∧
      ((session.compile clashing).2.builder.code.functions.flatMap Code.Function.definedNames) =
        ["entry", "if_then.1", "if_then", "if_then.0", "if_merge.0", "if_then.1.1",
          "if_merge.1"] := by
  have started : Session.start (.object []) false = .ok ⟨Settings.default, false, .empty, none⟩ :=
    rfl
  exact ⟨_, started, compile_keepsNames started [] clashing, by decide +kernel, by decide +kernel⟩

end Session

end LoopLang
