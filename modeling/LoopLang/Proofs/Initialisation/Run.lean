import LoopLang.Proofs.Initialisation.Frames
import LoopLang.Proofs.Lowering.Nesting

/-! Lowering over a ledger: what the steps of building promise, and that they emit nothing that
breaks a promise. -/

namespace LoopLang

open Code (Name Instruction Ledger)

/-- What may be emitted: it reads a visible variable, and it goes where only visible ones are
promised. -/
structure Code.Ledger.Permits (ledger : Ledger) (owner : Name) (visible : List String)
    (instruction : Instruction) :
    Prop where
  loads : ∀ slot ∈ instruction.loaded?, slot ∈ visible
  targets : ∀ target ∈ instruction.targets, ∃ names ∈ ledger.promised ⟨owner, target⟩,
    names ⊆ visible

/-- A block of a function that some variables are promised for. -/
structure Code.Ledger.Awaits (ledger : Ledger) (owner : Name) (names : List String)
    (block : BlockRef) : Prop where
  belongs : block.function = owner
  promised : ledger.promised block = some names

/-- A block is waited for by a larger ledger, too. -/
theorem Code.Ledger.Awaits.mono {ledger larger : Ledger} {owner : Name} {names : List String}
    {block : BlockRef} (awaits : ledger.Awaits owner names block) (grows : ledger.Grows larger) :
    larger.Awaits owner names block :=
  ⟨awaits.belongs, grows _ _ awaits.promised⟩

/-- Wherever a block is waited for by visible variables, a jump may go. -/
theorem Code.Ledger.Awaits.goes {ledger : Ledger} {owner : Name} {names visible : List String}
    {block : BlockRef} (awaits : ledger.Awaits owner names block) (shown : names ⊆ visible) :
    ∃ listed ∈ ledger.promised ⟨owner, block.label⟩, listed ⊆ visible := by
  obtain ⟨rfl, promised⟩ := awaits
  exact ⟨names, promised, shown⟩

namespace Lowering

variable {α β : Type} {owner : Name} {visible : List String} {ledger larger : Ledger}

/-- A computation that leaves the variables visible that were so; code keeps to a ledger however it
ends. -/
def Steady (owner : Name) (visible : List String) (ledger : Ledger) (action : Lowering α)
    (done : Ledger → α → Prop) : Prop :=
  ∀ larger, ledger.Grows larger → ∀ start : Builder, start.Settled larger owner visible →
    action.Ends start
      (fun answer finish => ∃ later,
        larger.Grows later ∧ finish.Settled later owner visible ∧ done later answer)
      fun _ finish => ∃ later : Ledger, later.Keeps finish.code

/-- A computation that may make more variables visible; code keeps to a ledger however it ends. -/
def Flows (owner : Name) (visible : List String) (ledger : Ledger) (action : Lowering Unit) :
    Prop :=
  ∀ larger more, ledger.Grows larger → visible ⊆ more → ∀ start : Builder,
    start.Settled larger owner more → action.Ends start
      (fun _ finish => ∃ later last,
        larger.Grows later ∧ more ⊆ last ∧ finish.Settled later owner last)
      fun _ finish => ∃ later : Ledger, later.Keeps finish.code

namespace Steady

variable {action : Lowering α} {done : Ledger → α → Prop}

/-- An answer leaves everything as it is. -/
theorem pure {answer : α} (held : ∀ larger, ledger.Grows larger → done larger answer) :
    Steady owner visible ledger (Pure.pure answer) done :=
  fun larger grows _ settled => ⟨larger, .refl _, settled, held larger grows⟩

/-- So does a refusal. -/
theorem refuse (cause : Cause) (place : Location) :
    Steady owner visible ledger (Lowering.refuse cause place) done :=
  fun larger _ _ settled => ⟨larger, settled.keeps⟩

/-- So does a fault. -/
theorem stop (fault : Fault) : Steady owner visible ledger (Lowering.stop fault) done :=
  fun larger _ _ settled => ⟨larger, settled.keeps⟩

/-- A computation that looks at the open frames answers what is known of those of a settled
builder. -/
theorem of_looks {answers : Scopes → α → Prop} {fails : Scopes → Failure → Prop}
    (looks : ∀ scopes, action.Looks scopes (answers scopes) (fails scopes))
    (answered : ∀ larger, ledger.Grows larger → ∀ start : Builder,
      start.Settled larger owner visible → ∀ answer,
        answers start.scopes answer → done larger answer) :
    Steady owner visible ledger action done := by
  intro larger grows start settled
  -- A look leaves the builder as it is, so the ledger does not have to grow.
  refine (looks start.scopes).ends.imp (fun answer finish held => ?_) fun _ finish held => ?_
  · obtain ⟨known, rfl⟩ := held
    exact ⟨larger, .refl _, settled, answered larger grows _ settled answer known⟩
  · obtain ⟨_, rfl⟩ := held
    exact ⟨larger, settled.keeps⟩

/-- So it is steady, whatever it answers. -/
theorem looking {answers : Scopes → α → Prop} {fails : Scopes → Failure → Prop}
    (looks : ∀ scopes, action.Looks scopes (answers scopes) (fails scopes)) :
    Steady owner visible ledger action fun _ _ => True :=
  .of_looks looks fun _ _ _ _ _ _ => trivial

/-- A computation without an answer is steady if it leaves what is visible as it was. -/
theorem of_ends {action : Lowering Unit}
    (ends : ∀ larger, ledger.Grows larger → ∀ start : Builder, start.Settled larger owner visible →
      action.Ends start (fun _ finish => ∃ later,
        larger.Grows later ∧ finish.Settled later owner visible) fun _ finish => ∃ later : Ledger,
          later.Keeps finish.code) :
    Steady owner visible ledger action fun _ _ => True := by
  intro larger grows start settled
  refine (ends larger grows start settled).imp (fun _ _ held => ?_) fun _ _ keeps => keeps
  obtain ⟨later, more, finished⟩ := held
  exact ⟨later, more, finished, trivial⟩

/-- Behind a refusal nothing follows. -/
theorem refuse_bind {cause : Cause} {place : Location} {next : β → Lowering α} :
    Steady owner visible ledger (Lowering.refuse cause place >>= next) done :=
  fun larger _ _ settled => ⟨larger, settled.keeps⟩

/-- Neither does anything behind a fault. -/
theorem stop_bind {fault : Fault} {next : β → Lowering α} :
    Steady owner visible ledger (Lowering.stop fault >>= next) done :=
  fun larger _ _ settled => ⟨larger, settled.keeps⟩

/-- Computations are steady one after the other. -/
theorem bind {next : α → Lowering β} {results : Ledger → β → Prop}
    (first : Steady owner visible ledger action done)
    (rest : ∀ larger, ledger.Grows larger → ∀ answer,
      done larger answer → Steady owner visible larger (next answer) results) :
    Steady owner visible ledger (action >>= next) results := by
  intro larger grows start settled
  refine .bind (first larger grows start settled)
    fun answer middle ⟨further, more, between, held⟩ => ?_
  -- The ledger of the second part extends that of the first one.
  -- What was visible stays visible, and the ledger only gets larger.
  refine (rest further (grows.trans more) answer held further (.refl _) middle between).imp
    (fun _ _ ends => ?_) fun _ _ ends => ends
  obtain ⟨last, grown, finished, answered⟩ := ends
  exact ⟨last, more.trans grown, finished, answered⟩

/-- What follows may depend on the open frames, which are those of a settled builder. -/
theorem scopes {next : Scopes → Lowering α}
    (rest : ∀ larger, ledger.Grows larger → ∀ start : Builder, start.Settled larger owner visible →
      Steady owner visible larger (next start.scopes) done) :
    Steady owner visible ledger (Lowering.scopes >>= next) done :=
  fun larger grows start settled => rest larger grows start settled larger (.refl _) start settled

/-- A line of the debug output is not about the code. -/
theorem note (line : String) : Steady owner visible ledger (Lowering.note line) fun _ _ => True :=
  fun larger _ _ settled => ⟨larger, .refl _, settled.other _ _, trivial⟩

/-- Nor is the counter of branches. -/
theorem nextSuffix : Steady owner visible ledger Lowering.nextSuffix fun _ _ => True :=
  fun larger _ start settled => ⟨larger, .refl _, settled.other start.scopes.log _, trivial⟩

/-- An instruction is emitted that breaks no promise. -/
theorem emit (base : String) {make : String → Instruction} (plain : Code.Function.IsPlain make)
    (permits : ∀ name, ledger.Permits owner visible (make name)) :
    Steady owner visible ledger (Lowering.emit base make) fun _ _ => True := by
  intro larger grows start settled
  obtain ⟨block, body, cursor, rfl, found, held⟩ := settled.cursor
  refine (emit_ends cursor).mpr ⟨larger, .refl _, ?_, trivial⟩
  refine settled.withCode (start.code.append_grows block base plain) (.refl _)
    (settled.keeps.append plain fun other name same => ?_)
  cases found.symm.trans same
  -- What is visible holds a value where code is emitted, so it may be read, and it may be promised
  -- to other blocks.
  refine ⟨fun slot member => held slot ((permits name).loads slot member), fun target member => ?_⟩
  obtain ⟨names, promised, shown⟩ := (permits name).targets target member
  exact ⟨names, grows _ _ promised, fun slot listed => held slot (shown listed)⟩

/-- An instruction without a name is emitted, if it is permitted. -/
theorem emitUnnamed {instruction : Instruction} (plain : Code.Function.IsPlain fun _ => instruction)
    (permits : ledger.Permits owner visible instruction) :
    Steady owner visible ledger (Lowering.emitUnnamed instruction) fun _ _ => True :=
  .bind (.emit "" plain fun _ => permits) fun _ _ _ _ => .pure fun _ _ => trivial

/-- Asking whether a block has an end changes nothing. -/
theorem isTerminated : Steady owner visible ledger Lowering.isTerminated fun _ _ => True :=
  .bind (.looking fun _ => .cursor) fun _ _ _ _ larger _ _ settled =>
    ⟨larger, .refl _, settled, trivial⟩

/-- A block is ended by an instruction that is permitted. -/
theorem terminate {instruction : Instruction} (plain : Code.Function.IsPlain fun _ => instruction)
    (permits : ∀ larger, ledger.Grows larger → larger.Permits owner visible instruction) :
    Steady owner visible ledger (Lowering.terminate instruction) fun _ _ => True := by
  refine .bind .isTerminated fun larger grows ended _ => ?_
  dsimp only
  -- A block that has ended is not ended again.
  split
  · exact .stop_bind
  · exact .emitUnnamed plain (permits _ grows)

/-- Exactly what is visible is promised of a new block, to which emission may move later. -/
theorem createBlock (base : String) :
    Steady owner visible ledger (Lowering.createBlock base) fun later =>
      later.Awaits owner visible := by
  refine .scopes fun larger _ _ settled => ?_
  rw [settled.function?]
  intro further _ start settled
  obtain ⟨block, body, _, rfl, found, _⟩ := settled.cursor
  obtain ⟨function, known, inside⟩ := Option.bind_eq_some_iff.mp found
  obtain ⟨standing, held, _⟩ := Option.map_eq_some_iff.mp inside
  -- Code is emitted into a block of the function, so the function does not start in the new one.
  have started : function.blocks ≠ [] := List.ne_nil_of_mem (Code.Function.block?_mem held)
  obtain ⟨grows, keeps⟩ := settled.keeps.addBlock known base visible (.inr started)
  exact ⟨_, grows, settled.withCode
    (settled.keeps.tidy.addBlock_grows base block.function) grows keeps, rfl, if_pos rfl⟩

/-- Emission moves to a block that waits for exactly what is visible. -/
theorem moveTo {block : BlockRef} (awaits : ledger.Awaits owner visible block) :
    Steady owner visible ledger (Lowering.moveTo block) fun _ _ => True := by
  intro larger grows start settled
  obtain ⟨frame, outer, opened, _⟩ := settled.head
  obtain ⟨belongs, promised⟩ := awaits.mono grows
  cases moved : start.scopes.moveTo block with
  | error failure =>
    -- Emission moves wherever a frame is open.
    simp [Scopes.moveTo, opened] at moved
  | ok scopes =>
    show Ends ((do setScopes .unknown ((← Lowering.scopes).moveTo block) : Lowering Unit)) start _ _
    simp only [bind_ends, scopes_ends, moved]
    exact ⟨larger, .refl _, settled.moveTo moved belongs promised, trivial⟩

/-- A name without a slot is declared. -/
theorem declare (name : String) {binding : Binding} (none_stored : binding.slot? = none)
    (place : Location) :
    Steady owner visible ledger (Lowering.declare name binding place) fun _ _ => True := by
  intro larger grows start settled
  show Ends ((do setScopes place ((← Lowering.scopes).declare name binding) : Lowering Unit)) start
      _ _
  simp only [bind_ends, scopes_ends]
  -- The binding has no slot, so no new slot becomes visible.
  cases declared : start.scopes.declare name binding with
  | error failure => cases failure <;> exact ⟨larger, settled.keeps⟩
  | ok scopes =>
    have after := settled.declare declared fun slot stored => by simp [none_stored] at stored
    exact ⟨larger, .refl _, by simpa [none_stored] using after, trivial⟩

end Steady

namespace Flows

variable {action : Lowering Unit}

/-- What is steady flows, with the same variables visible behind it. -/
theorem of_steady {done : Ledger → Unit → Prop}
    (steady : ∀ more, visible ⊆ more → Steady owner more ledger action done) :
    Flows owner visible ledger action := by
  intro larger more grows shown start settled
  refine (steady more shown larger grows start settled).imp (fun _ _ held => ?_)
    fun _ _ ends => ends
  obtain ⟨later, further, finished, _⟩ := held
  exact ⟨later, more, further, List.Subset.refl _, finished⟩

/-- An answer flows. -/
theorem pure : Flows owner visible ledger (Pure.pure ()) :=
  fun larger more _ _ _ settled => ⟨larger, more, .refl _, List.Subset.refl _, settled⟩

/-- So does a refusal of a statement. -/
theorem refuse (cause : Cause) (place : Location) :
    Flows owner visible ledger (Lowering.refuse cause place) :=
  fun larger _ _ _ _ settled => ⟨larger, settled.keeps⟩

/-- Computations follow each other, the second one with all that is visible behind the first one. -/
theorem bind {next : Unit → Lowering Unit} (first : Flows owner visible ledger action)
    (rest : ∀ larger more, ledger.Grows larger → visible ⊆ more →
      Flows owner more larger (next ())) :
    Flows owner visible ledger (action >>= next) := by
  intro larger more grows shown start settled
  refine .bind (first larger more grows shown start settled)
    fun _ middle ⟨further, all, grown, wider, between⟩ => ?_
  refine (rest further all (grows.trans grown) (List.Subset.trans shown wider) further all (.refl _)
    (List.Subset.refl _) middle between).imp (fun _ _ ends => ?_) fun _ _ ends => ends
  obtain ⟨later, last, later_grown, widest, finished⟩ := ends
  exact ⟨later, last, grown.trans later_grown, List.Subset.trans wider widest, finished⟩

/-- A steady computation may come first. -/
theorem after {first : Lowering α} {done : Ledger → α → Prop} {next : α → Lowering Unit}
    (steady : ∀ more, visible ⊆ more → Steady owner more ledger first done)
    (rest : ∀ larger more, ledger.Grows larger → visible ⊆ more → ∀ answer, done larger answer →
      Flows owner more larger (next answer)) : Flows owner visible ledger (first >>= next) := by
  intro larger more grows shown start settled
  refine .bind (steady more shown larger grows start settled)
    fun answer middle ⟨further, grown, between, held⟩ => ?_
  -- The first part may promise something, but declares nothing.
  refine (rest further more (grows.trans grown) shown answer held further more (.refl _)
    (List.Subset.refl _) middle between).imp (fun _ _ ends => ?_) fun _ _ ends => ends
  obtain ⟨later, last, later_grown, wider, finished⟩ := ends
  exact ⟨later, last, grown.trans later_grown, wider, finished⟩

/-- A frame is opened for a computation and closed behind it, where what is visible is what was so
in front of it. -/
theorem withFrame {inner : Name} {more : List String} {start : Builder} {block : BlockRef}
    {options : FrameOptions}
    (flows : Flows inner more ledger action) (nested : Nested action)
      (settled : start.Settled ledger owner visible)
    (pushed : Builder.Settled
      { start with scopes := start.scopes.push (some block) options } ledger inner more)
    (belongs : options.isFunction = true ∨ inner = owner) :
    (Lowering.withFrame (some block) options action).Ends start
      (fun _ finish => ∃ later, ledger.Grows later ∧ finish.Settled later owner visible)
      fun _ finish => ∃ later : Ledger, later.Keeps finish.code := by
  obtain ⟨next, outer, around, owns⟩ := settled.head
  have ends := flows ledger more (.refl _) (List.Subset.refl _) _ pushed
  -- Behind the contents the frames are those in front of them, and the one that was opened.
  have continues :=
    (nested.nests { start with scopes := start.scopes.push (some block) options }
      (.inr rfl)).continues
  obtain ⟨names, last, opened⟩ := continues
  have opened : (action.outcome
      { start with scopes := start.scopes.push (some block) options }).2.scopes.frames =
      { Frame.opened (some block) options start.scopes.current? with
        block := last, symbols := [] ++ names } :: next :: outer :=
    around ▸ opened
  unfold Ends at ends ⊢
  rw [withFrame_outcome]
  generalize action.outcome { start with scopes := start.scopes.push (some block) options } =
    ended at ends opened ⊢
  obtain ⟨failure | answer, finish⟩ := ended
  · obtain ⟨scopes, popped, -⟩ := Builder.pop_ok opened
    simp only [closeFrame, popped]
    -- Closing the frame may fail in its own way, with the same code.
    cases scopes.isAdrift <;> exact ends
  · obtain ⟨later, listed, grown, -, finished⟩ := ends
    obtain ⟨scopes, popped, outside⟩ := finished.pop opened owns belongs (around ▸ settled.visible)
    obtain ⟨_, _, cursor, _⟩ := outside.cursor
    have goes_on : scopes.isAdrift = false := by
      simp [Scopes.isAdrift, show scopes.cursor = _ from cursor]
    simp only [closeFrame, popped, goes_on]
    exact ⟨later, grown, outside⟩

end Flows

end Lowering

end LoopLang
