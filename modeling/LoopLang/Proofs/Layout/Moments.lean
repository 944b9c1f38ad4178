import LoopLang.Proofs.Code.ModuleGrowth
import LoopLang.Proofs.Scope.Resolution

/-!
Moments of lowering: the builders that it comes by, one small step after the other. What a step puts
into the code is written down, so that the code of any moment can be compared with the whole way to
it.
-/

namespace LoopLang

open Code (Name Instruction)

/-- The function that an instruction calls. -/
def Code.Instruction.callee? : Instruction → Option Name
  | call _ callee _ => some callee
  | _ => none

/-- What a step of building puts into the code. -/
inductive Placement
  | emitted (block : BlockRef) (instruction : Instruction)
  | reserved (function : Name) (slot : String) (kind : ValueKind)
  | created (function : Name)
  deriving DecidableEq, Repr

/-- Anything may be put into the code. -/
def Placement.Any : Placement → Prop := fun _ => True

/-- Any instruction, any slot and any function with a text as its name may be put into the code. -/
structure Placement.Admits (allowed : Placement → Prop) : Prop where
  emitted (block : BlockRef) (instruction : Instruction) : allowed (.emitted block instruction)
  reserved (owner : Name) (slot : String) (kind : ValueKind) : allowed (.reserved owner slot kind)
  text (name : String) : allowed (.created (.text name))

/-- Every placement is admitted where all of them are. -/
theorem Placement.Admits.any : Admits Any :=
  ⟨fun _ _ => trivial, fun _ _ _ => trivial, fun _ => trivial⟩

namespace Code.Module

/-- What is written down of an instruction: nothing is emitted into a block that does not exist. -/
def emission (module : Module) (block : BlockRef) (base : String) (make : String → Instruction) :
    List Placement :=
  match module.body? block with
  | some _ => [.emitted block (make (module.append block base make).1)]
  | none => []

/-- What is written down of a slot: nothing is reserved in a function that has no block yet. -/
def reservation (module : Module) (owner : Name) (base : String) (kind : ValueKind) :
    List Placement :=
  match (module.function? owner).bind (·.start?) with
  | some _ => [.reserved owner (module.addSlot owner base kind).1 kind]
  | none => []

end Code.Module

namespace Builder

/-- One step of building, with what it puts into the code. -/
inductive Step : Builder → List Placement → Builder → Prop
  -- Code is emitted at the end of the current block, and there are no slots among it.
  | emit {builder : Builder} {block : BlockRef} (here : builder.scopes.cursor = some block)
      (base : String) {make : String → Instruction} (plain : Code.Function.IsPlain make) :
      Step builder (builder.code.emission block base make)
        { builder with code := (builder.code.append block base make).2 }
  -- A slot is reserved in the function of the current frame.
  | reserve {builder : Builder} {owner : Name} (here : builder.scopes.function? = some owner)
      (base : String) (kind : ValueKind) :
      Step builder (builder.code.reservation owner base kind)
        { builder with code := (builder.code.addSlot owner base kind).2 }
  -- Blocks and functions are created empty.
  | addBlock (builder : Builder) (owner : Name) (base : String) :
      Step builder [] { builder with code := (builder.code.addBlock owner base).2 }
  | addFunction (builder : Builder) (base : Name) (parameters : List (String × ValueKind))
      (result : ExactKind) :
      Step builder [.created (builder.code.addFunction base parameters result).1.name]
        { builder with code := (builder.code.addFunction base parameters result).2 }
  -- Neither numbers nor lines of the log, nor where the builder stands, place anything.
  | count (builder : Builder) :
      Step builder [] { builder with blockCount := builder.blockCount + 1 }
  | note (builder : Builder) (line : String) :
      Step builder [] { builder with scopes := builder.scopes.note line }
  | moveTo {builder : Builder} {block : BlockRef} {scopes : Scopes}
      (moved : builder.scopes.moveTo block = .ok scopes) :
      Step builder [] { builder with scopes }
  | declare {builder : Builder} {name : String} {binding : Binding} {scopes : Scopes}
      (declared : builder.scopes.declare name binding = .ok scopes) :
      Step builder [] { builder with scopes }
  | push (builder : Builder) (block : Option BlockRef) (options : FrameOptions) :
      Step builder [] { builder with scopes := builder.scopes.push block options }
  | pop {builder : Builder} {scopes : Scopes} (popped : builder.scopes.pop = .ok scopes) :
      Step builder [] { builder with scopes }

/-- Steps one after the other, with all that they put into the code. -/
inductive Steps (start : Builder) : List Placement → Builder → Prop
  | none : Steps start [] start
  | more {done more : List Placement} {moment later : Builder} (before : Steps start done moment)
      (step : Step moment more later) : Steps start (done ++ more) later

/-- Ways can be taken one after the other. -/
theorem Steps.trans {start moment later : Builder} {done more : List Placement}
    (first : Steps start done moment) (second : Steps moment more later) :
    Steps start (done ++ more) later := by
  induction second with
  | none => simpa using first
  | more _ step ih => simpa using ih.more step

/-- A builder is come by on a way on which nothing is put into the code but what is allowed. -/
def ComesTo (allowed : Placement → Prop) (start later : Builder) : Prop :=
  ∃ placements, Steps start placements later ∧ ∀ placement ∈ placements, allowed placement

namespace ComesTo

variable {allowed : Placement → Prop} {start moment later : Builder}

/-- A builder is come to from itself. -/
theorem refl (builder : Builder) : ComesTo allowed builder builder :=
  ⟨[], .none, List.forall_mem_nil _⟩

/-- What is come to on the way is on the way further. -/
theorem trans (first : ComesTo allowed start moment) (second : ComesTo allowed moment later) :
    ComesTo allowed start later := by
  obtain ⟨done, steps, admitted⟩ := first
  obtain ⟨more, goes_on, admitted_too⟩ := second
  exact ⟨done ++ more, steps.trans goes_on, fun placement member =>
    (List.mem_append.mp member).elim (admitted placement) (admitted_too placement)⟩

/-- One step comes to the builder behind it. -/
theorem single {placements : List Placement} (step : Step start placements later)
    (admitted : ∀ placement ∈ placements, allowed placement) : ComesTo allowed start later :=
  ⟨placements, by simpa using Steps.none.more step, admitted⟩

end ComesTo

/-- Since an earlier builder nothing has happened but that frames have been closed. -/
inductive Unwinds : Builder → Builder → Prop
  | refl (builder : Builder) : Unwinds builder builder
  | pop {start moment : Builder} {scopes : Scopes} (before : Unwinds start moment)
      (popped : moment.scopes.pop = .ok scopes) :
    Unwinds start { moment with scopes }

/-- To close frames is to go on. -/
theorem Unwinds.comesTo {allowed : Placement → Prop} {start later : Builder}
    (unwinds : start.Unwinds later) :
    ComesTo allowed start later := by
  induction unwinds with
  | refl => exact .refl _
  | pop _ popped ih => exact ih.trans (.single (.pop popped) (List.forall_mem_nil _))

end Builder

/-- A failure about a name that is unknown for its use arises where the name is looked up; others
may arise anywhere. -/
def Failure.ArisesAt (failure : Failure) (moment : Builder) : Prop :=
  match failure with
  | .refused cause place =>
    match cause.lookedUp? with
    | some (use, name) => moment.Refuses use name place cause
    | none => True
  | .fault _ => True

namespace Lowering

variable {α β : Type} {allowed : Placement → Prop} {action : Lowering α} {start : Builder}

/--
However a computation ends, it has gone step by step and put nothing into the code but what is
allowed. Where it fails, the failure has arisen at a moment on the way, behind which frames have
been closed and nothing else was done.
-/
def Takes (allowed : Placement → Prop) (action : Lowering α) : Prop :=
  ∀ start : Builder, action.Ends start (fun _ finish => start.ComesTo allowed finish)
    fun failure finish =>
      ∃ moment, start.ComesTo allowed moment ∧ moment.Unwinds finish ∧ failure.ArisesAt moment

namespace Takes

/-- An answer places nothing. -/
theorem pure (answer : α) : Takes allowed (Pure.pure answer) := fun start => .refl start

/-- Nor does a failure, which may arise at every moment. -/
theorem fail {failure : Failure} (arises : ∀ moment, failure.ArisesAt moment) :
    Takes (α := α) allowed (throw failure) :=
  fun start => ⟨start, .refl start, .refl start, arises start⟩

/-- A refusal is such a failure. -/
theorem refuse {cause : Cause} {place : Location}
    (arises : ∀ moment, (Failure.refused cause place).ArisesAt moment) :
    Takes (α := α) allowed (Lowering.refuse cause place) := fail arises

/-- So is a fault, which may arise anywhere. -/
theorem stop (fault : Fault) : Takes (α := α) allowed (Lowering.stop fault) := fail fun _ => trivial

/-- The steps of two computations are taken one after the other. -/
theorem bind {next : α → Lowering β} (first : Takes allowed action)
    (second : ∀ answer, Takes allowed (next answer)) :
    Takes allowed (action >>= next) := by
  refine fun start => .bind (first start) fun answer middle begun => ?_
  exact (second answer middle).imp (fun _ _ ended => begun.trans ended)
    fun failure finish ⟨moment, before, behind, arises⟩ =>
      ⟨moment, begun.trans before, behind, arises⟩

/-- What is computed from the open frames may depend on them. -/
theorem scopes {next : Scopes → Lowering α} (second : ∀ scopes, Takes allowed (next scopes)) :
    Takes allowed (Lowering.scopes >>= next) := .bind (fun start => .refl start) second

/-- A computation that is a single step. -/
theorem single {placements : Builder → List Placement} {answer : Builder → α}
    {after : Builder → Builder}
    (outcome : ∀ start, action.outcome start = (.ok (answer start), after start))
    (step : ∀ start, Builder.Step start (placements start) (after start))
    (admitted : ∀ start, ∀ placement ∈ placements start, allowed placement) :
    Takes allowed action := by
  intro start
  unfold Ends
  rw [outcome start]
  exact .single (step start) (admitted start)

end Takes

end Lowering

end LoopLang
