import LoopLang.Proofs.Calls.Text
import LoopLang.Proofs.Layout.Lowering
import LoopLang.Proofs.Layout.Reservation
import Mathlib.Data.List.Forall2

/-! Calls on the way of a lowering: which function each of them is emitted into, and which one it
names. -/

namespace LoopLang

open Code (Name Instruction Module)

namespace Placement

/-- The call that is emitted: the function that it is emitted into, and the one that it names. -/
def call? : Placement → Option (Name × Name)
  | emitted block instruction => instruction.callee?.map fun callee => (block.function, callee)
  | reserved .. | created _ => none

/-- The function that is created. -/
def created? : Placement → Option Name
  | created function => some function
  | emitted .. | reserved .. => none

/-- Neither is a call emitted nor a function created. -/
def IsCalm (placement : Placement) : Prop := placement.call? = none ∧ placement.created? = none

/-- Whatever is emitted without being a call is calm. -/
theorem isCalm_emitted (block : BlockRef) (instruction : Instruction)
    (calm : instruction.callee? = none) :
    (emitted block instruction).IsCalm := ⟨by simp [call?, calm], rfl⟩

/-- A row of calm placements has no calls, and no functions are created in it. -/
theorem calm_row {placements : List Placement} (calm : ∀ placement ∈ placements, placement.IsCalm) :
    placements.filterMap call? = [] ∧ placements.filterMap created? = [] :=
  ⟨List.filterMap_eq_nil_iff.mpr fun placement member => (calm placement member).1,
    List.filterMap_eq_nil_iff.mpr fun placement member => (calm placement member).2⟩

end Placement

/-- The function of a number, counted from those on that were there before a program. -/
def Code.Module.numbered? (module : Module) (base number : Nat) : Option Name :=
  module.handles[base + number]?

/-- A number keeps its function while others are created behind it. -/
theorem Code.Module.numbered?_grow {module later : Module}
    (prefixed : module.handles <+: later.handles) {base number : Nat} {handle : Name}
    (found : module.numbered? base number = some handle) :
    later.numbered? base number = some handle := by
  -- Handles are only added behind, so a number that counts keeps its handle.
  obtain ⟨more, same⟩ := prefixed
  obtain ⟨inside, -⟩ := List.getElem?_eq_some_iff.mp found
  rw [numbered?, ← same, List.getElem?_append_left inside]
  exact found

/-- What a name is bound to is what it is declared as. -/
inductive Binding.IsDeclaredAs (code : Module) (base : Nat) : Binding → Declaration → Prop
  | function {handle : Name} (result : Kind) (parameters : List ExactKind) {number : Nat}
      (found : code.numbered? base number = some handle) :
      IsDeclaredAs code base (.fn handle result parameters) (.function number)
  | variable (kind : ExactKind) (slot : Option Slot) :
      IsDeclaredAs code base (.var kind slot) .variable

/-- In the open frames every name is bound to what is declared in the text, or to nothing. -/
def Scopes.Declare (scopes : Scopes) (code : Module) (base : Nat)
    (declared : List (String × Declaration)) : Prop :=
  ∀ name, Option.Rel (Binding.IsDeclaredAs code base) (scopes.lookup name) (declared.lookup name)

/-- A call that has been emitted is the one that stands in the text: both functions are those of the
numbers there. -/
structure CallSite.IsMet (code : Module) (base : Nat) (call : Name × Name) (site : CallSite) :
    Prop where
  caller : code.numbered? base site.caller = some call.1
  callee : ∃ number, site.meant = some (.function number) ∧ code.numbered? base number = some call.2

section Growth

variable {code later : Module} {base : Nat} (prefixed : code.handles <+: later.handles)

include prefixed

/-- What is declared stays so while functions are created. -/
theorem Binding.IsDeclaredAs.grow {binding : Binding} {declaration : Declaration}
    (declared : binding.IsDeclaredAs code base declaration) :
    binding.IsDeclaredAs later base declaration := by
  cases declared with
  | function result parameters found =>
    exact .function result parameters (Module.numbered?_grow prefixed found)
  | «variable» kind slot => exact .variable kind slot

/-- Calls stay those of the text while functions are created. -/
theorem CallSite.IsMet.grow {call : Name × Name} {site : CallSite}
    (met : site.IsMet code base call) :
    site.IsMet later base call := by
  obtain ⟨caller, number, meant, callee⟩ := met
  exact ⟨Module.numbered?_grow prefixed caller, number, meant,
    Module.numbered?_grow prefixed callee⟩

/-- Names that mean the same are declared as the same. -/
theorem Scopes.Declare.grow {scopes after : Scopes} {declared : List (String × Declaration)}
    (declares : scopes.Declare code base declared)
    (same : ∀ name, after.lookup name = scopes.lookup name) :
    after.Declare later base declared := by
  intro name
  rw [same]
  have bound := declares name
  revert bound
  -- Name by name, the binding fits the declaration in the longer code too.
  generalize scopes.lookup name = binding, declared.lookup name = declaration
  rintro (fits | _)
  · exact .some (fits.grow prefixed)
  · exact .none

end Growth

/-- A name that is declared means what it is declared as, and all others mean what they did. -/
theorem Scopes.Declare.declare {scopes later : Scopes} {code : Module} {base : Nat}
    {declared : List (String × Declaration)} (declares : scopes.Declare code base declared)
    {name : String} {binding : Binding} {declaration : Declaration}
    (done : scopes.declare name binding = .ok later)
    (fits : binding.IsDeclaredAs code base declaration) :
    later.Declare code base ((name, declaration) :: declared) := by
  obtain ⟨frame, outer, opened, new, -, frames⟩ := Builder.declare_ok done
  intro other
  by_cases same : other = name
  -- The name is new to its frame, so that nothing stands in front of it there.
  · subst same
    have absent : frame.symbols.lookup other = none := by simpa [Frame.has, Frame.find?] using new
    have found : later.lookup other = some binding := by
      simp [Scopes.lookup, frames, Frame.find?, List.lookup_append, absent]
    rw [found, List.lookup_cons_self]
    exact .some fits
  -- For every other name nothing has changed.
  · have different : (other == name) = false := by simpa using same
    have added : later.tables = (frame.symbols ++ [(name, binding)]) ::
        outer.map Frame.symbols := by
      simp [Scopes.tables, frames]
    rw [Scopes.lookup_added opened added same, List.lookup_cons, different]
    exact declares other

namespace Builder

variable {start middle finish later : Builder} {placements : List Placement}

/-- A step adds the function that it creates behind the others, if it creates one. -/
theorem Step.handles (step : start.Step placements later) :
    later.code.handles = start.code.handles ++ placements.filterMap Placement.created? := by
  -- Only the creation of a function adds a handle, and only its placement says so.
  cases step with
  | @emit block here base make plain =>
    have calm : (start.code.emission block base make).filterMap Placement.created? = [] := by
      unfold Module.emission
      split <;> rfl
    rw [calm, List.append_nil]
    exact start.code.handles_inFunction block.function fun _ => rfl
  | @reserve owner here base kind =>
    have calm : (start.code.reservation owner base kind).filterMap Placement.created? = [] := by
      unfold Module.reservation
      split <;> rfl
    rw [calm, List.append_nil]
    exact start.code.handles_inFunction owner fun _ => rfl
  | addBlock owner base =>
    rw [List.filterMap_nil, List.append_nil]
    exact start.code.handles_inFunction owner fun _ => rfl
  | addFunction base parameters result =>
    exact start.code.handles_addFunction base parameters result
  | _ => exact (List.append_nil _).symm

/-- So does a whole way. -/
theorem Steps.handles (steps : start.Steps placements later) :
    later.code.handles = start.code.handles ++ placements.filterMap Placement.created? := by
  induction steps with
  | none => exact (List.append_nil _).symm
  | more _ step ih => rw [step.handles, ih, List.filterMap_append, List.append_assoc]

/-- On any way the functions that were there come first. -/
theorem Steps.prefixed (steps : start.Steps placements later) :
    start.code.handles <+: later.code.handles :=
  ⟨_, steps.handles.symm⟩

/-- Code is emitted into a block of a function, and the innermost frame is one of that function. -/
def Within (builder : Builder) (owner : Name) : Prop :=
  ∃ block frame outer, builder.scopes.frames = frame :: outer ∧ frame.function = some owner ∧
    frame.block = some block ∧ block.function = owner ∧ builder.scopes.cursor = some block ∧
    builder.code.body? block ≠ none

/-- A builder is where lowering comes to at a place in the text. -/
structure Accords (builder : Builder) (base : Nat) (spot : Spot) : Prop where
  tidy : builder.code.Tidy
  count : builder.code.handles.length = base + spot.next
  declares : builder.scopes.Declare builder.code base spot.declared
  within : ∃ owner, builder.code.numbered? base spot.caller = some owner ∧ builder.Within owner

/-- Emission may turn to a block of the function around a place. -/
structure Offers (builder : Builder) (base : Nat) (spot : Spot) (block : BlockRef) : Prop where
  owner : builder.code.numbered? base spot.caller = some block.function
  exists_body : builder.code.body? block ≠ none

/-- Some calls have been emitted on a way, which are those of the text in their order. -/
def Emits (start : Builder) (base : Nat) (sites : List CallSite) (finish : Builder) : Prop :=
  ∃ placements, start.Steps placements finish ∧
    List.Forall₂ (fun call site => CallSite.IsMet finish.code base call site)
    (placements.filterMap Placement.call?) sites

variable {base : Nat} {spot behind : Spot} {sites more : List CallSite}

/-- The calls of two ways are emitted one after the other. -/
theorem Emits.trans (first : start.Emits base sites middle)
    (second : middle.Emits base more finish) :
    start.Emits base (sites ++ more) finish := by
  obtain ⟨done, steps, met⟩ := first
  obtain ⟨rest, goes_on, met_too⟩ := second
  refine ⟨done ++ rest, steps.trans goes_on, ?_⟩
  -- The calls of both parts in a row; those of the first one are met in the longer code as well.
  rw [List.filterMap_append]
  exact List.rel_append (met.imp fun _ _ held => held.grow goes_on.prefixed) met_too

/-- On a calm way no call is emitted. -/
theorem Emits.of_calm (way : start.ComesTo Placement.IsCalm finish) :
    start.Emits base [] finish := by
  obtain ⟨placements, steps, calm⟩ := way
  refine ⟨placements, steps, ?_⟩
  rw [(Placement.calm_row calm).1]
  exact .nil

/-- A block stays where it is while code is added. -/
theorem body?_ne_none {block : BlockRef} (grows : start.code.Grows later.code)
    (placed : start.code.body? block ≠ none) :
    later.code.body? block ≠ none := by
  obtain ⟨body, found⟩ := Option.ne_none_iff_exists'.mp placed
  obtain ⟨more, kept⟩ := grows.body? found
  simp [kept]

/-- What may be turned to may be so on the whole way through a function. -/
theorem Offers.onward {block : BlockRef} (offers : start.Offers base spot block)
    (emits : start.Emits base sites finish) (tidy : start.code.Tidy)
    (same : behind.caller = spot.caller) : finish.Offers base behind block := by
  obtain ⟨placements, steps, -⟩ := emits
  exact ⟨by rw [same]; exact Module.numbered?_grow steps.prefixed offers.owner,
    body?_ne_none (steps.grows tidy).2 offers.exists_body⟩

/--
Behind a way that leaves the frames as they were, and emission where they go on, the place is the
same but for the functions that have been created.
-/
theorem Accords.resumes (accords : start.Accords base spot)
    (steps : start.Steps placements finish) {functions : Nat}
    (count : finish.code.handles.length = base + (spot.next + functions))
    (frames : finish.scopes.frames = start.scopes.frames)
    (cursor : ∀ frame ∈ finish.scopes.current?, finish.scopes.cursor = frame.block) :
    finish.Accords base (spot.skip functions) := by
  obtain ⟨tidy, grows⟩ := steps.grows accords.tidy
  obtain ⟨owner, found, block, frame, outer, opened, known, emits, here, -, placed⟩ :=
    accords.within
  -- The innermost frame is the one from before, and the number of its function still counts.
  have current : finish.scopes.current? = some frame := by simp [Scopes.current?, frames, opened]
  exact ⟨tidy, count, accords.declares.grow steps.prefixed
    fun name => by rw [Scopes.lookup, frames, Scopes.lookup], owner,
    Module.numbered?_grow steps.prefixed found, block, frame, outer, frames.trans opened, known,
    emits, here, (cursor frame current).trans emits, body?_ne_none grows placed⟩

/-- Where nothing is declared and emission stays in its block, a calm way does not leave the
place. -/
theorem Accords.stays (accords : start.Accords base spot)
    (way : start.ComesTo Placement.IsCalm finish)
    (frames : finish.scopes.frames = start.scopes.frames)
    (cursor : finish.scopes.cursor = start.scopes.cursor) :
    finish.Accords base spot := by
  obtain ⟨placements, steps, calm⟩ := way
  obtain ⟨-, -, block, frame, outer, opened, -, emits, -, at_, -⟩ := accords.within
  -- No function has been created, so none is skipped.
  show finish.Accords base (spot.skip 0)
  refine accords.resumes steps ?_ frames fun other current => ?_
  · rw [steps.handles, (Placement.calm_row calm).2, List.append_nil]
    exact accords.count
  · simp only [Scopes.current?, frames, opened, List.head?_cons, Option.mem_some_iff] at current
    rw [cursor, at_, ← current, emits]

end Builder

end LoopLang
