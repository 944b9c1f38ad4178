import LoopLang.Proofs.Calls.Expression
import LoopLang.Proofs.Lowering.Function
import LoopLang.Proofs.Lowering.Nesting

/-! Frames and blocks on the way through the text: what is declared in a frame of its own is out of
reach behind it. -/

namespace LoopLang

open Code (Name Function)

namespace Builder

variable {start finish : Builder} {base : Nat} {spot : Spot}

/-- A way may have no calls. -/
theorem Emits.silent {placements : List Placement} (steps : start.Steps placements finish)
    (none_called : placements.filterMap Placement.call? = []) : start.Emits base [] finish :=
  ⟨placements, steps, by rw [none_called]; exact .nil⟩

/-- A name is declared, and the place behind its declaration is reached. -/
theorem Accords.declare (accords : start.Accords base spot) {name : String} {binding : Binding}
    {declaration : Declaration} {scopes : Scopes}
    (done : start.scopes.declare name binding = .ok scopes)
    (fits : binding.IsDeclaredAs start.code base declaration) :
    start.Reproduces base spot [] { spot with declared := (name, declaration) :: spot.declared }
      { start with scopes } := by
  obtain ⟨owner, found, block, frame, outer, opened, known, emits, here, cursor, placed⟩ :=
    accords.within
  obtain ⟨first, rest, also, -, at_, frames⟩ := declare_ok done
  cases opened.symm.trans also
  -- Only the innermost frame gets a new entry, which is the new declaration in front.
  exact ⟨rfl, ⟨accords.tidy, accords.count, accords.declares.declare done fits, owner, found, block,
    _, outer, frames, known,
    emits, here, at_.trans cursor, placed⟩, .silent (Steps.none.more (.declare done)) rfl⟩

/-- Emission moves to a block that is offered. -/
theorem Accords.moveTo (accords : start.Accords base spot) {block : BlockRef}
    (offers : start.Offers base spot block) {scopes : Scopes}
    (moved : start.scopes.moveTo block = .ok scopes) :
    start.Reproduces base spot [] spot { start with scopes } := by
  obtain ⟨owner, found, _, frame, outer, opened, known, -, -, -, -⟩ := accords.within
  obtain ⟨first, rest, also, frames, at_⟩ := moveTo_ok moved
  cases opened.symm.trans also
  have own : block.function = owner := Option.some.inj (offers.owner.symm.trans found)
  -- The frames are the same but for their blocks, so that names mean what they meant.
  have same : scopes.tables = start.scopes.tables := by simp [Scopes.tables, frames, also]
  exact ⟨rfl, ⟨accords.tidy, accords.count,
    accords.declares.grow List.prefix_rfl (Scopes.lookup_congr same), owner, found, block,
    _, outer, frames, known, rfl, own, at_, offers.exists_body⟩,
      .silent (Steps.none.more (.moveTo moved)) rfl⟩

/-- A block that is made may be turned to. -/
theorem Accords.addBlock (accords : start.Accords base spot) {owner : Name}
    (found : start.code.numbered? base spot.caller = some owner) (within : start.Within owner)
    (name : String) :
    start.Reproduces base spot [] spot { start with code := (start.code.addBlock owner name).2 } ∧
      Offers { start with code := (start.code.addBlock owner name).2 } base spot
      ⟨owner, (start.code.addBlock owner name).1⟩ := by
  have step := Step.addBlock start owner name
  have way : start.ComesTo Placement.IsCalm
      { start with code := (start.code.addBlock owner name).2 } :=
    .single step (List.forall_mem_nil _)
  refine ⟨⟨rfl, accords.stays way rfl rfl, .of_calm way⟩,
    Code.Module.numbered?_grow (Steps.none.more step).prefixed found, ?_⟩
  -- The function exists, as code is emitted into one of its blocks.
  obtain ⟨block, frame, outer, -, -, -, rfl, -, placed⟩ := within
  cases held : start.code.function? block.function with
  | none => exact absurd (by simp [Code.Module.body?, held]) placed
  | some function => simp [accords.tidy.body?_addBlock name held]

end Builder

namespace Lowering

variable {α β : Type} {base : Nat} {blocks : List BlockRef} {spot between behind : Spot}
  {sites more : List CallSite}
  {action : Lowering α}

namespace Reproduces

/-- A variable is declared under its name. -/
theorem declare (name : String) (kind : ExactKind) (slot : Option Slot) (place : Location) :
    Reproduces base blocks spot [] (spot.declare name)
      (Lowering.declare name (.var kind slot) place) := by
  intro start accords _
  show (Lowering.setScopes place (start.scopes.declare name (.var kind slot))).Ends start _ _
  cases done : start.scopes.declare name (.var kind slot) with
  | ok scopes => exact accords.declare done (.variable kind slot)
  -- A name that is taken ends the lowering, so nothing has to be shown.
  | error failure => cases failure <;> trivial

/-- Code goes on in a block that is there for it, and no call is made. -/
theorem moveTo {block : BlockRef} (offered : block ∈ blocks) :
    Reproduces base blocks spot [] spot (Lowering.moveTo block) := by
  intro start accords offers
  show (Lowering.setScopes _ (start.scopes.moveTo block)).Ends start _ _
  cases moved : start.scopes.moveTo block with
  | ok scopes => exact accords.moveTo (offers block offered) moved
  | error failure => cases failure <;> trivial

/-- What follows stands at the same place. -/
theorem turn {block : BlockRef} (offered : block ∈ blocks) {next : Unit → Lowering β}
    (rest : ∀ answer, Reproduces base blocks spot sites behind (next answer)) :
    Reproduces base blocks spot sites behind (Lowering.moveTo block >>= next) :=
  .bind (.moveTo offered) rest

/-- Emission may turn to a block that is made. -/
theorem createBlock {next : BlockRef → Lowering β} (name : String)
    (rest : ∀ block, Reproduces base (block :: blocks) spot sites behind (next block)) :
    Reproduces base blocks spot sites behind (Lowering.createBlock name >>= next) := by
  intro start accords offers
  obtain ⟨owner, found, within⟩ := accords.within
  obtain ⟨made, offered⟩ := accords.addBlock found within name
  -- The block belongs to the function of the innermost frame.
  have creates : (Lowering.createBlock name).outcome start =
      (.ok ⟨owner, (start.code.addBlock owner name).1⟩,
        { start with code := (start.code.addBlock owner name).2 }) := by
    obtain ⟨_, frame, outer, opened, known, -⟩ := within
    have function : start.scopes.function? = some owner := by
      simp [Scopes.function?, Scopes.current?, opened, known]
    unfold Lowering.createBlock
    rw [scopes_bind_outcome, function]
    rfl
  -- Blocks on offer stay so when the code grows.
  have others : ∀ block ∈ blocks,
      Builder.Offers { start with code := (start.code.addBlock owner name).2 } base spot block :=
    fun block member => (offers block member).onward made.emits accords.tidy rfl
  unfold Ends
  rw [outcome_bind, creates]
  exact (rest _ _ made.accords (List.forall_mem_cons.mpr ⟨offered, others⟩)).imp
    (fun _ _ ended => made.trans ended) fun _ _ _ => trivial

/-- Nor is one made when another block is begun. -/
theorem ensureOpen : Reproduces base blocks spot [] spot Lowering.ensureOpen := by
  refine .after (.of_quiet .isTerminated .isTerminated) fun ended => ?_
  split
  · exact .createBlock _ fun block => .moveTo List.mem_cons_self
  · exact .pure _

end Reproduces

/-- Within a frame that is opened for it a computation ends as it does there; behind it the frames
around go on. -/
theorem withFrame_closes {start : Builder} {block : BlockRef} {options : FrameOptions}
    {done : Builder → Prop}
    (nested : Nested action)
    (inside : action.Ends { start with scopes := start.scopes.push (some block) options }
      (fun _ last => done last) fun _ _ => True) :
    (withFrame (some block) options action).Ends start
      (fun _ finish => ∃ last frame, done last ∧ last.Steps [] finish ∧
      last.scopes.frames = frame :: start.scopes.frames ∧ frame.isFunction = options.isFunction ∧
      finish.code = last.code ∧
        finish.scopes.frames = Builder.resume frame start.scopes.frames ∧
          ∀ next ∈ finish.scopes.current?, finish.scopes.cursor = next.block) fun _ _ => True := by
  -- What is nested leaves one frame on top of those from before, and this one is closed.
  have nests := nested.nests
    { start with scopes := start.scopes.push (some block) options } (.inr rfl)
  obtain ⟨added, continues⟩ := nests.continues
  unfold Ends at inside ⊢
  rw [withFrame_outcome]
  revert inside continues
  -- The frame is closed whether the action has failed or not.
  rcases action.outcome
    { start with scopes := start.scopes.push (some block) options } with ⟨result, last⟩
  rintro held ⟨moved, frames⟩
  obtain ⟨later, popped, resumed, aligned⟩ := Builder.pop_ok frames
  simp only [closeFrame, popped]
  -- A success is one where emission goes on in the frame around.
  cases later.isAdrift with
  | true => trivial
  | false =>
    cases result with
    | error => trivial
    | ok answer =>
      exact ⟨last, _, held, Builder.Steps.none.more (.pop popped), frames, rfl, rfl,
        resumed, aligned⟩

/-- What is in a frame of the same function is out of reach behind it; its functions are counted. -/
theorem Reproduces.withFrame {block : BlockRef} {options : FrameOptions}
    (same : options.function = none) (inner : options.isFunction = false)
    (offered : block ∈ blocks) (nested : Nested action)
    (inside : Reproduces base blocks spot sites behind action) {functions : Nat}
    (count : behind.next = spot.next + functions) :
    Reproduces base blocks spot sites (spot.skip functions)
      (Lowering.withFrame (some block) options action) := by
  intro start accords offers
  obtain ⟨owner, found, _, around, outer, opened, known, _, here, cursor, placed⟩ :=
    id accords.within
  -- The block belongs to the function at hand, so the frame accords with the text.
  have own : block.function = owner :=
    Option.some.inj ((offers block offered).owner.symm.trans found)
  have pushed : Builder.Accords
      { start with scopes := start.scopes.push (some block) options } base spot := by
    refine ⟨accords.tidy, accords.count, accords.declares.grow List.prefix_rfl fun name => rfl,
      owner, found, block, _, _, rfl, ?_, rfl, own, rfl, (offers block offered).exists_body⟩
    simp [Frame.opened, same, Scopes.current?, opened, known]
  have offered : ∀ block ∈ blocks, Builder.Offers
      { start with scopes := start.scopes.push (some block) options } base spot block :=
    fun block member => ⟨(offers block member).owner, (offers block member).exists_body⟩
  refine (withFrame_closes nested (inside _ pushed fun block member =>
    ⟨(offers block member).owner, (offers block member).exists_body⟩)).imp (fun _ finish held => ?_)
      fun _ _ held => held
  obtain ⟨last, frame, ended, closes, frames, kind, code, resumed, aligned⟩ := held
  -- Opening and closing emit nothing, so the calls are those from inside.
  have emits : start.Emits base sites finish := by
    simpa using ((Builder.Emits.silent
      (Builder.Steps.none.more (.push start (some block) options)) rfl).trans ended.emits).trans
      (.silent closes rfl)
  obtain ⟨_, steps, -⟩ := id emits
  -- The frame around goes on in the block where the inner one has ended, which is a block of the
  -- same function.
  obtain ⟨also, last_found, at_, first, rest, last_frames, -, last_emits, last_here, -,
    last_placed⟩ := ended.accords.within
  cases frames.symm.trans last_frames
  have owned : also = owner := by
    have kept := Code.Module.numbered?_grow steps.prefixed found
    rw [ended.same, ← code, kept] at last_found
    exact (Option.some.inj last_found).symm
  have plain : frame.isFunction = false := kind.trans inner
  simp only [opened, Builder.resume, plain, Bool.false_eq_true, if_false] at resumed
  have goes_on : finish.scopes.cursor = frame.block :=
    aligned { around with block := frame.block } (by simp [Scopes.current?, resumed])
  refine ⟨rfl, ⟨code ▸ ended.accords.tidy, ?_,
    accords.declares.grow steps.prefixed (Scopes.lookup_congr ?_), owner,
    Code.Module.numbered?_grow steps.prefixed found, at_, _, outer, resumed, known, last_emits,
    last_here.trans owned, goes_on.trans last_emits, code ▸ last_placed⟩, emits⟩
  · rw [code, ended.accords.count, count]
    rfl
  · simp [Scopes.tables, resumed, opened]

/-- A nested block begins where code is emitted, which is a block of the function around it. -/
theorem Reproduces.inBlock (nested : Nested action)
    (inside : Reproduces base [] spot sites behind action) {functions : Nat}
    (count : behind.next = spot.next + functions) :
    Reproduces base blocks spot sites (spot.skip functions) (Lowering.inBlock action) := by
  intro start accords offers
  obtain ⟨owner, found, block, frame, outer, -, -, -, here, at_, placed⟩ := accords.within
  -- The frame stands in the block that is being filled, which is on offer behind it as well.
  have framed : Reproduces base (block :: blocks) spot sites (spot.skip functions)
      (Lowering.withFrame (some block) {} action) :=
    .withFrame rfl rfl List.mem_cons_self nested inside.anywhere count
  unfold Ends
  rw [inBlock_outcome, at_]
  exact framed start accords
    (List.forall_mem_cons.mpr ⟨⟨found.trans (congrArg some here.symm), placed⟩, offers⟩)

end Lowering

end LoopLang
