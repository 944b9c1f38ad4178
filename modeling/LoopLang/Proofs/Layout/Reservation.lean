import LoopLang.Proofs.Layout.Moments
import LoopLang.Proofs.Layout.Plan

/-! Reserving slots as planned: what is reserved in a function and in those created after it, step
by step. -/

namespace LoopLang

open Code (Name Instruction Module)

/-- The kinds of the slots of one function grow at their front; those of the others stay. -/
def growAt (owner : Name) (kinds : List ValueKind) (entry : Name × List ValueKind) :
    Name × List ValueKind :=
  (entry.1, if entry.1 = owner then kinds ++ entry.2 else entry.2)

/-- Nothing more in a function leaves all functions as they are. -/
@[simp] theorem growAt_nil (owner : Name) (entries : List (Name × List ValueKind)) :
    entries.map (growAt owner []) = entries := by
  refine (List.map_congr_left fun entry _ => ?_).trans (List.map_id entries)
  simp [growAt]

/-- Where a function has no entry, nothing grows. -/
theorem map_growAt_of_not_mem {owner : Name} {entries : List (Name × List ValueKind)}
    (absent : owner ∉ entries.map Prod.fst) (kinds : List ValueKind) :
    entries.map (growAt owner kinds) = entries := by
  refine (List.map_congr_left fun entry member => ?_).trans (List.map_id entries)
  have apart : entry.1 ≠ owner := fun same => absent (List.mem_map.mpr ⟨entry, member, same⟩)
  simp [growAt, apart]

namespace Code.Module

variable {module before middle later : Module} {owner : Name}

/-- The functions in order, each one with the kinds of its slots. -/
def slotKinds (module : Module) : List (Name × List ValueKind) :=
  module.functions.map fun function => (function.name, function.slots.map Prod.snd)

/-- The functions of a module are those that its slots are listed for. -/
theorem handles_eq (module : Module) : module.handles = module.slotKinds.map Prod.fst := by
  simp [handles, slotKinds, Function.comp_def]

/-- Slots that a change puts in front of those of one function. -/
theorem slotKinds_inFunction (module : Module) (owner : Name)
    {change : Function → String × Function}
    (keeps : ∀ function, (change function).2.name = function.name) (kinds : List ValueKind)
    (adds : ∀ function ∈ module.functions, function.name = owner →
      (change function).2.slots.map Prod.snd = kinds ++ function.slots.map Prod.snd) :
    (module.inFunction owner change).2.slotKinds = module.slotKinds.map (growAt owner kinds) := by
  simp only [slotKinds, inFunction, updateFunction, List.map_map]
  refine List.map_congr_left fun function member => ?_
  -- The function that is changed grows by these kinds, all others stay.
  by_cases here : function.name = owner
  · simp [growAt, here, ← adds function member here, (keeps function).trans here]
  · simp [growAt, here]

/-- Appending an instruction reserves nothing. -/
theorem slotKinds_append (module : Module) (block : BlockRef) (base : String)
    {make : String → Instruction} (plain : Function.IsPlain make) :
    (module.append block base make).2.slotKinds = module.slotKinds := by
  rw [append, module.slotKinds_inFunction block.function (fun _ => rfl) [], growAt_nil]
  intro function _ _
  rw [function.slots_append block.label base plain.reserved, List.nil_append]

/-- Neither does a new block. -/
theorem slotKinds_addBlock (module : Module) (owner : Name) (base : String) :
    (module.addBlock owner base).2.slotKinds = module.slotKinds := by
  rw [addBlock, module.slotKinds_inFunction owner (fun _ => rfl) [], growAt_nil]
  intro function _ _
  rw [function.slots_addBlock base, List.nil_append]

/-- A slot is put in front of those of its function, if that has a block to put it in. -/
theorem Tidy.slotKinds_addSlot (tidy : module.Tidy) (owner : Name) (base : String)
    (kind : ValueKind) :
    (module.addSlot owner base kind).2.slotKinds = module.slotKinds.map
      (growAt owner (if ((module.function? owner).bind (·.start?)).isSome then [kind]
        else [])) := by
  refine module.slotKinds_inFunction owner (fun _ => rfl) _ fun function member named => ?_
  rw [← named, tidy.function?_eq member]
  -- Without a first block there is no place for a slot.
  cases blocks : function.blocks with
  | nil => simp [Function.start?, Function.slots, Function.addSlot, blocks]
  | cons entry rest =>
    simp [Function.start?, function.slots_addSlot base kind (by simp [blocks]), blocks]

/-- A new function has no slots. -/
theorem slotKinds_addFunction (module : Module) (base : Name)
    (parameters : List (String × ValueKind)) (result : ExactKind) :
    (module.addFunction base parameters result).2.slotKinds =
      module.slotKinds ++ [((module.addFunction base parameters result).1.name, [])] := by
  simp [slotKinds, addFunction, Function.declared, Function.slots]

/--
Between two stages of a module, slots have been reserved in one of its functions, and functions have
been created with slots of their own, as a plan says. The slot that is reserved last comes first.
-/
structure Reserves (owner : Name) (plan : SlotPlan) (before later : Module) : Prop where
  grows : before.Grows later
  kinds : ∃ created : List (Name × List ValueKind),
    created.map Prod.snd = plan.nested.map List.reverse ∧
    later.slotKinds = before.slotKinds.map (growAt owner plan.own.reverse) ++ created

namespace Reserves

variable {plan first second : SlotPlan}

/-- Nothing is reserved where the slots stay as they are. -/
theorem of_eq (grows : before.Grows later) (same : later.slotKinds = before.slotKinds) :
    Reserves owner .none before later :=
  ⟨grows, [], rfl, by simp [same, SlotPlan.none]⟩

/-- What is reserved in two parts follows the two plans one after the other. -/
theorem trans (begun : Reserves owner first before middle)
    (ended : Reserves owner second middle later) (tidy : middle.Tidy)
    (stands : owner ∈ before.handles) : Reserves owner (first ++ second) before later := by
  obtain ⟨grows, created, planned, kinds⟩ := begun
  obtain ⟨grows_on, more, planned_too, kinds_too⟩ := ended
  refine ⟨grows.trans grows_on, created ++ more, by simp [planned, planned_too], ?_⟩
  -- The functions that the first part has created have other names, so that the second part
  -- reserves nothing in them.
  have apart : owner ∉ created.map Prod.fst := by
    have distinct := tidy.distinct
    have kept : (before.slotKinds.map (growAt owner first.own.reverse)).map Prod.fst =
        before.handles := by
      rw [handles_eq, List.map_map]
      rfl
    rw [handles_eq, kinds, List.map_append, kept] at distinct
    exact fun member => (List.nodup_append.mp distinct).2.2 owner stands owner member rfl
  have joined (entry : Name × List ValueKind) : growAt owner second.own.reverse
      (growAt owner first.own.reverse entry) =
      growAt owner (first ++ second).own.reverse entry := by
    by_cases here : entry.1 = owner <;> simp [growAt, here]
  rw [kinds_too, kinds, List.map_append, map_growAt_of_not_mem apart, List.map_map,
    List.append_assoc]
  simp only [Function.comp_def, joined]

/-- A function that is created and filled is one of those within another one. -/
theorem function {created : Name} {parameters : List ValueKind}
    (new : later.slotKinds = before.slotKinds ++ [(created, [])]) (tidy : later.Tidy)
    (grows : before.Grows later) {finish : Module}
    (filled : Reserves created ⟨parameters ++ plan.own, plan.nested⟩ later finish) (owner : Name) :
    Reserves owner (.function parameters plan) before finish := by
  obtain ⟨grows_on, more, planned, kinds⟩ := filled
  refine ⟨grows.trans grows_on,
    (created, (parameters ++ plan.own).reverse) :: more, by simp [SlotPlan.function, planned], ?_⟩
  -- The new function has no slots of its own yet, and its name is none of those before.
  have apart : created ∉ before.slotKinds.map Prod.fst := by
    have distinct := tidy.distinct
    rw [handles_eq, new, List.map_append] at distinct
    exact fun member => (List.nodup_append.mp distinct).2.2 created member created
      List.mem_cons_self rfl
  rw [kinds, new, List.map_append, map_growAt_of_not_mem apart]
  simp [SlotPlan.function, growAt]

end Reserves

end Code.Module

/-- Only instructions are emitted. -/
def Placement.IsEmission : Placement → Prop
  | emitted .. => True
  | reserved .. | created _ => False

namespace Builder

variable {start later : Builder} {placements : List Placement}

/-- A step keeps code tidy, and loses nothing of it. -/
theorem Step.grows (step : start.Step placements later) (tidy : start.code.Tidy) :
    later.code.Tidy ∧ start.code.Grows later.code := by
  cases step with
  | emit here base plain => exact ⟨tidy.append _ base plain, start.code.append_grows _ base plain⟩
  | reserve here base kind => exact ⟨tidy.addSlot base kind _, start.code.addSlot_grows base kind _⟩
  | addBlock owner base => exact ⟨tidy.addBlock base owner, tidy.addBlock_grows base owner⟩
  | addFunction base parameters result =>
    exact ⟨tidy.addFunction base parameters result, tidy.addFunction_grows base parameters result⟩
  | _ => exact ⟨tidy, .refl _⟩

/-- So does a whole way. -/
theorem Steps.grows (steps : start.Steps placements later) (tidy : start.code.Tidy) :
    later.code.Tidy ∧ start.code.Grows later.code := by
  induction steps with
  | none => exact ⟨tidy, .refl _⟩
  | more _ step ih =>
    obtain ⟨between, grows⟩ := ih
    obtain ⟨tidy, grows_on⟩ := step.grows between
    exact ⟨tidy, grows.trans grows_on⟩

/-- A step that puts in nothing but instructions leaves the slots of all functions. -/
theorem Step.slotKinds (step : start.Step placements later) (tidy : start.code.Tidy)
    (emits : ∀ placement ∈ placements, placement.IsEmission) :
    later.code.slotKinds = start.code.slotKinds := by
  cases step with
  | emit here base plain => exact start.code.slotKinds_append _ base plain
  | reserve here base kind =>
    -- Nothing is written down only where there is no block to put the slot in.
    rw [tidy.slotKinds_addSlot]
    unfold Module.reservation at emits
    split at emits
    · exact (emits _ List.mem_cons_self).elim
    · rename_i nowhere
      simp [nowhere]
  | addBlock owner base => exact start.code.slotKinds_addBlock owner base
  | addFunction base parameters result => exact (emits _ List.mem_cons_self).elim
  | _ => rfl

/-- So does a whole way. -/
theorem ComesTo.idle (way : start.ComesTo Placement.IsEmission later) (tidy : start.code.Tidy) :
    later.code.Tidy ∧ start.code.Grows later.code ∧
    later.code.slotKinds = start.code.slotKinds := by
  obtain ⟨placements, steps, emits⟩ := way
  refine ⟨(steps.grows tidy).1, (steps.grows tidy).2, ?_⟩
  -- Emission reserves no slots, step by step.
  induction steps with
  | none => rfl
  | more before step ih =>
    have between := (before.grows tidy).1
    exact (step.slotKinds between fun placement member =>
      emits placement (List.mem_append_right _ member)).trans
      (ih fun placement member => emits placement (List.mem_append_left _ member))

/-- Where slots are reserved: the function that stands around, which has a block for them, and what
is declared there. -/
structure Stands (builder : Builder) (owner : Name) (outline : Outline) : Prop where
  tidy : builder.code.Tidy
  here : builder.scopes.function? = some owner
  started : ∃ function label,
    builder.code.function? owner = some function ∧ function.start? = some label
  outline : builder.scopes.outline = outline

namespace Stands

variable {owner : Name} {outline : Outline} (stands : start.Stands owner outline)

include stands

/-- The function is one of the module. -/
theorem mem_handles : owner ∈ start.code.handles := by
  obtain ⟨function, label, found, -⟩ := stands.started
  by_contra absent
  rw [Module.function?_eq_none.mpr absent] at found
  cases found

/-- The function stays the same while its code grows and its frames go on. -/
theorem onward (later : Builder) {more : List (String × Binding)} (tidy : later.code.Tidy)
    (grows : start.code.Grows later.code)
    (continues : Continues more start.scopes.frames later.scopes.frames) :
    later.Stands owner later.scopes.outline where
  tidy := tidy
  -- The innermost frame may have moved or got names, but its function is the same.
  here := by
    have here := stands.here
    unfold Scopes.function? Scopes.current? at here ⊢
    cases opened : start.scopes.frames with
    | nil =>
      rw [opened] at here
      cases here
    | cons frame outer =>
      rw [opened] at here continues
      obtain ⟨block, frames⟩ := continues
      rw [frames]
      exact here
  started := by
    obtain ⟨function, label, found, first⟩ := stands.started
    obtain ⟨grown, kept, inside⟩ := grows.functions owner function found
    exact ⟨grown, label, kept, inside.start label first⟩
  outline := rfl

/-- Without new names, what is declared stays the same, too. -/
theorem stays (tidy : later.code.Tidy) (grows : start.code.Grows later.code)
    (gains : Scopes.Gains [] start.scopes later.scopes) : later.Stands owner outline := by
  obtain ⟨more, -, -, continues⟩ := id gains
  have later_stands := stands.onward later tidy grows continues
  rwa [Scopes.outline_congr (Scopes.Gains.tables_eq gains), stands.outline] at later_stands

end Stands

end Builder

namespace Lowering

variable {α β : Type} {owner : Name} {around behind : Outline} {plan : SlotPlan}
  {action : Lowering α}

/-- A computation that reserves and declares nothing. -/
structure Idle (action : Lowering α) : Prop where
  takes : Takes Placement.IsEmission action
  keeps : Relates false (Scopes.Gains []) action

/-- Where a computation succeeds, it has reserved what was planned, and left what was to be
declared. -/
def Lays (owner : Name) (around : Outline) (plan : SlotPlan) (behind : Outline)
    (action : Lowering α) : Prop :=
  ∀ start : Builder, start.Stands owner around →
    action.Ends start (fun _ finish =>
      finish.Stands owner behind ∧ start.code.Reserves owner plan finish.code) fun _ _ => True

namespace Lays

/-- Two parts follow their plans one after the other; the second one may use what is known of the
first one's answer. -/
theorem bind_known {between : Outline} {second : SlotPlan} {next : α → Lowering β}
    (first : Lays owner around plan between action)
    (rest : ∀ answer, (∃ start finish : Builder, start.Stands owner around ∧
      action.Yields start answer finish) → Lays owner between second behind (next answer)) :
    Lays owner around (plan ++ second) behind (action >>= next) := by
  intro start stands
  have begun := first start stands
  rw [bind_ends]
  unfold Ends at begun ⊢
  split
  · rename_i answer middle outcome
    rw [outcome] at begun
    -- The slots of the second part come behind those of the first one.
    obtain ⟨middle_stands, reserved⟩ := begun
    refine (rest answer ⟨start, middle, stands, outcome⟩ middle middle_stands).imp
      (fun _ finish ended => ⟨ended.1, ?_⟩) fun _ _ _ => trivial
    exact reserved.trans ended.2 middle_stands.tidy stands.mem_handles
  · trivial

/-- What two computations in a row reserve is reserved in that order. -/
theorem bind {between : Outline} {second : SlotPlan} {next : α → Lowering β}
    (first : Lays owner around plan between action)
    (rest : ∀ answer, Lays owner between second behind (next answer)) :
    Lays owner around (plan ++ second) behind (action >>= next) :=
  bind_known first fun answer _ => rest answer

/-- What is idle follows the plan for nothing. -/
theorem idle (idle : Idle action) : Lays owner around .none around action := by
  intro start stands
  have way := idle.takes start
  have gains := idle.keeps start
  unfold Ends at way gains ⊢
  split
  · rename_i answer finish outcome
    rw [outcome] at way gains
    -- What is idle reserves nothing and leaves the frames alone.
    obtain ⟨tidy, grows, same⟩ := way.idle stands.tidy
    exact ⟨stands.stays tidy grows gains.1, .of_eq grows same⟩
  · trivial

/-- What follows an idle part. -/
theorem after {next : α → Lowering β} (first : Idle action)
    (rest : ∀ answer, Lays owner around plan behind (next answer)) :
    Lays owner around plan behind (action >>= next) := by
  simpa using bind (idle first) rest

/-- An idle part may follow. -/
theorem before {next : α → Lowering β} (first : Lays owner around plan behind action)
    (rest : ∀ answer, Idle (next answer)) :
    Lays owner around plan behind (action >>= next) := by
  simpa using bind first fun answer => idle (rest answer)

/-- Where a computation never succeeds, any plan is followed. -/
theorem refuse (cause : Cause) (place : Location) :
    Lays owner around plan behind (Lowering.refuse (α := α) cause place) :=
  fun _ _ => trivial

/-- So it is where a fault stops it. -/
theorem stop (fault : Fault) : Lays owner around plan behind (Lowering.stop (α := α) fault) :=
  fun _ _ => trivial

end Lays

end Lowering

end LoopLang
