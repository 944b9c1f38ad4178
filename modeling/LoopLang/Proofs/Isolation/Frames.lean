import LoopLang.Proofs.Isolation.Code
import LoopLang.Proofs.Scope.Outline

/-! Frames that are the same up to a renaming: they show the same names, the same loops and the same
function. -/

namespace LoopLang

open Code (Name)

namespace Renaming

variable {naming larger : Renaming} {owner : Name}

/-- Slots of functions that stand for each other, under names that do so. -/
def Slots (naming : Renaming) (slot other : Slot) : Prop :=
  naming.functions slot.function other.function ∧ naming.locals slot.function slot.name other.name

/-- Blocks of a function and of the one that stands for it, under labels that stand for each
other. -/
structure Refs (naming : Renaming) (owner : Name) (block other : BlockRef) : Prop where
  belongs : block.function = owner
  functions : naming.functions owner other.function
  labels : naming.locals owner block.label other.label

/-- Bindings to the same kind of variable or to the same signature, in slots or functions that stand
for each other. -/
inductive Bindings (naming : Renaming) : Binding → Binding → Prop
  | var {slot other : Option Slot} (kind : ExactKind) (slots : Option.Rel naming.Slots slot other) :
    Bindings naming (.var kind slot) (.var kind other)
  | fn {handle other : Name} (result : Kind) (parameters : List ExactKind)
      (handles : naming.functions handle other) :
    Bindings naming (.fn handle result parameters) (.fn other result parameters)

/-- Frames of a function and of the one that stands for it, with the same names for things that do
so. -/
structure Frames (naming : Renaming) (owner : Name) (frame other : Frame) : Prop where
  block : ∃ block standing,
    frame.block = some block ∧ other.block = some standing ∧ naming.Refs owner block standing
  symbols : List.Forall₂ (fun first second => first.1 = second.1 ∧ naming.Bindings first.2 second.2)
    frame.symbols other.symbols
  function : frame.function = some owner
  functions : ∃ another, other.function = some another ∧ naming.functions owner another
  isFunction : other.isFunction = frame.isFunction
  result : other.result = frame.result
  isLoop : other.isLoop = frame.isLoop
  label : other.label = frame.label
  nextRound : Option.Rel (naming.Refs owner) frame.nextRound other.nextRound
  loopExit : Option.Rel (naming.Refs owner) frame.loopExit other.loopExit

/-- Stacks of frames down to the one of a whole program; the innermost frames belong to the given
function. -/
inductive Stacks (naming : Renaming) : Name → List Frame → List Frame → Prop
  | program {owner : Name} {frame other : Frame} (frames : naming.Frames owner frame other) :
    Stacks naming owner [frame] [other]
  /-- A frame of the function that the frame around it belongs to. -/
  | block {owner : Name} {frame other : Frame} {outer others : List Frame}
      (frames : naming.Frames owner frame other) (plain : frame.isFunction = false)
      (rest : Stacks naming owner outer others) :
    Stacks naming owner (frame :: outer) (other :: others)
  /-- The frame of a function within another one. -/
  | function {owner enclosing : Name} {frame other : Frame} {outer others : List Frame}
      (frames : naming.Frames owner frame other) (starts : frame.isFunction = true)
      (rest : Stacks naming enclosing outer others) :
    Stacks naming owner (frame :: outer) (other :: others)

/-! A larger renaming relates the same frames. -/

/-- Slots that stand for each other still do so under more names. -/
theorem Slots.mono (grows : naming.Grows larger) {slot other : Slot}
    (same : naming.Slots slot other) :
    larger.Slots slot other :=
  ⟨grows.functions _ _ same.1, grows.locals _ _ _ same.2⟩

/-- So do references to blocks. -/
theorem Refs.mono (grows : naming.Grows larger) {block other : BlockRef}
    (same : naming.Refs owner block other) :
    larger.Refs owner block other :=
  ⟨same.belongs, grows.functions _ _ same.functions, grows.locals _ _ _ same.labels⟩

/-- What is related in a smaller way is related where both are there. -/
theorem rel_imp {α β : Type} {related wanted : α → β → Prop}
    (imp : ∀ item other, related item other → wanted item other) {item : Option α}
    {other : Option β} (same : Option.Rel related item other) : Option.Rel wanted item other := by
  cases same with
  | none => exact .none
  | some held => exact .some (imp _ _ held)

/-- So do bindings. -/
theorem Bindings.mono (grows : naming.Grows larger) {binding other : Binding}
    (same : naming.Bindings binding other) :
    larger.Bindings binding other := by
  cases same with
  | var kind slots => exact .var kind (rel_imp (fun _ _ held => held.mono grows) slots)
  | fn result parameters handles => exact .fn result parameters (grows.functions _ _ handles)

/-- Bindings that are related have one outline. -/
theorem Bindings.outline {binding other : Option Binding}
    (same : Option.Rel naming.Bindings binding other) :
    other.map Binding.outline = binding.map Binding.outline := by
  rcases same with held | _
  · cases held <;> rfl
  · rfl

/-- So do frames. -/
theorem Frames.mono (grows : naming.Grows larger) {frame other : Frame}
    (same : naming.Frames owner frame other) :
    larger.Frames owner frame other :=
  { same with
    block := same.block.imp fun _ ⟨standing, here, there, blocks⟩ =>
      ⟨standing, here, there, blocks.mono grows⟩
    symbols := same.symbols.imp fun _ _ held => ⟨held.1, held.2.mono grows⟩
    functions := same.functions.imp fun _ held => ⟨held.1, grows.functions _ _ held.2⟩
    nextRound := rel_imp (fun _ _ held => held.mono grows) same.nextRound
    loopExit := rel_imp (fun _ _ held => held.mono grows) same.loopExit }

/-- So do stacks of frames. -/
theorem Stacks.mono (grows : naming.Grows larger) {frames others : List Frame}
    (same : naming.Stacks owner frames others) :
    larger.Stacks owner frames others := by
  induction same with
  | program frames => exact .program (frames.mono grows)
  | block frames plain _ rest => exact .block (frames.mono grows) plain rest
  | function frames starts _ rest => exact .function (frames.mono grows) starts rest

/-! What frames show. -/

/-- What a key is first listed with is related, if the keys are the same and what they are listed
with is related. -/
theorem rel_lookup {α : Type} {related : α → α → Prop} {entries others : List (String × α)}
    (alike : List.Forall₂ (fun first second => first.1 = second.1 ∧ related first.2 second.2)
      entries others)
    (key : String) : Option.Rel related (entries.lookup key) (others.lookup key) := by
  -- Both lists have the same keys in the same order.
  induction alike with
  | nil => exact .none
  | @cons first second _ _ head _ rest =>
    obtain ⟨name, binding⟩ := first
    obtain ⟨_, another⟩ := second
    obtain ⟨rfl, same⟩ := head
    simp only [List.lookup_cons]
    split
    · exact .some same
    · exact rest

/-- Related options are both there, or neither is. -/
theorem rel_isSome {α β : Type} {related : α → β → Prop} {item : Option α} {other : Option β}
    (same : Option.Rel related item other) : other.isSome = item.isSome := by
  cases same <;> rfl

namespace Frames

variable {frame other : Frame}

/-- Names are bound alike. -/
theorem find? (same : naming.Frames owner frame other) (name : String) :
    Option.Rel naming.Bindings (frame.find? name) (other.find? name) :=
  rel_lookup same.symbols name

/-- The same names are taken. -/
theorem has (same : naming.Frames owner frame other) (name : String) :
    other.has name = frame.has name :=
  rel_isSome (same.find? name)

/-- A jump may mean both, or neither. -/
theorem isTarget (same : naming.Frames owner frame other) (label : Option String) :
    other.isTarget label = frame.isTarget label := by
  simp only [Frame.isTarget, same.isLoop, same.label]

/-- A jump goes to blocks that stand for each other. -/
theorem jumpTarget (same : naming.Frames owner frame other) (jump : Jump) :
    Option.Rel (naming.Refs owner) (Lowering.jumpTarget? jump frame)
      (Lowering.jumpTarget? jump other) := by
  cases jump
  · exact same.loopExit
  · exact same.nextRound

/-- Emission moves to blocks that stand for each other. -/
theorem moveTo (same : naming.Frames owner frame other) {block standing : BlockRef}
    (blocks : naming.Refs owner block standing) :
    naming.Frames owner { frame with block := some block } { other with block := some standing } :=
  { same with block := ⟨block, standing, rfl, rfl, blocks⟩ }

/-- One more name is bound alike. -/
theorem declare (same : naming.Frames owner frame other) (name : String)
    {binding standing : Binding} (bindings : naming.Bindings binding standing) :
    naming.Frames owner { frame with symbols := frame.symbols ++ [(name, binding)] }
      { other with symbols := other.symbols ++ [(name, standing)] } :=
  { same with symbols := List.rel_append same.symbols (.cons ⟨rfl, bindings⟩ .nil) }

end Frames

namespace Stacks

variable {frames others : List Frame}

/-- The innermost frames belong to the function of the stack, and what is around them is open in
both. -/
theorem head (same : naming.Stacks owner frames others) :
    ∃ frame other outer around,
      frames = frame :: outer ∧ others = other :: around ∧ naming.Frames owner frame other := by
  cases same with
  | program frames => exact ⟨_, _, _, _, rfl, rfl, frames⟩
  | block frames _ _ => exact ⟨_, _, _, _, rfl, rfl, frames⟩
  | function frames _ _ => exact ⟨_, _, _, _, rfl, rfl, frames⟩

/-- The innermost frames may be changed alike. -/
theorem replace {frame other last standing : Frame} {outer around : List Frame}
    (same : naming.Stacks owner (frame :: outer) (other :: around))
    (frames : naming.Frames owner last standing) (kept : last.isFunction = frame.isFunction) :
    naming.Stacks owner (last :: outer) (standing :: around) := by
  -- What sort of frame it is does not change, and those around it are not touched.
  cases same with
  | program => exact .program frames
  | block _ plain rest => exact .block frames (kept.trans plain) rest
  | function _ starts rest => exact .function frames (kept.trans starts) rest

/-- Names are bound alike. -/
theorem lookup (same : naming.Stacks owner frames others) (name : String) :
    Option.Rel naming.Bindings (frames.findSome? (·.find? name))
      (others.findSome? (·.find? name)) := by
  -- A name is looked up from the innermost frame outwards, through functions, too.
  have step {owner : Name} {frame other : Frame} {outer around : List Frame}
    (head : naming.Frames owner frame other)
      (rest : Option.Rel naming.Bindings (outer.findSome? (·.find? name))
        (around.findSome? (·.find? name))) :
      Option.Rel naming.Bindings ((frame :: outer).findSome? (·.find? name))
        ((other :: around).findSome? (·.find? name)) := by
    simp only [List.findSome?_cons]
    have bound := head.find? name
    generalize frame.find? name = first, other.find? name = second at bound ⊢
    cases bound with
    | none => exact rest
    | some held => exact .some held
  induction same with
  | program frames => exact step frames .none
  | block frames _ _ rest => exact step frames rest
  | function frames _ _ rest => exact step frames rest

/-- A jump means loops of the innermost function that are the same, or no loop. -/
theorem loopFrame (same : naming.Stacks owner frames others) (label : Option String) :
    Option.Rel (naming.Frames owner) (Scopes.loopFrameIn label frames)
      (Scopes.loopFrameIn label others) := by
  induction same with
  | program frames =>
    simp only [Scopes.loopFrameIn, frames.isTarget, frames.isFunction]
    split
    · exact .some frames
    · split <;> exact .none
  | block frames plain _ rest =>
    simp only [Scopes.loopFrameIn, frames.isTarget, frames.isFunction, plain]
    split
    · exact .some frames
    · exact rest
  | function frames starts _ _ =>
    -- Loops around the function are out of reach.
    simp only [Scopes.loopFrameIn, frames.isTarget, frames.isFunction, starts]
    split
    · exact .some frames
    · exact .none

/-- The bodies that are lowered are those of functions with the same result. -/
theorem functionFrame (same : naming.Stacks owner frames others) :
    Option.Rel (fun frame other => other.result = frame.result ∧ frame.function.isSome ∧
      other.function.isSome) (frames.find? (·.isFunction)) (others.find? (·.isFunction)) := by
  -- The frame that is found is the innermost one of a function, which is in the same place in both.
  have step {owner : Name} {frame other : Frame} {outer around : List Frame}
    (head : naming.Frames owner frame other)
      (rest : Option.Rel (fun frame other => other.result = frame.result ∧ frame.function.isSome ∧
        other.function.isSome) (outer.find? (·.isFunction)) (around.find? (·.isFunction))) :
      Option.Rel (fun frame other => other.result = frame.result ∧ frame.function.isSome ∧
        other.function.isSome)
        ((frame :: outer).find? (·.isFunction)) ((other :: around).find? (·.isFunction)) := by
    simp only [List.find?_cons, head.isFunction]
    split
    · obtain ⟨another, named, _⟩ := head.functions
      exact .some ⟨head.result, by rw [head.function]; rfl, by rw [named]; rfl⟩
    · exact rest
  induction same with
  | program frames => exact step frames .none
  | block frames _ _ rest => exact step frames rest
  | function frames _ _ rest => exact step frames rest

end Stacks

end Renaming

end LoopLang
