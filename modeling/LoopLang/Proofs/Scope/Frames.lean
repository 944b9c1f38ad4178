import LoopLang.Lowering.Builder
import LoopLang.Proofs.Code.Validity

/-! Frames over code: what they say of slots, functions, and blocks is so in the code. -/

namespace LoopLang

open Code (Module Name)

/-- The kind of a value is one, taken as an exact kind. -/
@[simp] theorem ValueKind.value?_exact (kind : ValueKind) : kind.exact.value? = some kind := by
  cases kind <;> rfl

/-- Kinds of values are the same if they are the same as exact kinds. -/
theorem ValueKind.exact_injective {first second : ValueKind} (same : first.exact = second.exact) :
    first = second := by
  simpa using congrArg ExactKind.value? same

/-- Only `void` has no values. -/
theorem ExactKind.value?_eq_none {kind : ExactKind} : kind.value? = none ↔ kind = .void := by
  cases kind <;> simp [ExactKind.value?]

/-- A kind with values is the kind of those. -/
theorem ExactKind.value?_eq_some {kind : ExactKind} {value : ValueKind} :
    kind.value? = some value ↔ kind = value.exact := by
  cases kind <;> cases value <;> simp [ExactKind.value?, ValueKind.exact]

/-- A kind stands for values if it is exactly the kind of those. -/
theorem Kind.value_eq_some {kind : Kind} {value : ValueKind} :
    kind.definite?.bind ExactKind.value? = some value ↔ kind = .exact value.exact := by
  cases kind <;> simp [Kind.definite?, ExactKind.value?_eq_some]

/-- What a binding of a frame says is so in the code: a slot belongs to the frame's function, and a
signature to its function. -/
def Binding.Fits (code : Module) (owner : Name) : Binding → Prop
  | .var kind (some slot) =>
    slot.function = owner ∧ ∃ stored function,
      kind = ValueKind.exact stored ∧ code.function? owner = some function ∧
      (slot.name, stored) ∈ function.slots
  | .var kind none => kind = .void
  | .fn handle result parameters =>
    ∃ function, code.function? handle = some function ∧ result = .exact function.result ∧
      parameters = function.parameters.map fun parameter => parameter.2.exact

/-- A block of a function that a jump may go to. -/
def BlockRef.IsTarget (code : Module) (owner : Name) (block : BlockRef) : Prop :=
  block.function = owner ∧ ∃ function,
    code.function? owner = some function ∧ function.IsTarget block.label

/-- The slot of a variable. -/
def Binding.slot? : Binding → Option Slot
  | .var _ slot => slot
  | .fn .. => none

/-- The slots of the variables of a frame. -/
def Frame.slots (frame : Frame) : List Slot := frame.symbols.filterMap (·.2.slot?)

/-- The name of the function that a frame belongs to. -/
def Frame.home (frame : Frame) : Name := frame.function.getD (.text "")

/-- A frame emits into a block of the function that it belongs to, and the block is there. -/
def Frame.IsPlaced (code : Module) (frame : Frame) : Prop :=
  ∃ block body, frame.block = some block ∧ frame.function = some block.function ∧
    code.body? block = some body

/-- What a frame says is so in the code. -/
structure Frame.Fits (code : Module) (frame : Frame) : Prop where
  placed : frame.IsPlaced code
  bindings : ∀ entry ∈ frame.symbols, entry.2.Fits code frame.home
  nextRound : ∀ block ∈ frame.nextRound, block.IsTarget code frame.home
  loopExit : ∀ block ∈ frame.loopExit, block.IsTarget code frame.home
  loop : frame.isLoop = true → frame.nextRound.isSome ∧ frame.loopExit.isSome
  result : frame.isFunction = true → ∃ function, code.function? frame.home = some function ∧
    frame.result = some (.exact function.result)

/-- The function that a frame belongs to is that of its block. -/
theorem Frame.Fits.function {code : Module} {frame : Frame} (fits : frame.Fits code)
    {block : BlockRef} (here : frame.block = some block) :
    frame.function = some block.function := by
  obtain ⟨own, _, same, owner, _⟩ := fits.placed
  cases same.symm.trans here
  exact owner

/-- So the name of that function is the one that its block is known by. -/
theorem Frame.Fits.home_eq {code : Module} {frame : Frame} (fits : frame.Fits code)
    {block : BlockRef} (here : frame.block = some block) : frame.home = block.function := by
  rw [Frame.home, fits.function here, Option.getD_some]

/-- A frame belongs to a function. -/
theorem Frame.Fits.function_eq {code : Module} {frame : Frame} (fits : frame.Fits code) :
    frame.function = some frame.home := by
  obtain ⟨block, _, _, owner, _⟩ := fits.placed
  rw [Frame.home, owner, Option.getD_some]

/--
A frame that opens no function belongs to that of the next one, and one that does to a function of
its own.
-/
def Enclosed : List Frame → Prop
  | [] => True
  | frame :: outer =>
    (if frame.isFunction then ∀ other ∈ outer, other.home ≠ frame.home
     else ∃ next rest, outer = next :: rest ∧ next.home = frame.home) ∧
    Enclosed outer

section Growth

variable {code later : Module} (grows : code.Grows later)

include grows

/-- What a binding says stays so while code grows. -/
theorem Binding.Fits.grow {owner : Name} {binding : Binding} (fits : binding.Fits code owner) :
    binding.Fits later owner := by
  match binding, fits with
  | .var _ (some _), ⟨same, stored, function, kind, found, member⟩ =>
    obtain ⟨grown, kept, inside⟩ := grows.functions owner function found
    exact ⟨same, stored, grown, kind, kept, inside.slots _ member⟩
  -- Neither slots nor functions are taken away; a void name needs none of them.
  | .var _ none, void => exact void
  | .fn handle _ _, ⟨function, found, result, parameters⟩ =>
    obtain ⟨grown, kept, inside⟩ := grows.functions handle function found
    exact ⟨grown, kept, inside.result ▸ result, inside.parameters ▸ parameters⟩

/-- A jump may still go where it could go before. -/
theorem BlockRef.IsTarget.grow {owner : Name} {block : BlockRef}
    (target : block.IsTarget code owner) :
    block.IsTarget later owner := by
  obtain ⟨same, function, found, inside⟩ := target
  obtain ⟨grown, kept, larger⟩ := grows.functions owner function found
  exact ⟨same, grown, kept, larger.isTarget inside⟩

/-- What a frame says stays so while code grows. -/
theorem Frame.Fits.grow {frame : Frame} (fits : frame.Fits code) : frame.Fits later where
  placed := by
    obtain ⟨block, body, here, owner, found⟩ := fits.placed
    obtain ⟨more, kept⟩ := grows.body? found
    exact ⟨block, _, here, owner, kept⟩
  bindings := fun entry member => (fits.bindings entry member).grow grows
  nextRound := fun block member => (fits.nextRound block member).grow grows
  loopExit := fun block member => (fits.loopExit block member).grow grows
  loop := fits.loop
  -- A function keeps its result when the code grows.
  result := fun opens => by
    obtain ⟨function, found, result⟩ := fits.result opens
    obtain ⟨grown, kept, inside⟩ := grows.functions _ function found
    exact ⟨grown, kept, inside.result ▸ result⟩

end Growth

/-- A frame that goes on in another block of its function still says what is so. -/
theorem Frame.Fits.moved {code : Module} {frame : Frame} (fits : frame.Fits code)
    {block : BlockRef} (same : block.function = frame.home)
    (placed : ∃ body, code.body? block = some body) :
    { frame with block := some block }.Fits code where
  placed := by
    obtain ⟨body, found⟩ := placed
    exact ⟨block, body, rfl, fits.function_eq.trans (congrArg some same.symm), found⟩
  -- All but the block depends on the function only.
  bindings := fits.bindings
  nextRound := fits.nextRound
  loopExit := fits.loopExit
  loop := fits.loop
  result := fits.result

/-- A name that is visible is declared in one of the frames. -/
theorem Scopes.mem_of_lookup {scopes : Scopes} {name : String} {binding : Binding}
    (found : scopes.lookup name = some binding) :
    ∃ frame ∈ scopes.frames, (name, binding) ∈ frame.symbols := by
  obtain ⟨frame, member, inside⟩ := List.exists_of_findSome?_eq_some found
  obtain ⟨before, after, split, _⟩ := List.lookup_eq_some_iff.mp inside
  exact ⟨frame, member, by simp [split]⟩

/-- A frame has exactly the names that are declared in it. -/
theorem Frame.has_eq_false {frame : Frame} {name : String} :
    frame.has name = false ↔ name ∉ frame.names := by
  unfold Frame.has Frame.find? Frame.names
  rw [Option.isSome_eq_false_iff, Option.isNone_iff_eq_none, List.lookup_eq_none_iff]
  simp only [List.mem_map, bne_iff_ne]
  exact ⟨fun apart ⟨entry, member, same⟩ => apart entry member same.symm,
    fun outside entry member same => outside ⟨entry, member, same.symm⟩⟩

/-- The names that are listed are those that some open frame declares. -/
theorem Scopes.mem_visibleNames {scopes : Scopes} {name : String} :
    name ∈ scopes.visibleNames ↔ ∃ binding, scopes.lookup name = some binding := by
  have declared (frame : Frame) : name ∈ frame.names ↔ (frame.find? name).isSome := by
    simp [Frame.names, Frame.find?, List.lookup_isSome_iff]
  rw [← Option.isSome_iff_exists, lookup, List.findSome?_isSome_iff]
  simp [visibleNames, declared]

/-- Frames enclose each other alike if the innermost one keeps its function and what it is for. -/
theorem Enclosed.replace {frame other : Frame} {outer : List Frame}
    (enclosed : Enclosed (frame :: outer)) (opens : other.isFunction = frame.isFunction)
    (same : other.home = frame.home) : Enclosed (other :: outer) := by
  simpa only [Enclosed, opens, same] using enclosed

/-- The innermost function frame belongs to the function of the innermost frame. -/
theorem Enclosed.functionFrame {frame : Frame} {outer : List Frame}
    (enclosed : Enclosed (frame :: outer)) :
    ∃ found, (frame :: outer).find? (·.isFunction) = some found ∧ found.isFunction = true ∧
      found ∈ frame :: outer ∧ found.home = frame.home := by
  -- Outwards, until a frame of a function is reached; every frame on the way is of the same
  -- function.
  induction outer generalizing frame with
  | nil =>
    cases opens : frame.isFunction with
    | true => exact ⟨frame, by simp [opens], opens, by simp, rfl⟩
    | false => simp [Enclosed, opens] at enclosed
  | cons next rest ih =>
    cases opens : frame.isFunction with
    | true => exact ⟨frame, by simp [opens], opens, by simp, rfl⟩
    | false =>
      simp only [Enclosed, opens] at enclosed
      obtain ⟨⟨_, _, shape, same⟩, further⟩ := enclosed
      cases shape
      obtain ⟨found, first, function, member, owner⟩ := ih (by simpa [Enclosed] using further)
      exact ⟨found, by rw [List.find?_cons_of_neg (by simp [opens])]; exact first, function,
        List.mem_cons_of_mem _ member, owner.trans same⟩

/-- The loop that a jump means belongs to the function of the innermost frame. -/
theorem Enclosed.loopFrame {frame found : Frame} {outer : List Frame} {label : Option String}
    (enclosed : Enclosed (frame :: outer))
    (meant : Scopes.loopFrameIn label (frame :: outer) = some found) :
    found ∈ frame :: outer ∧ found.isLoop = true ∧ found.home = frame.home := by
  -- The search goes outwards and stops at the frame of a function.
  induction outer generalizing frame with
  | nil =>
    unfold Scopes.loopFrameIn at meant
    split at meant
    · rename_i target
      cases meant
      exact ⟨by simp, (Bool.and_eq_true_iff.mp target).1, rfl⟩
    · split at meant <;> simp [Scopes.loopFrameIn] at meant
  | cons next rest ih =>
    unfold Scopes.loopFrameIn at meant
    split at meant
    · rename_i target
      cases meant
      exact ⟨by simp, (Bool.and_eq_true_iff.mp target).1, rfl⟩
    · split at meant
      · cases meant
      -- Both frames are in the same function, for the inner one is not that of a function.
      · rename_i inner
        obtain ⟨next_encloses, further⟩ := enclosed
        rw [if_neg inner] at next_encloses
        obtain ⟨_, _, shape, same⟩ := next_encloses
        cases shape
        obtain ⟨member, loop, owner⟩ := ih further meant
        exact ⟨List.mem_cons_of_mem _ member, loop, owner.trans same⟩

end LoopLang
