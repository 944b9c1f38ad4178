import LoopLang.Proofs.Lowering.Function
import LoopLang.Proofs.Typing.Rules

/-! Frames as the rules see them: lowering finds in its frames what the rules find in a context. -/

namespace LoopLang

open Typing (Context Declared Layer Role)

/-- What a binding is declared as. -/
def Binding.declared : Binding → Declared
  | .var kind _ => .variable kind
  | .fn _ result parameters => .function (result.definite?.getD .void) parameters

/-- What a frame is for, as the rules say it. -/
def Frame.Plays (frame : Frame) : Role → Prop
  | .function result =>
    frame.isFunction = true ∧ frame.isLoop = false ∧ frame.result = some (.exact result)
  | .loop label => frame.isFunction = false ∧ frame.isLoop = true ∧ frame.label = label
  | .block => frame.isFunction = false ∧ frame.isLoop = false

/-- A name with what it is bound to, as the rules say it. -/
def declaredEntry (entry : String × Binding) : String × Declared := (entry.1, entry.2.declared)

/-- A frame is what a layer says. -/
structure Frame.Shows (frame : Frame) (layer : Layer) : Prop where
  role : frame.Plays layer.role
  names : layer.names = frame.symbols.map declaredEntry

/-- The open frames are what a context says. -/
inductive Shows : List Frame → Context → Prop
  | nil : Shows [] []
  | cons {frame : Frame} {outer : List Frame} {layer : Layer} {context : Context}
      (first : frame.Shows layer) (others : Shows outer context) :
      Shows (frame :: outer) (layer :: context)

/-- A name is declared in a frame as it is bound there. -/
theorem Frame.Shows.lookup {frame : Frame} {layer : Layer} (shown : frame.Shows layer)
    (name : String) :
    layer.names.lookup name = (frame.find? name).map Binding.declared := by
  unfold Frame.find?
  rw [shown.names]
  -- By induction on the names: both sides look through them in the same order.
  induction frame.symbols with
  | nil => rfl
  | cons entry rest ih =>
    obtain ⟨first, binding⟩ := entry
    simp only [List.map_cons, declaredEntry, List.lookup_cons]
    by_cases same : name == first <;> simp [same, ih]

namespace Shows

variable {frames : List Frame} {context : Context}

/-- A name is declared as it is bound. -/
theorem find? (shown : Shows frames context) (name : String) :
    context.find? name = (frames.findSome? (·.find? name)).map Binding.declared := by
  unfold Context.find?
  -- By induction on the frames, from the innermost one outwards.
  induction shown with
  | nil => rfl
  | cons first _ ih =>
    rw [List.findSome?_cons, List.findSome?_cons, first.lookup name]
    rename_i frame _ _ _ _
    cases frame.find? name with
    | none => exact ih
    | some binding => rfl

/-- The frames go on, and are still what the context says. -/
theorem continues (shown : Shows frames context) {later : List Frame}
    (continues : Builder.Continues [] frames later) :
    Shows later context := by
  -- Another block changes neither the role of a frame nor its names.
  cases shown with
  | nil =>
    obtain ⟨rfl, _⟩ := continues
    exact .nil
  | cons first others =>
    obtain ⟨block, rfl⟩ := continues
    exact .cons ⟨first.role, by rw [first.names, List.append_nil]⟩ others

/-- A name is declared as it gets bound. -/
theorem declare (shown : Shows frames context) {later : List Frame} {name : String}
    {binding : Binding} (continues : Builder.Continues [(name, binding)] frames later) :
    Shows later (context.declare name binding.declared) := by
  cases shown with
  | nil => cases continues.2
  | cons first others =>
    obtain ⟨block, rfl⟩ := continues
    refine .cons ⟨first.role, ?_⟩ others
    -- The new name is added behind the others on both sides.
    rw [List.map_append, ← first.names]
    rfl

/-- A name is missing in the innermost frame if the rules say so. -/
theorem lacks {builder : Builder} (shown : Shows builder.scopes.frames context) (name : String) :
    context.Lacks name ↔ builder.Lacks name := by
  unfold Context.Lacks Builder.Lacks Scopes.current? Frame.has
  -- Only the innermost frame is asked, if there is one.
  cases frames : builder.scopes.frames with
  | nil =>
    rw [frames] at shown
    cases shown
    simp
  | cons frame outer =>
    rw [frames] at shown
    cases shown with
    | cons first others =>
      simp only [List.head?_cons, Option.mem_def, Option.some.injEq, forall_eq', first.lookup name,
        Option.map_eq_none_iff, Option.isSome_eq_false_iff, Option.isNone_iff_eq_none]

/-- The result that is promised is that of the innermost function frame. -/
theorem result? (shown : Shows frames context) {found : Frame}
    (innermost : frames.find? (·.isFunction) = some found) {result : ExactKind}
    (promised : found.result = some (.exact result)) : context.result? = some result := by
  -- By induction on the frames: those of blocks and loops are passed over up to that of a function.
  induction shown with
  | nil => cases innermost
  | cons first others ih =>
    rename_i frame outer layer context
    obtain ⟨role, names⟩ := layer
    have plays := first.role
    cases role with
    -- The innermost function is the one that is found, with the result that it promises.
    | function stated =>
      obtain ⟨opens, _, same⟩ := plays
      rw [List.find?_cons_of_pos opens] at innermost
      cases innermost
      rw [promised] at same
      cases same
      rfl
    | loop label =>
      rw [List.find?_cons_of_neg (by simp [plays.1])] at innermost
      exact ih innermost
    | block =>
      rw [List.find?_cons_of_neg (by simp [plays.1])] at innermost
      exact ih innermost

/-- A loop can be meant exactly if one is found. -/
theorem hasLoop (shown : Shows frames context) (label : Option String) :
    context.HasLoop label ↔ (Scopes.loopFrameIn label frames).isSome = true := by
  unfold Context.HasLoop
  -- By induction on the frames: both sides stop at the function, and take the first loop that is
  -- meant.
  induction shown with
  | nil => simp [Context.own, Scopes.loopFrameIn]
  | cons first others ih =>
    rename_i frame outer layer context
    obtain ⟨role, names⟩ := layer
    have plays := first.role
    unfold Scopes.loopFrameIn Frame.isTarget
    cases role with
    | function stated => simp [Context.own, plays.1, plays.2.1]
    | block => simpa [Context.own, plays.1, plays.2] using ih
    | loop written =>
      obtain ⟨opens, loop, rfl⟩ := plays
      -- A loop is meant without a label, or with its own.
      by_cases meant : label = none ∨ frame.label = label
      · have target : (frame.isLoop && (label.isNone || frame.label == label)) = true := by
          simpa [loop] using meant
        rw [if_pos target]
        simp [Context.own, meant]
      · have other : ¬ (frame.isLoop && (label.isNone || frame.label == label)) = true := by
          simpa [loop] using meant
        rw [if_neg other, if_neg (by simp [opens])]
        simpa [Context.own, meant] using ih

end Shows

namespace Typing.Context

/-- A name is looked for in a frame, and in the one around it unless that belongs to another
function. -/
theorem own_find?_cons (layer : Layer) (outer : Context) (name : String) :
    find? (own (layer :: outer)) name = (layer.names.lookup name).or (match layer.role with
      | .function _ => none
      | .loop _ | .block => find? (own outer) name) := by
  obtain ⟨role, names⟩ := layer
  unfold find?
  cases role <;> cases known : names.lookup name <;> simp [own, known]

/-- What the innermost function has is visible. -/
theorem find?_of_own {context : Context} {name : String} {declared : Declared}
    (found : context.own.find? name = some declared) : context.find? name = some declared := by
  -- By induction on the layers: the lookup within a function is the first part of the whole one.
  induction context with
  | nil => cases found
  | cons layer outer ih =>
    rw [own_find?_cons] at found
    unfold find?
    rw [List.findSome?_cons]
    cases known : layer.names.lookup name with
    | some binding =>
      rw [known] at found
      exact found
    | none =>
      rw [known] at found
      cases role : layer.role with
      | function result =>
        rw [role] at found
        cases found
      | loop | block =>
        rw [role] at found
        exact ih found

end Typing.Context

/-- A variable that is found belongs to the innermost function exactly if the rules find it
there. -/
theorem Shows.own_find? {code : Code.Module} {frame : Frame} {outer : List Frame}
    {context : Context} (shown : Shows (frame :: outer) context)
    (enclosed : Enclosed (frame :: outer)) (fits : ∀ other ∈ frame :: outer, other.Fits code)
    {name : String} {kind : ExactKind} {slot : Slot}
    (found : (frame :: outer).findSome? (·.find? name) = some (.var kind (some slot))) :
    context.own.find? name = some (.variable kind) ↔ frame.home = slot.function := by
  -- What is found in a frame belongs to the function of that frame.
  have owner : ∀ {other : Frame},
      other.Fits code → other.find? name = some (.var kind (some slot)) →
      other.home = slot.function := fun inside bound => by
    obtain ⟨before, after, split, _⟩ := List.lookup_eq_some_iff.mp bound
    have held : (Binding.var kind (some slot)).Fits code _ :=
      inside.bindings (name, _) (by rw [split]; simp)
    exact held.1.symm
  -- By induction on the frames around the innermost one. Up to the frame of the function both
  -- lookups go on
  -- together, and behind it every variable belongs to another function.
  induction outer generalizing frame context with
  | nil =>
    cases shown with
    | cons first others =>
      cases others
      rw [Typing.Context.own_find?_cons, first.lookup name]
      have bound : frame.find? name = some (.var kind (some slot)) := by
        cases known : frame.find? name <;> simp_all
      simp [bound, Binding.declared, owner (fits frame List.mem_cons_self) bound]
  | cons next rest ih =>
    cases shown with
    | cons first others =>
      rename_i layer context
      rw [Typing.Context.own_find?_cons, first.lookup name]
      rw [List.findSome?_cons] at found
      cases known : frame.find? name with
      -- A name of the innermost frame is found at once.
      | some binding =>
        rw [known] at found
        cases found
        simp [Binding.declared, owner (fits frame List.mem_cons_self) known]
      | none =>
        rw [known] at found
        have around : ∀ other ∈ next :: rest, other.Fits code :=
          fun other member => fits other (.tail _ member)
        have plays := first.role
        obtain ⟨encloses, further⟩ := enclosed
        -- Inside of a function both lookups go on to the next frame.
        have within : frame.isFunction = false → (context.own.find? name = some (.variable kind) ↔
            frame.home = slot.function) := fun inner => by
          rw [if_neg (by simp [inner])] at encloses
          obtain ⟨_, _, shape, same⟩ := encloses
          cases shape
          exact same ▸ ih others further around found
        cases role : layer.role with
        | function result =>
          rw [role] at plays
          rw [if_pos plays.1] at encloses
          -- Further out the slot belongs to another function, and the rules look no further.
          obtain ⟨other, member, bound⟩ := List.exists_of_findSome?_eq_some found
          have apart := encloses other member
          rw [owner (around other member) bound] at apart
          simp [apart.symm]
        | loop label =>
          rw [role] at plays
          simpa using within plays.1
        | block =>
          rw [role] at plays
          simpa using within plays.1

end LoopLang
