import Mathlib.Data.Finmap
import LoopLang.Proofs.Scope.Frames

/-! The open frames as a stack of finite maps, over any sequence of operations, also where some of
them fail. -/

namespace LoopLang

/-- An open block by the function that was given when it was opened, if any, and what is declared in
it. -/
structure MapFrame where
  given : Option Code.Name
  bindings : Finmap fun _ : String => Binding

/-- One use of the open frames. -/
inductive Scopes.Operation
  | push (block : BlockRef) (options : FrameOptions)
  | pop
  | moveTo (block : BlockRef)
  | declare (name : String) (binding : Binding)
  | lookup (name : String)
  | visibleNames

/-- What an operation answers. -/
inductive Scopes.Answer
  | opened
  | closed
  | done
  | failed (error : ScopeError)
  | found (binding : Option Binding)
  | names (names : Finset String)
  deriving DecidableEq

open Scopes (Operation Answer)

/-- Whether an operation opens a frame. -/
def Scopes.Operation.isPush : Operation → Bool
  | .push .. => true
  | _ => false

/-- What a sequence of operations answers, one after the other, and what it leaves. -/
def Scopes.Operation.run {State : Type} (perform : State → Operation → Answer × State)
    (start : State) :
    List Operation → List Answer × State
  | [] => ([], start)
  | operation :: rest =>
    let (answer, middle) := perform start operation
    let (answers, last) := run perform middle rest
    (answer :: answers, last)

/-- The first operation answers first, and the others go on with what it leaves. -/
theorem Scopes.Operation.run_cons {State : Type} (perform : State → Operation → Answer × State)
    (start : State) (operation : Operation) (rest : List Operation) :
    run perform start (operation :: rest) =
      ((perform start operation).1 :: (run perform (perform start operation).2 rest).1,
        (run perform (perform start operation).2 rest).2) := rfl

namespace Scopes

/-- Goes on with what an operation leaves, or with the frames as they were if it fails. -/
def settle (scopes : Scopes) (answer : Answer) : Except ScopeError Scopes → Answer × Scopes
  | .ok later => (answer, later)
  | .error error => (.failed error, scopes)

/-- What an operation answers, and the frames behind it. -/
def perform (scopes : Scopes) : Operation → Answer × Scopes
  | .push block options => (.opened, scopes.push (some block) options)
  | .pop => scopes.settle .closed scopes.pop
  | .moveTo block => scopes.settle .done (scopes.moveTo block)
  | .declare name binding => scopes.settle .done (scopes.declare name binding)
  | .lookup name => (.found (scopes.lookup name), scopes)
  | .visibleNames => (.names scopes.visibleNames.toFinset, scopes)

/-- An operation that fails changes nothing. -/
theorem perform_failed {scopes : Scopes} {operation : Operation} {error : ScopeError}
    (failed : (scopes.perform operation).1 = .failed error) :
    (scopes.perform operation).2 = scopes := by
  -- An operation that fails is settled with the scopes from before.
  have settled {answer : Answer} {result : Except ScopeError Scopes}
    (other : answer ≠ .failed error)
      (failed : (scopes.settle answer result).1 = .failed error) : (scopes.settle answer result).2 =
      scopes := by
    cases result with
    | ok later => exact absurd failed other
    | error _ => rfl
  cases operation with
  | push block options => cases failed
  | pop => exact settled nofun failed
  | moveTo block => exact settled nofun failed
  | declare name binding => exact settled nofun failed
  | lookup name => rfl
  | visibleNames => rfl

end Scopes

namespace MapFrame

/-- The binding of a name in the innermost map that has it. -/
def meaning (layers : List MapFrame) (name : String) : Option Binding :=
  layers.findSome? (·.bindings.lookup name)

/-- The names in any of the maps. -/
def names (layers : List MapFrame) : Finset String :=
  layers.foldr (fun layer names => layer.bindings.keys ∪ names) ∅

/-- The function that was given nearest to the innermost block. -/
def owner (layers : List MapFrame) : Option Code.Name := layers.findSome? (·.given)

/-- What an operation answers on a stack of finite maps, and the stack behind it. -/
def perform (layers : List MapFrame) : Operation → Answer × List MapFrame
  | .push _ options => (.opened, ⟨options.function, ∅⟩ :: layers)
  -- Closing a frame forgets its map, whatever it holds.
  | .pop =>
    match layers with
    | [] => (.failed .emptyStack, layers)
    | _ :: outer => (.closed, outer)
  -- Where code goes is nothing to the names.
  | .moveTo _ => (if layers.isEmpty then .failed .noFrame else .done, layers)
  | .declare name binding =>
    match layers with
    | [] => (.failed .noFrame, layers)
    | layer :: outer =>
      if name ∈ layer.bindings then (.failed (.duplicate name), layers)
      else (.done, { layer with bindings := layer.bindings.insert name binding } :: outer)
  | .lookup name => (.found (meaning layers name), layers)
  | .visibleNames => (.names (names layers), layers)

/-- A name means what it is bound to in the innermost map, or else what it means around it. -/
theorem meaning_cons (layer : MapFrame) (outer : List MapFrame) (name : String) :
    meaning (layer :: outer) name = (layer.bindings.lookup name <|> meaning outer name) := by
  rw [meaning, List.findSome?_cons]
  cases layer.bindings.lookup name <;> rfl

/-- A name is in one of the maps exactly if it means something. -/
theorem mem_names {layers : List MapFrame} {name : String} :
    name ∈ names layers ↔ (meaning layers name).isSome := by
  induction layers with
  | nil => simp [names, meaning]
  | cons layer outer ih =>
    -- A name is declared in the innermost map or in one around it.
    have split : name ∈ names (layer :: outer) ↔ name ∈ layer.bindings ∨ name ∈ names outer := by
      simp [names, Finmap.mem_keys]
    rw [split, ih, ← Finmap.lookup_isSome, meaning_cons]
    cases layer.bindings.lookup name <;> simp

end MapFrame

/-- Frames stand for a stack of finite maps, where each belongs to the function that was given
nearest to it. -/
inductive MapFrame.Represented : List MapFrame → List Frame → Prop
  | nil : Represented [] []
  | cons {layer : MapFrame} {layers : List MapFrame} {frame : Frame} {frames : List Frame}
      (bindings : ∀ name, frame.find? name = layer.bindings.lookup name)
      (function : frame.function = owner (layer :: layers)) (outer : Represented layers frames) :
      Represented (layer :: layers) (frame :: frames)

namespace MapFrame.Represented

variable {layers : List MapFrame} {frames : List Frame} {scopes : Scopes}

/-- There are as many frames as maps. -/
theorem length (represented : Represented layers frames) : frames.length = layers.length := by
  induction represented with
  | nil => rfl
  | cons _ _ _ ih => rw [List.length_cons, List.length_cons, ih]

/-- A name means the same. -/
theorem findSome? (represented : Represented layers frames) (name : String) :
    frames.findSome? (·.find? name) = meaning layers name := by
  induction represented with
  | nil => rfl
  | @cons layer _ _ _ bindings _ _ ih =>
    rw [meaning_cons, List.findSome?_cons, bindings, ih]
    cases layer.bindings.lookup name <;> rfl

/-- The innermost frame belongs to the function that was given nearest to it. -/
theorem head? (represented : Represented layers frames) :
    frames.head?.bind (·.function) = owner layers := by
  cases represented with
  | nil => rfl
  | cons _ function _ => exact function

/-- So does every frame. -/
theorem function (represented : Represented layers frames) {index : Nat} {frame : Frame}
    (inside : frames[index]? = some frame) : frame.function = owner (layers.drop index) := by
  induction represented generalizing index with
  | nil => cases inside
  | cons _ function _ ih =>
    -- Frame by frame, with the maps in front of it left out.
    cases index with
    | zero => cases inside; exact function
    | succ index => exact ih inside

/-- A frame in another block stands for the same map. -/
theorem moved {frame : Frame} (represented : Represented layers (frame :: frames))
    (block : Option BlockRef) :
    Represented layers ({ frame with block } :: frames) := by
  cases represented with
  | cons bindings function outer => exact .cons bindings function outer

/-- A frame that is opened stands for an empty map. -/
theorem push (represented : Represented layers scopes.frames) (block : BlockRef)
    (options : FrameOptions) :
    Represented (⟨options.function, ∅⟩ :: layers) (scopes.push (some block) options).frames := by
  refine .cons (fun name => ?_) ?_ represented
  · rw [Finmap.lookup_empty]
    rfl
  -- The function is the given one, or that of the frame around.
  · show (options.function <|> scopes.current?.bind (·.function)) = _
    rw [Scopes.current?, represented.head?, owner, owner, List.findSome?_cons]
    cases options.function <;> rfl

/-- The frame that a name is declared in stands for the map with it. -/
theorem declared {layer : MapFrame} {frame : Frame}
    (represented : Represented (layer :: layers) (frame :: frames)) {name : String}
    (new : name ∉ layer.bindings) (binding : Binding) :
    Represented ({ layer with bindings := layer.bindings.insert name binding } :: layers)
      ({ frame with symbols := frame.symbols ++ [(name, binding)] } :: frames) := by
  cases represented with
  | cons bindings function outer =>
    refine .cons (fun other => ?_) function outer
    have before : frame.symbols.lookup other = layer.bindings.lookup other := bindings other
    show (frame.symbols ++ [(name, binding)]).lookup other = _
    rw [List.lookup_append, before]
    -- The new name stands behind the others, where it is found because none of them is the same.
    by_cases same : other = name
    · subst same
      rw [Finmap.lookup_insert, Finmap.lookup_eq_none.mpr new]
      simp
    · have apart : (other == name) = false := by simpa using same
      rw [Finmap.lookup_insert_of_ne _ same, List.lookup_cons, apart]
      simp

/-- Every operation answers on frames what it answers on the maps that they stand for, and its
results stand for each other. -/
theorem perform (represented : Represented layers scopes.frames) (operation : Operation) :
    (scopes.perform operation).1 = (MapFrame.perform layers operation).1 ∧
      Represented (MapFrame.perform layers operation).2 (scopes.perform operation).2.frames := by
  cases operation with
  | push block options => exact ⟨rfl, represented.push block options⟩
  | pop =>
    simp only [Scopes.perform, Scopes.pop, MapFrame.perform]
    rcases scopes with ⟨frames, cursor, log⟩
    cases represented with
    | nil => exact ⟨rfl, .nil⟩
    | @cons _ _ frame _ _ _ outer =>
      cases outer with
      | nil => exact ⟨rfl, .nil⟩
      | @cons _ _ next _ bindings function further =>
        refine ⟨rfl, ?_⟩
        have kept := Represented.cons bindings function further
        -- Only the block of the frame that is gone on with depends on what was closed.
        cases inner : frame.isFunction with
        | true => simpa [inner, Scopes.settle, Scopes.note] using kept
        | false => simpa [inner, Scopes.settle, Scopes.note] using kept.moved frame.block
  -- Moving changes the block of the innermost frame.
  | moveTo block =>
    simp only [Scopes.perform, Scopes.moveTo, MapFrame.perform]
    rcases scopes with ⟨frames, cursor, log⟩
    cases represented with
    | nil => exact ⟨rfl, .nil⟩
    | cons bindings function outer =>
      exact ⟨rfl, (Represented.cons bindings function outer).moved (some block)⟩
  | declare name binding =>
    simp only [Scopes.perform, Scopes.declare, MapFrame.perform]
    rcases scopes with ⟨frames, cursor, log⟩
    cases represented with
    | nil => exact ⟨rfl, .nil⟩
    | @cons layer _ frame _ bindings function outer =>
      have kept := Represented.cons bindings function outer
      -- A name is taken in the frame where the map has it.
      have taken : frame.has name = true ↔ name ∈ layer.bindings := by
        rw [Frame.has, bindings, Finmap.lookup_isSome]
      by_cases old : name ∈ layer.bindings
      · simp only [if_pos old, if_pos (taken.mpr old)]
        exact ⟨rfl, kept⟩
      · simp only [if_neg old, if_neg (mt taken.mp old)]
        exact ⟨rfl, kept.declared old binding⟩
  | lookup name => exact ⟨congrArg Answer.found (represented.findSome? name), represented⟩
  | visibleNames =>
    refine ⟨congrArg Answer.names (Finset.ext fun name => ?_), represented⟩
    rw [List.mem_toFinset, Scopes.mem_visibleNames, ← Option.isSome_iff_exists, MapFrame.mem_names,
      Scopes.lookup, represented.findSome?]

/-- So does every sequence of operations. -/
theorem run (represented : Represented layers scopes.frames) (operations : List Operation) :
    (Operation.run Scopes.perform scopes operations).1 =
      (Operation.run MapFrame.perform layers operations).1 ∧
      Represented (Operation.run MapFrame.perform layers operations).2
        (Operation.run Scopes.perform scopes operations).2.frames := by
  -- Each operation answers alike on both sides, and keeps the frames represented.
  induction operations generalizing scopes layers with
  | nil => exact ⟨rfl, represented⟩
  | cons operation rest ih =>
    obtain ⟨answer, middle⟩ := represented.perform operation
    obtain ⟨answers, last⟩ := ih middle
    rw [Operation.run_cons, Operation.run_cons]
    exact ⟨congrArg₂ List.cons answer answers, last⟩

end MapFrame.Represented

/-- The maps that an operation opens and closes make up the depth of the stack. -/
theorem MapFrame.perform_length (layers : List MapFrame) (operation : Operation) :
    (MapFrame.perform layers operation).2.length +
      (if (MapFrame.perform layers operation).1 == .closed then 1 else 0) =
      layers.length + (if operation.isPush then 1 else 0) := by
  -- Only opening and closing change the number of frames.
  cases operation with
  | declare name binding =>
    cases layers with
    | nil => rfl
    | cons layer outer =>
      simp only [MapFrame.perform]
      split <;> rfl
  | moveTo block => cases layers <;> rfl
  | pop => cases layers <;> rfl
  | _ => rfl

/-- So do those of a whole sequence. -/
theorem MapFrame.run_length (layers : List MapFrame) (operations : List Operation) :
    (Operation.run MapFrame.perform layers operations).2.length +
        (Operation.run MapFrame.perform layers operations).1.count .closed =
      layers.length + operations.countP Operation.isPush := by
  induction operations generalizing layers with
  | nil => rfl
  | cons operation rest ih =>
    -- Only opening makes the stack higher, and only closing that succeeds makes it lower.
    have first := MapFrame.perform_length layers operation
    have further := ih (MapFrame.perform layers operation).2
    simp only [Operation.run_cons, List.count_cons, List.countP_cons]
    omega

namespace Scopes

/-- What holds after a sequence of operations on no frames, where the same sequence on no maps
leaves the given ones. -/
structure Refines (operations : List Operation) (answers : List Answer) (scopes : Scopes)
    (layers : List MapFrame) : Prop where
  /-- Each operation has answered what it answers on a stack of finite maps. -/
  agree : answers = (Operation.run MapFrame.perform [] operations).1
  /-- The depth is the number of frames opened without those that were closed. -/
  depth : scopes.depth + answers.count .closed = operations.countP Operation.isPush
  /-- A name means what it is bound to in the innermost frame that binds it. -/
  lookup : ∀ name, scopes.lookup name = layers.findSome? (·.bindings.lookup name)
  /-- The visible names are those that mean something. -/
  visible : ∀ name, name ∈ scopes.visibleNames ↔ (scopes.lookup name).isSome
  /-- To declare a name again fails in the same frame, and only there. -/
  duplicate : ∀ name binding,
    (scopes.perform (.declare name binding)).1 = .failed (.duplicate name) ↔
    ∃ layer, layers.head? = some layer ∧ name ∈ layer.bindings
  /-- Without a frame there is nothing to close. -/
  empty : (scopes.perform .pop).1 = .failed .emptyStack ↔ scopes.depth = 0
  /-- What fails changes nothing. -/
  unchanged : ∀ operation error, (scopes.perform operation).1 = .failed error →
    (scopes.perform operation).2 = scopes
  /-- A frame belongs to the function given where it or the nearest frame around it was opened. -/
  function : ∀ index frame, scopes.frames[index]? = some frame →
    frame.function = (layers.drop index).findSome? (·.given)

/-- The frames behave as a stack of finite maps in every sequence of operations. -/
theorem run_refines (operations : List Operation) :
    Refines operations (Operation.run perform empty operations).1
      (Operation.run perform empty operations).2
      (Operation.run MapFrame.perform [] operations).2 := by
  have start : MapFrame.Represented [] empty.frames := .nil
  -- Both sides start without any frames.
  obtain ⟨answers, represented⟩ := start.run operations
  refine {
    agree := answers
    depth := ?_
    lookup := represented.findSome?
    visible := fun _ => mem_visibleNames.trans Option.isSome_iff_exists.symm
    duplicate := fun name binding => ?_
    empty := ?_
    unchanged := fun _ _ => perform_failed
    function := fun _ _ => represented.function }
  · rw [Scopes.depth, represented.length, answers, MapFrame.run_length, List.length_nil,
      Nat.zero_add]
  -- What holds of the map holds of the frame, by the next operation.
  · rw [(represented.perform _).1]
    generalize (Operation.run MapFrame.perform [] operations).2 = layers
    cases layers with
    | nil => simp [MapFrame.perform]
    | cons layer outer =>
      simp only [MapFrame.perform]
      split <;> simp_all
  -- A pop fails exactly where there are no layers.
  · rw [(represented.perform _).1, Scopes.depth, represented.length]
    generalize (Operation.run MapFrame.perform [] operations).2 = layers
    cases layers <;> simp [MapFrame.perform]

end Scopes

end LoopLang
