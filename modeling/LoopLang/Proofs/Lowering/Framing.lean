import LoopLang.Proofs.Lowering.Quiet
import LoopLang.Proofs.Scope.Nesting

/-! The steps of lowering that declare no names in the open frames, and what they all keep to. -/

namespace LoopLang

namespace Lowering

variable {α β : Type}

/--
However a computation ends, the scopes behind it are related to those in front of it. Where that
does not hold `anywhere`, a failure counts only if code was emitted somewhere, which is so again
behind a success.
-/
def Relates (anywhere : Bool) (relation : Scopes → Scopes → Prop) (action : Lowering α) : Prop :=
  ∀ start, action.Ends start
    (fun _ finish => relation start.scopes finish.scopes ∧
      (start.scopes.cursor.isSome → finish.scopes.cursor.isSome))
    fun _ finish => (anywhere = true ∨ start.scopes.cursor.isSome) →
      relation start.scopes finish.scopes

/-- What holds anywhere holds where code is emitted somewhere. -/
theorem Relates.narrow {relation : Scopes → Scopes → Prop} {action : Lowering α}
    (relates : Relates true relation action) : Relates false relation action := by
  intro start
  exact (relates start).imp (fun _ _ held => held) fun _ _ held _ => held (.inl rfl)

/-- However a computation ends, the relation holds if there is a block to begin in. -/
theorem Relates.outcome {anywhere : Bool} {relation : Scopes → Scopes → Prop} {action : Lowering α}
    (relates : Relates anywhere relation action) (start : Builder)
    (may : anywhere = true ∨ start.scopes.cursor.isSome) :
    relation start.scopes (action.outcome start).2.scopes := by
  have ends := relates start
  unfold Ends at ends
  generalize action.outcome start = ended at ends
  -- On a failure the relation holds where it may be spoken of, on success in any case.
  rcases ended with ⟨failure | answer, finish⟩
  · exact ends may
  · exact ends.1

/-- What two computations do to scopes one after the other, if the first one may also be the last
one. -/
theorem Relates.bind {anywhere : Bool} {first second whole : Scopes → Scopes → Prop}
    {action : Lowering α} {next : α → Lowering β}
    (stops : ∀ {scopes later}, first scopes later → whole scopes later)
    (goes_on : ∀ {scopes middle later}, first scopes middle → second middle later →
      whole scopes later)
    (begun : Relates anywhere first action)
    (ended : ∀ answer, Relates anywhere second (next answer)) :
    Relates anywhere whole (action >>= next) := by
  intro start
  -- A failure of the first part ends the whole, so its relation has to do for that.
  refine bind_ends.mpr ((begun start).imp (fun answer middle held => ?_) fun _ _ held may =>
    stops (held may))
  obtain ⟨between, stays⟩ := held
  refine (ended answer middle).imp (fun _ _ held => ?_) fun _ _ held may => ?_
  · exact ⟨goes_on between held.1, held.2 ∘ stays⟩
  · exact goes_on between (held (may.imp_right stays))

/-- Whether a block has its terminator is known only where code is emitted. -/
theorem isTerminated_placed (start : Builder) :
    isTerminated.Ends start (fun _ finish => finish.scopes.cursor.isSome) fun _ _ => True := by
  cases here : start.scopes.cursor with
  | none => simp [isTerminated, bind_ends, cursor, here]
  | some block =>
    refine bind_ends.mpr ((cursor_ends here).mpr ?_)
    exact (congrArg Option.isSome here : _)

/-- So a terminator is emitted only there. -/
theorem terminate_placed (instruction : Code.Instruction) (start : Builder) :
    (terminate instruction).Ends start (fun _ finish => finish.scopes.cursor.isSome)
      fun _ _ => True := by
  refine bind_ends.mpr ((isTerminated_placed start).imp (fun ended middle placed => ?_)
    fun _ _ held => held)
  have emits : (emitUnnamed instruction).Ends middle
      (fun _ finish => finish.scopes.cursor.isSome) fun _ _ => True := by
    have quiet : Quiet .inferred (emitUnnamed instruction) := .emitUnnamed instruction
    refine (quiet middle).imp (fun _ _ same => ?_) fun _ _ _ => trivial
    exact same ▸ placed
  -- Whether the block has ended can only be seen from a cursor.
  cases ended with
  | true => exact bind_ends.mpr trivial
  | false => exact emits

/-- And statements go on only there. -/
theorem ensureOpen_placed (start : Builder) :
    ensureOpen.Ends start (fun _ finish => finish.scopes.cursor.isSome) fun _ _ => True := by
  refine bind_ends.mpr ((isTerminated_placed start).imp (fun ended middle placed => ?_)
    fun _ _ held => held)
  cases ended with
  | false => exact placed
  -- The new block becomes the one of the innermost frame, and the cursor follows it.
  | true =>
    have made : (createBlock "unreachable").Ends middle (fun _ _ => True) fun _ _ => True := .any
    refine bind_ends.mpr (made.imp (fun block later _ => ?_) fun _ _ held => held)
    show (setScopes .unknown (later.scopes.moveTo block)).Ends later _ _
    cases moved : later.scopes.moveTo block with
    | error failure => cases failure <;> trivial
    | ok scopes =>
      obtain ⟨_, _, _, _, cursor⟩ := Builder.moveTo_ok moved
      exact (congrArg Option.isSome cursor : _)

end Lowering

namespace Scopes

/-- A relation between scopes that any number of steps keeps to, if none of them declares a name in
an open frame. -/
structure Absorbs (relation : Scopes → Scopes → Prop) : Prop where
  refl : ∀ scopes, relation scopes scopes
  trans : ∀ {scopes middle later}, relation scopes middle → relation middle later →
    relation scopes later
  note : ∀ {scopes : Scopes} {line}, ¬ IsFrameLine line → relation scopes (scopes.note line)
  moveTo : ∀ {scopes later : Scopes} {block}, scopes.moveTo block = .ok later →
    relation scopes later
  /-- A frame is opened and closed again; what is declared in between is gone. -/
  frame : ∀ {scopes inner later : Scopes} {block options},
    Nests (scopes.push (some block) options) inner → inner.pop = .ok later → relation scopes later

namespace Absorbs

open Lowering

variable {α β : Type} {anywhere : Bool} {relation : Scopes → Scopes → Prop} {action : Lowering α}
  (absorbs : Absorbs relation)

include absorbs

/-- A computation that leaves the scopes as they are, however it ends. -/
theorem of_same (same : ∀ start, (action.outcome start).2.scopes = start.scopes) :
    Relates anywhere relation action := by
  intro start
  have kept := same start
  unfold Ends
  generalize action.outcome start = ended at kept
  rcases ended with ⟨failure | answer, finish⟩
  · exact fun _ => kept ▸ absorbs.refl _
  · exact ⟨kept ▸ absorbs.refl _, fun placed => (congrArg (·.cursor.isSome) kept).trans placed⟩

/-- An answer relates the scopes to themselves. -/
theorem pure (answer : α) : Relates anywhere relation (Pure.pure answer) :=
  absorbs.of_same fun _ => rfl

/-- So does a refusal. -/
theorem refuse (cause : Cause) (place : Location) :
    Relates anywhere relation (Lowering.refuse (α := α) cause place) :=
  absorbs.of_same fun _ => rfl

/-- So does a fault. -/
theorem stop (fault : Fault) : Relates anywhere relation (Lowering.stop (α := α) fault) :=
  absorbs.of_same fun _ => rfl

/-- So does whatever changes nothing in the scopes. -/
theorem of_quiet (quiet : Quiet .inferred action) : Relates anywhere relation action :=
  absorbs.of_same quiet.same

/-- What only looks at the open frames leaves them as they are. -/
theorem of_looks {answers : Scopes → α → Prop} {fails : Scopes → Failure → Prop}
    (looks : ∀ scopes, action.Looks scopes (answers scopes) (fails scopes)) :
    Relates anywhere relation action := by
  intro start
  refine (looks start.scopes).ends.imp (fun _ _ held => ?_) fun _ _ held _ => ?_
  · exact held.2 ▸ ⟨absorbs.refl _, id⟩
  · exact held.2 ▸ absorbs.refl _

/-- Two computations keep to a relation if each of them does. -/
theorem bind {next : α → Lowering β} (first : Relates anywhere relation action)
    (second : ∀ answer, Relates anywhere relation (next answer)) :
    Relates anywhere relation (action >>= next) :=
  .bind id absorbs.trans first second

/-- What is computed from the open frames may depend on them. -/
theorem scopes {next : Scopes → Lowering α}
    (second : ∀ scopes, Relates anywhere relation (next scopes)) :
    Relates anywhere relation (Lowering.scopes >>= next) :=
  absorbs.bind (absorbs.of_same fun _ => rfl) second

/-- What follows a computation that leaves the scopes as they are. -/
theorem after {next : α → Lowering β} (first : Quiet .inferred action)
    (second : ∀ answer, Relates anywhere relation (next answer)) :
    Relates anywhere relation (action >>= next) :=
  absorbs.bind (absorbs.of_quiet first) second

/-- Behind what succeeds only where code is emitted, the rest may rely on that. -/
theorem behind {next : α → Lowering β} (begun : Relates anywhere relation action)
    (here : ∀ start, action.Ends start (fun _ finish => finish.scopes.cursor.isSome)
      fun _ _ => True)
    (ended : ∀ answer, Relates false relation (next answer)) :
    Relates anywhere relation (action >>= next) := by
  intro start
  -- The second part begins with a cursor, whatever the first one had.
  refine bind_ends.mpr (((begun start).and (here start)).imp (fun answer middle held => ?_)
    fun _ _ held => held.1)
  obtain ⟨⟨between, stays⟩, placed⟩ := held
  refine (ended answer middle).imp (fun _ _ held => ?_) fun _ _ held _ => ?_
  · exact ⟨absorbs.trans between held.1, held.2 ∘ stays⟩
  · exact absorbs.trans between (held (.inr placed))

/-- What follows a terminator runs where code is emitted. -/
theorem terminated {instruction : Code.Instruction} {next : Unit → Lowering β}
    (second : ∀ answer, Relates false relation (next answer)) :
    Relates anywhere relation (Lowering.terminate instruction >>= next) :=
  absorbs.behind (absorbs.of_quiet (.terminate _)) (terminate_placed _) second

/-- A line that is not about frames is noted. -/
theorem noted {line : String} (plain : ¬ IsFrameLine line) :
    Relates anywhere relation (Lowering.note line) :=
  fun _ => note_ends.mpr ⟨absorbs.note plain, id⟩

/-- Code is emitted in another block. -/
theorem moved (block : BlockRef) : Relates anywhere relation (Lowering.moveTo block) := by
  intro start
  show (Lowering.setScopes _ (start.scopes.moveTo block)).Ends start _ _
  -- A move gives the innermost frame another block, or fails without any frame.
  cases moved : start.scopes.moveTo block with
  | ok scopes =>
    obtain ⟨_, _, _, _, cursor⟩ := Builder.moveTo_ok moved
    exact ⟨absorbs.moveTo moved, fun _ => (congrArg Option.isSome cursor : _)⟩
  | error failure => cases failure <;> exact fun _ => absorbs.refl _

/-- A frame is closed behind its contents however those end, if there is a block for it. -/
theorem withFrame {body : Lowering α} (block : BlockRef) (options : FrameOptions)
    (nested : Relates false Nests body) :
    Relates anywhere relation (Lowering.withFrame (some block) options body) := by
  intro start
  have inside := nested { start with scopes := start.scopes.push (some block) options }
  -- The contents end with their own frame innermost, and it is closed in any case.
  unfold Ends at inside ⊢
  rw [withFrame_outcome]
  generalize body.outcome _ = ended at inside
  rcases ended with ⟨failure | answer, inner⟩
  -- The innermost frame at the end of the contents is the one that was opened for them.
  · obtain ⟨closed, popped, -⟩ := (inside (.inr rfl)).within
    simp only [closeFrame, popped]
    cases closed.isAdrift <;> exact fun _ => absorbs.frame (inside (.inr rfl)) popped
  · obtain ⟨closed, popped, -⟩ := inside.1.within
    simp only [closeFrame, popped]
    cases adrift : closed.isAdrift with
    | true => exact fun _ => absorbs.frame inside.1 popped
    | false =>
      exact ⟨absorbs.frame inside.1 popped, fun _ => pop_placed popped adrift (inside.2 rfl)⟩

/-- A nested block does so, too, where code is emitted. -/
theorem inBlock {body : Lowering α} (nested : Relates false Nests body) :
    Relates false relation (Lowering.inBlock body) := by
  intro start
  unfold Ends
  rw [inBlock_outcome]
  cases here : start.scopes.cursor with
  | some block => simpa only [Ends, here] using absorbs.withFrame block {} nested start
  | none =>
    -- The frame is pushed before the missing block is noticed, so nothing is said of this case.
    rw [withFrame_nowhere]
    rintro (never | never) <;> cases never

/-- Behind the end of a block another one is begun. -/
theorem ensureOpen : Relates anywhere relation Lowering.ensureOpen := by
  refine absorbs.after .isTerminated fun ended => ?_
  split
  · exact absorbs.after (.createBlock _) fun block => absorbs.moved block
  · exact absorbs.pure _

/-- What follows in the same statements runs where code is emitted. -/
theorem opened {next : Unit → Lowering β}
    (second : ∀ answer, Relates false relation (next answer)) :
    Relates anywhere relation (Lowering.ensureOpen >>= next) :=
  absorbs.behind absorbs.ensureOpen ensureOpen_placed second

/-- A jump at the end of a block changes no scopes. -/
theorem jumpUnlessTerminated (block : BlockRef) :
    Relates anywhere relation (Lowering.jumpUnlessTerminated block) := by
  refine absorbs.after .isTerminated fun ended => ?_
  split
  · exact absorbs.pure _
  · exact absorbs.of_quiet (.terminate _)

/-- A line is noted about an inferred kind. -/
theorem inferKind (name : String) (value : Tree) :
    Relates anywhere relation (Lowering.inferKind name value) := by
  refine absorbs.scopes fun scopes => ?_
  split
  · exact absorbs.bind (absorbs.noted (not_isFrameLine (by simp [toString]))) fun _ =>
      absorbs.pure _
  · exact absorbs.stop _

/-- A jump changes no scopes. -/
theorem jump (jump : Jump) (place : Location) (label : Option String) :
    Relates anywhere relation (Lowering.lowerJump jump place label) := by
  refine absorbs.after .currentFrame fun _ => absorbs.scopes fun scopes => ?_
  -- A jump ends a block or fails, and changes no scopes.
  split
  · exact absorbs.refuse _ _
  · split
    · exact absorbs.of_quiet (.terminate _)
    · exact absorbs.stop _

/-- A line is noted about a function. -/
theorem createTypedFunction (name : Code.Name) (parameters : List TypedName) (result : ExactKind) :
    Relates anywhere relation (Lowering.createTypedFunction name parameters result) :=
  absorbs.bind (absorbs.of_same fun _ => rfl) fun _ =>
    absorbs.bind (absorbs.noted (not_isFrameLine (by simp [toString]))) fun _ => absorbs.pure _

/-- The return at the end of a function changes no scopes. -/
theorem closeFunction (result : ExactKind) :
    Relates anywhere relation (Lowering.closeFunction result) := by
  refine absorbs.after .isTerminated fun ended => ?_
  split
  · exact absorbs.pure _
  · split <;> exact absorbs.of_quiet (.terminate _)

/-- Nor does any other return. -/
theorem ending (place : Location) (value : Tree) :
    Relates anywhere relation (lowerReturn place value) := by
  refine absorbs.after .enclosingFunction fun (function, expected) => ?_
  dsimp only
  -- Returns look at the innermost function and end the block.
  split
  · exact absorbs.of_quiet (.terminate _)
  · exact absorbs.refuse _ _
  · refine absorbs.after (Tree.lowerExpression_quiet_all.1 _) fun answer => ?_
    split
    · exact absorbs.refuse _ _
    · exact absorbs.of_quiet (.terminate _)
  · refine absorbs.after (Tree.lowerValue_quiet _) fun result => ?_
    split
    · exact absorbs.of_quiet (.terminate _)
    · exact absorbs.refuse _ _

/-- Nor does a condition. -/
theorem condition (condition : Tree) : Relates anywhere relation (lowerCondition condition) := by
  refine absorbs.after (Tree.lowerValue_quiet condition) fun value => ?_
  split
  · exact absorbs.pure _
  · exact absorbs.after (.emit _ _) fun _ => absorbs.pure _

/--
A branch keeps to what both of its arms keep to. It does so anywhere, for its arms stand behind the
jump to them.
-/
theorem choice {condition : Tree} {consequent : Lowering Unit} {alternate : Option (Lowering Unit)}
    (first : Relates false relation consequent)
    (second : ∀ arm ∈ alternate, Relates false relation arm) :
    Relates anywhere relation (lowerChoice condition consequent alternate) := by
  -- Each arm is followed by a jump to where both of them lead.
  have leaves (block : BlockRef) {arm rest : Lowering Unit} (lowered : Relates false relation arm)
      (goes_on : Relates false relation rest) :
      Relates false relation (do arm; Lowering.jumpUnlessTerminated block; rest) :=
    absorbs.bind lowered fun _ => absorbs.bind (absorbs.jumpUnlessTerminated block) fun _ => goes_on
  refine absorbs.after .nextSuffix fun _ => absorbs.bind (absorbs.condition _) fun _ =>
    absorbs.after (.createBlock _) fun _ => ?_
  split
  · refine absorbs.after (.createBlock _) fun _ => absorbs.after (.createBlock _) fun _ =>
      absorbs.terminated fun _ => absorbs.bind (absorbs.moved _) fun _ => leaves _ first ?_
    -- Behind the first arm the second one is lowered in the same way.
    exact absorbs.bind (absorbs.moved _) fun _ => leaves _ (second _ rfl) (absorbs.moved _)
  · exact absorbs.after (.createBlock _) fun _ => absorbs.terminated fun _ =>
      absorbs.bind (absorbs.moved _) fun _ => leaves _ first (absorbs.moved _)

end Absorbs

/-- Runs in which every frame is closed again keep to themselves. -/
theorem Nests.absorbs : Absorbs Nests where
  refl := .done
  trans := .trans
  note plain := .note plain (.done _)
  moveTo moved := .moveTo moved (.done _)
  frame inside popped := by
    obtain ⟨middle, closed, nests⟩ := inside.within
    -- The frame that is closed is the one that was opened.
    cases popped.symm.trans closed
    exact nests

namespace Absorbs

open Lowering

/-- A loop keeps to any such relation, for only its body runs in a frame of its own. -/
theorem loop {anywhere : Bool} {relation : Scopes → Scopes → Prop} (absorbs : Absorbs relation)
    {condition : Tree} {label : Option String} {body : Lowering Unit}
    (nested : Relates false Nests body) :
    Relates anywhere relation (lowerLoop condition label body) := by
  refine absorbs.after .nextSuffix fun _ => absorbs.after (.createBlock _) fun _ =>
    absorbs.after (.createBlock _) fun _ => absorbs.after (.createBlock _) fun _ =>
    absorbs.after (.terminate _) fun _ => absorbs.bind (absorbs.moved _) fun _ =>
    absorbs.bind (absorbs.condition _) fun _ => absorbs.after (.terminate _) fun _ => ?_
  -- The jump to the next round stands in the frame of the body, too.
  have round := fun block =>
    Nests.absorbs.bind nested fun _ => Nests.absorbs.jumpUnlessTerminated block
  exact absorbs.bind (absorbs.withFrame _ _ (round _)) fun _ => absorbs.moved _

end Absorbs

/-- What becomes of scopes where steps that keep to a relation stand around one that declares a
name. -/
structure AdmitsName (name : String) (relation whole : Scopes → Scopes → Prop) : Prop where
  absorbs : Absorbs relation
  declare : ∀ {scopes later : Scopes} {binding : Binding}, binding.IsDefinite →
    scopes.declare name binding = .ok later → whole scopes later
  /-- The name need not be declared. -/
  none : ∀ {scopes later}, relation scopes later → whole scopes later
  behind : ∀ {scopes middle later}, relation scopes middle → whole middle later → whole scopes later
  before : ∀ {scopes middle later}, whole scopes middle → relation middle later → whole scopes later

/-- Runs in which every frame is closed again may declare any name. -/
theorem Nests.admitsName (name : String) : AdmitsName name Nests Nests where
  absorbs := Nests.absorbs
  declare definite declared := .declare definite declared (.done _)
  none nests := nests
  behind := .trans
  before := .trans

namespace AdmitsName

open Lowering

section Steps

variable {α β : Type} {anywhere : Bool} {relation whole : Scopes → Scopes → Prop} {name : String}
  {action : Lowering α} (admits : AdmitsName name relation whole)

include admits

/-- The name need not be declared. -/
theorem widen (relates : Relates anywhere relation action) : Relates anywhere whole action := by
  intro start
  exact (relates start).imp (fun _ _ held => ⟨admits.none held.1, held.2⟩) fun _ _ held may =>
    admits.none (held may)

/-- A refusal leaves the scopes as they are, so the name need not be declared. -/
theorem refuse (cause : Cause) (place : Location) :
    Relates anywhere whole (Lowering.refuse (α := α) cause place) :=
  admits.widen (admits.absorbs.refuse cause place)

/-- Behind what declares nothing the name may still be declared. -/
theorem last {next : α → Lowering β} (first : Relates anywhere relation action)
    (second : ∀ answer, Relates anywhere whole (next answer)) :
    Relates anywhere whole (action >>= next) :=
  .bind admits.none admits.behind first second

/-- The same behind what leaves the scopes as they are. -/
theorem after {next : α → Lowering β} (first : Quiet .inferred action)
    (second : ∀ answer, Relates anywhere whole (next answer)) :
    Relates anywhere whole (action >>= next) :=
  admits.last (admits.absorbs.of_quiet first) second

/-- A name that cannot be declared leaves the scopes as they are. -/
theorem declared {binding : Binding} (definite : binding.IsDefinite) (place : Location) :
    Relates anywhere whole (Lowering.declare name binding place) := by
  intro start
  show (Lowering.setScopes place (start.scopes.declare name binding)).Ends start _ _
  -- A name that is taken, or the absence of a frame, leaves the scopes as they are.
  cases declared : start.scopes.declare name binding with
  | ok scopes =>
    obtain ⟨_, _, _, _, cursor, _⟩ := Builder.declare_ok declared
    refine ⟨admits.declare definite declared, fun placed => ?_⟩
    exact (congrArg Option.isSome cursor).trans placed
  | error failure => cases failure <;> exact fun _ => admits.none (admits.absorbs.refl _)

/-- A variable is declared in the innermost frame. -/
theorem declareVariable (base : String) (kind : ValueKind) (value : Code.Operand)
    (place : Location) :
    Relates anywhere whole (Lowering.declareVariable name base kind value place) := by
  have stores : Relates anywhere whole (do
      let slot ← Lowering.createSlot base kind
      Lowering.storeVariable name kind slot value place
      Lowering.declare name (.var kind.exact (some slot)) place) :=
    admits.after (.createSlot _ _) fun slot => admits.after (.storeVariable _ _ _ _ _) fun _ =>
      admits.declared (by cases kind <;> rfl) _
  refine admits.after .currentFrame fun frame => ?_
  dsimp only
  split
  -- Where the name is taken nothing of the rest runs.
  · exact admits.last (admits.absorbs.refuse _ _) fun _ => stores
  · exact stores

end Steps

section Declarations

variable {anywhere : Bool} {relation whole : Scopes → Scopes → Prop} {name : Tree}
  (admits : AdmitsName name.shown relation whole)

include admits

/-- A variable is declared once its value is there, so that nothing is declared where the value is
refused. -/
theorem declaration (place : Location) (stated value : Tree) :
    Relates anywhere whole (lowerDeclaration place name stated value) := by
  rw [lowerDeclaration_eq]
  refine admits.last (admits.absorbs.of_looks (fun _ => .carriedKind stated)) fun stated =>
    admits.last ?_ fun kind => ?_
  -- The kind is stated, or inferred without touching the frames.
  · split
    · exact admits.absorbs.pure _
    · exact admits.absorbs.inferKind _ _
  · unfold declareAs
    split
    -- Only the last step declares anything.
    · refine admits.after (Tree.lowerExpression_quiet_all.1 value) fun _ => ?_
      rw [declaredName_bind]
      exact admits.last (admits.absorbs.of_looks (fun _ => .declaredName name)) fun _ =>
        admits.declared (by rfl) _
    · refine admits.after (Tree.lowerValue_quiet value) fun initial => ?_
      split
      · rw [declaredName_bind]
        exact admits.last (admits.absorbs.of_looks (fun _ => .declaredName name)) fun _ =>
          admits.declareVariable _ _ _ _
      · exact admits.refuse _ _

/--
A function is declared in the frame around it, and its parameters and its body stand in a frame of
their own.
-/
theorem function {body : Lowering Unit} (place : Location) (arguments result : Tree)
    (contents : ∀ (function : Code.Function) parameters,
      Relates false Nests (do
        Lowering.storeParameters function.parameters parameters
        body
        Lowering.closeFunction function.result)) :
    Relates anywhere whole (lowerFunction place name arguments result body) := by
  -- What is read from the tree changes nothing.
  refine admits.last (admits.absorbs.of_looks (fun _ => .typedNames _)) fun parameters =>
    admits.last (admits.absorbs.of_looks (fun _ => .statedResult _ _ _)) fun exact => ?_
  rw [declaredName_bind]
  refine admits.last (admits.absorbs.of_looks (fun _ => .declaredName name)) fun _ =>
    admits.after .currentFrame fun frame => ?_
  -- The body stands in a frame of its own, which is closed behind it.
  have inside (function : Code.Function) :
      Relates anywhere relation (lowerFunctionBody function parameters body) :=
    admits.absorbs.bind (admits.absorbs.of_same fun _ => rfl) fun _ =>
      admits.absorbs.withFrame _ _ (contents function parameters)
  -- So the declaration of the function is the only one that stays.
  have rest : Relates anywhere whole (do
      let function ← Lowering.createTypedFunction (.text name.shown) parameters exact
      Lowering.declare name.shown
        (.fn function.name (.exact exact) (parameters.map fun parameter => parameter.kind.exact))
        place
      lowerFunctionBody function parameters body) :=
    admits.last (admits.absorbs.createTypedFunction _ _ _) fun function =>
      .bind id admits.before (admits.declared (by rfl) _) fun _ => inside function
  dsimp only
  -- A name that is taken is refused, in front of what would come then.
  split
  · exact admits.last (admits.absorbs.refuse _ _) fun _ => rest
  · exact rest

end Declarations

end AdmitsName

end Scopes

end LoopLang
