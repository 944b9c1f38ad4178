import LoopLang.Proofs.Blame.Expression
import LoopLang.Proofs.Lowering.Refusal
import LoopLang.Proofs.Session

/-! Lowering a program whose places are known blames one of them, if it is refused. -/

namespace LoopLang.Lowering

open Code (Operand)

variable {α : Type} {known : Location → Prop} {place : Location}

namespace Blames

/-- Emission can always move within a frame. -/
theorem moveTo (block : BlockRef) : Blames known (Lowering.moveTo block) := by
  refine .scopes fun scopes => ?_
  unfold Scopes.moveTo
  split
  · exact .stop id
  · exact fun _ => trivial

/-- A name that is taken is blamed where it is declared again. -/
theorem declare (name : String) (binding : Binding) (here : known place) :
    Blames known (Lowering.declare name binding place) := by
  refine .scopes fun scopes => ?_
  unfold Scopes.declare
  split
  -- Without any frame there is an internal failure, which has no place.
  · exact .stop id
  · split
    · exact .refuse here
    · exact fun _ => trivial

/-- A frame blames what its contents do. -/
theorem withFrame {body : Lowering α} (block : Option BlockRef) (options : FrameOptions)
    (inside : Blames known body) :
    Blames known (Lowering.withFrame block options body) := by
  intro start
  refine Ends.withFrame (inside _) (fun _ _ _ _ _ => trivial) (fun _ _ _ _ held => held) ?_
  exact fun fault _ breach => .inl breach

/-- A frame around something is to blame for nothing more. -/
theorem inBlock {body : Lowering α} (inside : Blames known body) :
    Blames known (Lowering.inBlock body) :=
  .scopes fun scopes => .withFrame scopes.cursor {} inside

/-- Beginning another block blames nothing. -/
theorem ensureOpen : Blames known Lowering.ensureOpen := by
  refine .bind .isTerminated fun ended => ?_
  split
  · exact .bind (.createBlock _) fun block => .moveTo block
  · exact .pure _

/-- Nor does a jump at the end of a block. -/
theorem jumpUnlessTerminated (block : BlockRef) :
    Blames known (Lowering.jumpUnlessTerminated block) := by
  refine .bind .isTerminated fun ended => ?_
  split
  · exact .pure _
  · exact .terminate _

/-- A name of the grammar is declared as it is, and its kind is one. -/
theorem declaredName (name : String) : Blames known (Lowering.declaredName (.text name)) :=
  .of_looks (fun _ => .declaredName _) fun _ _ held => absurd rfl (held.2 name)

/-- A kind in the tree of a text is one. -/
theorem carriedKind (kind : Kind) : Blames known (Lowering.carriedKind (.kindValue kind)) :=
  .of_looks (fun _ => .carriedKind _) fun _ _ held => absurd rfl (held.2 kind)

/-- A name that is taken is blamed on its declaration. -/
theorem declareVariable (name base : String) (kind : ValueKind) (value : Operand)
    (here : known place) :
    Blames known (Lowering.declareVariable name base kind value place) := by
  have stores : Blames known (do
      let slot ← Lowering.createSlot base kind
      Lowering.storeVariable name kind slot value place
      Lowering.declare name (.var kind.exact (some slot)) place) :=
    .bind (.createSlot _ _) fun slot => .bind (.storeVariable _ _ _ _ here) fun _ =>
      .declare _ _ here
  -- A name that is taken is refused before anything is stored.
  refine .bind .currentFrame fun frame => ?_
  dsimp only
  split
  · exact .bind (.refuse here) fun _ => stores
  · exact stores

/-- A condition is blamed for what its expression is. -/
theorem condition {condition : Expression} (stands : condition.StandsAt known) :
    Blames known (lowerCondition condition.toTree) := by
  refine .bind (.value stands) fun operand => ?_
  split
  · exact .pure _
  · exact .bind (.emit _ _) fun _ => .pure _

/-- A branch is blamed for its condition and for its arms. -/
theorem choice {condition : Expression} {consequent : Lowering Unit}
    {alternate : Option (Lowering Unit)} (stands : condition.StandsAt known)
    (first : Blames known consequent) (second : ∀ arm ∈ alternate, Blames known arm) :
    Blames known (lowerChoice condition.toTree consequent alternate) := by
  refine .bind .nextSuffix fun _ => .bind (.condition stands) fun _ => .bind (.createBlock _)
    fun _ => ?_
  split
  -- The arms are lowered one behind the other, each in a block of its own.
  · refine .bind (.createBlock _) fun _ => .bind (.createBlock _) fun _ => ?_
    refine .bind (.terminate _) fun _ => .bind (.moveTo _) fun _ => .bind first fun _ => ?_
    refine .bind (.jumpUnlessTerminated _) fun _ => .bind (.moveTo _) fun _ => ?_
    refine .bind (second _ rfl) fun _ => .bind (.jumpUnlessTerminated _) fun _ => ?_
    exact .moveTo _
  · refine .bind (.createBlock _) fun _ => .bind (.terminate _) fun _ => ?_
    refine .bind (.moveTo _) fun _ => .bind first fun _ => ?_
    exact .bind (.jumpUnlessTerminated _) fun _ => .moveTo _

/-- A loop is blamed for its condition and for its body. -/
theorem loop {condition : Expression} {body : Lowering Unit} (label : Option String)
    (stands : condition.StandsAt known) (inside : Blames known body) :
    Blames known (lowerLoop condition.toTree label body) := by
  refine .bind .nextSuffix fun _ => .bind (.createBlock _) fun _ => .bind (.createBlock _) fun _ =>
    .bind (.createBlock _) fun _ => .bind (.terminate _) fun _ => .bind (.moveTo _) fun _ => ?_
  -- Only the condition and the body can be to blame for anything.
  refine .bind (.condition stands) fun _ => .bind (.terminate _) fun _ => ?_
  exact .bind (.withFrame _ _ (.bind inside fun _ => .jumpUnlessTerminated _)) fun _ => .moveTo _

/-- A jump by which no loop is meant is blamed itself. -/
theorem jump (jump : Jump) (label : Option String) (here : known place) :
    Blames known (lowerJump jump place label) := by
  refine .bind .currentFrame fun _ => .scopes fun scopes => ?_
  split
  -- No loop is meant: the jump itself is to blame.
  · exact .refuse here
  · split
    · exact .terminate _
    · exact .stop id

/-- A result of another kind than promised is blamed where the function ends. -/
theorem ending {value : Tree} (here : known place)
    (filled : value ≠ .null → known value.place ∧ Blames known value.lowerExpression) :
    Blames known (lowerReturn place value) := by
  -- With or without a result, the function may return something or nothing.
  refine .bind .enclosingFunction fun (function, expected) => ?_
  dsimp only
  split
  · exact .terminate _
  · exact .refuse here
  · rename_i other _
    refine .bind (filled other).2 fun answer => ?_
    split
    · exact .refuse here
    · exact .terminate _
  · rename_i other _
    refine .bind (.required (filled other).1 (filled other).2) fun result => ?_
    split
    · exact .terminate _
    · exact .refuse here

/-- Of two parameters with one name the second one is blamed. -/
theorem storeParameters : ∀ (registers : List (String × ValueKind)) (parameters : List Parameter),
    Parameter.AllStand known parameters →
      Blames known (Lowering.storeParameters registers (parameters.map Parameter.typed))
  | _ :: registers, parameter :: parameters, stand =>
    .bind (.declareVariable _ _ _ _ (stand parameter List.mem_cons_self)) fun _ =>
      storeParameters registers parameters fun other member =>
        stand other (List.mem_cons_of_mem _ member)
  | [], [], _ => .pure _
  | [], _ :: _, _ => .pure _
  | _ :: _, [], _ => .pure _

/-- The return at the end of a function blames nothing. -/
theorem closeFunction (result : ExactKind) : Blames known (Lowering.closeFunction result) := by
  refine .bind .isTerminated fun ended => ?_
  split
  · exact .pure _
  · split <;> exact .terminate _

/-- The body of a function is blamed for its parameters and for its statements. -/
theorem functionBody {body : Lowering Unit} {parameters : List Parameter} (function : Code.Function)
    (stand : Parameter.AllStand known parameters) (inside : Blames known body) :
    Blames known (Lowering.lowerFunctionBody function (parameters.map Parameter.typed) body) := by
  refine .bind (fun _ => trivial) fun _ => .withFrame _ _ ?_
  exact .bind (.storeParameters _ _ stand) fun _ => .bind inside fun _ => .closeFunction _

/-- Creating a function blames nothing. -/
theorem createTypedFunction (name : Code.Name) (parameters : List TypedName) (result : ExactKind) :
    Blames known (Lowering.createTypedFunction name parameters result) :=
  fun _ => trivial

/-- A function is blamed at its own place, or at a place in it. -/
theorem function {body : Lowering Unit} {parameters : List Parameter} (name : String)
    (result : ExactKind) (here : known place) (stand : Parameter.AllStand known parameters)
    (inside : Blames known body) :
    Blames known (Lowering.lowerFunction place (.text name)
      (.list (parameters.map Parameter.toTree)) (.kindValue (.exact result)) body) := by
  have rest (exact : ExactKind) : Blames known (do
      let function ← Lowering.createTypedFunction (.text name)
        (parameters.map Parameter.typed) exact
      Lowering.declare name (.fn function.name (.exact exact) ((parameters.map Parameter.typed).map
        fun parameter => parameter.kind.exact)) place
      Lowering.lowerFunctionBody function (parameters.map Parameter.typed) body) :=
    .bind (.createTypedFunction _ _ _) fun function => .bind (.declare _ _ here) fun _ =>
      .functionBody _ stand inside
  -- Parameters of the grammar are accepted as they are, so that only the name and the body can be
  -- refused.
  unfold Lowering.lowerFunction
  rw [Parameter.typedNames_toTree, pure_bind]
  simp only [declaredName_text, pure_bind]
  refine .bind (.pure _) fun exact => .bind .currentFrame fun frame => ?_
  split
  · exact .bind (.refuse here) fun _ => rest exact
  · exact rest exact

/-- The kind of an expression of the grammar is looked for in vain at worst. -/
theorem inferKind (name : String) (value : Expression) :
    Blames known (Lowering.inferKind name value.toTree) := by
  refine .scopes fun scopes => ?_
  obtain ⟨kind, inferred⟩ := value.infer_ok scopes
  rw [inferred]
  exact .bind (.note _) fun _ => .pure _

/-- A variable is blamed where it is declared, or at a place in its value. -/
theorem declaration {value : Expression} (name : String) (stated : Kind) (here : known place)
    (stands : value.StandsAt known) :
    Blames known (Lowering.lowerDeclaration place (.text name)
      (.kindValue stated) value.toTree) := by
  rw [lowerDeclaration_eq]
  refine .bind (.carriedKind _) fun stated => .bind ?_ fun kind => ?_
  -- The kind is stated, or inferred from the value.
  · split
    · exact .pure _
    · exact .inferKind _ _
  · unfold declareAs
    split
    -- A void value is lowered for its calls, and the name stands for nothing.
    · exact .bind (.expression value stands) fun _ => .bind (.declaredName _) fun _ =>
        .declare _ _ here
    -- Else the value is stored, or refused at the declaration.
    · refine .bind (.value stands) fun initial => ?_
      split
      · exact .bind (.declaredName _) fun _ => .declareVariable _ _ _ _ here
      · exact .refuse here

mutual

/-- A statement is refused at its own place, or at a place in one of its parts. -/
theorem statement :
    ∀ statement : Statement, statement.StandsAt known → Blames known statement.toTree.lowerStatement
  -- A function is blamed for its name and its parameters, or for what is in it.
  | .function place name parameters bodyPlace body result, ⟨here, _, stand, _, inside⟩ => by
    rw [Statement.lower_function]
    exact .function name.name result here stand (statements body inside)
  | .declare place name stated value, ⟨here, _, stands⟩ => by
    rw [Statement.lower_declare]
    exact .declaration name.name _ here stands
  | .block place body, ⟨_, inside⟩ => by
    rw [Statement.lower_block]
    exact .inBlock (statements body inside)
  -- Without a value only the return itself is to blame.
  | .return _ none, here => .ending here fun filled => absurd rfl filled
  | .return _ (some value), ⟨here, stands⟩ =>
    .ending here fun _ => ⟨value.toTree_place ▸ stands.place, .expression value stands⟩
  -- An arm is a block, also where there is only one.
  | .when place condition thenPlace thenBody, ⟨_, stands, _, inside⟩ => by
    rw [Statement.lower_when]
    exact .choice stands (.inBlock (statements thenBody inside)) nofun
  | .choose place condition thenPlace thenBody elsePlace elseBody,
      ⟨_, stands, _, inside, _, others⟩ => by
    rw [Statement.lower_choose]
    refine .choice stands (.inBlock (statements thenBody inside)) fun _ second => ?_
    exact Option.some.inj second ▸ .inBlock (statements elseBody others)
  -- The label of a loop is never refused, only the jumps to it are.
  | .loop place condition bodyPlace body label, ⟨_, stands, _, inside, _⟩ => by
    rw [Statement.lower_loop]
    exact .loop _ stands (statements body inside)
  | .break place label, ⟨here, _⟩ => by
    rw [Statement.lower_break]
    exact .jump _ _ here
  | .continue place label, ⟨here, _⟩ => by
    rw [Statement.lower_continue]
    exact .jump _ _ here
  | .evaluate value, stands => .bind (.expression value stands) fun _ => .pure _

/-- So is one of the statements of a block. -/
theorem statements : ∀ body : List Statement, Statement.AllStand known body →
    Blames known (Tree.lowerStatements (Statement.toTrees body))
  | [], _ => .pure _
  | first :: rest, ⟨stands, stand⟩ =>
    .bind .ensureOpen fun _ => .bind (statement first stands) fun _ => statements rest stand

end

/-- The function that a program becomes blames what its statements do. -/
theorem entry {name : Document} {body : Lowering Unit} (named : IsName name)
    (inside : Blames known body) :
    Blames known (lowerEntry name body) := by
  -- A list or an object is no name, and has been excluded.
  have read : Blames known (readName name) := by
    cases name with
    | list _ => exact named.elim
    | object _ => exact named.elim
    | _ => exact .pure _
  exact .bind read fun _ => .bind (.createTypedFunction _ _ _) fun function =>
    .bind (@functionBody _ _ [] function nofun inside) fun _ => .pure _

end Blames

end LoopLang.Lowering
