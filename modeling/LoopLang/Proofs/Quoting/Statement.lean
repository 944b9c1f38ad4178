import LoopLang.Proofs.Blame.Statement
import LoopLang.Proofs.Quoting.Expression

/-! What lowering a program quotes where it is refused: names in it, and in the frames around it. -/

namespace LoopLang.Lowering

open Code (Operand)

variable {α : Type} {place : Location}

namespace Quotes

/-- Going on in another block quotes nothing. -/
theorem moveTo (block : BlockRef) : Quotes (fun _ => True) (Lowering.moveTo block) := by
  refine .scopes fun scopes free => ?_
  cases moved : scopes.moveTo block with
  | ok later => exact fun _ _ => ⟨trivial, free.moveTo moved⟩
  | error error =>
    unfold Scopes.moveTo at moved
    -- Without a frame the failure is an internal one, which quotes nothing.
    split at moved
    · cases moved
      exact .stop _
    · cases moved

/-- A name that is taken is quoted. -/
theorem declare {name : String} {binding : Binding} (name_free : EscapeFree name)
    (owner_free : ∀ slot ∈ binding.slot?, EscapeFree slot.function.display) :
    Quotes (fun _ => True) (Lowering.declare name binding place) := by
  refine .scopes fun scopes free => ?_
  -- The declaration succeeds, or its name is quoted.
  cases declared : scopes.declare name binding with
  | ok later => exact fun _ _ => ⟨trivial, free.declare name_free owner_free declared⟩
  | error error =>
    unfold Scopes.declare at declared
    split at declared
    · cases declared
      exact .stop _
    · split at declared
      · cases declared
        exact .refuse name_free
      · cases declared

/-- Within a frame names are quoted as they are around it. -/
theorem withFrame {body : Lowering α} (block : Option BlockRef) {options : FrameOptions}
    (given : ∀ function ∈ options.function, EscapeFree function.display)
    (inside : Quotes (fun _ => True) body) :
    Quotes (fun _ => True) (Lowering.withFrame block options body) := by
  intro start free
  refine Ends.withFrame (inside _ (free.push block given)) (fun _ _ _ popped held => ?_)
    (fun _ _ _ _ held => held) fun _ _ _ => ?_
  · exact ⟨trivial, held.2.pop popped⟩
  -- A frame that cannot be opened or closed breaks a rule of building, which quotes nothing.
  · trivial

/-- A frame around something quotes what is in it. -/
theorem inBlock {body : Lowering α} (inside : Quotes (fun _ => True) body) :
    Quotes (fun _ => True) (Lowering.inBlock body) :=
  .scopes fun scopes _ => .withFrame scopes.cursor nofun inside

/-- Beginning another block quotes nothing. -/
theorem ensureOpen : Quotes (fun _ => True) Lowering.ensureOpen := by
  refine .after .isTerminated .isTerminated fun ended => ?_
  split
  · exact .after (.createBlock _) (.createBlock _) fun block => .moveTo block
  · exact .pure trivial

/-- Nor does ending one. -/
theorem terminate (instruction : Code.Instruction) :
    Quotes (fun _ => True) (Lowering.terminate instruction) :=
  .silent (.terminate _) (.terminate _)

/-- Nor does a jump at its end. -/
theorem jumpUnlessTerminated (block : BlockRef) :
    Quotes (fun _ => True) (Lowering.jumpUnlessTerminated block) := by
  refine .after .isTerminated .isTerminated fun ended => ?_
  split
  · exact .pure trivial
  · exact .terminate _

/-- A variable that is declared twice is quoted by its name. -/
theorem declareVariable {name : String} (name_free : EscapeFree name) (base : String)
    (kind : ValueKind) (value : Operand) :
    Quotes (fun _ => True) (Lowering.declareVariable name base kind value place) := by
  -- The slot belongs to the function at hand, whose name is plain.
  have stores : Quotes (fun _ => True) (do
      let slot ← Lowering.createSlot base kind
      Lowering.storeVariable name kind slot value place
      Lowering.declare name (.var kind.exact (some slot)) place) :=
    .bind (.createSlot _ _) fun slot owner_free => .bind (.storeVariable name_free _ _ _) fun _ _ =>
      .declare name_free fun _ same => Option.some.inj same ▸ owner_free
  refine .after .currentFrame .currentFrame fun frame => ?_
  dsimp only
  split
  · exact .bind (.refuse name_free) fun _ (_ : True) => stores
  · exact stores

/-- A value is quoted as its expression is. -/
theorem value {expression : Expression} (names : Tree.NamesFree expression.toTree.preorder) :
    Quotes (fun _ => True) expression.toTree.lowerValue :=
  .required (.expression expression names)

/-- A condition quotes names in its expression. -/
theorem condition {condition : Expression} (names : Tree.NamesFree condition.toTree.preorder) :
    Quotes (fun _ => True) (lowerCondition condition.toTree) := by
  refine .bind (.value names) fun operand _ => ?_
  split
  · exact .pure trivial
  · exact .after (.emit _ _) (.emit _ _) fun _ => .pure trivial

/-- A branch quotes what its condition and its arms do. -/
theorem choice {condition : Expression} {consequent : Lowering Unit}
    {alternate : Option (Lowering Unit)} (names : Tree.NamesFree condition.toTree.preorder)
    (first : Quotes (fun _ => True) consequent)
    (second : ∀ arm ∈ alternate, Quotes (fun _ => True) arm) :
    Quotes (fun _ => True) (lowerChoice condition.toTree consequent alternate) := by
  refine .after .nextSuffix .nextSuffix fun _ => .bind (.condition names) fun _ _ =>
    .after (.createBlock _) (.createBlock _) fun _ => ?_
  split
  · refine .after (.createBlock _) (.createBlock _) fun _ => ?_
    refine .after (.createBlock _) (.createBlock _) fun _ => .bind (.terminate _) fun _ _ => ?_
    refine .bind (.moveTo _) fun _ _ => .bind first fun _ _ => ?_
    refine .bind (.jumpUnlessTerminated _) fun _ _ => .bind (.moveTo _) fun _ _ => ?_
    refine .bind (second _ rfl) fun _ _ => .bind (.jumpUnlessTerminated _) fun _ _ => ?_
    exact .moveTo _
  · refine .after (.createBlock _) (.createBlock _) fun _ => .bind (.terminate _) fun _ _ => ?_
    refine .bind (.moveTo _) fun _ _ => .bind first fun _ _ => ?_
    exact .bind (.jumpUnlessTerminated _) fun _ _ => .moveTo _

/-- A loop quotes what its condition and its body do. -/
theorem loop {condition : Expression} {body : Lowering Unit} (label : Option String)
    (names : Tree.NamesFree condition.toTree.preorder) (inside : Quotes (fun _ => True) body) :
    Quotes (fun _ => True) (lowerLoop condition.toTree label body) := by
  refine .after .nextSuffix .nextSuffix fun _ => .after (.createBlock _) (.createBlock _) fun _ =>
    .after (.createBlock _) (.createBlock _) fun _ =>
    .after (.createBlock _) (.createBlock _) fun _ => ?_
  refine .bind (.terminate _) fun _ _ => .bind (.moveTo _) fun _ _ => ?_
  refine .bind (.condition names) fun _ _ => .bind (.terminate _) fun _ _ => ?_
  refine .bind (.withFrame _ ?_ ?_) fun _ _ => .moveTo _
  -- The frame of a loop names no function.
  · intro _ named
    cases named
  · exact .bind inside fun _ _ => .jumpUnlessTerminated _

/-- A jump quotes its label. -/
theorem jump (jump : Jump) {label : Option String} (label_free : ∀ name ∈ label, EscapeFree name) :
    Quotes (fun _ => True) (lowerJump jump place label) := by
  refine .after .currentFrame .currentFrame fun _ => .scopes fun scopes _ => ?_
  split
  -- The label is all that a refused jump quotes.
  · exact .refuse label_free
  · split
    · exact .terminate _
    · exact .stop _

/-- A result of another kind than promised is quoted with the function that promises it. -/
theorem ending {value : Tree}
    (filled : value ≠ .null → Quotes (fun _ => True) value.lowerExpression) :
    Quotes (fun _ => True) (lowerReturn place value) := by
  refine .bind .enclosingFunction fun (function, expected) free => ?_
  dsimp only
  -- What a return quotes is the name of its function.
  split
  · exact .terminate _
  · exact .refuse free
  · rename_i other _
    refine .bind (filled other) fun answer _ => ?_
    split
    · exact .refuse free
    · exact .terminate _
  · rename_i other _
    refine .bind (.required (filled other)) fun result _ => ?_
    split
    · exact .terminate _
    · exact .refuse free

/-- Parameters with one name are quoted by it. -/
theorem storeParameters : ∀ (registers : List (String × ValueKind)) (parameters : List Parameter),
    (∀ parameter ∈ parameters, EscapeFree parameter.name) →
      Quotes (fun _ => True) (Lowering.storeParameters registers (parameters.map Parameter.typed))
  | _ :: registers, parameter :: parameters, free =>
    .bind (.declareVariable (free parameter List.mem_cons_self) _ _ _) fun _ _ =>
      storeParameters registers parameters fun other member =>
        free other (List.mem_cons_of_mem _ member)
  | [], [], _ => .pure trivial
  | [], _ :: _, _ => .pure trivial
  | _ :: _, [], _ => .pure trivial

/-- The return at the end of a function quotes nothing. -/
theorem closeFunction (result : ExactKind) :
    Quotes (fun _ => True) (Lowering.closeFunction result) := by
  refine .after .isTerminated .isTerminated fun ended => ?_
  split
  · exact .pure trivial
  · split <;> exact .terminate _

/-- The body of a function quotes what its parameters and its statements do. -/
theorem functionBody {body : Lowering Unit} {parameters : List Parameter}
    {function : Code.Function} (name_free : EscapeFree function.name.display)
    (free : ∀ parameter ∈ parameters, EscapeFree parameter.name)
    (inside : Quotes (fun _ => True) body) :
    Quotes (fun _ => True)
      (Lowering.lowerFunctionBody function (parameters.map Parameter.typed) body) := by
  refine .after (fun _ => rfl) (fun _ => trivial) fun _ => .withFrame _ (fun _ same => ?_) ?_
  -- The frame of the body names the function, and the parameters are declared in it.
  · exact Option.some.inj same ▸ name_free
  · exact .bind (.storeParameters _ _ free) fun _ _ => .bind inside fun _ _ => .closeFunction _

/-- What a new function is called is made from the wanted name. -/
theorem createTypedFunction {name : Code.Name} (free : EscapeFree name.display)
    (parameters : List TypedName) (result : ExactKind) :
    Quotes (fun function => EscapeFree function.name.display)
      (Lowering.createTypedFunction name parameters result) :=
  fun start frames_free => ⟨start.code.names.registerName_free free, frames_free⟩

/-- A function quotes its own name, those of its parameters, and what its body does. -/
theorem function {body : Lowering Unit} {parameters : List Parameter} {name : String}
    (result : ExactKind) (name_free : EscapeFree name)
    (free : ∀ parameter ∈ parameters, EscapeFree parameter.name)
    (inside : Quotes (fun _ => True) body) :
    Quotes (fun _ => True)
      (Lowering.lowerFunction place (.text name) (.list (parameters.map Parameter.toTree))
        (.kindValue (.exact result)) body) := by
  -- Inside, the names of the function and of its parameters are plain.
  have rest : Quotes (fun _ => True) (do
      let function ← Lowering.createTypedFunction (.text name)
        (parameters.map Parameter.typed) result
      Lowering.declare name (.fn function.name (.exact result) ((parameters.map Parameter.typed).map
        fun parameter => parameter.kind.exact)) place
      Lowering.lowerFunctionBody function (parameters.map Parameter.typed) body) :=
    .bind (@createTypedFunction (.text name) name_free _ _) fun function function_free =>
      .bind (.declare name_free nofun) fun _ _ => .functionBody function_free free inside
  rw [lowerFunction_eq, Parameter.typedNames_toTree]
  show Quotes (fun _ => True) (functionAs place name (parameters.map Parameter.typed) result body)
  refine .after .currentFrame .currentFrame fun frame => ?_
  dsimp only
  split
  · exact .bind (.refuse name_free) fun _ (_ : True) => rest
  · exact rest

/-- The kind of an expression of the grammar is looked for in vain at worst. -/
theorem inferKind (name : String) (value : Expression) :
    Quotes (fun _ => True) (Lowering.inferKind name value.toTree) := by
  refine .scopes fun scopes _ => ?_
  obtain ⟨kind, inferred⟩ := value.infer_ok scopes
  rw [inferred]
  exact fun _ free => ⟨trivial, free⟩

/-- A variable quotes its name, and what its value does. -/
theorem declaration {value : Expression} {name : String} (stated : Kind)
    (name_free : EscapeFree name) (names : Tree.NamesFree value.toTree.preorder) :
    Quotes (fun _ => True)
      (Lowering.lowerDeclaration place (.text name) (.kindValue stated) value.toTree) := by
  rw [lowerDeclaration_eq, carriedKind_kindValue, pure_bind]
  refine .bind (?_ : Quotes (fun _ => True) _) fun kind _ => ?_
  -- Finding out the kind quotes the name, if anything.
  · split
    · exact .pure trivial
    · exact .inferKind _ _
  · unfold declareAs
    rw [declaredName_text]
    split
    · exact .bind (.expression value names) fun _ _ => .declare name_free nofun
    · refine .bind (.value names) fun initial _ => ?_
      split
      · exact .declareVariable name_free _ _ _
      · exact .refuse name_free

open LoopLang.Tree in
attribute [local simp] Statement.toTree preorder Identifier.toTree namesFree_cons namesFree_append
  namesFree_nil
  NameFree Parameter.namesFree_iff namesFree_labelTree

open LoopLang.Tree in
mutual

/-- A statement quotes the names in it, and those that can be seen. -/
theorem statement : ∀ statement : Statement, NamesFree statement.toTree.preorder →
    Quotes (fun _ => True) statement.toTree.lowerStatement
  -- The names in a statement are those of its parts.
  | .function place name parameters bodyPlace body result, names => by
    obtain ⟨name_free, free, body_free⟩ : EscapeFree name.name ∧
      (∀ parameter ∈ parameters, EscapeFree parameter.name) ∧
        NamesFree (preorderItems (Statement.toTrees body)) := by simpa using names
    exact Statement.lower_function place name parameters bodyPlace body result ▸
      .function result name_free free (statements body body_free)
  | .declare place name stated value, names => by
    obtain ⟨name_free, value_free⟩ : EscapeFree name.name ∧ NamesFree value.toTree.preorder := by
      simpa using names
    exact Statement.lower_declare place name stated value ▸ .declaration _ name_free value_free
  | .block place body, names => by
    have body_free : NamesFree (preorderItems (Statement.toTrees body)) := by simpa using names
    exact Statement.lower_block place body ▸ .inBlock (statements body body_free)
  -- Nothing is quoted of a return without a value.
  | .return _ none, _ => .ending fun filled => absurd rfl filled
  | .return _ (some value), names => by
    have value_free : NamesFree value.toTree.preorder := by simpa using names
    exact .ending fun _ => .expression value value_free
  | .when place condition thenPlace thenBody, names => by
    obtain ⟨condition_free, then_free⟩ : NamesFree condition.toTree.preorder ∧
        NamesFree (preorderItems (Statement.toTrees thenBody)) := by simpa using names
    exact Statement.lower_when place condition thenPlace thenBody ▸
      .choice condition_free (.inBlock (statements thenBody then_free)) nofun
  | .choose place condition thenPlace thenBody elsePlace elseBody, names => by
    obtain ⟨condition_free, then_free, else_free⟩ : NamesFree condition.toTree.preorder ∧
        NamesFree (preorderItems (Statement.toTrees thenBody)) ∧
        NamesFree (preorderItems (Statement.toTrees elseBody)) := by simpa using names
    exact Statement.lower_choose place condition thenPlace thenBody elsePlace elseBody ▸
      .choice condition_free (.inBlock (statements thenBody then_free)) fun _ second =>
        Option.some.inj second ▸ .inBlock (statements elseBody else_free)
  | .loop place condition bodyPlace body label, names => by
    obtain ⟨condition_free, body_free, -⟩ : NamesFree condition.toTree.preorder ∧
        NamesFree (preorderItems (Statement.toTrees body)) ∧ NamesFree
        (labelTree label).preorder := by simpa using names
    exact Statement.lower_loop place condition bodyPlace body label ▸ .loop _ condition_free
      (statements body body_free)
  -- A jump quotes its label.
  | .break place label, names => by
    have label_free : ∀ name ∈ label.map Identifier.name, EscapeFree name := by simpa using names
    exact Statement.lower_break place label ▸ .jump _ label_free
  | .continue place label, names => by
    have label_free : ∀ name ∈ label.map Identifier.name, EscapeFree name := by simpa using names
    exact Statement.lower_continue place label ▸ .jump _ label_free
  | .evaluate value, names => by
    have value_free : NamesFree value.toTree.preorder := by simpa using names
    exact .bind (.expression value value_free) fun _ _ => .pure trivial

/-- So does one of the statements of a block. -/
theorem statements : ∀ body : List Statement, NamesFree (preorderItems (Statement.toTrees body)) →
    Quotes (fun _ => True) (Tree.lowerStatements (Statement.toTrees body))
  | [], _ => .pure trivial
  | first :: rest, names => by
    obtain ⟨first_free, rest_free⟩ := Statement.namesFree_cons.mp names
    exact .bind .ensureOpen fun _ _ => .bind (statement first first_free) fun _ _ =>
      statements rest rest_free

end

/-- The function that a program becomes quotes its own name, and what its statements do. -/
theorem entry {name : Document} {body : Lowering Unit}
    (free : ∀ text, name = .text text → EscapeFree text) (inside : Quotes (fun _ => True) body) :
    Quotes (fun _ => True) (lowerEntry name body) := by
  -- A name from the settings may be of any sort, and its display is plain in each.
  have read : Quotes (fun name => EscapeFree name.display) (readName name) := by
    cases name with
    | list _ => exact .stop _
    | object _ => exact .stop _
    | text text => exact .pure (free text rfl)
    | null => exact .pure (by decide)
    | boolean value => exact .pure (by cases value <;> decide)
    | integer value => exact .pure (escapeFree_int value)
    | number value => exact .pure (escapeFree_displayNumber value)
    | moment value => exact .pure (escapeFree_moment value)
  exact .bind read fun _ name_free => .bind (.createTypedFunction name_free _ _)
    fun function function_free =>
      .bind (@functionBody _ [] function function_free nofun inside) fun _ _ => .pure trivial

end Quotes

end LoopLang.Lowering
