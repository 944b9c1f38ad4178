import LoopLang.Proofs.Lowering.Expression

/-! Reasons to fail: which of them a program of the grammar can give, and sets of reasons that
contain those. -/

namespace LoopLang

/-- Whether some loop is meant by a jump, given the labels of the loops around it. -/
def Jump.isAimed (loops : List (Option String)) (label : Option String) : Bool :=
  loops.any fun own => label.isNone || own == label

/-- A jump that stands in a program. -/
structure JumpSite where
  jump : Jump
  place : Location
  label : Option String
  deriving DecidableEq, Repr

/-- A jump as a site, unless a loop is meant by it. -/
def JumpSite.stray (loops : List (Option String)) (jump : Jump) (place : Location)
    (label : Option Identifier) :
    List JumpSite :=
  let label := label.map Identifier.name
  if Jump.isAimed loops label then [] else [⟨jump, place, label⟩]

mutual

/--
The jumps in a statement by which no loop is meant, given the labels of the loops around it,
innermost first. The body of a function is in none of the loops around the function.
-/
def Statement.strays (loops : List (Option String)) : Statement → List JumpSite
  | .function _ _ _ _ body _ => Statement.straysOf [] body
  | .block _ body => Statement.straysOf loops body
  | .when _ _ _ thenBody => Statement.straysOf loops thenBody
  | .choose _ _ _ thenBody _ elseBody =>
    Statement.straysOf loops thenBody ++ Statement.straysOf loops elseBody
  | .loop _ _ _ body label => Statement.straysOf (label.map Identifier.name :: loops) body
  | .break place label => JumpSite.stray loops .break place label
  | .continue place label => JumpSite.stray loops .continue place label
  | .declare .. | .return .. | .evaluate _ => []

/-- The jumps in statements by which no loop is meant. -/
def Statement.straysOf (loops : List (Option String)) : List Statement → List JumpSite
  | [] => []
  | statement :: rest => statement.strays loops ++ Statement.straysOf loops rest

end

/-- The jumps in a program by which no loop is meant. -/
def Program.strays (program : Program) : List JumpSite := Statement.straysOf [] program.body

/--
The causes for which a program of the grammar may be refused: names that clash, are unknown or stand
for something else, values that are missing or of another kind, and jumps by which no loop is meant.
-/
def Cause.IsRegular (strays : List JumpSite) (place : Location) : Cause → Prop
  | .functionAlreadyDefined _ | .alreadyDefined _ | .unknownSymbol .. | .unknownFunction ..
  | .variableAsFunction _
  | .foreignVariable .. | .functionAsValue _ | .voidVariable _ | .voidAsValue | .storedKind ..
  | .argumentCount ..
  | .argumentKind .. | .resultMissing .. | .resultUnexpected .. | .resultKind .. => True
  | .operandKind _ found => found ≠ .num
  | .noLoop jump label => ⟨jump, place, label⟩ ∈ strays
  | _ => False

/-- What a name is bound to may always be a cause. -/
theorem Cause.IsOfName.isRegular {cause : Cause} {strays : List JumpSite} {place : Location}
    {scopes : Scopes} {named : String → Prop} (held : cause.IsOfName scopes named) :
    cause.IsRegular strays place := by
  cases cause <;> trivial

/-- Failures for regular causes, and breaches of the rules of building, which are ruled out
elsewhere. -/
def Failure.IsRegular (strays : List JumpSite) (failure : Failure) : Prop :=
  failure.IsInternal ∨ ∃ cause place, failure = .refused cause place ∧ cause.IsRegular strays place

/-- A failure for another reason than that no kind can be inferred. -/
def Failure.IsInferred : Failure → Prop
  | .refused (.cannotInfer _) _ => False
  | _ => True

/-- A tree at fault is another reason. -/
theorem Failure.IsOfTree.isInferred {failure : Failure} (held : failure.IsOfTree) :
    failure.IsInferred := by
  cases failure with
  | refused cause place => exact held.elim
  | fault breach => trivial

/-- Reasons to fail, which contain all that a program without stray jumps can give. -/
structure Reasons where
  holds : Failure → Prop
  regular : ∀ failure, failure.IsRegular [] → holds failure

namespace Reasons

/-- Every reason but that no kind can be inferred. -/
def inferred : Reasons where
  holds := Failure.IsInferred
  regular := by
    -- What is internal, and what is refused in a regular way, is never about inference.
    rintro failure (internal | ⟨cause, place, rfl, regular⟩)
    · cases failure with
      | refused cause place => cases cause <;> trivial
      | fault fault => trivial
    · cases cause <;> trivial

/-- A cause is still regular if there are more stray jumps. -/
theorem mono {strays more : List JumpSite} (contained : strays ⊆ more) {failure : Failure}
    (regular : failure.IsRegular strays) : failure.IsRegular more := by
  refine regular.imp_right ?_
  rintro ⟨cause, place, rfl, held⟩
  refine ⟨cause, place, rfl, ?_⟩
  -- Only the cause of a stray jump depends on which jumps are stray.
  cases cause
  case noLoop jump label => exact contained held
  all_goals exact held

/-- The reasons that a program with some stray jumps can give. -/
def ofStrays (strays : List JumpSite) : Reasons where
  holds := Failure.IsRegular strays
  regular := fun _ regular => mono (List.nil_subset strays) regular

variable (reasons : Reasons)

/-- A breach of the rules of building is a reason. -/
theorem internal {failure : Failure} (internal : failure.IsInternal) : reasons.holds failure :=
  reasons.regular failure (.inl internal)

/-- A regular cause is a reason. -/
theorem cause {cause : Cause} {place : Location} (regular : cause.IsRegular [] place) :
    reasons.holds (.refused cause place) :=
  reasons.regular _ (.inr ⟨cause, place, rfl, regular⟩)

end Reasons

/--
How a computation ends within a new frame: the frame is closed behind it, and what goes wrong in
opening and closing is no fault of the tree.
-/
theorem Lowering.Ends.withFrame {α : Type} {body : Lowering α} {block : Option BlockRef}
    {options : FrameOptions} {start : Builder} {between done : α → Builder → Prop}
    {missed failed : Failure → Builder → Prop}
    (inside : body.Ends { start with scopes := start.scopes.push block options } between missed)
    (closes : ∀ answer inner scopes, inner.scopes.pop = .ok scopes → between answer inner →
      done answer { inner with scopes })
    (fails : ∀ failure inner scopes, inner.scopes.pop = .ok scopes → missed failure inner →
      failed failure { inner with scopes })
    (breaks : ∀ fault finish, ¬ fault.IsOfTree → failed (.fault fault) finish) :
    (Lowering.withFrame block options body).Ends start done failed := by
  unfold Ends at inside ⊢
  cases block with
  -- The frame has no block to begin in.
  | none =>
    rw [withFrame_nowhere]
    exact breaks _ _ id
  | some block =>
    rw [withFrame_outcome]
    generalize body.outcome _ = ended at inside
    obtain ⟨result, inner⟩ := ended
    unfold closeFrame
    dsimp only
    cases popped : inner.scopes.pop with
    -- The frame is gone.
    | error _ => exact breaks _ _ id
    | ok scopes =>
      dsimp only
      -- Where code cannot go on, the result of the contents is lost.
      cases scopes.isAdrift with
      | true => exact breaks .noBlock _ id
      | false =>
        cases result with
        | ok answer => exact closes answer inner scopes popped inside
        | error failure => exact fails failure inner scopes popped inside

end LoopLang
