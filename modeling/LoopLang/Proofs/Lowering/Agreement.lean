import LoopLang.Proofs.Session

/-! Lowering with other parts: what ends alike wherever a block is open ends alike as a part of
something larger. -/

namespace LoopLang.Lowering

variable {α β : Type}

/-- A computation that ends like another one, unless it breaks a rule of building. -/
def Meets (strict action : Lowering α) : Prop :=
  ∀ start, strict.Ends start (fun _ _ => True) (fun failure _ => ¬ failure.IsInternal) →
    strict.outcome start = action.outcome start

namespace Meets

/-- Every computation meets itself. -/
theorem refl (action : Lowering α) : Meets action action := fun _ _ => rfl

/-- Two computations end like two others one after the other. -/
theorem bind {strict action : Lowering β} {strictly next : β → Lowering α}
    (first : Meets strict action) (second : ∀ answer, Meets (strictly answer) (next answer)) :
    Meets (strict >>= strictly) (action >>= next) := by
  intro start ends
  have parts := bind_ends.mp ends
  -- Up to here both have done the same, so they go on from the same builder.
  have same := first start (parts.imp (fun _ _ _ => trivial) fun _ _ outside => outside)
  rw [outcome_bind, outcome_bind, ← same]
  unfold Ends at parts
  generalize strict.outcome start = result at parts ⊢
  rcases result with ⟨failure | answer, middle⟩
  · rfl
  · exact second answer middle parts

/-- Behind the same computation. -/
theorem after {action : Lowering β} {strictly next : β → Lowering α}
    (second : ∀ answer, Meets (strictly answer) (next answer)) :
    Meets (action >>= strictly) (action >>= next) :=
  .bind (.refl action) second

/-- A frame is closed behind either of two computations that end alike. -/
theorem withFrame {strict action : Lowering α} (block : Option BlockRef) (options : FrameOptions)
    (inside : Meets strict action) :
    Meets (Lowering.withFrame block options strict) (Lowering.withFrame block options action) := by
  cases block with
  -- Without a block both stop at once, in the same way.
  | none => exact fun _ _ => rfl
  | some block =>
    intro start ends
    rw [withFrame_outcome, withFrame_outcome, ← inside]
    -- A failure within the frame is that of the whole.
    unfold Ends at ends ⊢
    rw [withFrame_outcome] at ends
    generalize strict.outcome _ = result at ends ⊢
    obtain ⟨ended, finish⟩ := result
    unfold closeFrame at ends
    dsimp only at ends
    cases popped : finish.scopes.pop with
    | ok scopes =>
      rw [popped] at ends
      dsimp only at ends
      cases adrift : scopes.isAdrift with
      -- A builder without its block is a fault, which the strict one does not end in.
      | true =>
        rw [adrift] at ends
        exact absurd id ends
      | false =>
        rw [adrift] at ends
        cases ended <;> exact ends
    -- So is a frame that is gone.
    | error error =>
      rw [popped] at ends
      exact absurd id ends

/-- A frame around two computations that meet leaves them so. -/
theorem inBlock {strict action : Lowering α} (inside : Meets strict action) :
    Meets (Lowering.inBlock strict) (Lowering.inBlock action) :=
  .after fun scopes => .withFrame scopes.cursor {} inside

/-- A statement and those behind it. -/
theorem sequence {strict first strictly rest : Lowering Unit} (one : Meets strict first)
    (others : Meets strictly rest) :
    Meets (do ensureOpen; strict; strictly) (do ensureOpen; first; rest) :=
  .after fun _ => .bind one fun _ => others

/-- A branch with one arm. -/
theorem chooseWhether {strict consequent : Lowering Unit} (condition : Tree)
    (arm : Meets strict consequent) :
    Meets (lowerChoice condition strict none) (lowerChoice condition consequent none) :=
  .after fun _ => .after fun _ => .after fun _ => .after fun _ => .after fun _ => .after fun _ =>
    .bind arm fun _ => .refl _

/-- A branch with two arms. -/
theorem choose {strict consequent strictly alternate : Lowering Unit} (condition : Tree)
    (arm : Meets strict consequent) (other : Meets strictly alternate) :
    Meets (lowerChoice condition strict (some strictly))
      (lowerChoice condition consequent (some alternate)) := by
  -- The two branches do the same until the first arm, and between the arms.
  refine .after fun _ => .after fun _ => .after fun _ => .after fun _ => .after fun _ =>
    .after fun _ => .after fun _ => .bind arm fun _ => ?_
  exact .after fun _ => .after fun _ => .bind other fun _ => .refl _

/-- Loops meet if their bodies do. -/
theorem loop {strict body : Lowering Unit} (condition : Tree) (label : Option String)
    (inside : Meets strict body) :
    Meets (lowerLoop condition label strict) (lowerLoop condition label body) := by
  refine .after fun _ => .after fun _ => .after fun _ => .after fun _ => .after fun _ =>
    .after fun _ => .after fun _ => .after fun _ => ?_
  exact .bind (.withFrame _ _ (.bind inside fun _ => .refl _)) fun _ => .refl _

/-- Function bodies meet if their statements do. -/
theorem functionBody {strict body : Lowering Unit} (function : Code.Function)
    (parameters : List TypedName) (inside : Meets strict body) :
    Meets (lowerFunctionBody function parameters strict)
      (lowerFunctionBody function parameters body) :=
  .after fun _ => .withFrame _ _ (.after fun _ => .bind inside fun _ => .refl _)

/-- So do declarations of functions. -/
theorem function {strict body : Lowering Unit} (place : Location) (name arguments result : Tree)
    (inside : Meets strict body) :
    Meets (lowerFunction place name arguments result strict)
      (lowerFunction place name arguments result body) := by
  refine .after fun parameters => .after fun exact => .after fun name => .after fun frame => ?_
  -- Only the bodies differ; all around them is the same.
  have rest : Meets
      (createTypedFunction (.text name) parameters exact >>= fun function =>
        declare name (.fn function.name (.exact exact)
          (parameters.map fun parameter => parameter.kind.exact)) place >>=
          fun _ => lowerFunctionBody function parameters strict)
      (createTypedFunction (.text name) parameters exact >>= fun function =>
        declare name (.fn function.name (.exact exact)
          (parameters.map fun parameter => parameter.kind.exact)) place >>=
          fun _ => lowerFunctionBody function parameters body) :=
    .after fun function => .after fun _ => .functionBody function parameters inside
  dsimp only
  split
  · exact .after fun _ => rest
  · exact rest

/-- So do the functions that programs become. -/
theorem entry {strict body : Lowering Unit} (name : Document) (inside : Meets strict body) :
    Meets (lowerEntry name strict) (lowerEntry name body) :=
  .after fun _ => .after fun function => .bind (.functionBody function [] inside) fun _ => .refl _

end Meets

/-- What two computations do where they end alike; otherwise a rule of building is broken. -/
noncomputable def common (first second : Lowering Unit) : Lowering Unit := fun start =>
  @ite _ (first.outcome start = second.outcome start) (Classical.propDecidable _)
    (first.outcome start) (.error (.fault .noFrame), start)

section Common

variable {first second : Lowering Unit} {start : Builder}

/-- Where two computations have one outcome, it is the common one. -/
theorem common_outcome (same : first.outcome start = second.outcome start) :
    (common first second).outcome start = first.outcome start := if_pos same

/-- Unless a rule of building is broken, both computations end alike. -/
theorem same_of_common
    (ends : (common first second).Ends start (fun _ _ => True) fun failure _ =>
      ¬ failure.IsInternal) :
    first.outcome start = second.outcome start := by
  -- Where the two differ, the common lowering is made to fail internally.
  refine Classical.byContradiction fun apart => ?_
  have broken : (common first second).outcome start = (.error (.fault .noFrame), start) :=
    if_neg apart
  unfold Ends at ends
  rw [broken] at ends
  exact ends id

/-- What is common to two computations meets the first one. -/
theorem common_meets (first second : Lowering Unit) : Meets (common first second) first :=
  fun _ ends => common_outcome (same_of_common ends)

/-- And the second one. -/
theorem common_meets_second (first second : Lowering Unit) : Meets (common first second) second :=
  fun _ ends => (common_outcome (same_of_common ends)).trans (same_of_common ends)

end Common

/-- Two ways to lower the inside of a block that end alike wherever they begin. -/
def AgreesAll (first second : Lowering Unit) : Prop :=
  ∀ start here, Stage start start here [] → first.outcome start = second.outcome start

/-- Two ways to lower a statement that end alike wherever a block is open. -/
def Agrees (first second : Lowering Unit) : Prop :=
  ∀ start here, Stage start start here [] → start.HasOpen here →
    first.outcome start = second.outcome start

namespace Agrees

variable {first second third : Lowering Unit}

/-- And agrees with itself. -/
theorem refl (action : Lowering Unit) : Agrees action action := fun _ _ _ _ => rfl

/-- Agreeing is passed on. -/
theorem trans (one : Agrees first second) (other : Agrees second third) : Agrees first third :=
  fun start here stage here_open => (one start here stage here_open).trans
    (other start here stage here_open)

/-- What two computations have in common lowers, if they agree and the first one does. -/
theorem lowers (agrees : Agrees first second) (lowers : Lowers first) :
    Lowers (common first second) := by
  intro start here stage here_open
  have ends := lowers start here stage here_open
  unfold LowersTo Ends at ends ⊢
  rw [common_outcome (agrees start here stage here_open)]
  exact ends

/-- Two computations agree if what lowers is the same as both of them. -/
theorem of_lowers {strict : Lowering Unit} (lowers : Lowers strict) (one : Meets strict first)
    (other : Meets strict second) : Agrees first second := by
  intro start here stage here_open
  have ends : strict.Ends start (fun _ _ => True) fun failure _ => ¬ failure.IsInternal :=
    (lowers start here stage here_open).imp (fun _ _ _ => trivial) fun _ _ held => held.1.2.2.2
  exact (one start ends).symm.trans (other start ends)

/-- In a frame of their own. -/
theorem inBlock (agrees : Agrees first second) (first_lowers : Lowers first) :
    Agrees (Lowering.inBlock first) (Lowering.inBlock second) :=
  .of_lowers (inBlock_lowers (agrees.lowers first_lowers)) (.inBlock (common_meets _ _))
    (.inBlock (common_meets_second _ _))

/-- As the only arm of a branch. -/
theorem chooseWhether (agrees : Agrees first second) (condition : Tree)
    (first_lowers : Lowers first) :
    Agrees (lowerChoice condition first none) (lowerChoice condition second none) := by
  have none_else : ∀ arm ∈ (none : Option (Lowering Unit)), Lowers arm := by
    intro _ member
    cases member
  exact .of_lowers (lowerChoice_lowers (agrees.lowers first_lowers) none_else)
    (.chooseWhether _ (common_meets _ _)) (.chooseWhether _ (common_meets_second _ _))

/-- As the arms of a branch. -/
theorem choose {alternate other : Lowering Unit} (agrees : Agrees first second)
    (agree : Agrees alternate other) (condition : Tree) (first_lowers : Lowers first)
    (alternate_lowers : Lowers alternate) :
    Agrees (lowerChoice condition first (some alternate))
      (lowerChoice condition second (some other)) := by
  have others := agree.lowers alternate_lowers
  -- Each side agrees with the lowering that both have in common.
  exact .of_lowers
    (lowerChoice_lowers (agrees.lowers first_lowers) fun _ arm => Option.some.inj arm ▸ others)
    (.choose _ (common_meets _ _) (common_meets _ _))
    (.choose _ (common_meets_second _ _) (common_meets_second _ _))

/-- As the body of a loop. -/
theorem loop (agrees : Agrees first second) (condition : Tree) (label : Option String)
    (first_lowers : Lowers first) :
    Agrees (lowerLoop condition label first) (lowerLoop condition label second) :=
  .of_lowers (lowerLoop_lowers (agrees.lowers first_lowers)) (.loop _ _ (common_meets _ _))
    (.loop _ _ (common_meets_second _ _))

/-- As the body of a function. -/
theorem function (agrees : Agrees first second) (place : Location) (name arguments result : Tree)
    (first_lowers : Lowers first) :
    Agrees (lowerFunction place name arguments result first)
      (lowerFunction place name arguments result second) :=
  .of_lowers (lowerFunction_lowers place name arguments result (agrees.lowers first_lowers))
    (.function _ _ _ _ (common_meets _ _)) (.function _ _ _ _ (common_meets_second _ _))

/-- As the body of the function that a program becomes. -/
theorem entry (agrees : Agrees first second) (first_lowers : Lowers first) {start : Builder}
    (sound : start.Sound) (name : Document) :
    (lowerEntry name first).outcome start = (lowerEntry name second).outcome start := by
  have lowers := agrees.lowers first_lowers
  have ends := @lowerEntry_ends start sound name (common first second) (fun _ _ => True)
    (fun _ => True)
    (fun _ _ _ _ entry begun begins => (lowers begun entry begins.stage begins.entered).imp
      (fun _ _ held => ⟨held.1, fun _ _ => trivial⟩) fun _ _ held => held) fun _ _ => trivial
  -- The body that both have in common fails at most for something in the tree.
  have outside : (lowerEntry name (common first second)).Ends start (fun _ _ => True)
      fun failure _ => ¬ failure.IsInternal :=
    ends.imp (fun _ _ _ => trivial) fun _ _ held => held.1.2.2.1
  exact ((Meets.entry name (common_meets first second)) start outside).symm.trans
    ((Meets.entry name (common_meets_second first second)) start outside)

end Agrees

namespace AgreesAll

variable {first second rest others : Lowering Unit}

/-- What agrees anywhere agrees in an open block, too. -/
theorem agrees (agrees : AgreesAll first second) : Agrees first second :=
  fun start here stage _ => agrees start here stage

/-- Statements agree if the first ones do, and those behind them. -/
theorem cons (agrees : Agrees first second) (agree : AgreesAll rest others)
    (first_lowers : Lowers first) (rest_lowers : LowersAll rest) :
    AgreesAll (do ensureOpen; first; rest) (do ensureOpen; second; others) := by
  intro start here stage
  -- What both rests have in common lowers like the first one.
  have rest_lowers : LowersAll (common rest others) := by
    intro start here stage
    -- So neither list fails internally, and each does what the common one does.
    have ends := rest_lowers start here stage
    unfold LowersTo Ends at ends ⊢
    rw [common_outcome (agree start here stage)]
    exact ends
  have ends : (do ensureOpen; common first second; common rest others : Lowering Unit).Ends start
      (fun _ _ => True) fun failure _ => ¬ failure.IsInternal :=
    (LowersAll.cons (agrees.lowers first_lowers) rest_lowers start here stage).imp
      (fun _ _ _ => trivial) fun _ _ held => held.1.2.2.2
  exact ((Meets.sequence (common_meets _ _) (common_meets _ _)) start ends).symm.trans
    ((Meets.sequence (common_meets_second _ _) (common_meets_second _ _)) start ends)

end AgreesAll

/-- In an open block a single statement is lowered as it is. -/
theorem Agrees.single (action : Lowering Unit) :
    Agrees (do ensureOpen; action; pure ()) action := by
  intro start here stage here_open
  have stays := @Stage.ensureOpen start start here [] (fun _ _ => False) stage
  -- In an open block there is nothing to be opened.
  have opened : ensureOpen.outcome start = (.ok (), start) := by
    unfold Ends at stays
    generalize ensureOpen.outcome start = result at stays ⊢
    obtain ⟨failure | answer, finish⟩ := result
    · exact stays.elim
    · rw [stays.1.stays (stage.ready here_open)]
  rw [outcome_bind, opened]
  dsimp only
  rw [outcome_bind]
  rcases action.outcome start with ⟨failure | answer, finish⟩ <;> rfl

end LoopLang.Lowering
