import LoopLang.Proofs.Lowering.Nesting
import Mathlib.Data.List.Basic

/-! What statements make of the names that are visible: frames of their own leave no trace, a
declaration adds a name. -/

namespace LoopLang

open Builder (Continues)

namespace Scopes

/-- The symbol tables of the open frames, innermost first. -/
def tables (scopes : Scopes) : List (List (String × Binding)) := scopes.frames.map Frame.symbols

/-- What a name means is said by the tables alone. -/
theorem lookup_eq (scopes : Scopes) (name : String) :
    scopes.lookup name = scopes.tables.findSome? (·.lookup name) := by
  simp only [lookup, tables, List.findSome?_map]
  rfl

/-- The frames go on, and the innermost one gets some of the given names, which are new to it. -/
def Gains (names : List String) (scopes later : Scopes) : Prop :=
  ∃ more, (more.map Prod.fst).Sublist names ∧
    (∀ frame ∈ scopes.current?, ∀ entry ∈ more, frame.has entry.1 = false) ∧
    Continues more scopes.frames later.frames

namespace Gains

variable {names first second : List String} {scopes middle later : Scopes}

/-- Frames that go on without new names. -/
theorem of_continues (continues : Continues [] scopes.frames later.frames) :
    Gains names scopes later :=
  ⟨[], List.nil_sublist names, fun _ _ _ => nofun, continues⟩

/-- More names may be given than are needed. -/
theorem mono (gains : Gains first scopes later) (fewer : first.Sublist second) :
    Gains second scopes later := by
  obtain ⟨more, given, fresh, continues⟩ := gains
  exact ⟨more, given.trans fewer, fresh, continues⟩

/-- Names that are added later are new to those that were added before, too. -/
theorem trans (begun : Gains first scopes middle) (ended : Gains second middle later) :
    Gains (first ++ second) scopes later := by
  obtain ⟨more, given, fresh, continues⟩ := begun
  obtain ⟨others, given_too, fresh_too, continues_too⟩ := ended
  refine ⟨more ++
    others, by simpa using given.append given_too, fun frame innermost entry member => ?_,
    continues.trans continues_too⟩
  -- Names of the second step were not there before the first one either.
  rcases List.mem_append.mp member with early | late
  · exact fresh frame innermost entry early
  -- The innermost frame has only got more names in the meantime.
  · obtain ⟨outer, opened⟩ : ∃ outer, scopes.frames = frame :: outer :=
      List.head?_eq_some_iff.mp innermost
    rw [opened] at continues
    obtain ⟨block, frames⟩ := continues
    have absent := fresh_too { frame with block, symbols := frame.symbols ++ more }
      (by simp [current?, frames]) entry late
    rw [Frame.has_eq_false] at absent ⊢
    intro member
    exact absent (by simpa [Frame.names] using .inl (by simpa [Frame.names] using member))

/-- A name that is declared is new, and it is the only one that is added. -/
theorem declare {name : String} {binding : Binding}
    (declared : scopes.declare name binding = .ok later) :
    Gains [name] scopes later := by
  refine ⟨[(name, binding)], .refl _, fun frame innermost entry member => ?_,
    declare_continues declared⟩
  obtain ⟨found, outer, opened, fresh, -⟩ := Builder.declare_ok declared
  -- The frame that gains the name is the innermost one, where it was free.
  have same : found = frame := by simpa [current?, opened] using innermost
  rw [List.mem_singleton.mp member, ← same]
  exact fresh

/-- Steps that declare nothing add no names. -/
theorem absorbs : Absorbs (Gains []) where
  refl scopes := of_continues (.refl scopes.frames)
  trans := trans
  note {scopes line} plain := of_continues (.refl scopes.frames)
  moveTo moved := of_continues (moveTo_continues moved)
  frame inside popped := by
    -- What has been declared in between stands in the frame that is gone.
    obtain ⟨more, last, frames⟩ := inside.continues
    exact of_continues (pop_continues frames popped)

/-- A name that is declared among such steps is the only one that is added. -/
theorem admitsName (name : String) : AdmitsName name (Gains []) (Gains [name]) where
  absorbs := absorbs
  declare _ declared := declare declared
  none gains := gains.mono (List.nil_sublist [name])
  behind := trans
  before := trans

end Gains

end Scopes

namespace Lowering

variable {α β : Type}

/--
However a computation ends, it has declared some of the given names in the innermost frame, and
nothing elsewhere. Where code is emitted nowhere, that may be so of a success only, unless it is so
`anywhere`.
-/
def Declares (names : List String) (action : Lowering α) (anywhere : Bool := false) : Prop :=
  Relates anywhere (Scopes.Gains names) action

/-- What two computations declare is declared one after the other. -/
theorem Declares.bind {anywhere : Bool} {names more : List String} {action : Lowering α}
    {next : α → Lowering β} (first : Declares names action anywhere)
    (second : ∀ answer, Declares more (next answer) anywhere) :
    Declares (names ++ more) (action >>= next) anywhere :=
  Relates.bind (fun gains => Scopes.Gains.mono gains (List.sublist_append_left names more))
    (fun begun ended => Scopes.Gains.trans begun ended) first second

end Lowering

namespace Tree

open Lowering

/-- The name that a statement declares. -/
def declaredName? : Tree → Option String
  | functionDeclaration _ (identifier _ name _) _ _ _
  | variableDeclaration _ (identifier _ name _) _ => some name.shown
  | _ => none

/-- Whether a statement is a block, a branch or a loop, whose statements stand in frames of their
own. -/
def opensFrame : Tree → Bool
  | blockStatement .. | ifStatement .. | loopStatement .. => true
  | _ => false

/-- An arm of a branch declares nothing, for it is lowered in a frame of its own. -/
theorem lowerArm_declares {anywhere : Bool} (arm : Tree) (may : anywhere = true → ¬ arm.IsArm) :
    Declares [] (lowerArm arm) anywhere := by
  obtain ⟨-, arms, bodies, -⟩ := lower_nested_all
  unfold lowerArm
  split
  -- An arm opens a frame of its own, where it may stand.
  · obtain rfl : anywhere = false := Bool.eq_false_iff.mpr fun everywhere => may everywhere trivial
    exact Scopes.Gains.absorbs.inBlock (Nested.choice (arms _) (secondArm_nested (arms _)))
  · obtain rfl : anywhere = false := Bool.eq_false_iff.mpr fun everywhere => may everywhere trivial
    exact Scopes.Gains.absorbs.inBlock (bodies _).narrow
  · exact Scopes.Gains.absorbs.refuse _ _

/-- A statement declares at most its own name, and what is refused declares nothing. -/
theorem lowerStatement_declares {anywhere : Bool} (statement : Tree)
    (may : anywhere = true → ¬ statement.IsBlock) :
    Declares statement.declaredName?.toList (lowerStatement statement) anywhere := by
  obtain ⟨-, arms, bodies, -⟩ := lower_nested_all
  fun_cases lowerStatement statement with
  -- A function and a variable declare their own name in the current frame.
  | case1 place arguments result _ name _ _ content =>
    exact (Scopes.Gains.admitsName name.shown).function place arguments result
      fun function parameters =>
        Nested.functionContents function parameters (bodies content).narrow
  | case4 place value _ name stated =>
    exact (Scopes.Gains.admitsName name.shown).declaration place stated value
  -- Blocks declare nothing outside of their frame.
  | case6 place content =>
    obtain rfl : anywhere = false := Bool.eq_false_iff.mpr fun everywhere => may everywhere trivial
    exact Scopes.Gains.absorbs.inBlock (bodies content).narrow
  | case7 place value => exact Scopes.Gains.absorbs.ending place value
  | case8 place condition consequent alternate =>
    -- Both arms declare nothing, so neither does the branch.
    exact Scopes.Gains.absorbs.choice (lowerArm_declares consequent nofun)
      (secondArm_forall (lowerArm_declares alternate nofun))
  | case9 place condition label _ content =>
    exact Scopes.Gains.absorbs.loop (bodies content).narrow
  | case11 place label => exact Scopes.Gains.absorbs.jump .break place (labelName? label)
  | case12 place label => exact Scopes.Gains.absorbs.jump .continue place (labelName? label)
  | case13 place expression =>
    exact Scopes.Gains.absorbs.after (lowerExpression_quiet_all.1 expression) fun _ =>
      Scopes.Gains.absorbs.pure _
  -- What is refused declares nothing.
  | case2 | case3 | case5 | case10 | case14 =>
    exact fun start _ => .of_continues (.refl start.scopes.frames)

/-- The names that statements declare one after the other. -/
def declaredNames (statements : List Tree) : List String :=
  statements.flatMap fun statement => statement.declaredName?.toList

/-- Statements declare at most their own names, in order, whatever stands in the frames that they
open in between. -/
theorem lowerStatements_declares (statements : List Tree) :
    Declares (declaredNames statements) (lowerStatements statements) := by
  -- Code that cannot be reached goes to a new block, but to no new frame.
  induction statements with
  | nil => exact Scopes.Gains.absorbs.pure ()
  | cons statement rest ih =>
    have opened : Declares [] ensureOpen := Scopes.Gains.absorbs.ensureOpen
    have declares : Declares statement.declaredName?.toList (lowerStatement statement) :=
      lowerStatement_declares statement nofun
    exact opened.bind fun _ => declares.bind fun _ => ih

/-- What a statement makes of the names that are visible, given the scopes in front of it and behind
it. -/
structure KeepsScope (statement : Tree) (scopes later : Scopes) : Prop where
  /-- A block, a branch or a loop leaves the table of every frame as it was, so every name means
  what it meant. -/
  restores : statement.opensFrame = true →
    later.tables = scopes.tables ∧ ∀ name, later.lookup name = scopes.lookup name
  /-- A statement adds one new name at most, to the table of the innermost frame, if it is the
  declaration of it. -/
  declares : later.tables = scopes.tables ∨ ∃ frame outer name binding,
    scopes.frames = frame :: outer ∧ statement.declaredName? = some name ∧ frame.has name = false ∧
      later.tables = (frame.symbols ++ [(name, binding)]) :: outer.map Frame.symbols
  /-- Every other name means what it meant. -/
  others : ∀ name, statement.declaredName? ≠ some name → later.lookup name = scopes.lookup name

end Tree

namespace Scopes

variable {scopes later : Scopes}

/-- Frames that go on have the tables that they had, but for what is added to the innermost one. -/
theorem Gains.exists_tables {names : List String} (gains : Gains names scopes later) :
    ∃ more, (more.map Prod.fst).Sublist names ∧ (more = [] ∧ later.tables = scopes.tables ∨
      ∃ frame outer, scopes.frames = frame :: outer ∧ (∀ entry ∈ more, frame.has entry.1 = false) ∧
        later.tables = (frame.symbols ++ more) :: outer.map Frame.symbols) := by
  obtain ⟨more, given, fresh, continues⟩ := gains
  refine ⟨more, given, ?_⟩
  unfold tables
  -- Without any frame nothing can be gained.
  cases opened : scopes.frames with
  | nil =>
    rw [opened] at continues
    exact .inl ⟨continues.2, by rw [continues.1]⟩
  | cons frame outer =>
    rw [opened] at continues
    obtain ⟨block, frames⟩ := continues
    exact .inr ⟨frame, outer, rfl, fresh frame (by simp [current?, opened]), by simp [frames]⟩

/-- Without new names the tables are what they were. -/
theorem Gains.tables_eq (gains : Gains [] scopes later) : later.tables = scopes.tables := by
  obtain ⟨more, given, ⟨-, same⟩ | ⟨frame, outer, opened, -, added⟩⟩ := gains.exists_tables
  · exact same
  · obtain rfl : more = [] := by simpa using given
    rw [added]
    simp [tables, opened]

/-- One name that may be added is added to the innermost table, if it is. -/
theorem Gains.tables_single {name : String} (gains : Gains [name] scopes later) :
    later.tables = scopes.tables ∨ ∃ frame outer binding,
      scopes.frames = frame :: outer ∧ frame.has name = false ∧
      later.tables = (frame.symbols ++ [(name, binding)]) :: outer.map Frame.symbols := by
  obtain ⟨more, given, ⟨-, same⟩ | ⟨frame, outer, opened, fresh, added⟩⟩ := gains.exists_tables
  · exact .inl same
  -- At most the one name has been declared, and in the innermost frame.
  rcases List.sublist_singleton.mp given with none | one
  · obtain rfl : more = [] := by simpa using none
    exact .inl (by rw [added]; simp [tables, opened])
  · obtain ⟨⟨found, binding⟩, rfl, rfl⟩ := List.map_eq_singleton_iff.mp one
    exact .inr ⟨frame, outer, binding, opened, fresh _ List.mem_cons_self, added⟩

/-- The same tables give every name the same meaning. -/
theorem lookup_congr (same : later.tables = scopes.tables) (name : String) :
    later.lookup name = scopes.lookup name := by
  rw [lookup_eq, lookup_eq, same]

/-- A name that is added to the innermost table leaves the meaning of the others. -/
theorem lookup_added {frame : Frame} {outer : List Frame} {name other : String} {binding : Binding}
    (opened : scopes.frames = frame :: outer)
    (added : later.tables = (frame.symbols ++ [(name, binding)]) :: outer.map Frame.symbols)
    (different : other ≠ name) : later.lookup other = scopes.lookup other := by
  -- The name is added behind all others, so that nothing is found before it that was not there.
  have absent : List.lookup other [(name, binding)] = none := by
    simpa [List.lookup_eq_none_iff] using different
  rw [lookup_eq, lookup_eq, added, tables, opened]
  simp only [List.map_cons, List.findSome?_cons, List.lookup_append, absent, Option.or_none]

end Scopes

namespace Tree

open Lowering

/-- What gains at most the name that a statement declares keeps the scope of the statement. -/
theorem KeepsScope.of_gains {statement : Tree} {scopes later : Scopes}
    (gains : Scopes.Gains statement.declaredName?.toList scopes later) :
    KeepsScope statement scopes later := by
  cases declared : statement.declaredName? with
  | none =>
    rw [declared] at gains
    have same := Scopes.Gains.tables_eq gains
    exact ⟨fun _ => ⟨same, Scopes.lookup_congr same⟩, .inl same,
      fun name _ => Scopes.lookup_congr same name⟩
  | some name =>
    rw [declared] at gains
    -- A declaration is no block, no branch and no loop.
    have closed : statement.opensFrame = false := by
      unfold declaredName? at declared
      split at declared <;> first | rfl | cases declared
    refine ⟨by simp [closed], ?_, fun other different => ?_⟩
    -- Other names are looked up past the new one.
    · rcases Scopes.Gains.tables_single
        gains with same | ⟨frame, outer, binding, opened, fresh, added⟩
      · exact .inl same
      · exact .inr ⟨frame, outer, name, binding, opened, declared, fresh, added⟩
    · rcases Scopes.Gains.tables_single
        gains with same | ⟨frame, outer, binding, opened, fresh, added⟩
      · exact Scopes.lookup_congr same other
      · refine Scopes.lookup_added opened added ?_
        rintro rfl
        exact different declared

/--
Wherever a statement is lowered and however that ends, the open frames keep their names: a block, a
branch, an arm of one or a loop leaves no trace of what it declares, and every other statement adds
at most the name that it declares itself, to the innermost frame. The exception is a nested block
that fails because code is emitted nowhere.
-/
theorem lowering_keeps_scope (start : Builder) :
    (∀ statement,
      KeepsScope statement start.scopes ((lowerStatement statement).outcome start).2.scopes ∨
        statement.IsBlock ∧ (lowerStatement statement).Strands start) ∧
    ∀ arm, (((lowerArm arm).outcome start).2.scopes.tables = start.scopes.tables ∧
        ∀ name, ((lowerArm arm).outcome start).2.scopes.lookup name = start.scopes.lookup name) ∨
      arm.IsArm ∧ (lowerArm arm).Strands start := by
  -- Only what opens a frame at the cursor needs one, and is stranded without.
  have placed_or (shape : Prop) : (shape ∧ start.scopes.cursor = none) ∨
      ∃ anywhere, (anywhere = true → ¬ shape) ∧ (anywhere = true ∨ start.scopes.cursor.isSome) := by
    by_cases held : shape
    · cases start.scopes.cursor with
      | none => exact .inl ⟨held, rfl⟩
      | some block => exact .inr ⟨false, nofun, .inr rfl⟩
    · exact .inr ⟨true, fun _ => held, .inl rfl⟩
  refine ⟨fun statement => ?_, fun arm => ?_⟩
  -- Statements first, which may add one name, then arms, which add none.
  · rcases placed_or statement.IsBlock with ⟨block, nowhere⟩ | ⟨anywhere, plain, may⟩
    · cases statement with
      | blockStatement place content => exact .inr ⟨block, inBlock_strands _ nowhere⟩
      | _ => exact block.elim
    · exact .inl (.of_gains ((lowerStatement_declares statement plain).outcome start may))
  · rcases placed_or arm.IsArm with ⟨branch, nowhere⟩ | ⟨anywhere, plain, may⟩
    · cases arm with
      | ifStatement place condition consequent alternate =>
        exact .inr ⟨branch, inBlock_strands _ nowhere⟩
      | blockStatement place content => exact .inr ⟨branch, inBlock_strands _ nowhere⟩
      | _ => exact branch.elim
    · have same := Scopes.Gains.tables_eq ((lowerArm_declares arm plain).outcome start may)
      exact .inl ⟨same, Scopes.lookup_congr same⟩

end Tree

end LoopLang
