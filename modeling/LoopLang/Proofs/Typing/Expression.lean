import LoopLang.Proofs.Lowering.Grammar
import LoopLang.Proofs.Typing.Frames

/-! Lowering an expression decides whether it has a kind, and which one. -/

namespace LoopLang

open Code (Operand)
open Typing (Context HasKind HaveKinds)

namespace Lowering

variable {α β : Type} {action : Lowering α} {start : Builder} {here : BlockRef} {context : Context}

/-- A computation decides a question by whether it succeeds; its answer says more. -/
def Decides (action : Lowering α) (start : Builder) (yes : α → Prop) (no : Prop) : Prop :=
  action.Ends start (fun answer _ => yes answer) (fun _ _ => no)

namespace Decides

variable {yes : α → Prop} {no : Prop}

/-- An answer decides for what holds of it. -/
theorem pure {answer : α} (held : yes answer) : Decides (Pure.pure answer) start yes no := held

/-- What is decided by a part that only extends the current block is decided for the rest. -/
theorem bind {next : α → Lowering β} {wanted : β → Prop} {never : Prop}
    {known : α → Builder → Prop} (first : action.Decides start yes no)
    (computes : action.Computes start known)
    (second : ∀ answer middle, middle.Sound → start.Extends middle → yes answer →
      (next answer).Decides middle wanted never)
    (otherwise : no → never) : (action >>= next).Decides start wanted never := by
  -- A failure of the first part is one that the rules foresee.
  refine Ends.bind ((Ends.and first computes).imp (fun _ _ held => held) fun _ _ held =>
    otherwise held.1)
    fun answer middle held => ?_
  exact second answer middle held.2.1 held.2.2.1 held.1

/-- What is decided by a part that changes nothing is decided for the rest. -/
theorem bind_reads {next : α → Lowering β} {wanted : β → Prop} {never : Prop} {known : α → Prop}
    (first : action.Decides start yes no) (reads : action.Reads start known)
    (second : ∀ answer, yes answer → known answer → (next answer).Decides start wanted never)
    (otherwise : no → never) : (action >>= next).Decides start wanted never := by
  refine Ends.bind ((Ends.and first reads).imp (fun _ _ held => held) fun _ _ held =>
    otherwise held.1)
    fun answer middle held => ?_
  obtain ⟨decided, read, rfl⟩ := held
  exact second answer decided read

/-- What the open frames decide is decided, whatever else a computation that looks at them
answers. -/
theorem of_looks {answers : α → Prop} {fails : Failure → Prop}
    (looks : action.Looks start.scopes answers fails)
    (answered : ∀ answer, answers answer → yes answer) (failed : ∀ failure, fails failure → no) :
    action.Decides start yes no :=
  looks.ends.imp (fun answer _ held => answered answer held.1) fun failure _ held =>
    failed failure held.1

end Decides

/-- A variable is found exactly if the rules allow its use. -/
theorem resolveVariable_decides (sound : start.Sound) (current : start.block? = some here)
    (shown : Shows start.scopes.frames context) (name : String) (place : Location) :
    (resolveVariable name place).Decides start
      (fun (kind, _) => context.own.find? name = some (.variable kind.exact))
      (∀ kind : ValueKind, context.own.find? name ≠ some (.variable kind.exact)) := by
  have visible := shown.find? name
  have found : ∀ kind : ValueKind, context.own.find? name = some (.variable kind.exact) →
      (start.scopes.lookup name).map Binding.declared = some (.variable kind.exact) :=
        fun kind own =>
    visible.symm.trans (Context.find?_of_own own)
  have function := sound.function? current
  obtain ⟨frame, innermost, emits⟩ := Option.bind_eq_some_iff.mp current
  obtain ⟨outer, opened⟩ := List.head?_eq_some_iff.mp innermost
  have owner := (sound.fits frame (List.mem_of_head? innermost)).home_eq emits
  unfold resolveVariable
  rw [Decides, bind_ends, scopes_ends]
  split
  · rename_i absent
    -- A name that is bound to nothing is declared nowhere.
    refine fun kind own => ?_
    have known := found kind own
    rw [absent] at known
    cases known
  -- A function is no variable.
  · rename_i bound
    refine fun kind own => ?_
    have known := found kind own
    rw [bound] at known
    cases known
  · rename_i stored slot? bound
    -- What the rules find is what the name is bound to.
    have same_kind : ∀ kind : ValueKind, context.own.find? name = some (.variable kind.exact) →
        stored = kind.exact :=
      fun kind own => by
        have known := found kind own
        rw [bound] at known
        injection known with same
        injection same
    obtain ⟨_, _, _, fits⟩ := sound.lookup bound
    cases slot? with
    | none =>
      -- A void variable has no value to use, and the rules give it no kind of values.
      have void : stored = .void := fits
      subst void
      refine fun kind own => ?_
      cases kind <;> cases same_kind _ own
    | some slot =>
      obtain ⟨_, kind, _, rfl, _, _⟩ := fits
      rw [ValueKind.value?_exact]
      dsimp only
      rw [bind_ends, scopes_ends, function]
      -- A variable may be used within its own function only.
      have own : context.own.find? name = some (.variable kind.exact) ↔
          here.function = slot.function := by
        have fits := sound.fits
        have enclosed := sound.enclosed
        rw [Scopes.lookup] at bound
        rw [opened] at shown fits enclosed bound
        exact owner ▸ shown.own_find? enclosed fits bound
      split
      · rename_i same
        exact own.mpr (Option.some.inj same)
      · rename_i differs
        exact fun other elsewhere =>
          differs (congrArg some (own.mp (same_kind other elsewhere ▸ elsewhere)))

/-- Nothing that is emitted is refused. -/
theorem emit_decides (sound : start.Sound) (current : start.block? = some here) (base : String)
    (make : String → Code.Instruction) {no : Prop} :
    (emit base make).Decides start (fun _ => True) no :=
  (emit_ends (sound.aligned here current)).mpr trivial

/-- Neither is what is emitted without a name. -/
theorem emitUnnamed_decides (sound : start.Sound) (current : start.block? = some here)
    (instruction : Code.Instruction) {no : Prop} :
    (emitUnnamed instruction).Decides start (fun _ => True) no :=
  bind_ends.mpr (emit_decides sound current _ _)

/-- The value of a variable has the kind that the rules give it. -/
theorem loadVariable_decides (sound : start.Sound) (ready : start.Ready)
    (shown : Shows start.scopes.frames context) (name : String) (place : Location) :
    (loadVariable name place).Decides start
      (fun value => context.own.find? name = some (.variable value.kind.exact))
      (∀ kind : ValueKind, context.own.find? name ≠ some (.variable kind.exact)) := by
  obtain ⟨here, current, _⟩ := id ready
  -- All is decided by the name; the load itself cannot fail.
  refine (resolveVariable_decides sound current shown name place).bind_reads
    (resolveVariable_reads name place) (fun (kind, slot) found _ => ?_) id
  exact Ends.bind (emit_decides sound current _ _) fun _ _ _ => found

/-- The target of an assignment is found exactly if the rules allow its use. -/
theorem resolveTarget_decides (sound : start.Sound) (current : start.block? = some here)
    (shown : Shows start.scopes.frames context) (place : Location) (target : Identifier) :
    (resolveTarget place "=" (target.toTree .infer)).Decides start
      (fun (_, kind, _) => context.own.find? target.name = some (.variable kind.exact))
      (∀ kind : ValueKind, context.own.find? target.name ≠ some (.variable kind.exact)) :=
  bind_ends.mpr (pure_ends.mpr (bind_ends.mpr
    (resolveVariable_decides sound current shown target.name target.place)))

/-- A function is found exactly if the rules say that the name is one. -/
theorem resolveCallee_decides (sound : start.Sound) (shown : Shows start.scopes.frames context)
    (place : Location) (callee : Identifier) :
    (resolveCallee place (callee.toTree .infer)).Decides start
      (fun found => ∃ result, found.result = .exact result ∧
        context.find? callee.name = some (.function result found.parameters))
      (∀ result parameters, context.find? callee.name ≠ some (.function result parameters)) := by
  have visible : context.find? callee.name =
      (start.scopes.lookup callee.name).map Binding.declared :=
    shown.find? callee.name
  unfold resolveCallee Identifier.toTree
  dsimp only
  rw [usedName_text, pure_bind, Decides, bind_ends, scopes_ends, visible]
  -- A name that is bound to nothing, to a variable, or to a function.
  split
  · rename_i absent
    rw [absent]
    exact nofun
  · rename_i bound
    rw [bound]
    exact nofun
  · rename_i bound
    rw [bound]
    obtain ⟨_, _, _, function, _, rfl, _⟩ := sound.lookup bound
    exact ⟨_, rfl, rfl⟩

/-- The number of arguments is right, or it is refused. -/
theorem checkCount_decides (callee : Callee) (found : Nat) (place : Location) :
    (checkCount callee found place).Decides start (fun _ => found = callee.parameters.length)
      (found ≠ callee.parameters.length) :=
  .of_looks (.checkCount callee found place) (fun _ held => held) fun _ held => held.1

/-- The kind of an argument is right, or it is refused. -/
theorem checkArgument_decides (callee : String) (position : Nat) (expected : ExactKind)
    (value : Operand) (place : Location) :
    (checkArgument callee position expected value place).Decides start
      (fun _ => value.kind.exact = expected) (value.kind.exact ≠ expected) :=
  .of_looks (.checkArgument callee position expected value place) (fun _ held => held)
    fun _ held => held.1

/-- A call that is emitted has the kind of the result. -/
theorem emitCall_decides (sound : start.Sound) (current : start.block? = some here)
    {callee : Callee} {result : ExactKind} (promised : callee.result = .exact result)
    (arguments : List Operand) {no : Prop} :
    (emitCall callee arguments).Decides start (fun answer => answerKind answer = result) no := by
  unfold emitCall
  rw [promised]
  -- A call with a result gets a register for it, and one without a result answers nothing.
  split
  · rename_i valued
    refine Ends.bind (emit_decides sound current _ _) fun _ _ _ => ?_
    exact (ExactKind.value?_eq_some.mp valued).symm
  · rename_i nothing
    refine Ends.bind (emitUnnamed_decides sound current _) fun _ _ _ => ?_
    exact (ExactKind.value?_eq_none.mp nothing).symm

/-- An operation on two numbers is a number; other operands are refused. -/
theorem emitArithmetic_decides (sound : start.Sound) (current : start.block? = some here)
    (operator : Operator) (left right : Operand) (place : Location) :
    (emitArithmetic operator.sign left right place).Decides start
      (fun result => left.kind = .num ∧ right.kind = .num ∧ result.kind = .num)
      (¬ (left.kind = .num ∧ right.kind = .num)) := by
  -- The sign of a parsed operation is one of the four.
  have known : ∃ name, operator? operator.sign = some (operator, name) := by
    cases operator <;> exact ⟨_, rfl⟩
  obtain ⟨name, known⟩ := known
  unfold emitArithmetic checkNumber
  rw [known]
  dsimp only
  -- The left operand is checked before the right one.
  split
  · rename_i left_num
    refine bind_ends.mpr (pure_ends.mpr ?_)
    split
    · rename_i right_num
      refine bind_ends.mpr
        (pure_ends.mpr (Ends.bind (emit_decides sound current _ _) fun _ _ _ => ?_))
      exact ⟨left_num, right_num, rfl⟩
    · rename_i other
      exact bind_ends.mpr fun both => other both.2
  · rename_i other
    exact bind_ends.mpr fun both => other both.1

/-- A value is stored where it has the kind of the variable. -/
theorem storeVariable_decides (sound : start.Sound) (current : start.block? = some here)
    (name : String) (kind : ValueKind) (slot : Slot) (value : Operand) (place : Location) :
    (storeVariable name kind slot value place).Decides start (fun _ => value.kind = kind)
      (value.kind ≠ kind) := by
  unfold storeVariable
  -- The kinds are compared, and nothing else can fail.
  split
  · rename_i same
    exact (emitUnnamed_decides sound current _).imp (fun _ _ _ => same) fun _ _ held => held
  · rename_i other
    exact other

end Lowering

/-- As many arguments have kinds as there are kinds. -/
theorem Typing.HaveKinds.length {context : Context} {items : List Expression}
    {kinds : List ExactKind} (have_kinds : HaveKinds context items kinds) :
    items.length = kinds.length := by
  -- By induction on the arguments.
  induction items generalizing kinds with
  | nil =>
    cases have_kinds
    rfl
  | cons item rest ih =>
    cases have_kinds with
    | cons _ rest_kinds => exact congrArg (· + 1) (ih rest_kinds)

namespace Expression

open Lowering LoopLang.Tree

variable {context : Context}

/-- An expression that must have a value has one of a kind of values, or the rules give it none. -/
theorem required_decides {value : Expression} {start : Builder} (place : Location)
    (decides : value.toTree.lowerExpression.Decides start
      (fun answer => HasKind context value (answerKind answer))
        (∀ kind, ¬ HasKind context value kind)) :
    (required place value.toTree.lowerExpression).Decides start
      (fun found => HasKind context value found.kind.exact)
      (∀ kind : ValueKind, ¬ HasKind context value kind.exact) := by
  refine required_ends.mpr
    (Ends.imp decides (fun answer _ held => ?_) fun _ _ held kind => held kind.exact)
  -- Without an answer the kind is void, which is no kind of values.
  cases answer with
  | some found => exact held
  | none =>
    intro kind has
    have same : ExactKind.void = kind.exact := HasKind.unique held has
    cases kind <;> cases same

mutual

/-- Lowering an expression answers something of the kind that the rules give it, or the rules give
it none. -/
theorem lowerExpression_decides :
    ∀ (value : Expression) {start : Builder}, start.Sound → start.Ready →
    Shows start.scopes.frames context →
    value.toTree.lowerExpression.Decides start
      (fun answer => HasKind context value (answerKind answer))
      (∀ kind, ¬ HasKind context value kind)
  -- Literals have the kind of their value.
  | .number place value, _, _, _, _ => .number place value
  | .boolean place value, _, _, _, _ => .boolean place value
  | .identifier place name, start, sound, ready, shown => by
    refine bind_ends.mpr (pure_ends.mpr ?_)
    refine Ends.bind ((loadVariable_decides sound ready shown name place).imp (fun _ _ held => held)
      fun _ _ held kind has => ?_) fun value _ found => ?_
    -- The rules give a name a kind only where lowering finds it.
    · cases has with
      | identifier _ found => exact held _ found
    · exact .identifier place found
  | .call place callee arguments, start, sound, ready, shown => by
    refine (resolveCallee_decides sound shown place callee).bind_reads
      (resolveCallee_reads sound place _)
      (fun found ⟨result, promised, bound⟩ has => ?_) fun held kind has => ?_
    · obtain ⟨_, _, _, parameters⟩ := has
      -- Parameters are never void, so that each argument must have a value.
      have valued : ∀ kind ∈ found.parameters, ∃ value : ValueKind, kind = value.exact :=
        fun kind member => by
          rw [parameters] at member
          obtain ⟨parameter, _, same⟩ := List.mem_map.mp member
          exact ⟨parameter.2, same.symm⟩
      -- A call has a kind only if its arguments fit the parameters that are found.
      have refuse : ¬ HaveKinds context arguments found.parameters →
          ∀ kind, ¬ HasKind context (.call place callee arguments) kind := fun misfit kind has => by
        cases has with
        | call _ also fit =>
          cases bound.symm.trans also
          exact misfit fit
      have lowered : (lowerArguments found place (.list (toTrees arguments))).Decides start
          (fun _ => HaveKinds context arguments found.parameters)
          (∀ kind, ¬ HasKind context (.call place callee arguments) kind) := by
        refine (checkCount_decides found _ place).bind_reads (checkCount_reads found _ place)
          (fun _ count _ => ?_) fun other => refuse fun fit => other ?_
        · exact (lowerItems_decides arguments found.name 1 found.parameters valued sound ready shown
            (toTrees_length arguments ▸ count)).imp (fun _ _ held => held) fun _ _ held =>
              refuse held
        · exact (toTrees_length arguments).trans fit.length
      -- Behind its arguments the call has the kind of its result.
      refine lowered.bind (lowerExpression_computes_all.2.1 found place _ start sound ready)
        (fun values middle sound more fit => ?_) id
      obtain ⟨here, current, _⟩ := more.ready ready
      refine (emitCall_decides sound current promised values).imp (fun answer _ same => ?_)
        fun _ _ held => held
      show HasKind context _ (answerKind answer)
      rw [same]
      exact .call place bound fit
    -- Where lowering finds no function under the name, neither do the rules.
    · cases has with
      | call _ found _ => exact held _ _ found
  | .binary place operator left right, start, sound, ready, shown => by
    refine (required_decides left.toTree.place
      (lowerExpression_decides left sound ready shown)).bind
      (required_computes (lowerExpression_computes_all.1 _ start sound ready))
      (fun first middle sound more left_kind => ?_) fun held kind has => ?_
    · have ready := more.ready ready
      refine (required_decides right.toTree.place
        (lowerExpression_decides right sound ready (more.scopes ▸ shown))).bind
        (required_computes (lowerExpression_computes_all.1 _ middle sound ready))
        (fun second last sound more right_kind => ?_) fun held kind has => ?_
      -- Both operands have values, and the operation decides on their kinds.
      · obtain ⟨here, current, _⟩ := more.ready ready
        refine bind_ends.mpr (pure_ends.mpr ?_)
        refine Ends.bind ((emitArithmetic_decides sound current operator first second place).imp
          (fun _ _ held => held)
          fun _ _ held kind has => held ?_) fun result _ ⟨left_num, right_num, result_num⟩ => ?_
        -- If the rules give the whole a kind, both operands are numbers, which is not refused.
        · cases has with
          | binary _ _ left_has right_has =>
            exact ⟨ValueKind.exact_injective (left_kind.unique left_has),
              ValueKind.exact_injective (right_kind.unique right_has)⟩
        · rw [left_num] at left_kind
          rw [right_num] at right_kind
          show HasKind context _ result.kind.exact
          rw [result_num]
          exact .binary place operator left_kind right_kind
      · cases has with
        | binary _ _ _ right_has => exact held .num right_has
    · cases has with
      | binary _ _ left_has _ => exact held .num left_has
  | .assign place target value, start, sound, ready, shown => by
    obtain ⟨here, current, _⟩ := id ready
    refine (resolveTarget_decides sound current shown place target).bind_reads
      (resolveTarget_reads sound ready place "=" _)
      (fun (name, kind, slot) found _ => ?_) fun held kind has => ?_
    · refine (required_decides value.toTree.place
        (lowerExpression_decides value sound ready shown)).bind
        (required_computes (lowerExpression_computes_all.1 _ start sound ready))
        (fun stored middle sound more value_kind => ?_) fun held kind has => ?_
      · obtain ⟨here, current, _⟩ := more.ready ready
        refine Ends.bind ((storeVariable_decides sound current name kind slot stored place).imp
          (fun _ _ held => held) fun _ _ other kind has => other ?_) fun _ _ same => ?_
        -- If the rules allow it, the value has the kind of the variable, which is not refused.
        · cases has with
          | assign _ also fits =>
            cases ValueKind.exact_injective (value_kind.unique fits)
            injection found.symm.trans also with same
            injection same with same
            exact (ValueKind.exact_injective same).symm
        · show HasKind context _ stored.kind.exact
          rw [same] at value_kind ⊢
          exact .assign place found value_kind
      · cases has with
        | assign _ _ fits => exact held _ fits
    · cases has with
      | assign _ found _ => exact held _ found

/-- Lowering arguments decides whether they have the kinds of the parameters. -/
theorem lowerItems_decides :
    ∀ (items : List Expression) (callee : String) (position : Nat) (kinds : List ExactKind),
    (∀ kind ∈ kinds, ∃ value : ValueKind, kind = value.exact) → ∀ {start : Builder},
      start.Sound → start.Ready →
    Shows start.scopes.frames context → items.length = kinds.length →
    (lowerItems callee position kinds (toTrees items)).Decides start
      (fun _ => HaveKinds context items kinds) (¬ HaveKinds context items kinds)
  -- As many arguments as parameters: here there are none.
  | [], callee, position, kinds, _, start, sound, ready, shown, count => by
    obtain rfl := List.eq_nil_of_length_eq_zero count.symm
    exact .nil
  | item :: rest, callee, position, kind :: kinds, valued, start, sound, ready, shown, count => by
    obtain ⟨⟨expected, rfl⟩, rest_valued⟩ := List.forall_mem_cons.mp valued
    refine (required_decides item.toTree.place
      (lowerExpression_decides item sound ready shown)).bind
      (required_computes (lowerExpression_computes_all.1 _ start sound ready))
      (fun value middle sound more item_kind => ?_) fun held have_kinds => ?_
    · refine (checkArgument_decides callee position expected.exact value
        item.toTree.place).bind_reads
        (checkArgument_reads callee position expected.exact value item.toTree.place)
        (fun _ same _ => ?_) fun other have_kinds => ?_
      · refine Ends.bind
          ((lowerItems_decides rest callee (position + 1) kinds rest_valued sound (more.ready ready)
          (more.scopes ▸ shown) (Nat.succ.inj count)).imp (fun _ _ held => held)
            fun _ _ misfit have_kinds => ?_)
          fun _ _ fits => ?_
        -- The rules go through the arguments in the same order.
        · cases have_kinds with
          | cons _ others => exact misfit others
        · exact .cons (same ▸ item_kind) fits
      -- The first argument must have the kind of the first parameter.
      · cases have_kinds with
        | cons first _ => exact other (item_kind.unique first)
    · cases have_kinds with
      | cons first _ => exact held expected first

end

end Expression

end LoopLang
