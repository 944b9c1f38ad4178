import LoopLang.Proofs.Isolation.Run

/-! Lowering expressions in two sessions at once. -/

namespace LoopLang

open Code (Name Operand Instruction Function)

namespace Renaming

variable {naming larger : Renaming}

/-- What two calls know about functions that stand for each other. -/
structure Callees (naming : Renaming) (callee other : Lowering.Callee) : Prop where
  name : callee.name = other.name
  handles : naming.functions callee.handle other.handle
  result : callee.result = other.result
  parameters : callee.parameters = other.parameters

/-- Callees that stand for each other still do so under more names. -/
theorem Callees.mono (grows : naming.Grows larger) {callee other : Lowering.Callee}
    (same : naming.Callees callee other) :
    larger.Callees callee other :=
  { same with handles := grows.functions _ _ same.handles }

/-- Variables of the given function and the one that stands for it, of one kind and in slots that
stand for each other. -/
structure Variables (naming : Renaming) (owner : Name) (found other : ValueKind × Slot) : Prop where
  kind : found.1 = other.1
  belongs : found.2.function = owner
  slots : naming.Slots found.2 other.2

/-- So do variables. -/
theorem Variables.mono (grows : naming.Grows larger) {owner : Name} {found other : ValueKind × Slot}
    (same : naming.Variables owner found other) : larger.Variables owner found other :=
  { same with slots := same.slots.mono grows }

end Renaming

namespace Lowering

variable {old : List Function} {owner : Name} {naming larger : Renaming}

namespace Coincide

/-- What is proposed in place of an unknown name is a part of the words only. -/
theorem suggestion (name : String) :
    Coincide old owner naming (Lowering.suggestion name) (Lowering.suggestion name)
      fun _ _ _ => True :=
  fun larger _ _ _ abreast => ⟨larger, .refl _, abreast, trivial⟩

/-- The name that an expression uses is the same in both sessions, which know the same names. -/
theorem usedName (name : Tree) :
    Coincide old owner naming (Lowering.usedName name) (Lowering.usedName name)
      fun _ used other => used = other := by
  cases name with
  | text name => exact .pure fun _ _ => rfl
  | list items => exact .stop _
  | _ =>
    -- What is no text is known in both sessions, or in neither.
    refine .scopes fun larger _ fresh later abreast => ?_
    rw [Renaming.rel_isSome (abreast.lookup _)]
    split
    · exact .pure fun _ _ => rfl
    · exact .stop _

/-- The sign of an operation does not depend on the session. -/
theorem usedSign (sign : Tree) :
    Coincide old owner naming (Lowering.usedSign sign) (Lowering.usedSign sign)
      fun _ used other => used = other := by
  unfold Lowering.usedSign
  split
  · exact .stop _
  · exact .pure fun _ _ => rfl

/-- A variable is found alike: that it belongs to the function at hand is so in both or in
neither. -/
theorem resolveVariable (name : String) (place : Location) :
    Coincide old owner naming (Lowering.resolveVariable name place)
      (Lowering.resolveVariable name place) fun larger => larger.Variables owner := by
  refine .scopes fun larger grows fresh later abreast => ?_
  have found := abreast.lookup name
  generalize fresh.scopes.lookup name = first, later.scopes.lookup name = second at found ⊢
  cases found with
  -- The refusals may propose different names, yet their class and place are the same.
  | none => exact .bind (.suggestion name) fun _ _ _ _ _ => .refuse _ rfl
  | some bound =>
    cases bound with
    | fn result parameters handles => exact .refuse _ rfl
    | var kind slots =>
      cases slots with
      | none => cases kind <;> exact .refuse _ rfl
      | @some slot other same =>
        cases value : kind.value? with
        | none => simpa only [value] using .refuse _ rfl
        | some stored =>
          simp only [value]
          refine .scopes fun further more begun started middle => ?_
          obtain ⟨standing, named, renamed, held⟩ := middle.function?
          have slots := same.mono more
          rw [named, renamed]
          -- One name stands for one name, so the owners of the slots are the functions at hand in
          -- both or in neither.
          by_cases here : owner = slot.function
          · have there : standing = other.function :=
              middle.code.unique.functions.2 held (here ▸ slots.1)
            rw [if_pos (congrArg some here), if_pos (congrArg some there)]
            exact .pure fun last grown => ⟨rfl, here.symm, slots.mono grown⟩
          · have elsewhere : standing ≠ other.function := fun there =>
              here (middle.code.unique.functions.1 held (there ▸ slots.1))
            rw [if_neg (by simpa using here), if_neg (by simpa using elsewhere)]
            exact .refuse _ rfl

/-- Loads of one name coincide. -/
theorem loadVariable (name : String) (place : Location) :
    Coincide old owner naming (Lowering.loadVariable name place) (Lowering.loadVariable name place)
      fun larger => larger.Operands owner := by
  refine .bind (.resolveVariable name place)
    fun larger grows (kind, slot) (other, standing) ⟨same, belongs, slots⟩ => ?_
  -- Both runs find slots of one kind, which correspond.
  obtain rfl : kind = other := same
  refine .bind (.emit name name fun further more register another named =>
    .load kind named (belongs ▸ (slots.mono more).2)) fun further more register another named => ?_
  exact .pure fun last grown => .register kind (grown.locals _ _ _ named)

/-- So do stores in slots that stand for each other. -/
theorem storeVariable (name : String) (kind : ValueKind) {slot standing : Slot}
    {value other : Operand} (belongs : slot.function = owner) (slots : naming.Slots slot standing)
    (values : naming.Operands owner value other) (place : Location) :
    Coincide old owner naming (Lowering.storeVariable name kind slot value place)
      (Lowering.storeVariable name kind standing other place) fun _ _ _ => True := by
  unfold Lowering.storeVariable
  -- Kinds are not renamed, so both runs store or both refuse.
  rw [values.kind]
  split
  · exact .emitUnnamed (.store kind values (belongs ▸ slots.2))
  · exact .refuse _ rfl

/-- The targets of assignments are variables that stand for each other. -/
theorem resolveTarget (place : Location) (operator : String) (target : Tree) :
    Coincide old owner naming (Lowering.resolveTarget place operator target)
      (Lowering.resolveTarget place operator target)
      fun larger found other => found.1 = other.1 ∧ larger.Variables owner found.2 other.2 := by
  unfold Lowering.resolveTarget
  split
  · rename_i targetPlace name kind
    dsimp only
    -- Both runs refuse the operator, or neither does.
    split
    · exact .refuse_bind rfl
    · refine .bind (.usedName name) fun _ _ used other same => ?_
      obtain rfl : used = other := same
      exact .bind (.resolveVariable used targetPlace) fun _ _ _ _ found =>
        .pure fun _ grown => ⟨rfl, found.mono grown⟩
  · dsimp only
    split
    · exact .refuse_bind rfl
    · exact .refuse _ rfl

/-- Callees do so, too. -/
theorem resolveCallee (place : Location) (callee : Tree) :
    Coincide old owner naming (Lowering.resolveCallee place callee)
      (Lowering.resolveCallee place callee) fun larger => larger.Callees := by
  unfold Lowering.resolveCallee
  split
  · rename_i calleePlace name kind
    refine .bind (.usedName name) fun _ _ used other same => ?_
    obtain rfl : used = other := same
    refine .scopes fun larger grows fresh later abreast => ?_
    -- A name is bound in both runs or in none.
    have found := abreast.lookup used
    generalize fresh.scopes.lookup used = first, later.scopes.lookup used = second at found ⊢
    cases found with
    | none => exact .bind (.suggestion used) fun _ _ _ _ _ => .refuse _ rfl
    | some bound =>
      cases bound with
      | var kind slots => exact .refuse _ rfl
      | fn result parameters handles =>
        exact .pure fun _ grown => ⟨rfl, grown.functions _ _ handles, rfl, rfl⟩
  · exact .refuse _ rfl

/-- Callees that stand for each other have equally many parameters. -/
theorem checkCount {callee other : Callee} (same : naming.Callees callee other) (found : Nat)
    (place : Location) :
    Coincide old owner naming (Lowering.checkCount callee found place)
      (Lowering.checkCount other found place) fun _ _ _ => True := by
  unfold Lowering.checkCount
  -- Callees that correspond have the same parameters.
  rw [same.parameters]
  split
  · exact .pure fun _ _ => trivial
  · exact .refuse _ rfl

/-- Operands that stand for each other are of one kind. -/
theorem checkArgument (callee : String) (position : Nat) (expected : ExactKind)
    {value other : Operand} (values : naming.Operands owner value other) (place : Location) :
    Coincide old owner naming (Lowering.checkArgument callee position expected value place)
      (Lowering.checkArgument callee position expected other place) fun _ _ _ => True := by
  unfold Lowering.checkArgument
  rw [values.kind]
  split
  · exact .pure fun _ _ => trivial
  · exact .refuse _ rfl

/-- Calls of callees that stand for each other have such results. -/
theorem emitCall {callee other : Callee} (same : naming.Callees callee other)
    {arguments values : List Operand}
    (passed : List.Forall₂ (naming.Operands owner) arguments values) :
    Coincide old owner naming (Lowering.emitCall callee arguments) (Lowering.emitCall other values)
      fun larger => Option.Rel (larger.Operands owner) := by
  unfold Lowering.emitCall
  -- Both callees return the same kind of value.
  rw [same.name, same.result]
  split
  · rename_i kind answers
    refine .bind (.emit _ _ fun further more register another named =>
      .call (.some ⟨named, rfl⟩) (more.functions _ _ same.handles)
        (passed.imp fun _ _ held => held.mono more))
      fun further more register another named => ?_
    exact .pure fun last grown => .some (.register kind (grown.locals _ _ _ named))
  · exact .bind (.emitUnnamed (.call .none same.handles passed)) fun _ _ _ _ _ => .pure
      fun _ _ => .none

/-- One operand is a number exactly if the other one is. -/
theorem checkNumber (sign : String) {operand other : Operand}
    (same : naming.Operands owner operand other) (place : Location) :
    Coincide old owner naming (Lowering.checkNumber sign operand place)
      (Lowering.checkNumber sign other place) fun _ _ _ => True := by
  unfold Lowering.checkNumber
  rw [same.kind]
  split
  · exact .pure fun _ _ => trivial
  · exact .refuse _ rfl

/-- Operations on operands that stand for each other have such results. -/
theorem emitArithmetic (sign : String) {left right first second : Operand}
    (lefts : naming.Operands owner left first) (rights : naming.Operands owner right second)
    (place : Location) :
    Coincide old owner naming (Lowering.emitArithmetic sign left right place)
      (Lowering.emitArithmetic sign first second place) fun larger => larger.Operands owner := by
  unfold Lowering.emitArithmetic
  split
  · exact .refuse _ rfl
  · rename_i operator base known
    refine .bind (.checkNumber sign lefts place) fun larger grows _ _ _ =>
      .bind (.checkNumber sign (rights.mono grows) place) fun further more _ _ _ => ?_
    -- The registers of both runs are paired when the instruction is put down.
    have both := grows.trans more
    refine .bind (.emit base base fun last grown register another named =>
      .arithmetic operator named (lefts.mono (both.trans grown)) (rights.mono (both.trans grown)))
      fun last grown register another named => ?_
    exact .pure fun _ held => .register .num (held.locals _ _ _ named)

/-- A value that is asked for coincides if its expression does. -/
theorem required (place : Location) {expression other : Lowering (Option Operand)}
    (same : Coincide old owner naming expression other fun larger =>
      Option.Rel (larger.Operands owner)) :
    Coincide old owner naming (Lowering.required place expression) (Lowering.required place other)
      fun larger => larger.Operands owner := by
  refine .bind same fun larger grows answer another held => ?_
  -- There is a value in both, or in neither.
  cases held with
  | none => exact .refuse _ rfl
  | some value => exact .pure fun _ grown => value.mono grown

end Coincide

end Lowering

namespace Tree

open Lowering

/-- Lowering any tree as an expression, and as arguments, ends alike in both sessions. -/
theorem lowerExpression_coincides_all (old : List Function) :
    (∀ tree owner naming, Coincide old owner naming (lowerExpression tree) (lowerExpression tree)
      fun larger => Option.Rel (larger.Operands owner)) ∧
    (∀ callee place tree owner naming other, Renaming.Callees naming callee other →
      Coincide old owner naming (lowerArguments callee place tree) (lowerArguments other place tree)
        fun larger => List.Forall₂ (larger.Operands owner)) ∧
    (∀ callee position kinds items owner naming,
      Coincide old owner naming (lowerItems callee position kinds items)
        (lowerItems callee position kinds items)
        fun larger => List.Forall₂ (larger.Operands owner)) := by
  refine lowerExpression.mutual_induct
    (fun tree => ∀ owner naming,
      Coincide old owner naming (lowerExpression tree) (lowerExpression tree)
      fun larger => Option.Rel (larger.Operands owner))
    (fun callee place tree => ∀ owner naming other, Renaming.Callees naming callee other →
      Coincide old owner naming (lowerArguments callee place tree) (lowerArguments other place tree)
        fun larger => List.Forall₂ (larger.Operands owner))
    (fun callee position kinds items => ∀ owner naming,
      Coincide old owner naming (lowerItems callee position kinds items)
      (lowerItems callee position kinds items)
        fun larger => List.Forall₂ (larger.Operands owner))
    ?number ?boolean ?identifier ?assignment ?call ?binary ?other ?list ?text ?noList ?item
      ?nil ?noKinds
  case number => exact fun _ value owner naming => .pure fun _ _ => .some (.number value)
  case boolean => exact fun _ value owner naming => .pure fun _ _ => .some (.boolean value)
  case identifier =>
    intro place name _ owner naming
    refine .bind (.usedName name) fun _ _ used other same => ?_
    obtain rfl : used = other := same
    exact .bind (.loadVariable used place) fun _ _ _ _ same =>
      .pure fun _ grown => .some (same.mono grown)
  case assignment =>
    intro place left right operator value_coincides owner naming
    -- The variable that is found first is stored to behind the value.
    refine .bind (.resolveTarget place operator.shown left)
      fun larger grows found another same => ?_
    obtain ⟨name, kind, slot⟩ := found
    obtain ⟨another, other, standing⟩ := another
    obtain ⟨names, kinds, belongs, slots⟩ := same
    obtain rfl : name = another := names
    obtain rfl : kind = other := kinds
    refine .bind (.required _ (value_coincides owner larger))
      fun further more value result values => ?_
    refine .bind (.storeVariable name kind belongs (slots.mono more) values place)
      fun last grown _ _ _ => ?_
    exact .pure fun _ held => .some (values.mono (grown.trans held))
  case call =>
    intro place callee arguments arguments_coincide owner naming
    refine .bind (.resolveCallee place callee) fun larger grows callee other same => ?_
    exact .bind (arguments_coincide callee owner larger other same) fun further more _ _ passed =>
      .emitCall (same.mono more) passed
  case binary =>
    intro place left right operator left_coincides right_coincides owner naming
    refine .bind (.required _ (left_coincides owner naming))
      fun larger grows first other lefts => ?_
    refine .bind (.required _ (right_coincides owner larger))
      fun further more second another rights => ?_
    refine .bind (.usedSign operator) fun last grown sign used same => ?_
    obtain rfl : sign = used := same
    exact .bind (.emitArithmetic sign (lefts.mono (more.trans grown)) (rights.mono grown) place)
      fun _ _ _ _ same => .pure fun _ held => .some (same.mono held)
  case other =>
    intro tree _ _ _ _ _ _ owner naming
    rw [lowerExpression] <;> first | assumption | exact .refuse _ rfl
  case list =>
    intro callee place items items_coincide owner naming other same
    refine .bind (.checkCount same _ place) fun larger grows _ _ _ => ?_
    rw [← same.name, ← same.parameters]
    exact items_coincide owner larger
  case text =>
    intro callee place value owner naming other same
    refine .bind (.checkCount same _ place) fun larger grows _ _ _ => ?_
    split
    · exact .pure fun _ _ => .nil
    · exact .refuse _ rfl
  case noList =>
    intro callee place tree noList noText owner naming other same
    rw [lowerArguments, lowerArguments] <;> first | assumption | exact .stop _
  case item =>
    intro callee position kind kinds item rest item_coincides rest_coincides owner naming
    refine .bind (.required _ (item_coincides owner naming))
      fun larger grows value other values => ?_
    refine .bind (.checkArgument callee position kind values _) fun further more _ _ _ => ?_
    refine .bind (rest_coincides owner further) fun last grown _ _ passed => ?_
    exact .pure fun _ held => .cons (values.mono ((more.trans grown).trans held))
      (passed.imp fun _ _ same => same.mono held)
  case nil =>
    intro callee position kinds owner naming
    rw [lowerItems]
    exact .pure fun _ _ => .nil
  case noKinds =>
    intro items callee position some_items owner naming
    rw [lowerItems]
    · exact .pure fun _ _ => .nil
    · exact some_items

/-- Lowering an expression that must have a value ends alike in both sessions. -/
theorem lowerValue_coincides {old : List Function} {owner : Name} {naming : Renaming}
    (tree : Tree) :
    Coincide old owner naming (lowerValue tree) (lowerValue tree) fun larger =>
      larger.Operands owner :=
  .required _ ((lowerExpression_coincides_all old).1 tree owner naming)

end Tree

end LoopLang
