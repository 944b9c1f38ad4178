import LoopLang.Proofs.Initialisation.Run

/-! Lowering expressions over a ledger: a variable that is read is one that is visible. -/

namespace LoopLang

open Code (Name Operand Instruction Ledger)

namespace Lowering

variable {owner : Name} {visible : List String} {ledger : Ledger}

namespace Steady

/-- A variable that is found is visible and belongs to the function at hand. -/
theorem resolveVariable (name : String) (place : Location) :
    Steady owner visible ledger (Lowering.resolveVariable name place)
      fun _ found => found.2.function = owner ∧ found.2.name ∈ visible := by
  refine .of_looks (fun _ => .resolveVariable name place)
    fun larger _ start settled found held => ?_
  obtain ⟨bound, own⟩ := held
  -- It is one of a frame that is open, and that frame is one of the function whose slot it is.
  obtain rfl : owner = found.2.function := Option.some.inj (settled.function?.symm.trans own)
  obtain ⟨frame, member, declared⟩ := Scopes.mem_of_lookup bound
  refine ⟨rfl, (settled.visible found.2.name).mpr (List.mem_flatMap.mpr ⟨frame, member, ?_⟩)⟩
  exact List.mem_filterMap.mpr ⟨_, declared, rfl⟩

/-- A visible variable has been stored to before it is loaded. -/
theorem loadVariable (name : String) (place : Location) :
    Steady owner visible ledger (Lowering.loadVariable name place) fun _ _ => True := by
  refine .bind (.resolveVariable name place) fun larger _ (kind, slot) ⟨_, shown⟩ => ?_
  refine .bind (.emit name ⟨fun _ => rfl, fun _ => .inr rfl⟩ fun register =>
    ⟨fun read member => ?_, nofun⟩)
    fun _ _ _ _ => .pure fun _ _ => trivial
  -- The slot that is read is that of the name, and visible names have been stored.
  cases member
  exact shown

/-- A store asks for nothing. -/
theorem storeVariable (name : String) (kind : ValueKind) (slot : Slot) (value : Operand)
    (place : Location) :
    Steady owner visible ledger (Lowering.storeVariable name kind slot value place)
      fun _ _ => True := by
  unfold Lowering.storeVariable
  -- A store reads no slot, so nothing is asked of it.
  split
  · exact .emitUnnamed ⟨fun _ => rfl, fun _ => .inl rfl⟩ ⟨nofun, nofun⟩
  · exact .refuse _ _

/-- A call reads no slot of the function that makes it. -/
theorem emitCall (callee : Callee) (arguments : List Operand) :
    Steady owner visible ledger (Lowering.emitCall callee arguments) fun _ _ => True := by
  unfold Lowering.emitCall
  split
  · exact .bind (.emit _ ⟨fun _ => rfl, fun _ => .inr rfl⟩ fun _ => ⟨nofun, nofun⟩) fun _ _ _ _ =>
      .pure fun _ _ => trivial
  · exact .bind (.emitUnnamed ⟨fun _ => rfl, fun _ => .inl rfl⟩ ⟨nofun, nofun⟩) fun _ _ _ _ => .pure
      fun _ _ => trivial

/-- Nor does arithmetic. -/
theorem emitArithmetic (sign : String) (left right : Operand) (place : Location) :
    Steady owner visible ledger (Lowering.emitArithmetic sign left right place)
      fun _ _ => True := by
  unfold Lowering.emitArithmetic
  split
  · exact .refuse _ _
  · refine .bind (.looking fun _ => .checkNumber sign left place) fun _ _ _ _ => ?_
    refine .bind (.looking fun _ => .checkNumber sign right place) fun _ _ _ _ => ?_
    exact .bind (.emit _ ⟨fun _ => rfl, fun _ => .inr rfl⟩ fun _ => ⟨nofun, nofun⟩) fun _ _ _ _ =>
      .pure fun _ _ => trivial

/-- A value that is asked for is steady if its expression is. -/
theorem required (place : Location) {expression : Lowering (Option Operand)}
    (steady : Steady owner visible ledger expression fun _ _ => True) :
    Steady owner visible ledger (Lowering.required place expression) fun _ _ => True := by
  refine .bind steady fun _ _ answer _ => ?_
  split
  · exact .pure fun _ _ => trivial
  · exact .refuse _ _

end Steady

end Lowering

namespace Tree

open Lowering

/-- Lowering any tree as an expression, and as arguments, breaks no promise. -/
theorem lowerExpression_steady_all {owner : Name} {visible : List String} :
    (∀ tree ledger, Steady owner visible ledger (lowerExpression tree) fun _ _ => True) ∧
    (∀ callee place tree ledger, Steady owner visible ledger (lowerArguments callee place tree)
      fun _ _ => True) ∧
    (∀ callee position kinds items ledger,
      Steady owner visible ledger (lowerItems callee position kinds items) fun _ _ => True) := by
  -- By the recursion of lowering. No step of an expression goes anywhere, and it reads visible
  -- variables only.
  refine lowerExpression.mutual_induct
    (fun tree => ∀ ledger, Steady owner visible ledger (lowerExpression tree) fun _ _ => True)
    (fun callee place tree => ∀ ledger,
      Steady owner visible ledger (lowerArguments callee place tree) fun _ _ => True)
    (fun callee position kinds items => ∀ ledger,
      Steady owner visible ledger (lowerItems callee position kinds items) fun _ _ => True)
    ?number ?boolean ?identifier ?assignment ?call ?binary ?other ?list ?text ?noList ?item
      ?nil ?noKinds
  case number => exact fun _ value _ => .pure fun _ _ => trivial
  case boolean => exact fun _ value _ => .pure fun _ _ => trivial
  case identifier =>
    intro place name _ ledger
    refine .bind (.looking fun _ => .usedName name) fun _ _ name _ => ?_
    exact .bind (.loadVariable name place) fun _ _ _ _ => .pure fun _ _ => trivial
  case assignment =>
    intro place left right operator value_steady ledger
    refine .bind (.looking fun _ => .resolveTarget place operator.shown left)
      fun larger _ found _ => ?_
    obtain ⟨name, kind, slot⟩ := found
    refine .bind (.required _ (value_steady larger)) fun _ _ value _ => ?_
    exact .bind (.storeVariable name kind slot value place) fun _ _ _ _ => .pure fun _ _ => trivial
  case call =>
    intro place callee arguments arguments_steady ledger
    refine .bind (.looking fun _ => .resolveCallee place callee) fun larger _ callee _ => ?_
    exact .bind (arguments_steady callee larger) fun _ _ values _ => .emitCall callee values
  case binary =>
    intro place left right operator left_steady right_steady ledger
    refine .bind (.required _ (left_steady ledger)) fun larger _ first _ => ?_
    refine .bind (.required _ (right_steady larger)) fun _ _ second _ => ?_
    refine .bind (.looking fun _ => .usedSign operator) fun _ _ sign _ => ?_
    exact .bind (.emitArithmetic sign first second place) fun _ _ _ _ => .pure fun _ _ => trivial
  case other =>
    intro tree _ _ _ _ _ _ ledger
    rw [lowerExpression] <;> first | assumption | exact .refuse _ _
  case list =>
    intro callee place items items_steady ledger
    exact .bind (.looking fun _ => .checkCount callee _ place) fun _ _ _ _ => items_steady _
  case text =>
    intro callee place value ledger
    refine .bind (.looking fun _ => .checkCount callee _ place) fun _ _ _ _ => ?_
    split
    · exact .pure fun _ _ => trivial
    · exact .refuse _ _
  case noList =>
    intro callee place tree noList noText ledger
    rw [lowerArguments] <;> first | assumption | exact .stop _
  case item =>
    intro callee position kind kinds item rest item_steady rest_steady ledger
    refine .bind (.required _ (item_steady ledger)) fun _ _ value _ => ?_
    refine .bind (.looking fun _ => .checkArgument callee position kind value _)
      fun further _ _ _ => ?_
    exact .bind (rest_steady further) fun _ _ _ _ => .pure fun _ _ => trivial
  case nil =>
    intro callee position kinds ledger
    rw [lowerItems]
    exact .pure fun _ _ => trivial
  case noKinds =>
    intro callee position items filled ledger
    rw [lowerItems] <;> first | assumption | exact .pure fun _ _ => trivial

/-- So does lowering it as an expression that must have a value. -/
theorem lowerValue_steady (tree : Tree) {owner : Name} {visible : List String} {ledger : Ledger} :
    Steady owner visible ledger (lowerValue tree) fun _ _ => True :=
  .required _ (lowerExpression_steady_all.1 tree ledger)

end Tree

end LoopLang
