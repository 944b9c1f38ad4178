import LoopLang.Proofs.Calls.Text
import LoopLang.Proofs.Execution.Evaluation

/-! The functions that calls mean are those of the program: a number counts them in the order of
their declarations. -/

namespace LoopLang

/-- A call means a function of its name. -/
def CallSite.IsNumbered (closures : List Closure) (site : CallSite) : Prop :=
  ∀ number, site.meant = some (.function number) → ∃ closure,
    closures[number]? = some closure ∧ closure.name = some site.callee

/-- What is declared as a function at a place is the function of that name. -/
def Spot.Numbers (closures : List Closure) (spot : Spot) : Prop :=
  ∀ name number, (name, .function number) ∈ spot.declared → ∃ closure,
    closures[number]? = some closure ∧ closure.name = some name

namespace Spot.Numbers

variable {all : List Closure} {spot : Spot}

/-- The name of a variable is that of no function. -/
theorem declare (numbers : spot.Numbers all) (name : String) : (spot.declare name).Numbers all := by
  intro other number member
  rcases List.mem_cons.mp member with same | earlier
  · cases same
  · exact numbers other number earlier

/-- Variables are declared without a number, however many they are. -/
theorem declare_all (names : List String) {spot : Spot} (numbers : spot.Numbers all) :
    (names.foldl Spot.declare spot).Numbers all := by
  induction names generalizing spot with
  | nil => exact numbers
  | cons name rest ih => exact ih (numbers.declare name)

/-- A function that is declared gets the number that it has among all. -/
theorem announce (numbers : spot.Numbers all) {closure : Closure}
    (next : all[spot.next]? = some closure) {name : String} (named : closure.name = some name) :
    (spot.announce name).Numbers all := by
  intro other number member
  -- Either the name just announced is meant, or one from before.
  rcases List.mem_cons.mp member with same | earlier
  · cases same
    exact ⟨closure, next, named⟩
  · exact numbers other number earlier

end Spot.Numbers

namespace Expression

mutual

/-- The calls in an expression stand where it does, and mean what is declared there. -/
theorem calls_meant {spot : Spot} : ∀ value : Expression, ∀ site ∈ value.calls spot,
    site.caller = spot.caller ∧ site.meant = spot.declared.lookup site.callee
  | .number .. | .boolean .. | .identifier .. => List.forall_mem_nil _
  | .call _ _ arguments =>
    List.forall_mem_append.mpr ⟨callsAll_meant arguments, List.forall_mem_singleton.mpr ⟨rfl, rfl⟩⟩
  | .binary _ _ left right => List.forall_mem_append.mpr ⟨calls_meant left, calls_meant right⟩
  | .assign _ _ value => calls_meant value

/-- So do the calls in arguments. -/
theorem callsAll_meant {spot : Spot} : ∀ values : List Expression, ∀ site ∈ callsAll spot values,
    site.caller = spot.caller ∧ site.meant = spot.declared.lookup site.callee
  | [] => List.forall_mem_nil _
  | first :: rest => List.forall_mem_append.mpr ⟨calls_meant first, callsAll_meant rest⟩

end

/-- Where functions are numbered, calls mean the functions of these numbers. -/
theorem calls_numbered {all : List Closure} {spot : Spot} (numbers : spot.Numbers all)
    (value : Expression) :
    ∀ site ∈ value.calls spot, site.IsNumbered all := by
  intro site member number meant
  obtain ⟨-, same⟩ := value.calls_meant site member
  obtain ⟨before, after, declared, -⟩ := List.lookup_eq_some_iff.mp (same.symm.trans meant)
  exact numbers _ _ (declared ▸ List.mem_append_right before List.mem_cons_self)

end Expression

namespace Statement

mutual

/-- A statement has as many functions as are counted in it. -/
theorem closures_length : ∀ (statement : Statement) (visible : List (String × Closure)),
    (closures visible statement).length = statement.functions
  | .function _ _ _ _ body _, _ => congrArg (· + 1) (closuresAll_length body _)
  | .block _ body, _ | .loop _ _ _ body _, _ | .when _ _ _ body, _ => closuresAll_length body _
  -- Both arms see the same names, and their functions are counted one behind the other.
  | .choose _ _ _ thenBody _ elseBody, visible => by
    rw [closures, List.length_append, closuresAll_length thenBody,
      closuresAll_length elseBody, functions]
  | .declare .., _ | .return .., _ | .break .., _ | .continue .., _ | .evaluate _, _ => rfl

/-- So do statements one after the other. -/
theorem closuresAll_length : ∀ (body : List Statement) (visible : List (String × Closure)),
    (closuresAll visible body).length = functionsAll body
  | [], _ => rfl
  | statement :: rest, visible => by
    rw [closuresAll, List.length_append, closures_length statement, closuresAll_length rest,
      functionsAll]

end

/-- Of two rows in front of a third one, the second begins where the first ends. -/
theorem prefixes_of_append {α : Type} {first second whole : List α} {start : Nat}
    (ahead : first ++ second <+: whole.drop start) :
    first <+: whole.drop start ∧ second <+: whole.drop (start + first.length) := by
  obtain ⟨rest, same⟩ := ahead
  rw [List.append_assoc] at same
  exact ⟨⟨_, same⟩, rest, by rw [← List.drop_drop, ← same, List.drop_left]⟩

mutual

/-- The calls in a statement mean functions of their names, and so do the names that it declares. -/
theorem calls_numbered {all : List Closure} :
    ∀ (statement : Statement) (visible : List (String × Closure)) (spot : Spot),
    spot.Numbers all → closures visible statement <+: all.drop spot.next →
      (∀ site ∈ statement.calls spot, site.IsNumbered all) ∧ (statement.spotBehind spot).Numbers all
  | .function _ name parameters _ body result, visible, spot, numbers, ahead => by
    -- The function itself is the next one, and those of its body come behind it.
    obtain ⟨own, inside⟩ := @prefixes_of_append _ [_] _ _ _ ahead
    have next : all[spot.next]? = some ⟨some name.name, parameters, body, result, visible⟩ := by
      obtain ⟨rest, same⟩ := own
      rw [← List.head?_drop, ← same]
      rfl
    have announced := numbers.announce next rfl
    -- Inside, the parameters are declared behind the name of the function.
    have entered : (spot.enter name.name (parameters.map Parameter.name)).Numbers all :=
      .declare_all _ announced
    have begins : (spot.enter name.name (parameters.map Parameter.name)).next = spot.next + 1 :=
      (Spot.declare_all _ _).2
    exact ⟨callsAll_numbered body _ _ entered (begins ▸ inside), announced⟩
  | .declare _ name _ value, _, _, numbers, _ =>
    ⟨value.calls_numbered numbers, numbers.declare name.name⟩
  | .return _ (some value), _, _, numbers, _
  | .evaluate value, _, _, numbers, _ => ⟨value.calls_numbered numbers, numbers⟩
  | .return _ none, _, _, numbers, _ | .break .., _, _, numbers, _
  | .continue .., _, _, numbers, _ =>
    ⟨List.forall_mem_nil _, numbers⟩
  | .block _ body, visible, spot, numbers, ahead =>
    ⟨callsAll_numbered body visible spot numbers ahead, numbers⟩
  | .when _ condition _ body, visible, spot, numbers, ahead
  | .loop _ condition _ body _, visible, spot, numbers, ahead =>
    ⟨List.forall_mem_append.mpr
      ⟨condition.calls_numbered numbers, callsAll_numbered body visible spot numbers ahead⟩,
      numbers⟩
  | .choose _ condition _ thenBody _ elseBody, visible, spot, numbers, ahead => by
    -- The functions of the second arm are numbered behind those of the first one.
    obtain ⟨first, second⟩ := prefixes_of_append ahead
    rw [closuresAll_length] at second
    exact ⟨List.forall_mem_append.mpr ⟨List.forall_mem_append.mpr ⟨condition.calls_numbered numbers,
      callsAll_numbered thenBody visible spot numbers first⟩,
      callsAll_numbered elseBody visible (spot.skip (functionsAll thenBody)) numbers second⟩,
        numbers⟩

/-- So do the calls in statements. -/
theorem callsAll_numbered {all : List Closure} :
    ∀ (body : List Statement) (visible : List (String × Closure)) (spot : Spot),
    spot.Numbers all → closuresAll visible body <+: all.drop spot.next →
    ∀ site ∈ callsAll spot body, site.IsNumbered all
  | [], _, _, _, _ => List.forall_mem_nil _
  | statement :: rest, visible, spot, numbers, ahead => by
    obtain ⟨first, others⟩ := prefixes_of_append ahead
    obtain ⟨called, behind⟩ := calls_numbered statement visible spot numbers first
    -- The functions of the rest begin where those of the first statement end.
    rw [closures_length, ← spotBehind_next] at others
    exact List.forall_mem_append.mpr ⟨called, callsAll_numbered rest _ _ behind others⟩

end

end Statement

/-- The calls in a program mean functions of their names, among those of the program. -/
theorem Program.calls_numbered (program : Program) :
    ∀ site ∈ program.calls, site.IsNumbered program.closures :=
  Statement.callsAll_numbered program.body [] .start
    (fun _ _ member => absurd member List.not_mem_nil) (List.prefix_refl _)

end LoopLang
