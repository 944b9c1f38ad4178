import LoopLang.Proofs.Scope.Visibility
import LoopLang.Scope.Inference

/-! Outlines: of what the open frames declare, no more than inference looks at. -/

namespace LoopLang

/-- A binding without the slot of a variable and without the handle of a function. -/
def Binding.outline : Binding → Binding
  | .var kind _ => .var kind none
  | .fn _ result parameters => .fn (.text "") result parameters

namespace Tree

variable {scopes others : Scopes}

/--
What a name is bound to has the same outline where all names have, provided that some frame is open
in both or in none.
-/
theorem boundTo_congr (alike : others.depth = 0 ↔ scopes.depth = 0)
    (same : ∀ name, (others.lookup name).map Binding.outline =
      (scopes.lookup name).map Binding.outline)
    (name : Tree) :
    (boundTo others name).map (·.map Binding.outline) = (boundTo scopes name).map
      (·.map Binding.outline) := by
  cases name with
  -- A list cannot be looked up, which is noticed where there is a frame to look in.
  | list items =>
    simp only [boundTo, alike]
  | _ => exact congrArg Except.ok (same _)

/-- A function of bindings that sees no more than their outlines. -/
theorem map_boundTo_congr {α : Type} {look : Option Binding → α}
    (sees : ∀ bound : Option Binding, look (bound.map Binding.outline) = look bound)
    (alike : others.depth = 0 ↔ scopes.depth = 0)
    (same : ∀ name, (others.lookup name).map Binding.outline =
      (scopes.lookup name).map Binding.outline)
    (name : Tree) : (boundTo others name).map look = (boundTo scopes name).map look := by
  have outlined := congrArg (Except.map look) (boundTo_congr alike same name)
  -- What is looked at can be read from the outline.
  have seen : ∀ found : Except InferenceError (Option Binding),
      (found.map (·.map Binding.outline)).map look = found.map look := by
    rintro (_ | bound)
    · rfl
    · exact congrArg Except.ok (sees bound)
  rwa [seen, seen] at outlined

/-- What a tree settles depends on nothing but the kinds that names are bound to. -/
theorem settledKind_congr_all (alike : others.depth = 0 ↔ scopes.depth = 0)
    (same : ∀ name, (others.lookup name).map Binding.outline =
      (scopes.lookup name).map Binding.outline) :
    (∀ tree : Tree, settledKind others tree = settledKind scopes tree) ∧
      ∀ trees : List Tree, settledKindOfItems others trees = settledKindOfItems scopes trees := by
  -- What an identifier or a callee is bound to counts only for its outline.
  have identifiers (name kind : Tree) :
      identifierKind? others name kind = identifierKind? scopes name kind := by
    unfold identifierKind?
    split
    · rw [map_boundTo_congr (fun bound => ?_) alike same]
      rcases bound with _ | (_ | _) <;> rfl
    · rfl
  have callees (callee : Tree) : calleeKind? others callee = calleeKind? scopes callee := by
    unfold calleeKind?
    split
    · refine map_boundTo_congr (fun bound => ?_) alike same _
      rcases bound with _ | (_ | _) <;> rfl
    · rfl
  -- By the recursion of inference, which looks names up for identifiers and callees only.
  apply settledKind.mutual_induct
    (fun tree => settledKind others tree = settledKind scopes tree)
    (fun trees => settledKindOfItems others trees = settledKindOfItems scopes trees)
  all_goals intros
  all_goals simp only [settledKind, settledKindOfItems, *]

/-- So does the kind that is inferred. -/
theorem infer_congr (alike : others.depth = 0 ↔ scopes.depth = 0)
    (same : ∀ name, (others.lookup name).map Binding.outline =
      (scopes.lookup name).map Binding.outline)
    (value : Tree) : value.infer others = value.infer scopes := by
  rw [infer, infer, (settledKind_congr_all alike same).1 value]

end Tree

/-- The outlines of the tables of frames that are open, innermost first. -/
abbrev Outline := List (List (String × Binding))

namespace Outline

/-- Frames that declare what an outline says. -/
def scopes (outline : Outline) : Scopes :=
  ⟨outline.map fun symbols => { Frame.opened none {} none with symbols }, none, []⟩

/-- A name is declared in the innermost frame. -/
def declare (outline : Outline) (name : String) (binding : Binding) : Outline :=
  match outline with
  | [] => []
  | table :: outer => (table ++ [(name, binding)]) :: outer

/-- Such frames have the tables of the outline. -/
@[simp] theorem tables_scopes (outline : Outline) : outline.scopes.tables = outline := by
  simp [scopes, Scopes.tables, Function.comp_def]

end Outline

namespace Scopes

/-- The outline of the open frames. -/
def outline (scopes : Scopes) : Outline :=
  scopes.tables.map fun table => table.map fun (name, binding) => (name, binding.outline)

/-- A name means in the outline what it means, as far as the outline tells. -/
theorem lookup_outline (scopes : Scopes) (name : String) :
    scopes.outline.scopes.lookup name = (scopes.lookup name).map Binding.outline := by
  have found (table : List (String × Binding)) :
      (table.map fun (name, binding) => (name, binding.outline)).lookup name =
      (table.lookup name).map Binding.outline := by
    induction table with
    | nil => rfl
    | cons entry rest ih =>
      rw [List.map_cons, List.lookup_cons, List.lookup_cons, ih]
      split <;> rfl
  rw [lookup_eq, lookup_eq, Outline.tables_scopes, outline]
  -- By induction on the tables, the innermost one being the first to be asked.
  induction scopes.tables with
  | nil => rfl
  | cons table outer ih =>
    rw [List.map_cons, List.findSome?_cons, List.findSome?_cons, found table, ih]
    cases table.lookup name <;> rfl

/-- What is inferred from the outline is what is inferred. -/
theorem infer_outline (scopes : Scopes) (value : Tree) :
    value.infer scopes.outline.scopes = value.infer scopes := by
  refine Tree.infer_congr (by simp [depth, outline, Outline.scopes, tables]) (fun name => ?_) value
  rw [lookup_outline]
  rcases scopes.lookup name with _ | (_ | _) <;> rfl

/-- A name that is declared is declared in the outline. -/
theorem outline_declare {scopes later : Scopes} {name : String} {binding : Binding}
    (declared : scopes.declare name binding = .ok later) :
    later.outline = scopes.outline.declare name binding.outline := by
  obtain ⟨frame, outer, opened, _, _, frames⟩ := Builder.declare_ok declared
  simp [outline, tables, opened, frames, Outline.declare]

/-- An outline of the same tables is the same. -/
theorem outline_congr {scopes later : Scopes} (same : later.tables = scopes.tables) :
    later.outline = scopes.outline := by
  rw [outline, same, outline]

end Scopes

end LoopLang
