import LoopLang.Parser.Basic
import LoopLang.Proofs.Lowering.Refusal
import LoopLang.Proofs.Session

/-! Compilation: what can come of a text that is parsed and then compiled in a new session. -/

namespace LoopLang

namespace ParseCause

/-- A parse error is about the form of a text or about an annotation in it. -/
theorem category_or (cause : ParseCause) :
    cause.category = .parseError ∨ cause.category = .invalidType ∧ ∃ error,
      cause = .wrongType error := by
  cases cause
  case wrongType error => exact .inr ⟨rfl, error, rfl⟩
  all_goals exact .inl rfl

end ParseCause

namespace Cause

/-- The families that a program of the grammar can be refused for. -/
def refusals : List Category :=
  [.duplicateSymbol, .unknownSymbol, .voidValue, .unsupportedOperator, .kindMismatch,
    .malformedNode]

variable {strays : List JumpSite} {place : Location} {cause : Cause}

/-- A regular cause belongs to one of those families. -/
theorem IsRegular.category_mem (regular : cause.IsRegular strays place) :
    cause.category ∈ refusals := by
  -- The other families are those of the causes that are not regular.
  cases cause <;> first | exact False.elim regular | simp [category, refusals]

/-- The only regular cause about the form of a tree is a jump by which no loop is meant. -/
theorem IsRegular.of_malformed (regular : cause.IsRegular strays place)
    (malformed : cause.category = .malformedNode) :
    ∃ jump label, cause = .noLoop jump label ∧ ⟨jump, place, label⟩ ∈ strays := by
  cases cause
  case noLoop jump label => exact ⟨jump, label, rfl, regular⟩
  all_goals first | exact False.elim regular | exact nomatch malformed

/-- The only regular cause about an operator is an operand that is no number. -/
theorem IsRegular.of_operator (regular : cause.IsRegular strays place)
    (unsupported : cause.category = .unsupportedOperator) :
    ∃ operator found, cause = .operandKind operator found ∧ found ≠ .num := by
  cases cause
  case operandKind operator found => exact ⟨operator, found, rfl, regular⟩
  all_goals first | exact False.elim regular | exact nomatch unsupported

end Cause

namespace Lowering

/-- The function that a program becomes is in no loop. -/
theorem Tame.entry {loops : List (Option String)} {reasons : Reasons} {body : Lowering Unit}
    {name : Document} (named : IsName name) (inside : Tame [] reasons body) :
    Tame loops reasons (lowerEntry name body) := by
  -- A list or an object is no name, and has been excluded.
  have read : Tame loops reasons (readName name) := by
    cases name with
    | list _ => exact named.elim
    | object _ => exact named.elim
    | _ => exact .pure _
  exact .bind read fun _ => .bind (.createTypedFunction _ _ _) fun _ =>
    .bind (.functionBody _ _ inside) fun _ => .pure _

/-- A program of the grammar is refused for a regular cause, and no rule of building is broken. -/
theorem lowerProgram_regular {start : Builder} (sound : start.Sound)
    (reachable : start.scopes.Reachable) {name : Document} (named : IsName name)
    (program : Program) :
    (program.toTree.lowerProgram name).Ends start (fun _ finish => finish.Sound)
      fun failure finish =>
        finish.Sound ∧ ∃ cause place,
          failure = .refused cause place ∧ cause.IsRegular program.strays place := by
  have allowed : (Reasons.ofStrays program.strays).Allow program.strays := fun site member =>
    .inr ⟨_, _, rfl, member⟩
  have tame : Tame (Scopes.loopLabels start.scopes.frames) (.ofStrays program.strays)
      (program.toTree.lowerProgram name) :=
    .entry named (.statements program.body allowed)
  refine ((lowerProgram_ends sound name program.toTree).and (tame.fails start reachable rfl)).imp
    (fun _ _ held => held.1.sound) fun failure finish ⟨⟨sound, _, outside, _⟩, regular⟩ =>
      ⟨sound, ?_⟩
  -- What is left besides regular causes are breaches of the rules of building.
  exact regular.resolve_left outside

end Lowering

namespace Session

/--
A text that is parsed, and then compiled in a new session with the default settings, comes to one of
these: it is refused by the parser for its form or for an annotation; or it is refused by lowering
for one of a few families of causes, of which only a jump by which no loop is meant has to do with
the form of the program, and only an operand that is no number with an operator; or it is compiled.
No rule of building is ever broken, no kind is found to be missing, and no two functions get the
same name.
-/
theorem compile_parsed (text : String) (debug : Bool) :
    ∃ session, Session.start (.object []) debug = .ok session ∧
      match Program.parse text with
      | .error error => error.diagnostic.category = .parseError ∨
          error.diagnostic.category = .invalidType ∧ ∃ annotation,
            error.cause = .wrongType annotation
      | .ok program =>
        (session.compile program.toTree).2.builder.code.handles.Nodup ∧
        ∀ failure, (session.compile program.toTree).1 = .error failure →
          ∃ cause place, failure = .refused cause place ∧ (cause.diagnostic place).category ∈
            Cause.refusals ∧ (cause.category = .malformedNode →
              ∃ jump label, cause = .noLoop jump label ∧ ⟨jump, place, label⟩ ∈ program.strays) ∧
            (cause.category = .unsupportedOperator →
              ∃ operator found, cause = .operandKind operator found ∧ found ≠ .num) := by
  refine ⟨_, rfl, ?_⟩
  split
  -- Refused by the parser: an error of syntax, or a word that names no kind.
  · rename_i error _
    exact error.cause.category_or
  -- Parsed programs are lowered without faults of shape, which is what the categories say.
  · rename_i program _
    have named : Lowering.IsName Settings.default.entryName := trivial
    have ends := Lowering.lowerProgram_regular .empty .empty named program
    unfold Lowering.Ends at ends
    rw [compile_eq]
    revert ends
    -- A failure is regular, and regular causes are of the listed categories.
    rcases (program.toTree.lowerProgram Settings.default.entryName).outcome
      .empty with ⟨refused | entry, finish⟩
    · rintro ⟨sound, cause, place, rfl, regular⟩
      refine ⟨sound.tidy.distinct, fun failure failed => ?_⟩
      cases failed
      exact ⟨cause, place, rfl, regular.category_mem, regular.of_malformed, regular.of_operator⟩
    · exact fun sound => ⟨sound.tidy.distinct, fun failure failed => nomatch failed⟩

end Session

end LoopLang
