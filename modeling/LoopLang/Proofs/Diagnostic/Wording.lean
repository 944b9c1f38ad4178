import LoopLang.Lowering.Cause
import LoopLang.Parser.Basic
import LoopLang.Proofs.Diagnostic.Escape
import LoopLang.Proofs.Scope.Suggestion

/-! What diagnostics say: without control sequences, unless a name has some, or a word looks like a
keyword. -/

namespace LoopLang

/-- The words for exact kinds are free of escapes. -/
@[simp] theorem ExactKind.word_free (kind : ExactKind) : EscapeFree kind.word := by
  cases kind <;> decide

/-- So are those for all kinds. -/
@[simp] theorem Kind.word_free (kind : Kind) : EscapeFree kind.word := by
  cases kind with
  | exact kind => exact kind.word_free
  | infer => decide
  | none => decide

/-- So are those for the kinds of values. -/
@[simp] theorem ValueKind.word_free (kind : ValueKind) : EscapeFree kind.word := by
  cases kind <;> decide

/-- So are those for jumps. -/
@[simp] theorem Jump.word_free (jump : Jump) : EscapeFree jump.word := by cases jump <;> decide

section Quoted

variable {text : String} {before after : List Char}

/-- A text behind a fixed one. -/
theorem EscapeFree.behind (free : EscapeFree text) (front : escape ∉ before) :
    EscapeFree (String.ofList before ++ text) :=
  escapeFree_append.mpr ⟨.ofList front, free⟩

/-- A text that is quoted in a fixed one. -/
theorem EscapeFree.quoted (free : EscapeFree text) (front : escape ∉ before)
    (back : escape ∉ after) : EscapeFree (String.ofList before ++ text ++ String.ofList after) :=
  escapeFree_append.mpr ⟨free.behind front, .ofList back⟩

/-- Two texts in a row, with a fixed one behind each of them. -/
theorem EscapeFree.around {first : String} (free : EscapeFree first) (next : EscapeFree text)
    (back : escape ∉ after) : EscapeFree (first ++ text ++ String.ofList after) :=
  escapeFree_append.mpr ⟨escapeFree_append.mpr ⟨free, next⟩, .ofList back⟩

end Quoted

namespace Cause

/-- The names, operators, labels and sorts of trees that a cause quotes are without escapes. -/
def IsFree : Cause → Prop
  -- Of a cause that quotes one text, this text is asked.
  | notAProgram text | unsupportedStatement text | unsupportedExpression text | notABlock text
  | parameterKind text _
  | noResultKind text | functionAlreadyDefined text | alreadyDefined text | functionAsValue text
  | variableAsFunction text
  | voidVariable text | cannotInfer text | storedKind text _ _ | assignmentOperator text
  | binaryOperator text
  | operandKind text _ | argumentCount text _ _ | argumentKind _ text _ _ | resultMissing text _
  | resultUnexpected text _ | resultKind text _ _ => EscapeFree text
  -- The suggestion is shown in the hint.
  | unknownSymbol name suggestion | unknownFunction name suggestion =>
    EscapeFree name ∧ ∀ other ∈ suggestion, EscapeFree other
  | foreignVariable name owner => EscapeFree name ∧ EscapeFree owner
  | noLoop _ label => ∀ name ∈ label, EscapeFree name
  | loopBodyNotBlock | functionNeedsIdentifier | functionBodyNotBlock | parameterNotIdentifier
  | variableNeedsIdentifier
  | targetNotIdentifier | calleeNotIdentifier | voidAsValue | noFunction => True

/-- What is wrong is said without control sequences. -/
theorem message_free : ∀ {cause : Cause}, cause.IsFree → EscapeFree cause.message
  -- The text stands at the end of the message.
  | .notAProgram _, free | .unsupportedStatement _, free | .unsupportedExpression _, free
  | .notABlock _, free => free.behind (by decide)
  -- The text stands between quotes, with words around them.
  | .noResultKind _, free | .functionAlreadyDefined _, free | .alreadyDefined _, free
  | .functionAsValue _, free
  | .variableAsFunction _, free | .voidVariable _, free | .cannotInfer _, free
  | .assignmentOperator _, free
  | .binaryOperator _, free | .unknownSymbol _ _, ⟨free, _⟩ | .unknownFunction _ _, ⟨free, _⟩ =>
    free.quoted (by decide) (by decide)
  | .noLoop jump none, _ => jump.word_free.quoted (by decide) (by decide)
  -- From here on there are two texts or more, with words between them.
  | .noLoop jump (some _), free =>
    (jump.word_free.quoted (by decide) (by decide)).around (free _ rfl) (by decide)
  | .foreignVariable _ _, ⟨name, owner⟩ =>
    (name.quoted (by decide) (by decide)).around owner (by decide)
  | .parameterKind _ kind, free =>
    escapeFree_append.mpr ⟨free.quoted (by decide) (by decide), kind.word_free⟩
  | .operandKind _ found, free =>
    escapeFree_append.mpr ⟨free.quoted (by decide) (by decide), found.word_free⟩
  | .storedKind _ expected found, free =>
    escapeFree_append.mpr
      ⟨(found.word_free.quoted (by decide) (by decide)).around free (by decide), expected.word_free⟩
  | .argumentCount _ expected found, free =>
    escapeFree_append.mpr
      ⟨(free.quoted (by decide) (by decide)).around (escapeFree_nat expected) (by decide),
      escapeFree_nat found⟩
  | .argumentKind position _ expected found, free =>
    escapeFree_append.mpr
      ⟨(((escapeFree_nat position).quoted (by decide) (by decide)).around free
        (by decide)).around expected.word_free (by decide), found.word_free⟩
  | .resultMissing _ expected, free =>
    (free.quoted (by decide) (by decide)).around expected.word_free (by decide)
  | .resultUnexpected _ found, free =>
    (free.quoted (by decide) (by decide)).around found.word_free (by decide)
  | .resultKind _ expected found, free =>
    ((free.quoted (by decide) (by decide)).around expected.word_free (by decide)).around
      found.word_free (by decide)
  -- Messages without any text in them.
  | .loopBodyNotBlock, _ | .functionNeedsIdentifier, _ | .functionBodyNotBlock, _
  | .parameterNotIdentifier, _
  | .variableNeedsIdentifier, _ | .targetNotIdentifier, _ | .calleeNotIdentifier, _
  | .voidAsValue, _ | .noFunction, _ => .ofList (by decide)

/-- So is what may help. -/
theorem hint_free : ∀ {cause : Cause}, cause.IsFree → ∀ hint ∈ cause.hint, EscapeFree hint
  | .alreadyDefined _, _, _, rfl | .foreignVariable _ _, _, _, rfl => .ofList (by decide)
  | .unknownSymbol _ (some _), ⟨_, free⟩, _, rfl | .unknownFunction _ (some _), ⟨_, free⟩, _, rfl =>
    (free _ rfl).quoted (by decide) (by decide)
  | .functionAsValue _, free, _, rfl | .cannotInfer _, free, _, rfl =>
    free.quoted (by decide) (by decide)

end Cause

namespace ParseCause

/-- The character, word, token or type name that a parse error quotes is without escapes. -/
def IsFree : ParseCause → Prop
  | .illegalCharacter char => char ≠ escape
  | .unexpectedEnd => True
  | .misspelledKeyword word keyword => EscapeFree word ∧ EscapeFree keyword
  | .unexpectedToken lexeme _ => EscapeFree lexeme.display
  | .wrongType .voidNotAllowed => True
  | .wrongType (.unknownType word) => EscapeFree word

/-- Whether a word is reported to look like a keyword. -/
def SuspectsTypo (cause : ParseCause) : Prop :=
  ∃ word keyword, cause = .misspelledKeyword word keyword

/-- What is wrong is said without control sequences. -/
theorem message_free : ∀ {cause : ParseCause}, cause.IsFree → EscapeFree cause.message
  | .illegalCharacter char, free => by
    have single : EscapeFree (toString char) := by simpa [EscapeFree, toString] using Ne.symm free
    exact single.quoted (by decide) (by decide)
  | .unexpectedEnd, _ | .wrongType .voidNotAllowed, _ => .ofList (by decide)
  -- The word is quoted, with plain text around it.
  | .misspelledKeyword _ _, ⟨free, _⟩ | .unexpectedToken _ _, free
  | .wrongType (.unknownType _), free => free.quoted (by decide) (by decide)

/-- What was expected is listed in words, between quotes at most. -/
theorem expectedHint_free (expected : List TokenKind) :
    ∀ hint ∈ expectedHint expected, EscapeFree hint := by
  -- Signs and reserved words are described by what they are written with, between quotes.
  have signs (sign : Mark) : EscapeFree sign.text := by
    cases sign <;> exact .ofList (by decide)
  have words (reserved : Keyword) : EscapeFree reserved.word := by
    cases reserved <;> exact .ofList (by decide)
  have described (kind : TokenKind) : EscapeFree kind.description := by
    cases kind with
    | identifier | number => exact .ofList (by decide)
    | mark sign => exact (signs sign).quoted (by decide) (by decide)
    | keyword reserved => exact (words reserved).quoted (by decide) (by decide)
  have listed : List.Forall₂ Colours ((expected.take 5).map TokenKind.description)
      ((expected.take 5).map TokenKind.description) := by
    refine List.forall₂_same.mpr fun text member => ?_
    obtain ⟨kind, -, rfl⟩ := List.mem_map.mp member
    exact .of_free (described kind)
  intro hint proposed
  unfold expectedHint at proposed
  split at proposed
  · cases proposed
  · cases proposed
    exact (Colours.intercalate (by decide) listed).free.behind (by decide)

/-- Only a word that looks like a keyword makes the hint coloured. -/
theorem hint_free :
    ∀ {cause : ParseCause}, ¬ cause.SuspectsTypo → ∀ hint ∈ cause.hint, EscapeFree hint
  -- Only here does the parser write colours on its own.
  | .misspelledKeyword _ _, other, _, _ => absurd ⟨_, _, rfl⟩ other
  | .illegalCharacter _, _, _, proposed => nomatch proposed
  | .unexpectedEnd, _, _, rfl | .wrongType .voidNotAllowed, _, _, rfl => .ofList (by decide)
  | .wrongType (.unknownType _), _, _, rfl => .ofList (by decide)
  | .unexpectedToken lexeme expected, _, hint, proposed => by
    unfold ParseCause.hint at proposed
    dsimp only at proposed
    -- At a brace the hint is a fixed one, else it lists what was expected.
    split at proposed
    · cases proposed
      exact .ofList (by decide)
    · exact expectedHint_free expected hint proposed

/-- The hint on a word that looks like a keyword, with the keyword in bold. -/
def typoHint (word keyword : String) (palette : Palette) : String :=
  "The previous word '" ++ word ++ "' looks like a typo. Did you mean '" ++ palette.bold ++
    keyword ++ palette.reset ++ "'?"

/-- The keyword is in bold whether the rendering is coloured or not. -/
theorem hint_misspelledKeyword (word keyword : String) :
    (misspelledKeyword word keyword).hint = some (typoHint word keyword .terminal) := by
  -- The control sequences are parts of the words around the keyword.
  have opening : "' looks like a typo. Did you mean '" ++ "\x1b[1m" =
      "' looks like a typo. Did you mean '\x1b[1m" :=
    String.ofList_append.symm
  have closing : "\x1b[0m" ++ "'?" = "\x1b[0m'?" := String.ofList_append.symm
  show some ("The previous word '" ++ word ++ "' looks like a typo. Did you mean '\x1b[1m" ++
      keyword ++ "\x1b[0m'?") = _
  rw [← opening, ← closing, ← String.append_assoc, ← String.append_assoc]
  rfl

/-- Without its control sequences that hint is a plain one. -/
theorem typoHint_colours {word keyword : String} (word_free : EscapeFree word)
    (keyword_free : EscapeFree keyword) :
    Colours (typoHint word keyword .terminal) (typoHint word keyword .plain) := by
  -- Only the keyword is coloured, and the word in front of it starts no escape sequence.
  have quoted : EscapeFree
      ("The previous word '" ++ word ++ "' looks like a typo. Did you mean '") :=
    word_free.quoted (by decide) (by decide)
  exact ((((Colours.of_free quoted).append .bold).before keyword_free).append .reset).before
    (by decide)

/-- With them it is not without escapes. -/
theorem typoHint_terminal (word keyword : String) :
    ¬ EscapeFree (typoHint word keyword .terminal) := by
  have coloured : ¬ EscapeFree Palette.terminal.reset := by decide
  exact fun free => coloured (escapeFree_append.mp (escapeFree_append.mp free).1).2

/-- The hint says something in either palette. -/
theorem typoHint_ne_empty (word keyword : String) (palette : Palette) :
    typoHint word keyword palette ≠ "" :=
  fun same => absurd (String.append_eq_empty_iff.mp same).2 (by decide)

end ParseCause

namespace Diagnostic

variable {diagnostic : Diagnostic} {source fileName : String}

/-- The title and the excerpt are the same with and without colours, and so is the whole with such
lines of help. -/
theorem render_colours (other : Option String) (message_free : EscapeFree diagnostic.message)
    (source_free : EscapeFree source) (name_free : EscapeFree fileName)
    (help : List.Forall₂ Colours (diagnostic.helpLines .terminal)
      ({ diagnostic with hint := other }.helpLines .plain)) :
    Colours (diagnostic.render source fileName .terminal)
      ({ diagnostic with hint := other }.render source fileName .plain) := by
  have category : EscapeFree diagnostic.category.name := by cases diagnostic.category <;> decide
  -- The first row; those behind it are taken from the excerpt and the help.
  have title : Colours
      (Palette.terminal.red ++ Palette.terminal.bold ++ "error[" ++
        diagnostic.category.name ++ "]:" ++ Palette.terminal.reset ++ " " ++ diagnostic.message)
      (Palette.plain.red ++ Palette.plain.bold ++ "error[" ++ diagnostic.category.name ++ "]:" ++
        Palette.plain.reset ++ " " ++ diagnostic.message) :=
    ((((((Colours.red.append .bold).before (by decide)).before category).before (by decide)).append
      .reset).before (by decide)).before message_free
  exact .intercalate (by decide)
    (List.rel_append (.cons title (excerptLines_colours source_free name_free)) help)

/-- What is said in a diagnostic is said without control sequences. -/
structure IsNeutral (diagnostic : Diagnostic) : Prop where
  message : EscapeFree diagnostic.message
  hint : ∀ hint ∈ diagnostic.hint, EscapeFree hint

/-- Without colours a rendering has no control sequences, and with colours it is the same once they
are dropped. -/
structure RendersPlainly (diagnostic : Diagnostic) (source fileName : String) : Prop where
  free : EscapeFree (diagnostic.render source fileName .plain)
  same : uncoloured (diagnostic.render source fileName .terminal) =
    diagnostic.render source fileName .plain

/-- In a text without escapes, a diagnostic without control sequences is rendered without them. -/
theorem IsNeutral.rendersPlainly (neutral : diagnostic.IsNeutral) (source_free : EscapeFree source)
    (name_free : EscapeFree fileName) : diagnostic.RendersPlainly source fileName := by
  have help : List.Forall₂ Colours (diagnostic.helpLines .terminal)
      (diagnostic.helpLines .plain) := by
    obtain ⟨category, message, hint, place⟩ := diagnostic
    rcases hint with _ | hint
    · exact .nil
    -- An empty hint is shown like none.
    · by_cases empty : hint = ""
      · subst empty
        exact .nil
      · exact @helpLines_colours ⟨category, message, hint, place⟩ hint hint
          (.of_free (neutral.hint _ rfl)) empty empty
  have colours := render_colours diagnostic.hint neutral.message source_free name_free help
  exact ⟨colours.free, colours.uncoloured_eq⟩

/-- Lines that are joined without control sequences have none. -/
theorem escapeFree_of_intercalate {separator line : String} {lines : List String}
    (free : EscapeFree (separator.intercalate lines)) (member : line ∈ lines) :
    EscapeFree line := by
  -- Every line is a part of the whole.
  induction lines with
  | nil => cases member
  | cons first rest ih =>
    cases rest with
    | nil =>
      rw [List.mem_singleton.mp member]
      simpa using free
    | cons second rest =>
      rw [String.intercalate_cons_cons, escapeFree_append, escapeFree_append] at free
      rcases List.mem_cons.mp member with rfl | later
      · exact free.1.1
      · exact ih free.2 later

/-- A word that looks like a keyword makes a rendering coloured in any case. -/
theorem typo_coloured {word keyword : String}
    (suspected : diagnostic.hint = some (ParseCause.typoHint word keyword .terminal))
    (message_free : EscapeFree diagnostic.message) (source_free : EscapeFree source)
    (name_free : EscapeFree fileName) (word_free : EscapeFree word)
    (keyword_free : EscapeFree keyword) :
    ¬ EscapeFree (diagnostic.render source fileName .plain) ∧
      uncoloured (diagnostic.render source fileName .terminal) ≠
        diagnostic.render source fileName .plain := by
  obtain ⟨category, message, hint, place⟩ := diagnostic
  cases suspected
  have some_hint (palette : Palette) : ParseCause.typoHint word keyword palette ≠ "" :=
    ParseCause.typoHint_ne_empty word keyword palette
  have coloured : ¬ EscapeFree
      (Diagnostic.render ⟨category, message,
        some (ParseCause.typoHint word keyword .terminal), place⟩
      source fileName .plain) := by
    intro free
    -- The hint stands at the end of the last line.
    have last := escapeFree_of_intercalate free (List.mem_append_right _ (by
      simp only [helpLines]
      exact List.mem_singleton_self _))
    exact ParseCause.typoHint_terminal word keyword (escapeFree_append.mp last).2
  refine ⟨coloured, fun same => coloured ?_⟩
  -- What is left of the coloured rendering is the plain one of the same hint without its control
  -- sequences.
  have colours := render_colours
    (some (ParseCause.typoHint word keyword .plain)) message_free source_free name_free
    (@helpLines_colours ⟨category, message, none, place⟩ _ _
      (ParseCause.typoHint_colours word_free keyword_free) (some_hint _) (some_hint _))
  rw [← same, colours.uncoloured_eq]
  exact colours.free

end Diagnostic

end LoopLang
