import LoopLang.Proofs.Scope.Ranking

/-! Suggestions over sessions: in whatever order names are listed, what is unknown comes with the
same suggestion. -/

namespace LoopLang

/-- A cause as it is if the names that may be suggested are listed as given. -/
def Cause.relisted (listed : List String) : Cause → Cause
  | unknownSymbol name _ => unknownSymbol name (suggest name listed)
  | unknownFunction name _ => unknownFunction name (suggest name listed)
  | cause => cause

/-- So is the reason why a function cannot be run. -/
def RunError.relisted (listed : List String) : RunError → RunError
  | noSuchFunction name _ => noSuchFunction name (suggest name listed)
  | error => error

namespace Scopes

/-- The names that some open frame declares. -/
def declaredNames (scopes : Scopes) : Set String :=
  {name | ∃ frame ∈ scopes.frames, name ∈ frame.names}

variable {scopes : Scopes} {name : String} {cause : Cause} {listed : List String}

/-- The names that are listed as visible are those that some open frame declares. -/
theorem enumerates_visibleNames (scopes : Scopes) :
    Enumerates scopes.visibleNames scopes.declaredNames :=
  fun name => by
  simp [visibleNames, declaredNames]

/-- Any other list of them leads to the same suggestion. -/
theorem suggest_listed (enumerates : Enumerates listed scopes.declaredNames) (name : String) :
    suggest name listed = suggest name scopes.visibleNames :=
  suggestAbove_congr enumerates scopes.enumerates_visibleNames

/-- A variable is refused for the same cause if names are listed in another order. -/
theorem variableNamed_relisted (named : scopes.variableNamed name = .error cause)
    (enumerates : Enumerates listed scopes.declaredNames) : cause.relisted listed = cause := by
  unfold variableNamed at named
  repeat' split at named
  all_goals cases named
  case h_1 => exact congrArg (Cause.unknownSymbol name) (suggest_listed enumerates name)
  all_goals rfl

/-- So is a function. -/
theorem functionNamed_relisted (named : scopes.functionNamed name = .error cause)
    (enumerates : Enumerates listed scopes.declaredNames) : cause.relisted listed = cause := by
  unfold functionNamed at named
  split at named <;> cases named
  · exact congrArg (Cause.unknownFunction name) (suggest_listed enumerates name)
  · rfl

end Scopes

/-- Whatever a name is used for, it is refused for the same cause if names are listed in another
order. -/
theorem Builder.Refuses.relisted {moment : Builder} {use : NameUse} {name : String}
    {place : Location} {cause : Cause} {listed : List String}
    (refused : moment.Refuses use name place cause)
    (enumerates : Enumerates listed moment.scopes.declaredNames) :
    cause.relisted listed = cause := by
  -- The two ways to use a name ask for the same suggestions.
  cases use with
  | value => exact Scopes.variableNamed_relisted (refuses_value.mp refused) enumerates
  | callee => exact Scopes.functionNamed_relisted (refuses_callee.mp refused) enumerates

/-- A suggestion is found by the same computation, however the names of the open frames are
listed. -/
theorem Lowering.suggestion_eq {listing : Scopes → List String}
    (enumerates : ∀ scopes, Enumerates (listing scopes) scopes.declaredNames) (name : String) :
    (do return suggest name (listing (← scopes))) = Lowering.suggestion name := by
  unfold Lowering.suggestion
  exact congrArg (scopes >>= ·)
    (funext fun scopes => congrArg pure (Scopes.suggest_listed (enumerates scopes) name))

namespace Session

variable {session : Session} {steps : Nat} {wanted : Option String} {arguments : List Argument}
  {error : RunError}
  {listed : List String}

/-- A function is not found for the same reason if the functions are listed in another order. -/
theorem functionToRun_relisted (missing : session.functionToRun wanted = .error error)
    (enumerates : Enumerates listed {name | name ∈ session.builder.code.functionNames}) :
    error.relisted listed = error := by
  unfold functionToRun functionNamed at missing
  -- Only a name that was asked for gets a suggestion.
  split at missing
  · split at missing
    · cases missing
    · split at missing <;> cases missing
      · rfl
      · exact congrArg (RunError.noSuchFunction _) (suggestAbove_congr enumerates fun _ => .rfl)
  · cases missing
  · cases missing
    rfl

/-- So nothing changes in why a function is not run. -/
theorem run_relisted (refused : session.run steps wanted arguments = .error error)
    (enumerates : Enumerates listed {name | name ∈ session.builder.code.functionNames}) :
    error.relisted listed = error := by
  unfold run at refused
  -- A function that is missing is reported with a suggestion, which no order changes.
  cases found : session.functionToRun wanted with
  | error missing =>
    rw [found] at refused
    cases refused
    exact functionToRun_relisted found enumerates
  | ok function =>
    -- Where there is a function, no other one is suggested.
    rw [found] at refused
    simp only [bind, Except.bind, throw, throwThe, MonadExceptOf.throw, pure,
      Except.pure] at refused
    split at refused
    · cases refused
      rfl
    -- Neither a defect of the code nor a call that fails names other functions.
    · cases verified : session.builder.code.verify with
      | error defect =>
        rw [verified] at refused
        cases refused
        rfl
      | ok _ =>
        rw [verified] at refused
        dsimp only [Except.mapError] at refused
        repeat' split at refused
        all_goals cases refused <;> rfl

/-- A session makes the same suggestions, in whatever order names are listed. -/
structure SuggestsAlike (session : Session) : Prop where
  /-- While a tree is lowered, a suggestion is found by the same computation for every way to list
  the names of the open frames. -/
  finds : ∀ listing : Scopes → List String,
    (∀ scopes, Enumerates (listing scopes) scopes.declaredNames) → ∀ name,
    (do return suggest name (listing (← Lowering.scopes))) = Lowering.suggestion name
  /--
  What a compilation refuses as unknown is looked up at a moment on the way, and refused for the
  same cause with every list of the names that are declared there.
  -/
  compiles : ∀ tree cause place, (session.compile tree).1 = .error (.refused cause place) →
    cause.category = .unknownSymbol →
    ∃ moment use name, session.builder.ComesTo Placement.Any moment ∧ moment.Unwinds
    (session.compile tree).2.builder ∧
      moment.Refuses use name place cause ∧
        ∀ listed, Enumerates listed moment.scopes.declaredNames → cause.relisted listed = cause
  /-- A function is not run for the same reason with every list of the functions that there are. -/
  runs : ∀ steps wanted arguments error, session.run steps wanted arguments = .error error →
    ∀ listed, Enumerates listed {name | name ∈ session.builder.code.functionNames} →
    error.relisted listed = error

/--
Of the names in a set, the one that is suggested for another name is the greatest by similarity and
then by text among those that reach the cutoff; there is none if no name reaches it, and none for a
name of the set. So all lists of the set lead to the same suggestion, and whatever a session finds
unknown comes with the same one, however the names are listed there.
-/
theorem suggestions_ignore_order :
    (∀ (cutoff : Float) (name : String) (names : Set String) (first second : List String),
      Enumerates first names → Enumerates second names →
        suggestAbove cutoff name first = suggestAbove cutoff name second ∧
          ∀ suggestion, suggestAbove cutoff name first = suggestion ↔
          IsSuggestion cutoff name names suggestion) ∧
      ∀ session : Session, session.SuggestsAlike := by
  refine ⟨fun cutoff name names first second one other =>
    ⟨suggestAbove_congr one other, fun suggestion => ?_⟩, fun session => ?_⟩
  · exact ⟨fun made => made ▸ suggestAbove_isSuggestion one, (suggestAbove_isSuggestion one).unique⟩
  · refine ⟨fun listing => Lowering.suggestion_eq, fun tree cause place failed unknown => ?_,
      fun steps wanted arguments error refused listed => run_relisted refused⟩
    obtain ⟨moment, before, behind, arises⟩ := compile_arises failed
    -- An unknown name is one that has been looked up, so that the failure has arisen there.
    obtain ⟨use, name, looked_up⟩ := Cause.lookedUp?_isSome unknown
    have refused : moment.Refuses use name place cause := by
      unfold Failure.ArisesAt at arises
      simpa only [looked_up] using arises
    exact ⟨moment, use, name, before, behind, refused, fun listed => refused.relisted⟩

/-- Of three names that are equally similar the last one in the order of texts is suggested, in a
program as well. -/
theorem rhyme_ignores_order :
    Enumerates ["bat", "hat", "rat"] {"bat", "hat", "rat"} ∧ Enumerates ["rat", "bat", "hat"]
      {"bat", "hat", "rat"} ∧
      suggest "cat" ["bat", "hat", "rat"] = some "rat" ∧ suggest "cat"
        ["rat", "bat", "hat"] = some "rat" ∧
        IsSuggestion defaultCutoff "cat" {"bat", "hat", "rat"} (some "rat") ∧
          ∃ session program cause place error, Session.start (.object []) false = .ok session ∧
            Program.parse "var rat = 1; var bat = 2; cat;" = .ok program ∧
              (session.compile program.toTree).1 = .error (.refused cause place) ∧
              cause.hint = some (didYouMean "rat") ∧
                (∃ moment use name, session.builder.ComesTo Placement.Any moment ∧
                  moment.Unwinds (session.compile program.toTree).2.builder ∧
                  moment.Refuses use name place cause ∧
                    ∀ listed, Enumerates listed moment.scopes.declaredNames →
                    cause.relisted listed = cause) ∧
                  (session.compile program.toTree).2.run 0 (some "entri") [] = .error error ∧
                  error.relisted ["entry"] = error := by
  have one : Enumerates ["bat", "hat", "rat"] {"bat", "hat", "rat"} := fun name => by simp
  have other : Enumerates ["rat", "bat", "hat"] {"bat", "hat", "rat"} := fun name => by
    simp only [List.mem_cons, List.not_mem_nil, or_false, Set.mem_insert_iff, Set.mem_singleton_iff]
    tauto
  -- Both names are equally close, and the later one in the alphabet is taken.
  have made : suggestAbove defaultCutoff "cat" ["rat", "bat", "hat"] = some "rat" := by
    decide +kernel
  obtain ⟨same, determined⟩ := suggestions_ignore_order.1 defaultCutoff "cat" _ _ _ one other
  have started : Session.start (.object []) false = .ok ⟨Settings.default, false, .empty, none⟩ :=
    rfl
  -- The same tie in a session, once in a program and once for the name of a function.
  obtain ⟨program, parsed, checked⟩ : ∃ program,
    Program.parse "var rat = 1; var bat = 2; cat;" = .ok program ∧
      decide ((compile ⟨Settings.default, false, .empty, none⟩ program.toTree).1 =
          .error (.refused (.unknownSymbol "cat" (some "rat")) ⟨1, 27⟩) ∧
        (compile ⟨Settings.default, false, .empty, none⟩
          program.toTree).2.builder.code.functionNames = ["entry"] ∧
          (compile ⟨Settings.default, false, .empty, none⟩ program.toTree).2.run 0
          (some "entri") [] =
            .error (.noSuchFunction "entri" (some "entry"))) = true :=
    parsed_of_any (by decide +kernel)
  obtain ⟨failed, functions, refused⟩ := of_decide_eq_true checked
  -- Both suggestions stay the same in whatever order the names are listed.
  obtain ⟨-, compiles, -⟩ := suggestions_ignore_order.2 ⟨Settings.default, false, .empty, none⟩
  obtain ⟨-, -, runs⟩ :=
    suggestions_ignore_order.2 (compile ⟨Settings.default, false, .empty, none⟩ program.toTree).2
  exact ⟨one, other, same.trans made, made, (determined _).mp (same.trans made), _, program, _, _,
    _, started, parsed, failed, rfl,
    compiles _ _ _ failed rfl, refused, runs _ _ _ _ refused _ fun name => by rw [functions]; rfl⟩

end Session

end LoopLang
