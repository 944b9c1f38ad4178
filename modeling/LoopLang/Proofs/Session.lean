import LoopLang.Proofs.Lowering.Tree
import LoopLang.Session.Basic

/-! Sessions: what lowering a program makes of the code of a session. -/

namespace LoopLang

open Code (Module Name)

namespace Lowering

variable {start : Builder}

/-- Documents that a program's function can be named by. -/
def IsName : Document → Prop
  | .list _ | .object _ => False
  | _ => True

/-- The name of a program's function is read without any change, if there is one. -/
theorem readName_ends (name : Document) :
    (readName name).Ends start (fun _ finish => IsName name ∧ finish = start)
    (fun failure finish => (¬ IsName name ∧ ¬ failure.IsInternal) ∧ finish = start) := by
  cases name with
  | list items => exact ⟨⟨id, not_not_intro trivial⟩, rfl⟩
  | object entries => exact ⟨⟨id, not_not_intro trivial⟩, rfl⟩
  | _ => exact ⟨trivial, rfl⟩

/-- What lowering a program leaves: sound code, in which nothing is unfinished that was not so
before. -/
structure Completes (start finish : Builder) : Prop where
  sound : finish.Sound
  grows : start.Grows finish
  current : finish.block? = start.block?
  opens : ∀ block, finish.HasOpen block → start.HasOpen block
  started : start.Started → finish.Started

/-- A program is lowered into a function of its own, in which its statements begin. -/
theorem lowerEntry_ends (sound : start.Sound) (name : Document) {body : Lowering Unit}
    {done : Name → Builder → Prop} {refused : Failure → Prop}
    (rest : IsName name → ∀ function created, Creates start created [] .void function →
      ∀ entry begun, Begins created function [] entry begun → body.LowersTo begun entry
        (fun ended => ∀ finish, Closes created ended finish .void →
          done function.name finish) refused)
    (unnamed : ¬ IsName name → ∀ failure, refused failure) :
    (lowerEntry name body).Ends start
      (fun answer finish => Completes start finish ∧ done answer finish)
      (fun failure finish => (finish.Sound ∧ start.Grows finish ∧ ¬ failure.IsInternal ∧
        (IsName name → ∃ block, finish.HasOpen block)) ∧ refused failure) := by
  unfold lowerEntry
  refine .bind ((readName_ends name).imp (fun _ _ held => held) fun failure finish held => ?_)
    fun read _ ⟨named, same⟩ => ?_
  -- Without a name nothing has been created yet.
  · obtain ⟨⟨unreadable, outside⟩, rfl⟩ := held
    exact ⟨⟨sound, .refl _, outside, fun named => absurd named unreadable⟩,
      unnamed unreadable failure⟩
  · subst same
    refine .bind (createTypedFunction_ends sound read [] .void) fun function created creates => ?_
    -- The body is that of a function without parameters, whose result is void.
    have ends := lowerFunctionBody_ends creates.sound creates.found creates.empty
      (creates.outside creates.sound rfl)
      creates.kinds (fun _ entry begun begins =>
        creates.result ▸ rest named function created creates entry begun begins)
      fun repeated => absurd List.nodup_nil repeated
    refine bind_ends.mpr (ends.imp (fun _ finish held => ?_) fun _ _ held => ?_)
    · obtain ⟨⟨sound, grows, same, opens, started⟩, answered⟩ := held
      refine ⟨⟨sound, creates.grows.trans grows, ?_, fun block block_open => ?_,
        fun begun => started (creates.started begun)⟩, answered⟩
      -- Behind it the builder stands where it stood.
      · rw [same, Builder.block?, Scopes.current?, creates.frames]
        rfl
      · simpa only [Builder.HasOpen, creates.bodies] using opens block block_open
    · exact ⟨⟨held.1.1, creates.grows.trans held.1.2.1, held.1.2.2.2, fun _ => held.1.2.2.1⟩,
        held.2⟩

/--
Whatever tree is lowered as a program, what it leaves is complete if that succeeds. A program that
fails leaves a block without its end, unless its function has no name.
-/
theorem lowerProgram_ends (sound : start.Sound) (entry : Document) (tree : Tree) :
    (tree.lowerProgram entry).Ends start (fun _ finish => Completes start finish)
      (fun failure finish => finish.Sound ∧ start.Grows finish ∧ ¬ failure.IsInternal ∧
        ∀ place body, tree = .program place body → IsName entry → ∃ block,
          finish.HasOpen block) := by
  unfold Tree.lowerProgram
  split
  · rename_i body
    -- Of the tree only its body matters.
    have lowers := Tree.lower_all.2.2.1 body
    have ends := @lowerEntry_ends start sound entry body.lowerBody (fun _ _ => True) (fun _ => True)
      (fun _ _ _ _ first begun begins => (lowers begun first begins.stage begins.entered).imp
        (fun _ _ held => ⟨held.1, fun _ _ => trivial⟩) fun _ _ held => held) fun _ _ => trivial
    exact ends.imp (fun _ _ held => held.1) fun _ _ held =>
      ⟨held.1.1, held.1.2.1, held.1.2.2.1, fun _ _ _ named => held.1.2.2.2 named⟩
  -- A tree that is no program is refused at once.
  · rename_i other
    exact ⟨sound, .refl _, id, fun place body same => absurd same (other place body)⟩

end Lowering

namespace Builder

/-- A builder before its first program is sound. -/
theorem Sound.empty : Builder.empty.Sound where
  tidy := .empty
  valid := .empty
  aligned := fun _ member => by cases member
  fits := fun _ member => by cases member
  enclosed := trivial
  separate := List.nodup_nil

/-- Nothing is unfinished where nothing is. -/
theorem Started.empty : Builder.empty.Started := fun _ => .inl rfl

/-- The code of a sound builder is well-formed when nothing is left unfinished. -/
theorem Sound.wellFormed {builder : Builder} (sound : builder.Sound) (started : builder.Started)
    (finished : ∀ block, ¬ builder.HasOpen block) : builder.code.WellFormed := by
  refine sound.valid.wellFormed sound.tidy (fun function member none_there => ?_)
    fun block body found body_open =>
      finished block ⟨body, found, body_open⟩
  have found := sound.tidy.function?_eq member
  -- A function without blocks would be in the code, but would not have been started.
  rcases started function.name with absent | ⟨label, body, held⟩
  · rw [found] at absent
    cases absent
  · simp [Module.body?, found, Code.Function.body?, Code.Function.block?, none_there] at held

end Builder

namespace Session

/-- A new session has no code. -/
theorem start_builder {overrides : Document} {debug : Bool} {session : Session}
    (started : Session.start overrides debug = .ok session) : session.builder = .empty := by
  unfold Session.start at started
  -- Starting a session looks at the settings only.
  cases merged : (Settings.default.override overrides).mapError StartError.settings with
  | error error =>
    rw [merged] at started
    cases started
  | ok settings =>
    rw [merged] at started
    have started : (settings.checkMachine >>= fun _ =>
        pure ⟨settings, debug || settings.wantsDebug, .empty, none⟩) = Except.ok session := started
    cases checked : settings.checkMachine with
    | error error =>
      rw [checked] at started
      cases started
    | ok _ =>
      rw [checked] at started
      cases started
      rfl

/-- Compiling a program lowers it, and remembers its function if that succeeds. -/
theorem compile_eq (session : Session) (program : Tree) :
    session.compile program =
      match (program.lowerProgram session.settings.entryName).outcome session.builder with
      | (.ok entry, builder) => (.ok entry, { session with builder, entry := some entry })
      | (.error failure, builder) => (.error failure, { session with builder }) := by
  unfold compile perform Lowering.outcome
  -- Both ends of the lowering, as the session tells them apart.
  rcases (program.lowerProgram session.settings.entryName).run.run
    session.builder with ⟨_ | _, _⟩ <;> rfl

/-- What a session is left with behind a program is what lowering it leaves. -/
theorem compile_yields {session after : Session} {tree : Tree} {entry : Name}
    (compiled : session.compile tree = (.ok entry, after)) :
    (tree.lowerProgram session.settings.entryName).Yields session.builder entry after.builder := by
  rw [compile_eq] at compiled
  unfold Lowering.Yields
  revert compiled
  -- A session takes over the builder, whatever the outcome.
  rcases (tree.lowerProgram session.settings.entryName).outcome
    session.builder with ⟨failure | answer, finish⟩
  · exact nofun
  · intro compiled
    cases compiled
    rfl

/-- What a session fails with is what lowering the program fails with. -/
theorem compile_fails {session : Session} {tree : Tree} {done : Name → Builder → Prop}
    {refused : Failure → Builder → Prop}
    (ends : (tree.lowerProgram session.settings.entryName).Ends session.builder done refused)
    {failure : Failure} (failed : (session.compile tree).1 = .error failure) :
    refused failure (session.compile tree).2.builder := by
  rw [compile_eq] at failed ⊢
  unfold Lowering.Ends at ends
  revert failed ends
  -- A session takes over the builder, whatever the outcome.
  rcases (tree.lowerProgram session.settings.entryName).outcome
    session.builder with ⟨cause | answer, finish⟩
  · intro ends failed
    cases failed
    exact ends
  · exact fun _ failed => nomatch failed

/-- Whatever tree a new session compiles, the code is well-formed. -/
theorem compile_wellFormed {overrides : Document} {debug : Bool} {session after : Session}
    {tree : Tree} {entry : Name} (started : Session.start overrides debug = .ok session)
    (compiled : session.compile tree = (.ok entry, after)) :
    after.builder.code.WellFormed := by
  have yields := compile_yields compiled
  rw [start_builder started] at yields
  -- A program that compiles leaves only blocks with an end.
  have completes := (Lowering.lowerProgram_ends .empty _ tree).of_yields yields
  refine completes.sound.wellFormed (completes.started .empty) fun block block_open => ?_
  obtain ⟨body, found, _⟩ := completes.opens block block_open
  cases found

/-- A loop that calls a function and ends in its first round. -/
def sample : Tree :=
  let used (name : String) : Tree := .identifier .start (.text name) (.kindValue .infer)
  .program .start (.list [
    .functionDeclaration .start (used "twice")
      (.list [.identifier .start (.text "x") (.kindValue (.exact .num))])
      (.blockStatement .start (.list [.returnStatement .start
        (.binaryExpression .start (used "x") (used "x") (.text "+"))]))
      (.kindValue (.exact .num)),
    .loopStatement .start (.booleanLiteral .start true)
      (.blockStatement .start (.list [
        .variableDeclaration .start (used "y")
          (.callExpression .start (used "twice") (.list [.numberLiteral .start (.ofFloat 1.0)])),
        .breakStatement .start .null])) .null])

/-- A compilation that succeeds has an answer and leaves a session. -/
theorem compiled_of_isOk {session : Session} {tree : Tree}
    (succeeds : (session.compile tree).1.isOk = true) :
    ∃ entry after, session.compile tree = (.ok entry, after) := by
  generalize session.compile tree = compiled at succeeds
  obtain ⟨failure | entry, after⟩ := compiled
  · cases succeeds
  · exact ⟨entry, after, rfl⟩

/-- The sample compiles to well-formed code. -/
theorem sample_wellFormed : ∃ session after entry, Session.start (.object []) false = .ok session ∧
    session.compile sample = (.ok entry, after) ∧ after.builder.code.WellFormed := by
  have started : Session.start (.object []) false = .ok ⟨Settings.default, false, .empty, none⟩ :=
    rfl
  -- Evaluated once, to know that the program compiles.
  have succeeds : (Session.compile ⟨Settings.default, false, .empty, none⟩ sample).1.isOk =
      true := by
    decide +kernel
  obtain ⟨entry, after, compiled⟩ := compiled_of_isOk succeeds
  exact ⟨_, after, entry, started, compiled, compile_wellFormed started compiled⟩

end Session

end LoopLang
