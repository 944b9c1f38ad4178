import LoopLang.Proofs.Blame.Statement
import LoopLang.Proofs.Grammar.Detection
import LoopLang.Proofs.History
import LoopLang.Proofs.Token.Partition

/-! Errors point into the text: each one stands at a token of it, or at the character that starts
none. -/

namespace LoopLang

/-- A token stands at a place, whose line and column are those counted up to the token. -/
def IsTokenPlace (text : String) (place : Location) : Prop :=
  ∃ token ∈ (scan text).tokens, token.place = place ∧ ∃ slice, token.StandsAs slice text.toList

/-- A character that starts no token stands at a place, which is counted up to it. -/
def IsIllegalPlace (text : String) (char : Char) (place : Location) : Prop :=
  ∃ before rest, text.toList = before ++ char :: rest ∧ StartsNothing char rest ∧
    place.IsBehind before

/-- A place that a parse error may name: that of the character, if one is illegal, or else that of a
token. -/
def ParseCause.PlacedIn (text : String) (place : Location) : ParseCause → Prop
  | .illegalCharacter char => IsIllegalPlace text char place
  -- The end of a text has no place.
  | .unexpectedEnd => place = .unknown
  | .misspelledKeyword .. | .unexpectedToken .. | .wrongType _ => IsTokenPlace text place

/-- A place that a failure may name: that of a token. Other failures are for want of a name for the
program only. -/
def Failure.PlacedIn (text : String) (entry : Document) : Failure → Prop
  | .refused cause place => IsTokenPlace text (cause.diagnostic place).place
  | .fault _ => ¬ Lowering.IsName entry

/-- Every token of a text stands at its place. -/
theorem IsTokenPlace.of_mem {text : String} {token : Token} (member : token ∈ (scan text).tokens) :
    IsTokenPlace text token.place :=
  ⟨token, member, rfl, scan_stands text token member⟩

namespace Parser

open Grammar

variable {known : Location → Prop} {before : List Token} {state : State} {token : Token}

/-- An error about a token that is not expected names that token, or the one in front of it. -/
theorem unexpected_placedIn {text : String} {previous : Option Token} (kinds : List TokenKind)
    (here : IsTokenPlace text token.place)
    (words : ∀ word ∈ previous, IsTokenPlace text word.place) :
    (unexpected previous token kinds).cause.PlacedIn text
      (unexpected previous token kinds).place := by
  unfold unexpected
  split
  -- The word in front is blamed if it looks like a misspelled keyword.
  · exact words _ rfl
  · exact here

/-- Known places of tokens are those of a type name that is refused at the end of them. -/
theorem Reaches.known_last {error : AnnotationError} {place : Location}
    (reaches : Reaches before state) (tokens_known : Known known before)
    (refused : lastStatements state = .error (.wrongType error place)) :
    known place := by
  -- Only the last statement can be refused there, whose tokens are the last ones.
  obtain ⟨inside, reads, members⟩ := reaches.reads.exists_inside
  exact reads.blames_last (fun token member => tokens_known token (members token member)) refused

/-- The places in a program are those of its tokens. -/
theorem Reaches.program_stands {program : Program} (reaches : Reaches before state)
    (tokens_known : Known known before) (finished : finish state = .ok (some program)) :
    Statement.AllStand known program.body := by
  -- What has been read is a phrase of the grammar, from whose tokens the program is built.
  obtain ⟨statements, rfl, built⟩ := reaches.reads.finish finished
  have builds := statements.program_builds tokens_known
  rwa [built] at builds

end Parser

namespace Program

open LoopLang.Parser

/-- Whatever a text is parsed to, it has only places of the text. -/
theorem parse_places (text : String) :
    match Program.parse text with
    | .ok program => Statement.AllStand (IsTokenPlace text) program.body
    | .error error => error.cause.PlacedIn text error.place := by
  have tokens_known : Grammar.Known (IsTokenPlace text) (scan text).tokens := fun _ => .of_mem
  have parsed : Program.parse text = Scan.parse ⟨(scan text).tokens, (scan text).ending⟩ := rfl
  rcases Reaches.start.exists_stop (scan text).tokens with
    ⟨final, read⟩ | ⟨before, token, after, final, refusal, same, read, stopped⟩ <;>
      rw [List.nil_append] at read
  -- All tokens are read, and what is found comes behind them.
  · rw [parsed, read.parse_end]
    cases completed : complete final (scan text).ending with
    | ok program =>
      -- A text with an illegal character is no program.
      cases ending : (scan text).ending with
      | illegal char place => rw [ending] at completed; cases completed
      | complete =>
        rw [ending] at completed
        exact read.program_stands tokens_known (complete_ok completed)
    | error error =>
      rcases complete_error completed with ⟨char, place, ending, rfl⟩ | ⟨-,
        rfl | ⟨cause, place, rfl, refused⟩⟩
      · exact scan_stops ending
      · rfl
      · exact read.known_last tokens_known refused
  -- A token is refused, or a type name in front of it is.
  · rw [same] at parsed tokens_known
    simp only [Grammar.known_append, Grammar.known_cons] at tokens_known
    obtain ⟨before_known, token_known, -⟩ := tokens_known
    cases refusal with
    | expected kinds =>
      rw [parsed, read.parse_expected stopped]
      exact unexpected_placedIn kinds token_known fun word member =>
        before_known word (List.mem_of_getLast? member)
    | wrongType cause place =>
      obtain ⟨word, member, rfl⟩ := read.exists_named stopped
      rw [parsed, read.parse_wrongType stopped]
      exact before_known word member

end Program

namespace Lowering

variable {start : Builder} {known : Location → Prop}

/-- Where a program's function has no name, lowering it stops at once. -/
theorem lowerEntry_unnamed {name : Document} (unnamed : ¬ IsName name) (body : Lowering Unit) :
    ∃ fault, (lowerEntry name body).outcome start = (.error (.fault fault), start) := by
  cases name with
  | list items => exact ⟨_, rfl⟩
  | object entries => exact ⟨_, rfl⟩
  | _ => exact absurd trivial unnamed

/-- A program whose places are known is refused at one of them; it fails otherwise only if its
function has no name. -/
theorem lowerProgram_blames (sound : start.Sound) (name : Document) {program : Program}
    (stand : Statement.AllStand known program.body) :
    (program.toTree.lowerProgram name).Ends start (fun _ _ => True) fun failure _ =>
      match failure with
      | .refused _ place => known place
      | .fault _ => ¬ IsName name := by
  by_cases named : IsName name
  · have blames : Blames known (program.toTree.lowerProgram name) :=
      .entry named (.statements program.body stand)
    refine ((lowerProgram_ends sound name program.toTree).and (blames start)).imp
      (fun _ _ _ => trivial) ?_
    -- Lowering breaks no rule of building, so that a place is blamed.
    rintro failure finish ⟨⟨-, -, outside, -⟩, internal | ⟨cause, place, rfl, here⟩⟩
    · exact absurd internal outside
    · exact here
  -- Nothing is lowered at all.
  · obtain ⟨fault, stopped⟩ :=
      lowerEntry_unnamed named (Tree.lowerBody (.list (Statement.toTrees program.body)))
    have outcome : (program.toTree.lowerProgram name).outcome start =
        (.error (.fault fault), start) := stopped
    unfold Ends
    rw [outcome]
    exact named

end Lowering

namespace Session

/-- A text's program is refused at a place in the text, whatever a session has compiled before
it. -/
theorem compile_placedIn {text : String} {program : Program}
    (parsed : Program.parse text = .ok program) {overrides : Document} {debug : Bool}
    {session : Session} (started : Session.start overrides debug = .ok session)
    (history : List Tree) {failure : Failure}
    (failed : ((session.compileAll history).2.compile program.toTree).1 = .error failure) :
    failure.PlacedIn text session.settings.entryName := by
  -- The program has places of the text only, and the builder is sound behind any history.
  have stand := Program.parse_places text
  rw [parsed] at stand
  have ends := Lowering.lowerProgram_blames (compileAll_sound started history)
    (session.compileAll history).2.settings.entryName stand
  rw [← compileAll_settings session history]
  exact compile_fails ends failed

/-- Whether a text's program is refused for a cause at a place in a new session, which is a matter
of computation. -/
def refusesAt (text : String) (cause : Cause) (place : Location) : Bool :=
  match Program.parse text, Session.start (.object []) false with
  | .ok program, .ok session => (session.compile program.toTree).1 = .error (.refused cause place)
  | _, _ => false

/-- The program and the session of such a refusal. -/
theorem exists_of_refusesAt {text : String} {cause : Cause} {place : Location}
    (refuses : refusesAt text cause place) :
    ∃ program session, Program.parse text = .ok program ∧ Session.start
      (.object []) false = .ok session ∧
      (session.compile program.toTree).1 = .error (.refused cause place) := by
  unfold refusesAt at refuses
  -- The test compares only where the text parses and a session starts.
  split at refuses
  · exact ⟨_, _, ‹_›, ‹_›, of_decide_eq_true refuses⟩
  · cases refuses

/-- Where the errors of a text point: its parse error, and what its program is refused for. -/
structure PointsInto (text : String) : Prop where
  /-- A parse error points into the text, unless it is about its end. -/
  parsing : ∀ error, Program.parse text = .error error →
    error.cause.PlacedIn text error.diagnostic.place
  /-- What a program is refused for points into the text, whatever was compiled before it. -/
  compiling : ∀ program, Program.parse text = .ok program →
    ∀ overrides debug session (history : List Tree), Session.start overrides debug = .ok session →
      ∀ failure, ((session.compileAll history).2.compile program.toTree).1 = .error failure →
        failure.PlacedIn text session.settings.entryName

/-- Every error points at a token of the text, or at a character that is illegal, if it is not about
the end. -/
theorem errors_point_into (text : String) : PointsInto text where
  parsing error failed := by
    have places := Program.parse_places text
    rwa [failed] at places
  compiling _ parsed _ _ _ history started _ failed :=
    compile_placedIn parsed started history failed

/-- A name that stands for nothing, behind a line break and a blank: the error points at the
name. -/
theorem unknown_name_points_into : PointsInto "\n\tx;" ∧ ∃ program session,
    Program.parse "\n\tx;" = .ok program ∧ Session.start (.object []) false = .ok session ∧
      (session.compile program.toTree).1 = .error (.refused (.unknownSymbol "x" none) ⟨2, 2⟩) ∧
      IsTokenPlace "\n\tx;" ⟨2, 2⟩ := by
  have points := errors_point_into "\n\tx;"
  have refuses : refusesAt "\n\tx;" (.unknownSymbol "x" none) ⟨2, 2⟩ := by decide +kernel
  obtain ⟨program, session, parsed, started, failed⟩ := exists_of_refusesAt refuses
  exact ⟨points, program, session, parsed, started, failed,
    points.compiling program parsed (.object []) false session [] started _ failed⟩

end Session

end LoopLang
