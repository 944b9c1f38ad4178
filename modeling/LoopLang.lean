import LoopLang.Main
import LoopLang.Tree.Walk
import LoopLang.Proofs.History
import LoopLang.Proofs.Compilation
import LoopLang.Proofs.Grammar.Parse
import LoopLang.Proofs.Execution.Program
import LoopLang.Proofs.Typing.Program
import LoopLang.Proofs.Places.Session
import LoopLang.Proofs.Isolation.Extension
import LoopLang.Proofs.Initialisation.Session
import LoopLang.Proofs.Diagnostic.Session
import LoopLang.Proofs.Token.Respacing
import LoopLang.Proofs.Token.LineEnds
import LoopLang.Proofs.Places.LineEnds
import LoopLang.Proofs.Places.Anchor
import LoopLang.Proofs.Scope.Visibility
import LoopLang.Proofs.Grammar.Hints
import LoopLang.Proofs.Layout.Session
import LoopLang.Proofs.Scope.Enumeration
import LoopLang.Proofs.Jumps.Session
import LoopLang.Proofs.Scope.Refinement
import LoopLang.Proofs.Quoting.Session
import LoopLang.Proofs.Arms.Session
import LoopLang.Proofs.Calls.Session
import LoopLang.Proofs.Tree.Walk
import LoopLang.Proofs.Scope.Resumption
import LoopLang.Proofs.Number.Sign
import LoopLang.Proofs.Tree.Document
import LoopLang.Proofs.Places.Document
import LoopLang.Proofs.Command.Settings
import LoopLang.Proofs.Files.Write
import LoopLang.Proofs.Layout.Names
import LoopLang.Proofs.Command.Effect
import LoopLang.Proofs.Command.Program
import LoopLang.Proofs.Command.Verdict
import LoopLang.Proofs.Command.Run
import LoopLang.Proofs.Config.Precedence
import LoopLang.Proofs.Course.Dead
