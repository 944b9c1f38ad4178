import LoopLang.Config.Toml.Reading
import LoopLang.Files.Tree

/-! The settings that hold in a directory: those of the nearest settings file upwards, over the
defaults. -/

namespace LoopLang

/-- The name of settings files. -/
def settingsFileName : String := "xlang.toml"

/-- The directories from a path up to the root, with the path itself first. -/
def Path.upwards (path : Path) : List Path :=
  ((List.range (path.length + 1)).map path.take).reverse

/-- The nearest settings file from a directory upwards. -/
def FileTree.settingsPath? (tree : FileTree) (directory : Path) : Option Path :=
  (directory.upwards.map (· ++ [settingsFileName])).find? tree.exists?

/-- Why the settings of a directory cannot be loaded. -/
inductive SettingsError
  | isADirectory
  | unreadable (failure : Toml.Failure)
  deriving DecidableEq, Repr

/-- The settings that hold in a directory. -/
def FileTree.settings (tree : FileTree) (directory : Path) : Except SettingsError Settings :=
  match tree.settingsPath? directory with
  | none => .ok .default
  | some path =>
    match tree.file? path with
    | none => .error .isADirectory
    | some text =>
      match Toml.read text with
      | .ok overrides => .ok (Settings.default.merge overrides)
      | .error failure => .error (.unreadable failure)

end LoopLang
