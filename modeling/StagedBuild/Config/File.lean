import StagedBuild.Config
import StagedBuild.Failure

/-!
# Loading configuration files

A file that cannot be read and one that is no configuration are different errors. Both name the
file.
-/

namespace StagedBuild

/-- Why a configuration file could not be loaded. -/
inductive ConfigFileError where
  | unreadable (path : String) (cause : IoCause)
  | refused (path : String) (error : ConfigError)
  deriving DecidableEq, Repr

/-- What was tried with the file. -/
def ConfigFileError.context : ConfigFileError → String
  | .unreadable path _ => s!"failed to read '{path}'"
  | .refused path _ => s!"failed to parse '{path}'"

namespace ToolchainConfig

/-- The configuration in a file, from what reading the file gave. -/
def ofFile (path : String) : Except IoCause String → Except ConfigFileError ToolchainConfig
  | .error cause => .error (.unreadable path cause)
  | .ok text => (parse text).mapError (.refused path)

end ToolchainConfig

end StagedBuild
