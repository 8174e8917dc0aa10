import Redelivery.Config.Folder
import Redelivery.Config.Reading

/-!
# Configurations from files

The environment may name the file; otherwise the first of two well-known files
that exists is taken.
-/

namespace Redelivery.Config

/-- The files that are looked for. -/
def wellKnownPaths : List String :=
  ["./reliant.config.ron", "/etc/reliant/reliant.config.ron"]

/-- The path of the configuration file.  A file that the environment names has to
exist. -/
def findFile (folder : Folder) (environment : Option String) : Except Failure String :=
  match environment with
  | some path => if folder.contains path then .ok path else .error (.missingFile path)
  | none =>
      match wellKnownPaths.find? folder.contains with
      | some path => .ok path
      | none => .error (.notFound wellKnownPaths)

/-- The configuration of a file. -/
def loadFrom (folder : Folder) (path : String) : Except Failure Config :=
  match folder.readText path with
  | .error reason => .error (.unreadable path reason.message)
  | .ok text =>
      match ofText? text with
      | none => .error (.unparsable path)
      | some config =>
          match config.failure? with
          | some failure => .error failure
          | none => .ok config

/-- Find the configuration file and read it. -/
def load (folder : Folder) (environment : Option String) : Except Failure Config := do
  loadFrom folder (← findFile folder environment)

end Redelivery.Config
