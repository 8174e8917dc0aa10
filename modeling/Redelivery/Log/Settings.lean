import Redelivery.Log.Event
import Redelivery.Text.Blank

/-!
# Log settings

How much is written and whether in colours.  The environment may ask for a level;
a level that does not exist is remembered and reported once the settings are in
force.
-/

namespace Redelivery.Log

/-- What is written, and how. -/
structure Settings where
  filter : Filter
  ansi : Bool
  /-- A level that was asked for and does not exist. -/
  rejected : Option String
  deriving DecidableEq, Repr

namespace Settings

/-- The level where none is asked for. -/
def standardFilter : Filter :=
  some .trace

/-- The settings where nothing is asked for. -/
def standard : Settings :=
  { filter := standardFilter, ansi := true, rejected := none }

/-- The settings for a level, if one is asked for, and for or against colours.
Blanks around the level do not count, and an empty level asks for nothing. -/
def ofEnvironment (level : Option String) (noColor : Bool) : Settings :=
  let settings := { standard with ansi := !noColor }
  match level.map fun text => Text.trimBlanks text.toList with
  | none | some [] => settings
  | some value =>
      let text := String.ofList value
      match Filter.ofText? text with
      | some filter => { settings with filter }
      | none => { settings with rejected := some text }

/-- The report of a level that does not exist. -/
def rejectionReport? (settings : Settings) : Option Event :=
  settings.rejected.map fun value =>
    { Event.engine .warn "Ignoring invalid RELIANT_LOG" with
      fields := [.shown "value" value, .shown "fallback" settings.filter.name] }

/-- Whether an event is written: its level has to be wanted, and its target has to
be one of the engine's. -/
def admits (settings : Settings) (event : Event) : Bool :=
  settings.filter.allows event.level && event.target.startsWith "reliant"

/-- Spans are as detailed as the most detailed events. -/
def showsSpans (settings : Settings) : Bool :=
  settings.filter.allows .trace

end Settings

end Redelivery.Log
