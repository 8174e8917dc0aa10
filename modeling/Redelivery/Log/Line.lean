import Redelivery.Log.Settings
import Redelivery.Text.Quoted

/-!
# Log lines

The written form of events: the time, the level, the spans, the target, the
message and the fields, and at last the fields of the spans.  The time is not
known here and is written as a placeholder.
-/

namespace Redelivery.Log.Line

/-- What is written in place of the time. -/
def timePlaceholder : String :=
  "<ts>"

/-- Ways in which a text stands out. -/
inductive Emphasis where
  | bold
  | dim
  | italic
  | red
  | yellow
  | green
  | blue
  | purple
  deriving DecidableEq, Repr

/-- The number of an emphasis in escape sequences. -/
def Emphasis.code : Emphasis → String
  | bold => "1"
  | dim => "2"
  | italic => "3"
  | red => "31"
  | green => "32"
  | yellow => "33"
  | blue => "34"
  | purple => "35"

/-- A text that stands out, if escape sequences are wanted. -/
def emphasize (ansi : Bool) (emphasis : Emphasis) (text : String) : String :=
  if ansi then "\x1b[" ++ emphasis.code ++ "m" ++ text ++ "\x1b[0m" else text

/-- The colour of a level. -/
def colour : Level → Emphasis
  | .error => .red
  | .warn => .yellow
  | .info => .green
  | .debug => .blue
  | .trace => .purple

/-- The name of a level in a column of five. -/
def levelColumn (level : Level) : String :=
  String.ofList (List.replicate (5 - level.name.length) ' ') ++ level.name

/-- A character of a message.  Those that could drive a terminal are spelled
out. -/
def spellChar (char : Char) : List Char :=
  if char = '\x1b' ∨ char = '\x07' ∨ char = '\x08' ∨ char = '\x0c' ∨ char = '\x7f' then
    '\\' :: 'x' :: Text.padZeros 2 (Text.hexDigits char.toNat)
  else if 0x80 ≤ char.toNat ∧ char.toNat ≤ 0x9f then Text.bracedEscape char
  else [char]

/-- The message of an event, safe for a terminal. -/
def spell (message : String) : String :=
  String.ofList (message.toList.flatMap spellChar)

/-- A field with its name. -/
def field (ansi : Bool) (field : Field) : String :=
  emphasize ansi .italic field.name ++ emphasize ansi .dim "=" ++
    if field.quoted then String.ofList (Text.quote false field.text.toList) else field.text

/-- The spans of an event, which stand before its target. -/
def spanNames (ansi : Bool) (spans : List Span) : String :=
  if spans.isEmpty then ""
  else String.join (spans.map fun span => emphasize ansi .bold span.name ++ ":") ++ " "

/-- The fields of the spans of an event, which stand at its end. -/
def spanFields (ansi : Bool) (spans : List Span) : String :=
  String.join (spans.map fun span =>
    if span.fields.isEmpty then ""
    else " " ++ emphasize ansi .dim (" ".intercalate (span.fields.map (field ansi))))

/-- An event as text, which has several lines if its message has. -/
def render (settings : Settings) (event : Event) : String :=
  let ansi := settings.ansi
  let spans := if settings.showsSpans then event.spans else []
  emphasize ansi .dim timePlaceholder ++ " " ++
    emphasize ansi (colour event.level) (levelColumn event.level) ++ " " ++
    spanNames ansi spans ++
    emphasize ansi .dim event.target ++ emphasize ansi .dim ":" ++ " " ++
    " ".intercalate (spell event.message :: event.fields.map (field ansi)) ++
    spanFields ansi spans

/-- The lines that are written for events. -/
def output (settings : Settings) (events : List Event) : List String :=
  (events.filter settings.admits).flatMap fun event => (render settings event).splitOn "\n"

end Redelivery.Log.Line
