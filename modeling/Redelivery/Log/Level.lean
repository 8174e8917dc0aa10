/-!
# Log levels

Levels from the most urgent to the most detailed, and the filter that a setting
stands for.
-/

namespace Redelivery.Log

/-- How urgent an event is. -/
inductive Level where
  | error
  | warn
  | info
  | debug
  | trace
  deriving DecidableEq, Repr

namespace Level

/-- Place in the order from urgent to detailed; it is also the number by which
a setting may name the level. -/
def detail : Level → Nat
  | error => 1
  | warn => 2
  | info => 3
  | debug => 4
  | trace => 5

/-- The name in events. -/
def name : Level → String
  | error => "ERROR"
  | warn => "WARN"
  | info => "INFO"
  | debug => "DEBUG"
  | trace => "TRACE"

end Level

/-- The most detailed level that is written; `none` writes nothing. -/
abbrev Filter := Option Level

namespace Filter

/-- Whether an event of a level is written. -/
def allows (filter : Filter) (level : Level) : Bool :=
  filter.any fun most => decide (level.detail ≤ most.detail)

/-- The name in settings. -/
def name : Filter → String
  | none => "off"
  | some .error => "error"
  | some .warn => "warn"
  | some .info => "info"
  | some .debug => "debug"
  | some .trace => "trace"

/-- Every filter. -/
def all : List Filter :=
  [none, some .error, some .warn, some .info, some .debug, some .trace]

/-- A whole number: digits, after one plus sign at most. -/
def number? (text : List Char) : Option Nat :=
  let digits := match text with
    | '+' :: rest => rest
    | _ => text
  if digits.isEmpty || digits.any (fun char => !char.isDigit) then none
  else some (digits.foldl (fun value char => value * 10 + (char.toNat - 48)) 0)

/-- The filter that a text names, by number or by name in any case. -/
def ofText? (text : String) : Option Filter :=
  match number? text.toList with
  | some number =>
      all.find? fun filter => decide (filter.elim 0 Level.detail = number)
  | none =>
      let lower := String.ofList (text.toList.map Char.toLower)
      all.find? fun filter => decide (filter.name = lower)

end Filter

end Redelivery.Log
