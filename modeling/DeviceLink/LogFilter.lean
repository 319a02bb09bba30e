-- Which messages are logged: those of the gravest levels, up to one that is given by its name or
-- its number.
import DeviceLink.Duration
import DeviceLink.LogLine

namespace DeviceLink

/-- Lets the messages of some levels through, the gravest ones. -/
structure LogFilter where
  /-- How many levels. -/
  levels : Nat
deriving Repr, DecidableEq

namespace LogFilter

/-- Why a text is no filter. -/
inductive Error
  | unknownLevel
  /-- Something stands after the end. -/
  | excess
deriving Repr, DecidableEq

/-- The wording of an error. -/
def Error.message : Error → String
  | .unknownLevel =>
    "error parsing level filter: expected one of \"off\", \"error\", \"warn\", \"info\", "
      ++ "\"debug\", \"trace\", or a number 0-5"
  | .excess => "invalid filter directive"

/-- A message of a level is let through. -/
def allows (f : LogFilter) (level : LogLevel) : Bool :=
  LogLevel.all.idxOf level < f.levels

/-- The names of the filters, by how many levels they let through. -/
def names : List String := "off" :: LogLevel.all.map LogLevel.name

/-- A number of levels in decimal. -/
def number? (text : String) : Option Nat :=
  let digits := match text.toList with
    | '+' :: cs => cs
    | cs => cs
  if digits.isEmpty ∨ ¬ digits.all Char.isDigit then none
  else
    let n := Duration.numberOf digits
    if n < names.length then some n else none

/-- The filter of a name, in whatever case, or a number. Without either all levels pass. -/
def ofLevel (text : String) : Except Error LogFilter :=
  if text.isEmpty then .ok ⟨LogLevel.all.length⟩
  else
    match number? text <|> names.idxOf? text.toLower with
    | some n => .ok ⟨n⟩
    | none => .error .unknownLevel

/-- Reads a filter. A comma may end it. -/
def ofText (text : String) : Except Error LogFilter := do
  let level := text.toList.takeWhile (· != ',')
  match (Text.trimEnd text).toList.dropWhile (· != ',') with
  | [] => ofLevel text
  | [_] => ofLevel (String.ofList level)
  | _ =>
    let _ ← ofLevel (String.ofList level)
    throw .excess

end LogFilter

end DeviceLink
