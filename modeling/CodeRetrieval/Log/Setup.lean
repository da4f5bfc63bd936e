import CodeRetrieval.Data.JsonText
import CodeRetrieval.Log.Level

/-!
# Log entries

How a program that uses the library writes its log: from which level on, to which
stream, and as JSON lines or for reading on a console. An entry has the fields of its
logger and of its event, and says what happened, how serious that is, who logged it, and
for which service.
-/

namespace CodeRetrieval.Log

/-- How entries are written. -/
inductive Format where
  | json
  | console
deriving DecidableEq, Repr

/-- Where entries are written to. -/
inductive Target where
  | stdout
  | stderr
deriving DecidableEq, Repr

/-- A way of writing a log. Entries below the threshold are left out. -/
structure Setup where
  service : String
  threshold : Nat
  format : Format
  target : Target
deriving DecidableEq, Repr

/-- Why a log cannot be written. -/
inductive SetupError where
  | unknownFormat (name : String)
  | unknownStream (name : String)
deriving DecidableEq, Repr

namespace SetupError

def message : SetupError → String
  | unknownFormat name =>
    s!"unknown log format {Text.quoted name}, expected \x27json\x27 or \x27console\x27"
  | unknownStream name =>
      s!"unknown log stream {Text.quoted name}, expected \x27stdout\x27 or \x27stderr\x27"

end SetupError

def thresholds : List (String × Nat) :=
  [("NOTSET", 0), ("DEBUG", 10), ("INFO", 20), ("WARN", 30), ("WARNING", 30), ("ERROR", 40),
   ("FATAL", 50), ("CRITICAL", 50)]

/-- The capital form of a letter of a threshold's name: that of ASCII letters, of the
dotless i and of the long s. -/
def capital (c : Char) : Char :=
  if c = 'ı' then 'I' else if c = 'ſ' then 'S' else c.toUpper

/-- The threshold with the given name, in letters of either case. An unknown name means
what `info` means. -/
def thresholdOf (name : String) : Nat :=
  (thresholds.lookup (String.ofList (name.toList.map capital))).getD Level.info.severity

namespace Setup

/-- The way of writing a log that the given names describe. The format is looked at
first. -/
def ofNames (service level format stream : String) : Except SetupError Setup := do
  let format ←
    if format == "json" then pure Format.json
    else if format == "console" then pure .console
    else .error (.unknownFormat format)
  let target ←
    if stream == "stdout" then pure Target.stdout
    else if stream == "stderr" then pure .stderr
    else .error (.unknownStream stream)
  return { service, threshold := thresholdOf level, format, target }

/-- Entries of the level are written. -/
def writes (s : Setup) (level : Level) : Bool :=
  decide (s.threshold ≤ level.severity)

/-- The fields of an entry. What the entry itself says comes before fields of the same
name, but a field may name another service. -/
def entry (s : Setup) (logger : String) (context fields : List (String × Data))
    (level : Level) (event : String) :
    List (String × Data) :=
  let own := fields.foldl (fun entries (key, value) => Table.set key value entries) context
  let own := Table.set "event" (.text event) own
  let own := Table.set "logger" (.text logger) own
  let own := Table.set "level" (.text level.name) own
  if (own.lookup "service").isSome then own else own ++ [("service", .text s.service)]

/-- An entry with the time of its event, as a line of JSON. -/
def line (time : String) (entry : List (String × Data)) : String :=
  Data.Json.text (.table (entry ++ [("timestamp", .text time)]))

end Setup

end CodeRetrieval.Log
