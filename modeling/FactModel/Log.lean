import FactModel.Text.Quoted
import FactModel.Text.Upper

/-!
Log records, and the lines that a log of some level keeps of them.
-/

namespace FactModel

/-- How much a record matters; `unset` is below all levels. -/
inductive LogLevel where
  | unset
  | debug
  | info
  | warning
  | error
  | critical
deriving DecidableEq

namespace LogLevel

def name : LogLevel → String
  | unset => "NOTSET"
  | debug => "DEBUG"
  | info => "INFO"
  | warning => "WARNING"
  | error => "ERROR"
  | critical => "CRITICAL"

def rank : LogLevel → Nat
  | unset => 0
  | debug => 10
  | info => 20
  | warning => 30
  | error => 40
  | critical => 50

def names : List (String × LogLevel) := [
  ("NOTSET", unset),
  ("DEBUG", debug),
  ("INFO", info),
  ("WARNING", warning),
  ("WARN", warning),
  ("ERROR", error),
  ("CRITICAL", critical),
  ("FATAL", critical)]

/-- The least rank of the records that a log of a level keeps; without a level it is that of
warnings. -/
def threshold : LogLevel → Nat
  | unset => warning.rank
  | level => level.rank

end LogLevel

inductive LogLevelError where
  | unknown (name : String)
  | format (text : String)
  | styles (text : String)

namespace LogLevelError

def message : LogLevelError → String
  | unknown name => s!"module 'logging' has no attribute '{name}'"
  | format text => s!"Unknown level: {Text.quoted text}"
  | styles text => s!"Level not an integer or a valid string: {text}"

end LogLevelError

namespace LogLevel

def formatName : String := "BASIC_FORMAT"

def basicFormat : String := "%(levelname)s:%(name)s:%(message)s"

def stylesName : String := "_STYLES"

/-- A style: its mark, its name, and the basic format as it writes it. -/
def styles : List (String × String × String) := [
  ("%", "PercentStyle", basicFormat),
  ("\x7b", "StrFormatStyle", "\x7blevelname\x7d:\x7bname\x7d:\x7bmessage\x7d"),
  ("$", "StringTemplateStyle", "$\x7blevelname\x7d:$\x7bname\x7d:$\x7bmessage\x7d")]

def stylesText : String :=
  let shown := styles.map fun (mark, style, format) =>
    s!"{Text.quoted mark}: (<class 'logging.{style}'>, {Text.quoted format})"
  "\x7b" ++ String.intercalate ", " shown ++ "\x7d"

def ofName (s : String) : Except LogLevelError LogLevel :=
  let name := Text.upper s
  match names.lookup name with
  | some level => .ok level
  | none => .error <|
    if name = formatName then .format basicFormat
    else if name = stylesName then .styles stylesText
    else .unknown name

end LogLevel

/-- The activities that keep a log. -/
inductive LogSource where
  | conversion
  | derivation
  | integrity
  | validation
  | registry
  | building
  | loading
deriving DecidableEq

namespace LogSource

def root : String := "mathgraph"

def name : LogSource → String
  | conversion => root ++ ".conversion.converter"
  | derivation => root ++ ".sql.generator"
  | integrity => root ++ ".ir.validators"
  | validation => root ++ ".validation.validator"
  | registry => root ++ ".validation.custom"
  | building => root ++ ".ir.builder"
  | loading => root ++ ".utils.data_loader"

def qualify (name : String) : String :=
  if name = root || name.startsWith (root ++ ".") then name else root ++ "." ++ name

end LogSource

def logLine (level : LogLevel) (name message : String) : String :=
  s!"{level.name} {name}: {message}"

structure LogRecord where
  level : LogLevel
  source : LogSource
  message : String

namespace LogRecord

def text (r : LogRecord) : String := logLine r.level r.source.name r.message

end LogRecord

def keptLines (level : LogLevel) (records : List (String × LogLevel × String)) : List String :=
  records.filterMap fun (name, recordLevel, message) =>
    if level.threshold ≤ recordLevel.rank then
      some (logLine recordLevel (LogSource.qualify name) message)
    else none

end FactModel
