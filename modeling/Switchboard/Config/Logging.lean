import Switchboard.Shape.Record

set_option autoImplicit false

namespace Switchboard

/-- How grave an entry has to be. -/
inductive LogLevel where
  | trace
  | debug
  | info
  | warn
  | error
deriving DecidableEq

namespace LogLevel

def name : LogLevel → String
  | .trace => "trace"
  | .debug => "debug"
  | .info => "info"
  | .warn => "warn"
  | .error => "error"

/-- The name in capital letters, as log lines show it. -/
def label (level : LogLevel) : String := level.name.map Char.toUpper

def all : List LogLevel := [.trace, .debug, .info, .warn, .error]

def decode (medium : Shape.Medium) : Shape.Decoder LogLevel :=
  Shape.choice medium (all.map fun level => (level.name, level))

def encode (level : LogLevel) : Json := .str level.name

end LogLevel

/-- The form of a log line. -/
inductive LogFormat where
  | compact
  | full
  | pretty
  | json
deriving DecidableEq

namespace LogFormat

def name : LogFormat → String
  | .compact => "compact"
  | .full => "full"
  | .pretty => "pretty"
  | .json => "json"

def all : List LogFormat := [.compact, .full, .pretty, .json]

def decode (medium : Shape.Medium) : Shape.Decoder LogFormat :=
  Shape.choice medium (all.map fun format => (format.name, format))

def encode (format : LogFormat) : Json := .str format.name

end LogFormat

/-- Where log lines go. -/
inductive LogOutput where
  | stdout
  | stderr
  | file
deriving DecidableEq

namespace LogOutput

def name : LogOutput → String
  | .stdout => "stdout"
  | .stderr => "stderr"
  | .file => "file"

def all : List LogOutput := [.stdout, .stderr, .file]

def decode (medium : Shape.Medium) : Shape.Decoder LogOutput :=
  Shape.choice medium (all.map fun output => (output.name, output))

def encode (output : LogOutput) : Json := .str output.name

end LogOutput

/-- How often a new log file is begun. -/
inductive LogRotation where
  | never
  | hourly
  | daily
deriving DecidableEq

namespace LogRotation

def name : LogRotation → String
  | .never => "never"
  | .hourly => "hourly"
  | .daily => "daily"

def all : List LogRotation := [.never, .hourly, .daily]

def decode (medium : Shape.Medium) : Shape.Decoder LogRotation :=
  Shape.choice medium (all.map fun rotation => (rotation.name, rotation))

def encode (rotation : LogRotation) : Json := .str rotation.name

end LogRotation

/-- Which moments in the life of a span are logged. -/
structure SpanEvents where
  opened : Bool
  entered : Bool
  exited : Bool
  closed : Bool
deriving DecidableEq

namespace SpanEvents

def none : SpanEvents := ⟨false, false, false, false⟩

/-- The beginning and the end, enough to time a span. -/
def lifecycle : SpanEvents := ⟨true, false, false, true⟩

def full : SpanEvents := ⟨true, true, true, true⟩

def fields : Shape.Fields SpanEvents :=
  SpanEvents.mk <$> .defaulted "new" false Shape.bool <*> .defaulted "enter" false Shape.bool <*>
    .defaulted "exit" false Shape.bool <*> .defaulted "close" false Shape.bool

def decode (medium : Shape.Medium) : Shape.Decoder SpanEvents :=
  Shape.record medium "struct SpanEventConfig" fields

def encode (events : SpanEvents) : Json :=
  .ofMembers [("new", .bool events.opened), ("enter", .bool events.entered),
    ("exit", .bool events.exited), ("close", .bool events.closed)]

end SpanEvents

/-- The settings of the log. -/
structure LoggingConfig where
  level : LogLevel
  format : LogFormat
  output : LogOutput
  /-- Levels of single targets, in ascending order of the targets. -/
  filters : List (String × LogLevel)
  filePath : Option String
  rotation : LogRotation
  threadIds : Bool
  fileLocation : Bool
  spanEvents : SpanEvents
deriving DecidableEq

namespace LoggingConfig

def default : LoggingConfig :=
  ⟨.info, .compact, .stdout, [], none, .never, false, false, .none⟩

def fields (medium : Shape.Medium) : Shape.Fields LoggingConfig :=
  LoggingConfig.mk <$> .defaulted "level" default.level (LogLevel.decode medium) <*>
    .defaulted "format" default.format (LogFormat.decode medium) <*>
    .defaulted "output" default.output (LogOutput.decode medium) <*>
    .defaulted "filters" default.filters (Shape.dictionary (LogLevel.decode medium)) <*>
    .optional "file_path" Shape.filePath <*>
    .defaulted "rotation" default.rotation (LogRotation.decode medium) <*>
    .defaulted "thread_ids" default.threadIds Shape.bool <*>
    .defaulted "file_location" default.fileLocation Shape.bool <*>
    .defaulted "span_events" default.spanEvents (SpanEvents.decode medium)

def decode (medium : Shape.Medium) : Shape.Decoder LoggingConfig :=
  Shape.record medium "struct LoggingConfig" (fields medium)

def encode (config : LoggingConfig) : Json :=
  .ofPresent [("level", some config.level.encode), ("format", some config.format.encode),
    ("output", some config.output.encode),
    ("filters", some (.ofMembers (config.filters.map fun (target, level) =>
      (target, level.encode)))),
    ("file_path", config.filePath.map .str), ("rotation", some config.rotation.encode),
    ("thread_ids", some (.bool config.threadIds)),
    ("file_location", some (.bool config.fileLocation)),
    ("span_events", some config.spanEvents.encode)]

end LoggingConfig
end Switchboard
