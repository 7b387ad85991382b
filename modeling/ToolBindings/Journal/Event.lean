import ToolBindings.Text.Decimal
/-!
# Events of a run

What a run reports beside its answer. An event has a severity and one line of log.
-/
namespace ToolBindings

/-- How serious an event is. -/
inductive Severity where
  | debug | info | error
deriving DecidableEq, Repr

namespace Severity

/-- Severities are compared with a threshold as numbers. -/
def rank : Severity → Nat
  | debug => 10 | info => 20 | error => 40

def name : Severity → String
  | debug => "DEBUG" | info => "INFO" | error => "ERROR"

end Severity

/-- What a run reports. -/
inductive Event where
  /-- A file was left out, because it has no services. -/
  | fileSkipped (file : String)
  /-- A method was left out, because it carries no tool metadata. -/
  | methodSkipped (owner : String)
  /-- A message type was not expanded inside its own expansion. -/
  | referenceTruncated (type : String)
  /-- The module of a file is complete. -/
  | generated (path : String) (tools : Nat)
  /-- The request was refused. -/
  | refused (message : String)
deriving DecidableEq, Repr

namespace Event

def severity : Event → Severity
  | fileSkipped _ | methodSkipped _ | referenceTruncated _ => .debug
  | generated _ _ => .info
  | refused _ => .error

/-- The name under which the event is logged. -/
def channel : Event → String
  | methodSkipped _ => "protoc_gen_tools.extractor"
  | referenceTruncated _ => "protoc_gen_tools.schema_builder"
  | fileSkipped _ | generated _ _ | refused _ => "protoc_gen_tools.plugin"

def message : Event → String
  | fileSkipped file => "Skipping " ++ file ++ ": no services"
  | methodSkipped owner => "Skipping " ++ owner ++ ": no tool annotation"
  | referenceTruncated type => "Truncating recursive reference to " ++ type
  | generated path tools =>
    "Generated " ++ path ++ " (" ++ String.ofList (Text.decimalDigits tools) ++ " tools)"
  | refused message => "Generation failed: " ++ message

/-- The line of log that reports the event. -/
def line (event : Event) : String :=
  "protoc-gen-tools: " ++ event.severity.name ++ " " ++ event.channel ++ ": " ++
    event.message ++ "\n"

/-- The log of a run: the lines of the events that reach the threshold. -/
def log (threshold : Nat) (events : List Event) : String :=
  String.join ((events.filter fun e => threshold ≤ e.severity.rank).map line)

end Event

end ToolBindings
