import ToolBindings.Naming.Identifier
import ToolBindings.Text.Split
/-!
# Derived names

The names that a generated module gives to the parts of a tool, all derived from the
names of its service and method, and the names derived from a file's name.

* tool name: `weather_service_get_forecast`
* name constant: `WEATHER_SERVICE_GET_FORECAST_TOOL`
* schema constant: `WEATHER_SERVICE_GET_FORECAST_INPUT_SCHEMA`
* dispatch function: `call_weather_service_get_forecast`
* constructor: `define_weather_service_get_forecast_tool`
* aggregator of `weather/v1/forecast.proto`: `define_forecast_tools`
-/
namespace ToolBindings.Naming
open Text

/-- The tool name of a method that declares none. -/
def toolName (service method : String) : String :=
  String.ofList (identifier [service.toList, method.toList])

/-- Tool names have 1 to 64 characters, each an ASCII letter, a digit, an underscore or
a hyphen. -/
def isToolName (name : String) : Bool :=
  let chars := name.toList
  0 < chars.length && chars.length ≤ 64 &&
    chars.all fun c => c.isAlphanum || c == '_' || c == '-'

/-- The constant that holds a tool's name. -/
def constantName (service method : String) : String :=
  String.ofList ((identifier [service.toList, method.toList, "tool".toList]).map Char.toUpper)

/-- The constant that holds a tool's input schema. -/
def schemaName (service method : String) : String :=
  String.ofList
    ((identifier [service.toList, method.toList, "input_schema".toList]).map Char.toUpper)

/-- The function that passes an input on to the implementation. -/
def dispatchName (service method : String) : String :=
  String.ofList (identifier ["call".toList, service.toList, method.toList])

/-- The function that constructs a tool. -/
def constructorName (service method : String) : String :=
  String.ofList (identifier ["define".toList, service.toList, method.toList, "tool".toList])

/-- The ending of a schema file's name. -/
def protoEnding : List Char := ".proto".toList

/-- The last part of a file's path without the ending. -/
def fileStem (path : List Char) : List Char :=
  let base := afterLast '/' path
  (dropEnding? protoEnding base).getD base

/-- The function that constructs all tools of a file. -/
def aggregatorName (path : String) : String :=
  String.ofList (identifier ["define".toList, fileStem path.toList, "tools".toList])

/-- The ending of a generated module's name unless the settings say otherwise. -/
def defaultSuffix : String := "_pb2_tools.py"

/-- The path of the generated module: the suffix takes the place of the ending. -/
def outputName (path suffix : String) : String :=
  String.ofList ((dropEnding? protoEnding path.toList).getD path.toList) ++ suffix

end ToolBindings.Naming
