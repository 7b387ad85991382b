import ToolBindings.Failure
/-!
# The index of message types

All message types of all files under their full names: a dot and the package if there is
one, then a dot and the name for each message from the outermost to the innermost.

* `TypeIndex.ofFiles` collects them, a message before the messages inside it.
* `TypeIndex.find?` looks a full name up; of several types of one name the last counts.
-/
namespace ToolBindings

mutual

/-- A message and all messages inside it under their full names, for a given scope. -/
def Message.named (scope : String) : Message → List (String × Message)
  | ⟨name, fields, nested, mapEntry⟩ =>
    (scope ++ "." ++ name, ⟨name, fields, nested, mapEntry⟩) ::
      Message.namedAll (scope ++ "." ++ name) nested

/-- All messages of a list and all messages inside them under their full names. -/
def Message.namedAll (scope : String) : List Message → List (String × Message)
  | [] => []
  | message :: rest => message.named scope ++ Message.namedAll scope rest

end

def File.scope (file : File) : String :=
  if file.package = "" then "" else "." ++ file.package

/-- Message types under their full names, in the order of their declarations. -/
structure TypeIndex where
  entries : List (String × Message)

namespace TypeIndex

def ofFiles (files : List File) : TypeIndex :=
  ⟨files.flatMap fun file => Message.namedAll file.scope file.messages⟩

/-- The last message type of a full name. -/
def find? (index : TypeIndex) (fullName : String) : Option Message :=
  index.entries.reverse.lookup fullName

/-- The message type of a full name, or the error that there is none. -/
def resolve (index : TypeIndex) (fullName : String) : Except Failure Message :=
  match index.find? fullName with
  | some message => .ok message
  | none => .error (.rejected (.shape (.unresolvedType fullName)))

def names (index : TypeIndex) : List String := index.entries.map (·.1)

/-- The full names without repetition, in the order of their code points. -/
def sortedNames (index : TypeIndex) : List String :=
  (index.names.mergeSort fun a b => a ≤ b).eraseReps

theorem mem_entries_of_find {index : TypeIndex} {fullName : String} {message : Message}
    (h : index.find? fullName = some message) : (fullName, message) ∈ index.entries := by
  obtain ⟨before, after, hl, -⟩ := List.lookup_eq_some_iff.1 h
  rw [← List.mem_reverse, hl]
  simp

theorem mem_names_of_find {index : TypeIndex} {fullName : String} {message : Message}
    (h : index.find? fullName = some message) : fullName ∈ index.names :=
  List.mem_map.2 ⟨_, mem_entries_of_find h, rfl⟩

end TypeIndex

/-- The last of several files of one name. -/
def File.find? (files : List File) (name : String) : Option File :=
  files.reverse.find? (·.name == name)

/-- The files that a request wants modules for, in the order of their mention. -/
def Request.filesToGenerate (request : Request) : Except Failure (List File) :=
  request.toGenerate.mapM fun name =>
    match File.find? request.files name with
    | some file => .ok file
    | none => .error (.rejected (.shape (.missingFile name)))

end ToolBindings
