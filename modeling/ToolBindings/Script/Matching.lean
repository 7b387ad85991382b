import ToolBindings.Script.Evaluation
/-!
# Matching values with patterns

`matchPattern` tells whether a value has the form of a pattern, and what the names of the
pattern stand for if it has.
-/
namespace ToolBindings.Script
open Eval

/-- The types whose values are matched as a whole by a single pattern. -/
def wholeTypes : List String := wordsOf [
  "bool bytearray bytes dict float frozenset int list set str tuple"]

/-- Matches several things one after the other, all of which must fit. -/
def matchAll {α : Type} (match' : α → Eval (Option Names)) : List α → Eval (Option Names)
  | [] => return some []
  | item :: rest => do
    match ← match' item with
    | none => return none
    | some first => return (← matchAll match' rest).map (first ++ ·)

/-- The items of a value that is a sequence but no text. -/
def sequenceItems? (r : Runner) (value : Datum) : Eval (Option (List Datum)) := do
  match value, ← object? value with
  | .tuple found _, _ | _, some (.list found) => return some found
  | .range .., _ => some <$> items r value
  | _, _ => return none

/-- The members that patterns without names stand for, of something of a type. -/
def positionalMembers (r : Runner) (type : Datum) : Eval (List String) := do
  if type.isSame (.type "Tool") then return toolFields
  match ← member? r type "__match_args__" with
  | some (.tuple names _) => names.mapM textOf
  | some .unknown | none => return []
  | some _ => fail "TypeError"

/-- The parts of a sequence that stand before, at and behind the pattern for all that is left. -/
def aroundRest (patterns : List Pattern) (found : List Datum) :
    Option (List (Pattern × Datum) × Option (Pattern × List Datum)) :=
  let before := patterns.takeWhile (!·.isRest)
  match patterns.drop before.length with
  | [] => if patterns.length = found.length then some (patterns.zip found, none) else none
  | rest :: behind =>
    let count := found.length - before.length - behind.length
    if found.length < before.length + behind.length then none
    else
      let tail := found.drop (before.length + count)
      some (before.zip found ++ behind.zip tail, some (rest, (found.drop before.length).take count))

/-- What the names of a pattern stand for in a value; `none` if the value has not its form. -/
def matchPattern (r : Runner) (scene : Scene) : Nat → Pattern → Datum → Eval (Option Names)
  | 0, _, _ => throwThe Halt .exhausted
  | bound + 1, pattern, value => do
    let inner := matchPattern r scene bound
    let keptIf := fun (fits : Bool) => if fits then some ([] : Names) else none
    match pattern with
    | .value e => return keptIf (← r.holds .eq value (← r.value scene e))
    | .constant c => return keptIf (value.isSame c.value)
    | .capture id | .rest id => return some (id.toList.map (·, value))
    | .keep pattern id => return (← inner pattern value).map (· ++ [(id, value)])
    | .either alternatives =>
      for alternative in alternatives do
        if let some names ← inner alternative value then return some names
      return none
    | .sequence patterns =>
      match (← sequenceItems? r value).bind (aroundRest patterns) with
      | none => return none
      | some (pairs, rest) =>
        let names ← matchAll (fun (pattern, item) => inner pattern item) pairs
        match names, rest with
        | some names, some (.rest (some id), left) => return some (names ++ [(id, ← list left)])
        | names, _ => return names
    | .mapping wanted rest =>
      match ← object? value with
      | some (.dict entries) =>
        let keys ← wanted.mapM fun (key, _) => r.value scene key
        if (withoutSameKeys keys).length ≠ keys.length then fail "ValueError"
        let names ← matchAll (fun ((_, pattern), key) => do
          match valueOfKey? entries key with
          | some item => inner pattern item
          | none => return none) (wanted.zip keys)
        match names, rest with
        | some names, some id =>
          let left := entries.filter fun entry => !keys.any entry.1.isSameKey
          return some (names ++ [(id, ← put (.dict left))])
        | names, _ => return names
      | _ => return none
    | .object type positional named =>
      let type ← r.value scene type
      if !(← isType type) then fail "TypeError"
      if !(← isOfType value type) then return none
      let whole := wholeTypes.any fun name => type.isSame (.type name)
      let members ← if whole then pure [] else positionalMembers r type
      if positional.length > (if whole then 1 else members.length) then fail "TypeError"
      if whole && !positional.isEmpty then
        return ← matchAll (fun pattern => inner pattern value) positional
      matchAll (fun (name, pattern) => do
        match ← member? r value name with
        | some found => inner pattern found
        | none => return none) (members.zip positional ++ named)

end ToolBindings.Script
