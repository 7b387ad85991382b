import ToolBindings.Script.Builtin
import ToolBindings.Script.Soundness
/-!
# Expressions

`evaluate` gives the value of an expression. A comprehension is a function of its own that
yields its items, so its names are not those around it; the items that its first loop goes
through are given to it as an argument.
-/
namespace ToolBindings.Script
open Eval

/-! ## Functions -/

/-- A bound on the depth of trees: no script is nested so deep. -/
def maxDepth : Nat := 100000

/-- The scenes around a function that is defined in a scene. -/
def Scene.around (scene : Scene) : List Nat :=
  if scene.shared then scene.frame :: scene.outer else scene.outer

/-- A function with a body in which some things occur. -/
def newFunction (scene : Scene) (name : String) (async : Bool) (parameters : Parameters Expr)
    (defaults : Names) (body : List Statement) (occurrences : List Occurrence) : Function :=
  let globals := occurrences.filterMap Occurrence.global?
  let elsewhere := globals ++ occurrences.filterMap Occurrence.nonlocal?
  let bound := occurrences.filterMap Occurrence.bound? ++
    Occurrence.assignedInside maxDepth occurrences
  let yields := occurrences.any fun
    | .yield | .yieldAll => true
    | _ => false
  { name, parameters, defaults, body, async, yields, globals, outer := scene.around
    own := parameters.all.map (·.name) ++ bound.filter (!elsewhere.contains ·) }

/-- The values of the parameters that have one where the function is defined. -/
def defaultsOf (r : Runner) (scene : Scene) (parameters : Parameters Expr) : Eval Names := do
  let given := (parameters.positional ++ parameters.named).filterMap fun p =>
    p.default.map (p.name, ·)
  given.mapM fun (name, e) => return (name, ← r.value scene e)

/-! ## Comprehensions -/

/-- The name under which a comprehension gets the items of its first loop. -/
def firstItems : String := ".0"

def loopsOf (items : Expr) (inner : List Statement) : List (Clause Expr) → List Statement
  | [] => inner
  | clause :: rest =>
    let next := match rest with
      | following :: _ => loopsOf following.items inner rest
      | [] => inner
    let body := clause.conditions.foldr (fun condition body => [.branch condition body []]) next
    [.each clause.async clause.target items body []]

def comprehensionFunction (scene : Scene) (element : Expr) (value : Option Expr)
    (clauses : List (Clause Expr)) : Function :=
  let item := value.elim element fun value => .tuple [element, value]
  let names := clauses.flatMap fun clause =>
    loopNames (Expr.occurrences maxDepth true clause.target)
  { name := "", async := false, yields := true, globals := scene.globals, defaults := []
    parameters := { positional := [⟨firstItems, none, none⟩] }
    body := loopsOf (.name firstItems) [.expression (.yield (some item))] clauses
    own := firstItems :: names, outer := scene.around }

def comprehend (r : Runner) (scene : Scene) (kind : Collection) (element : Expr)
    (value : Option Expr) (clauses : List (Clause Expr)) : Eval Datum := do
  let first ← match clauses with
    | clause :: _ => r.value scene clause.items
    | [] => tuple []
  let first ← if kind = .lazy then iteratorOf r first else pure first
  let generator ← callFunction r (comprehensionFunction scene element value clauses) ⟨[first], []⟩
  match kind with
  | .lazy => return generator
  | .list => do list (← items r generator)
  | .set => do newSet (← items r generator) false
  | .dict =>
    newDict ((← items r generator).filterMap fun
      | .tuple [key, value] _ => some (key, value)
      | _ => none)

/-! ## Parts of expressions -/

def Constant.value : Constant → Datum
  | none => .none
  | bool value => .bool value
  | ellipsis => .atom .ellipsis 0
  | number (.int value) => .atom (.int value) 0
  | number (.float digits exponent) => .atom (.float (floatOf digits exponent)) 0
  | number (.imaginary ..) => .unknown
  | text value => .atom (.text value) 0
  | octets value => .atom (.octets value) 0

/-- The values of expressions some of which stand for all items of a value. -/
def evaluateItems (r : Runner) (scene : Scene) : List Expr → Eval (List Datum)
  | [] => return []
  | .spread e :: rest => do
    let first ← items r (← r.value scene e)
    return first ++ (← evaluateItems r scene rest)
  | e :: rest => do
    let first ← r.value scene e
    return first :: (← evaluateItems r scene rest)

def spreadEntries (r : Runner) (value : Datum) : Eval (List (Datum × Datum)) := do
  match value, ← object? value with
  | .unknown, _ => return []
  | _, some (.dict entries) => return entries
  | value, _ =>
    if (← member? r value "keys").isNone then fail "TypeError"
    entriesOf r value

def evaluateEntries (r : Runner) (scene : Scene) :
    List (Option Expr × Expr) → Eval (List (Datum × Datum))
  | [] => return []
  | (none, e) :: rest => do
    let first ← spreadEntries r (← r.value scene e)
    return first ++ (← evaluateEntries r scene rest)
  | (some key, e) :: rest => do
    let key ← r.value scene key
    let value ← r.value scene e
    checkKey key
    return (key, value) :: (← evaluateEntries r scene rest)

def evaluateArguments (r : Runner) (scene : Scene) (found : Arguments) :
    List (Argument Expr) → Eval Arguments
  | [] => return found
  | argument :: rest => do
    let value ← r.value scene argument.value
    let found ← match argument with
      | .plain _ => pure { found with positional := found.positional ++ [value] }
      | .spread _ => do pure { found with positional := found.positional ++ (← items r value) }
      | .named name _ =>
        if (found.named.lookup name).isSome then fail "TypeError"
        pure { found with named := found.named ++ [(name, value)] }
      | .spreadNamed _ =>
        let named ← (← spreadEntries r value).mapM fun (key, value) => do
          match key.text? with
          | some name =>
            if (found.named.lookup name).isSome then fail "TypeError"
            return (name, value)
          | none => fail "TypeError"
        pure { found with named := found.named ++ named }
    evaluateArguments r scene found rest

/-- A comparison with several operators: all of them hold, and what stands behind one that does
not hold is not looked at. -/
def evaluateComparisons (r : Runner) (scene : Scene) (left : Datum) :
    List (Comparison × Expr) → Eval Datum
  | [] => return .bool true
  | (op, e) :: rest => do
    let right ← r.value scene e
    if ← r.holds op left right then
      if rest.isEmpty then return .bool true else evaluateComparisons r scene right rest
    else return .bool false

/-- The first value that does not count as `stop`, or else the last one. -/
def evaluateUntil (r : Runner) (scene : Scene) (stop : Bool) : List Expr → Eval Datum
  | [] => return .bool !stop
  | [e] => r.value scene e
  | e :: rest => do
    let value ← r.value scene e
    if (← truth r value) == stop then return value else evaluateUntil r scene stop rest

/-- A part of a text with values put in. A text that is laid out plainly is itself. -/
def evaluatePart (r : Runner) (scene : Scene) : FormatPart Expr → Eval Datum
  | .text value => return .atom (.text value) 0
  | .field e conversion format => do
    let value ← converted r (← r.value scene e) conversion
    let format ← match format with
      | some format => textOf (← r.value scene format)
      | none => pure ""
    textOrOneOf [value] (← formatted r value format)

def namesAsDict (frame : Nat) : Eval Datum := do
  let (_, values) ← frameAt frame
  newDict (← values.mapM fun (name, value) => return (← text name, value))

def Flaw.errorType : Flaw → String
  | form => "SyntaxError"
  | indentation => "IndentationError"
  | tabs => "TabError"

/-- The scene of a text that is run in a scene. What it defines does not see the names of a
function in which it is run, and it binds no names there. -/
def Scene.forText (scene : Scene) : Eval Scene := do
  if !scene.shared then return scene
  match ← put (.frame [] (← frameAt scene.frame).2) with
  | .object frame => return { frame }
  | _ => return {}

/-- Runs a text as a script in a scene, or gives the value of the expression that it is. -/
def runText (r : Runner) (scene : Scene) (evaluated : Bool) (source : String) : Eval Datum := do
  let source := if evaluated then String.ofList (source.toList.dropWhile (" \t".toList.contains))
    else source
  match Program.ofText? source, evaluated with
  | .error flaw, _ => fail flaw.errorType
  | .ok [.expression e], true => r.value (← scene.forText) e
  | .ok _, true => fail "SyntaxError"
  | .ok program, false =>
    let _ ← r.block (← scene.forText) program
    return .none

/-- Calls a value. Some functions of the language see where they are called. -/
def callIn (r : Runner) (scene : Scene) (function : Datum) (arguments : Arguments) :
    Eval Datum := do
  match function, arguments.positional with
  | .primitive "globals", [] => namesAsDict 0
  | .primitive "locals", [] | .primitive "vars", [] => namesAsDict scene.frame
  | .primitive "exec", .atom (.text source) _ :: _ => runText r scene false source
  | .primitive "eval", .atom (.text source) _ :: _ => runText r scene true source
  | .primitive "exec", value :: _ | .primitive "eval", value :: _ =>
    if value matches .unknown then return .unknown else fail "TypeError"
  | .primitive "exec", [] | .primitive "eval", [] => fail "TypeError"
  | function, _ => r.call function arguments

/-! ## Expressions -/

/-- Whether an expression is a constant, and so always the same value. -/
def Expr.isConstant : Expr → Bool
  | .constant _ => true
  | _ => false

/-- The value of an expression. -/
def evaluate (r : Runner) (scene : Scene) (e : Expr) : Eval Datum := do
  match e with
  | .constant value => return value.value
  | .name id => readName scene id
  | .formatted parts =>
    match ← parts.mapM (evaluatePart r scene) with
    | [part] => return part
    | parts => text (String.join (← parts.mapM textOf))
  | .unary op e =>
    let result ← unary r op (← r.value scene e)
    return if e.isConstant then result.asWritten else result
  | .binary op left right =>
    let left ← r.value scene left
    binary r op left (← r.value scene right)
  | .conjunction operands => evaluateUntil r scene false operands
  | .disjunction operands => evaluateUntil r scene true operands
  | .compare first rest => do evaluateComparisons r scene (← r.value scene first) rest
  | .choice condition yes no =>
    if ← truth r (← r.value scene condition) then r.value scene yes else r.value scene no
  | .lambda parameters result =>
    let defaults ← defaultsOf r scene parameters
    put (.function (newFunction scene "<lambda>" false parameters defaults [.give (some result)]
      (result.occurrences maxDepth false)) [])
  | .tuple es =>
    let values ← evaluateItems r scene es
    if es.all Expr.isConstant then return .tuple values 0 else tuple values
  | .list es => do list (← evaluateItems r scene es)
  | .set es => do newSet (← evaluateItems r scene es) false
  | .dict entries => do newDict (← evaluateEntries r scene entries)
  | .spread _ => fail "SyntaxError"
  | .call function arguments =>
    let function ← r.value scene function
    callIn r scene function (← evaluateArguments r scene {} arguments)
  | .member object name => do member r (← r.value scene object) name
  | .item object index =>
    let object ← r.value scene object
    itemAt r object (← r.value scene index)
  | .slice first last step =>
    let part := fun (e : Option Expr) => match e with
      | some e => r.value scene e
      | none => return .none
    let first ← part first
    let last ← part last
    return .slice first last (← part step)
  | .comprehension kind element value clauses => comprehend r scene kind element value clauses
  | .await e =>
    let _ ← r.value scene e
    return .unknown
  | .yield e =>
    let value ← match e with
      | some e => r.value scene e
      | none => pure .none
    modify fun machine => { machine with yielded := value :: machine.yielded }
    return .none
  | .yieldAll e =>
    let found ← items r (← r.value scene e)
    modify fun machine => { machine with yielded := found.reverse ++ machine.yielded }
    return .none
  | .assign name e =>
    let value ← r.value scene e
    bindName scene name value
    return value

end ToolBindings.Script
