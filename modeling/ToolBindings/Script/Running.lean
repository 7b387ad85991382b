import ToolBindings.Script.Matching
/-!
# Statements

`runBlock` runs statements one after the other until one of them leaves the block. `runner`
ties everything that is evaluated, run and called together, with a bound on how deep it goes;
`runScript` runs a script from its beginning.
-/
namespace ToolBindings.Script
open Eval

/-! ## Targets -/

/-- Sets what a target stands for. The bound is on how deep targets are in one another. -/
def assignTo (r : Runner) (scene : Scene) : Nat → Expr → Datum → Eval Unit
  | 0, _, _ => throwThe Halt .exhausted
  | bound + 1, target, value => do
    match target with
    | .name id => bindName scene id value
    | .member object name => do setMember r (← r.value scene object) name value
    | .item object index =>
      let object ← r.value scene object
      setItem r object (← r.value scene index) value
    | .tuple targets | .list targets =>
      if value matches .unknown then
        for target in targets do assignTo r scene bound target .unknown
      else
        let found ← items r value
        let before := targets.takeWhile (!·.isSpread)
        match targets.drop before.length with
        | .spread rest :: behind =>
          if found.length < before.length + behind.length then fail "ValueError"
          let count := found.length - before.length - behind.length
          for (target, item) in before.zip found do assignTo r scene bound target item
          assignTo r scene bound rest (← list ((found.drop before.length).take count))
          for (target, item) in behind.zip (found.drop (before.length + count)) do
            assignTo r scene bound target item
        | _ =>
          if targets.length ≠ found.length then fail "ValueError"
          for (target, item) in targets.zip found do assignTo r scene bound target item
    | .spread target => assignTo r scene bound target value
    | _ => fail "SyntaxError"

def assign (r : Runner) (scene : Scene) (target : Expr) (value : Datum) : Eval Unit :=
  assignTo r scene maxDepth target value

/-- Updates what a target stands for. The parts of the target are evaluated once. -/
def updateTarget (r : Runner) (scene : Scene) (target : Expr) (op : BinaryOp) (e : Expr) :
    Eval Unit := do
  match target with
  | .member object name =>
    let object ← r.value scene object
    let old ← member r object name
    setMember r object name (← update r op old (← r.value scene e))
  | .item object index =>
    let object ← r.value scene object
    let index ← r.value scene index
    let old ← itemAt r object index
    setItem r object index (← update r op old (← r.value scene e))
  | target =>
    let old ← r.value scene target
    assign r scene target (← update r op old (← r.value scene e))

/-- Takes away what a target stands for. -/
def deleteTarget (r : Runner) (scene : Scene) : Nat → Expr → Eval Unit
  | 0, _ => throwThe Halt .exhausted
  | bound + 1, target => do
    match target with
    | .name id => deleteName scene id
    | .member object name => do deleteMember r (← r.value scene object) name
    | .item object index =>
      let object ← r.value scene object
      deleteItem r object (← r.value scene index)
    | .tuple targets | .list targets =>
      for target in targets do deleteTarget r scene bound target
    | _ => fail "SyntaxError"

/-! ## Libraries -/

def takeFrom (library : Datum) (name : String) : Eval Datum := do
  match ← object? library with
  | some (.library path members) =>
    match ← libraryMember? path members name with
    | some value => return value
    | none =>
      if isLibrary (← get).support (path ++ "." ++ name) then
        return (← loadLibrary (path.splitOn "." ++ [name])).1
      fail "ImportError"
  | _ => return .unknown

def allNames (library : Datum) : Eval (List String) := do
  match ← object? library with
  | some (.library path _) =>
    if path = (← get).support then return supportTypes ++ supportFunctions ++ supportNames
    return (namesOfLibrary? path).getD []
  | _ => return []

def loadNames (scene : Scene) (level : Nat) (path : List String)
    (names : Option (List ImportName)) : Eval Unit := do
  if level > 0 then fail "ImportError"
  let (library, _) ← loadLibrary path
  match names with
  | none => for name in ← allNames library do bindName scene name (← takeFrom library name)
  | some names =>
    for name in names do
      let id := name.path.headD ""
      bindName scene (name.knownAs.getD id) (← takeFrom library id)

/-! ## Errors -/

/-- The error that a value stands for: itself, or a new one of the type that it is. -/
def errorFrom (r : Runner) (value : Datum) : Eval Datum := do
  if value matches .unknown then newError (.type "Exception") []
  else if ← isErrorType value then
    let error ← r.call value {}
    if ← isError error then return error else fail "TypeError"
  else if ← isError value then return value
  else fail "TypeError"

def runRaise (r : Runner) (scene : Scene) (error cause : Option Expr) : Eval Ending := do
  match error with
  | none =>
    match (← get).handled with
    | error :: _ => raise error
    | [] => fail "RuntimeError"
  | some e =>
    let value ← r.value scene e
    let cause ← cause.mapM (r.value scene)
    let error ← errorFrom r value
    match cause with
    | some cause => if !cause.isNone then let _ ← errorFrom r cause
    | none => pure ()
    raise error

/-- Whether a handler handles an error, given the bound on how deep lists of types are in one
another. -/
def handles (error : Datum) : Nat → Datum → Eval Bool
  | 0, _ => throwThe Halt .exhausted
  | bound + 1, kinds => do
    match kinds with
    | .unknown => return true
    | .tuple kinds _ =>
      for kind in kinds do
        if ← handles error bound kind then return true
      return false
    | kind => if ← isErrorType kind then isOfType error kind else fail "TypeError"

/-- Runs the first handler that handles an error. -/
def runHandlers (r : Runner) (scene : Scene) (error : Datum) :
    List (Handler Statement) → Eval Ending
  | [] => raise error
  | handler :: rest => do
    let fits ← match handler.kind with
      | none => pure true
      | some kind => do handles error 100 (← r.value scene kind)
    if !fits then return ← runHandlers r scene error rest
    if let some name := handler.name then bindName scene name error
    modify fun machine => { machine with handled := error :: machine.handled }
    let result ← caught (r.block scene handler.body)
    modify fun machine => { machine with handled := machine.handled.tail }
    if let some name := handler.name then
      let place ← frameOf scene name
      let (own, values) ← frameAt place
      replace place (.frame own (values.remove name))
    match result with
    | .ok ending => return ending
    | .error error => raise error

/-- Runs statements, and others whatever happens. If the latter leave the block they decide. -/
def runAttempt (r : Runner) (scene : Scene) (body : List Statement)
    (handlers : List (Handler Statement)) (otherwise cleanup : List Statement) : Eval Ending := do
  let result ← caught do
    match ← caught (r.block scene body) with
    | .ok .next => r.block scene otherwise
    | .ok ending => return ending
    | .error error => runHandlers r scene error handlers
  match ← r.block scene cleanup, result with
  | .next, .ok ending => return ending
  | .next, .error error => raise error
  | ending, _ => return ending

/-- Runs statements between entering and leaving what manages them. -/
def runGuarded (r : Runner) (scene : Scene) (body : List Statement) :
    List (Expr × Option Expr) → Eval Ending
  | [] => r.block scene body
  | (manager, target) :: rest => do
    let manager ← r.value scene manager
    let known := !(manager matches .unknown)
    let enter ← special? manager "__enter__"
    let leave ← special? manager "__exit__"
    if known && (enter.isNone || leave.isNone) then fail "TypeError"
    let enter := enter.getD .unknown
    let leave := leave.getD .unknown
    let value ← r.call enter {}
    let result ← caught do
      if let some target := target then assign r scene target value
      runGuarded r scene body rest
    match result with
    | .ok ending =>
      let _ ← r.call leave ⟨[.none, .none, .none], []⟩
      return ending
    | .error error =>
      let answer ← r.call leave ⟨[← typeOf error, error, .none], []⟩
      if known && (← truth r answer) then return .next else raise error

/-! ## Loops -/

def runEach (r : Runner) (scene : Scene) (target : Expr) (body : List Statement) :
    List Datum → Eval (Option Ending)
  | [] => return none
  | item :: rest => do
    assign r scene target item
    match ← r.block scene body with
    | .next | .nextRound => runEach r scene target body rest
    | .leftLoop => return some .next
    | ending => return some ending

/-- Runs statements as long as a condition holds, at most a number of times. -/
def runWhile (r : Runner) (scene : Scene) (condition : Expr) (body : List Statement) :
    Nat → Eval (Option Ending)
  | 0 => throwThe Halt .exhausted
  | bound + 1 => do
    if !(← truth r (← r.value scene condition)) then return none
    match ← r.block scene body with
    | .next | .nextRound => runWhile r scene condition body bound
    | .leftLoop => return some .next
    | ending => return some ending

/-! ## Definitions -/

/-- Applies what decorates a definition, the last decorator first. -/
def applyDecorators (r : Runner) (decorators : List Datum) (value : Datum) : Eval Datum :=
  decorators.foldrM (fun decorator value => r.call decorator ⟨[value], []⟩) value

def defineFunction (r : Runner) (scene : Scene) (async : Bool) (name : String)
    (decorators : List Expr) (parameters : Parameters Expr) (body : List Statement) :
    Eval Unit := do
  let decorators ← decorators.mapM (r.value scene)
  let defaults ← defaultsOf r scene parameters
  let occurrences := body.flatMap (Statement.occurrences maxDepth {})
  let function := newFunction scene name async parameters defaults body occurrences
  bindName scene name (← applyDecorators r decorators (← put (.function function [])))

/-- Defines a type. The names that its body binds are its members. -/
def defineType (r : Runner) (scene : Scene) (name : String) (decorators : List Expr)
    (bases : List (Argument Expr)) (body : List Statement) : Eval Unit := do
  let decorators ← decorators.mapM (r.value scene)
  let arguments ← evaluateArguments r scene {} bases
  let occurrences := body.flatMap (Statement.occurrences maxDepth {})
  let inner := newFunction scene name false {} [] body occurrences
  match ← put (.frame inner.own []) with
  | .object frame =>
    let _ ← r.block { shared := false, frame, globals := inner.globals, outer := scene.around } body
    let (_, members) ← frameAt frame
    let type ← newType name arguments.positional members
    let lineage ← lineageOfType type
    let named := arguments.named.filter fun (name, _) => name ≠ "metaclass"
    match ← definedIn? "__init_subclass__" lineage.tail with
    | some function => let _ ← r.call (.bound type function) ⟨[], named⟩
    | none => if !named.isEmpty then fail "TypeError"
    bindName scene name (← applyDecorators r decorators type)
  | _ => return

/-! ## Statements -/

/-- Runs the first case whose pattern fits. -/
def runCases (r : Runner) (scene : Scene) (value : Datum) : List (Case Statement) → Eval Ending
  | [] => return .next
  | c :: rest => do
    match ← matchPattern r scene maxDepth c.pattern value with
    | none => runCases r scene value rest
    | some names =>
      for (name, found) in names do bindName scene name found
      let fits ← match c.condition with
        | some e => do truth r (← r.value scene e)
        | none => pure true
      if fits then r.block scene c.body else runCases r scene value rest

/-- What a loop comes to that has ended in some way. -/
def runOtherwise (r : Runner) (scene : Scene) (otherwise : List Statement) :
    Option Ending → Eval Ending
  | some ending => return ending
  | none => r.block scene otherwise

def runStatement (r : Runner) (scene : Scene) (s : Statement) : Eval Ending := do
  match s with
  | .expression e =>
    let _ ← r.value scene e
    return .next
  | .assign targets e =>
    let value ← r.value scene e
    for target in targets do assign r scene target value
    return .next
  | .update target op e =>
    updateTarget r scene target op e
    return .next
  | .annotate target _ _ e =>
    match e, target with
    | some e, target => do assign r scene target (← r.value scene e)
    | none, .member object _ => let _ ← r.value scene object
    | none, .item object index =>
      let _ ← r.value scene object
      let _ ← r.value scene index
    | none, _ => pure ()
    return .next
  | .delete targets =>
    for target in targets do deleteTarget r scene maxDepth target
    return .next
  | .pass | .globals _ | .nonlocals _ => return .next
  | .leaveLoop => return .leftLoop
  | .nextRound => return .nextRound
  | .give none => return .gave .none
  | .give (some e) => return .gave (← r.value scene e)
  | .raise error cause => runRaise r scene error cause
  | .check condition message =>
    if ← truth r (← r.value scene condition) then return .next
    let arguments ← message.toList.mapM (r.value scene)
    fail "AssertionError" arguments
  | .load names =>
    for name in names do
      let (library, outermost) ← loadLibrary name.path
      match name.knownAs with
      | some id => bindName scene id library
      | none => bindName scene (name.path.headD "") outermost
    return .next
  | .loadFrom _ ["__future__"] _ => return .next
  | .loadFrom level path names =>
    loadNames scene level path names
    return .next
  | .branch condition yes no =>
    if ← truth r (← r.value scene condition) then r.block scene yes else r.block scene no
  | .repeat condition body otherwise => do
    runOtherwise r scene otherwise (← runWhile r scene condition body maxItems)
  | .each _ target e body otherwise =>
    let (found, failure) ← itemsAndFailure r 100 (← r.value scene e)
    match ← runEach r scene target body found, failure with
    | none, some error => raise error
    | ending, _ => runOtherwise r scene otherwise ending
  | .guard _ managers body => runGuarded r scene body managers
  | .attempt body _ handlers otherwise cleanup =>
    runAttempt r scene body handlers otherwise cleanup
  | .select subject cases => do runCases r scene (← r.value scene subject) cases
  | .function async name decorators parameters _ body =>
    defineFunction r scene async name decorators parameters body
    return .next
  | .type name decorators bases body =>
    defineType r scene name decorators bases body
    return .next

/-- Runs statements until one of them leaves the block. -/
def runBlock (r : Runner) (scene : Scene) : List Statement → Eval Ending
  | [] => return .next
  | s :: rest => do
    match ← runStatement r scene s with
    | .next => runBlock r scene rest
    | ending => return ending

/-! ## Calls -/

def callValue (r : Runner) (function : Datum) (arguments : Arguments) : Eval Datum := do
  match function, ← object? function with
  | .unknown, _ => return .unknown
  | .primitive name, _ => callPrimitive r name arguments
  | .type name, _ => construct r name arguments
  | .method receiver name, _ => callMethod r receiver name arguments
  | .bound receiver function, _ =>
    r.call function { arguments with positional := receiver :: arguments.positional }
  | _, some (.function function _) => callFunction r function arguments
  | _, some (.type ..) => newRecord r function arguments
  | _, some (.applied function given) =>
    let others := given.named.filter fun (name, _) => (arguments.named.lookup name).isNone
    r.call function ⟨given.positional ++ arguments.positional, others ++ arguments.named⟩
  | _, some (.wrapped .static function) => r.call function arguments
  | value, _ =>
    match ← special? value "__call__" with
    | some method => r.call method arguments
    | none =>
      if ← isOf value "Tool" then
        let input ← only arguments
        r.call (← member r value "fn") ⟨[input], []⟩
      else fail "TypeError"

/-- Everything that is evaluated, run and called, as deep as a bound. -/
def runner : Nat → Runner
  | 0 => {
    value := fun _ _ => throwThe Halt .exhausted
    block := fun _ _ => throwThe Halt .exhausted
    call := fun _ _ => throwThe Halt .exhausted
    holds := fun _ _ _ => throwThe Halt .exhausted
    written := fun _ _ => throwThe Halt .exhausted }
  | bound + 1 => {
    value := fun scene e => evaluate (runner bound) scene e
    block := fun scene body => runBlock (runner bound) scene body
    call := fun function arguments => callValue (runner bound) function arguments
    holds := fun op a b => holds (runner bound) op a b
    written := fun asScript value => writtenValue (runner bound) asScript value }

/-- What runs scripts. -/
def running : Runner := runner maxDepth

/-- Runs a script from its beginning. -/
def runScript (program : Program) : Eval Unit := do
  let _ ← running.block {} program

end ToolBindings.Script
