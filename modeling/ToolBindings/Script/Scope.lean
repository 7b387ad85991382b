import ToolBindings.Script.Tree
/-!
# Scopes

A scope is a part of a script with names of its own: the script, a function, a type, a
comprehension. `Program.scope` lists for each of them, in order, what is done in it to names,
and what can be done only in some scopes, such as to yield a value.

The functions on trees take a bound on the depth of the tree, as reading does.
-/
namespace ToolBindings.Script

inductive ScopeKind where
  | script
  | function (async : Bool)
  | type
  | comprehension (kind : Collection)
  /-- An annotation that is not evaluated. -/
  | unevaluated
deriving DecidableEq, Repr

namespace ScopeKind

def isFunction : ScopeKind → Bool
  | function _ => true
  | _ => false

def isComprehension : ScopeKind → Bool
  | comprehension _ => true
  | _ => false

end ScopeKind

mutual

/-- What happens in a scope. -/
inductive Occurrence where
  | read (id : String)
  | bind (id : String)
  /-- A module is bound to a name. -/
  | load (id : String)
  /-- A bare name is annotated. -/
  | annotate (id : String)
  /-- A value is assigned inside an expression. -/
  | assign (id : String)
  | global (id : String)
  | nonlocal (id : String)
  | yield
  | yieldAll
  | await
  /-- A statement waits between its steps. -/
  | asyncStatement
  /-- A comprehension waits between its items. -/
  | asyncClause
  | give (value : Bool)
  | loadAll
  /-- Something stands where it must not. -/
  | misplaced
  | scope (inner : Scope)

inductive Scope where
  | mk (kind : ScopeKind) (parameters : List String) (occurrences : List Occurrence)

end

/-- The occurrence that something must not be as it is. -/
def provided (fits : Bool) : List Occurrence := if fits then [] else [.misplaced]

def hasRepeated {α : Type} [BEq α] : List α → Bool
  | [] => false
  | item :: rest => rest.contains item || hasRepeated rest

/-- The name that cannot be bound, as it says whether checks are made. -/
def fixedName : String := "__debug__"

/-- Whether an expression takes a sequence of values. -/
def Expr.isSpread : Expr → Bool
  | .spread _ => true
  | _ => false

def argumentNames (arguments : List (Argument Expr)) : List String :=
  arguments.filterMap fun
    | .named name _ => some name
    | _ => none

mutual

/-- Whether a value is assigned inside an expression, scopes in it included. -/
def Occurrence.assigns : Occurrence → Bool
  | .assign _ => true
  | .scope (.mk _ _ occurrences) => someAssigns occurrences
  | _ => false

def someAssigns : List Occurrence → Bool
  | [] => false
  | occurrence :: rest => occurrence.assigns || someAssigns rest

end

/-! ## Expressions -/

/-- What an expression does: it is evaluated, or it is assigned to if it is `stored`. -/
def Expr.occurrences (bound : Nat) (stored : Bool) (e : Expr) : List Occurrence :=
  match bound with
  | 0 => []
  | bound + 1 =>
    let value := Expr.occurrences bound false
    let part := fun (stored : Bool) (e : Expr) =>
      match e with
      | .spread items => Expr.occurrences bound stored items
      | e => Expr.occurrences bound stored e
    match e with
    | .constant _ => []
    | .name id => [if stored then .bind id else .read id]
    | .formatted parts => parts.flatMap fun
        | .text _ => []
        | .field e _ format => value e ++ format.toList.flatMap value
    | .unary _ e => value e
    | .binary _ left right => value left ++ value right
    | .conjunction es | .disjunction es | .set es => es.flatMap (part false)
    | .compare first more => value first ++ more.flatMap fun (_, e) => value e
    | .choice condition yes no => value condition ++ value yes ++ value no
    | .lambda parameters result =>
      (parameters.all.flatMap fun p => p.default.toList.flatMap value) ++
        [.scope (.mk (.function false) (parameters.all.map (·.name)) (value result))]
    | .tuple es | .list es =>
      provided (!stored || (es.filter Expr.isSpread).length ≤ 1) ++ es.flatMap (part stored)
    | .dict entries => entries.flatMap fun (key, e) => key.toList.flatMap value ++ value e
    | .spread items => .misplaced :: value items
    | .call function arguments =>
      let names := argumentNames arguments
      provided (!hasRepeated names && !names.contains fixedName) ++ value function ++
        arguments.flatMap fun a => value a.value
    | .member object id => provided (!stored || id ≠ fixedName) ++ value object
    | .item object index => value object ++ value index
    | .slice first last step => [first, last, step].flatMap fun e => e.toList.flatMap value
    | .comprehension kind element entry clauses =>
      let items := clauses.map fun clause => value clause.items
      let rounds := (clauses.zip items).zipIdx.flatMap fun ((clause, items), i) =>
        (if clause.async then [.asyncClause] else []) ++
          Expr.occurrences bound true clause.target ++ (if i = 0 then [] else items) ++
          clause.conditions.flatMap value
      items.head?.getD [] ++ provided (!items.any someAssigns) ++
        [.scope (.mk (.comprehension kind) []
          (rounds ++ value element ++ entry.toList.flatMap value))]
    | .await e => .await :: value e
    | .yield e => .yield :: e.toList.flatMap value
    | .yieldAll e => .yieldAll :: value e
    | .assign id e => value e ++ [.assign id]

/-! ## Patterns -/

/-- What a pattern does to names, and whether it is fit. -/
structure PatternSummary where
  names : List String := []
  fit : Bool := true

def PatternSummary.append (a b : PatternSummary) : PatternSummary :=
  ⟨a.names ++ b.names, a.fit && b.fit⟩

instance : Append PatternSummary := ⟨PatternSummary.append⟩

/-- Whether a pattern takes the items that are left. -/
def Pattern.isRest : Pattern → Bool
  | .rest _ => true
  | _ => false

def Expr.isPatternValue : Expr → Bool
  | .formatted _ => false
  | _ => true

/-- The constant that a key of a mapping pattern is. -/
def Expr.constant? : Expr → Option Constant
  | .constant value => some value
  | _ => none

def sameItems (a b : List String) : Bool := a.all b.contains && b.all a.contains

/-- What a pattern does to names. One that matches everything is fit only as the last
alternative of the last case, or of one with a condition. -/
def Pattern.summary (bound : Nat) (last : Bool) (p : Pattern) : PatternSummary :=
  match bound with
  | 0 => {}
  | bound + 1 =>
    let inner := Pattern.summary bound true
    let together := fun (patterns : List Pattern) =>
      (patterns.map inner).foldl PatternSummary.append {}
    match p with
    | .value e => { fit := e.isPatternValue }
    | .constant _ => {}
    | .capture id => ⟨id.toList, last⟩
    | .rest id => ⟨id.toList, true⟩
    | .sequence items => { fit := (items.filter Pattern.isRest).length ≤ 1 } ++ together items
    | .mapping entries left =>
      { fit := !hasRepeated (entries.filterMap fun (key, _) => key.constant?) } ++
        together (entries.map (·.2)) ++ { names := left.toList }
    | .object _ positional named =>
      let names := named.map (·.1)
      { fit := !hasRepeated names && !names.contains fixedName } ++ together positional ++
        together (named.map (·.2))
    | .either alternatives =>
      let found := alternatives.zipIdx.map fun (a, i) =>
        Pattern.summary bound (last && i + 1 == alternatives.length) a
      let names := (found.head?.getD {}).names
      ⟨names, found.all fun s => s.fit && sameItems s.names names && !hasRepeated s.names⟩
    | .keep pattern id => Pattern.summary bound last pattern ++ { names := [id] }

def Pattern.values (bound : Nat) (p : Pattern) : List Expr :=
  match bound with
  | 0 => []
  | bound + 1 =>
    match p with
    | .value e => [e]
    | .constant _ | .capture _ | .rest _ => []
    | .sequence items | .either items => items.flatMap (Pattern.values bound)
    | .mapping entries _ => entries.flatMap fun (key, p) => key :: Pattern.values bound p
    | .object type positional named =>
      type :: positional.flatMap (Pattern.values bound) ++
        named.flatMap fun (_, p) => Pattern.values bound p
    | .keep p _ => Pattern.values bound p

def Pattern.occurrences (bound : Nat) (last : Bool) (p : Pattern) : List Occurrence :=
  let summary := p.summary bound last
  provided (summary.fit && !hasRepeated summary.names) ++
    (p.values bound).flatMap (Expr.occurrences bound false) ++ summary.names.map .bind

/-! ## Statements -/

/-- Where a statement stands. -/
structure Place where
  /-- How many blocks around it have something to do when they are left. -/
  blocks : Nat := 0
  /-- It is in a loop that can be left. -/
  inLoop : Bool := false
  /-- It is in a handler for parts of a group, which cannot be left. -/
  inGroup : Bool := false
  /-- Annotations are not evaluated. -/
  lazyAnnotations : Bool := false

/-- How many blocks can be inside one another. -/
def maxPlaces : Nat := 20

def Place.inside (place : Place) (more : Nat) : Place :=
  { place with blocks := place.blocks + more }

def Place.looped (place : Place) : Place := { place.inside 1 with inLoop := true }

/-- The place inside another scope. -/
def Place.fresh (place : Place) : Place := { lazyAnnotations := place.lazyAnnotations }

def annotationOccurrences (bound : Nat) (place : Place) (e : Expr) : List Occurrence :=
  let e := match e with
    | .spread items => items
    | e => e
  let found := e.occurrences bound false
  if place.lazyAnnotations then [.scope (.mk .unevaluated [] found)] else found

/-- What is done with the parameters of a function where it is defined. -/
def parameterOccurrences (bound : Nat) (place : Place) (p : Parameters Expr) : List Occurrence :=
  (p.all.flatMap fun p => p.default.toList.flatMap (Expr.occurrences bound false)) ++
    p.all.flatMap fun p => p.note.toList.flatMap (annotationOccurrences bound place)

def Statement.occurrences (bound : Nat) (place : Place) (s : Statement) : List Occurrence :=
  match bound with
  | 0 => []
  | bound + 1 =>
    let value := Expr.occurrences bound false
    let values := fun (es : List Expr) => es.flatMap value
    let stored := Expr.occurrences bound true
    let block := fun (place : Place) (body : List Statement) =>
      body.flatMap (Statement.occurrences bound place)
    let nested := fun (more : Nat) => provided (place.blocks + more ≤ maxPlaces)
    match s with
    | .expression e => value e
    | .assign targets e => targets.flatMap stored ++ value e
    | .update target _ e =>
      (match target with
        | .member object _ => value object
        | target => stored target) ++ value e
    | .annotate target bare note e =>
      (match target with
        | .name id =>
          if id = fixedName then [.misplaced]
          else if bare then [.annotate id]
          else if e.isSome then [.bind id]
          else []
        | target => stored target) ++
        annotationOccurrences bound place note ++ values e.toList
    | .delete targets => targets.flatMap fun
        | .member object _ => value object
        | target => stored target
    | .pass => []
    | .leaveLoop | .nextRound => provided place.inLoop
    | .give e => provided (!place.inGroup) ++ .give e.isSome :: values e.toList
    | .raise error cause => values (error.toList ++ cause.toList)
    | .check condition message => value condition ++ values message.toList
    | .load names => names.map fun name => .load (name.knownAs.getD (name.path.head?.getD ""))
    | .loadFrom _ ["__future__"] _ => [.misplaced]
    | .loadFrom _ _ none => [.loadAll]
    | .loadFrom _ _ (some names) =>
      names.map fun name => .load (name.knownAs.getD (name.path.head?.getD ""))
    | .globals names => names.map .global
    | .nonlocals names => names.map .nonlocal
    | .branch condition yes no => value condition ++ block place yes ++ block place no
    | .repeat condition body otherwise =>
      nested 1 ++ value condition ++ block place.looped body ++ block place otherwise
    | .each async target items body otherwise =>
      nested 1 ++ (if async then [.asyncStatement] else []) ++ stored target ++ value items ++
        block place.looped body ++ block place otherwise
    | .guard async managers body =>
      nested managers.length ++ (if async then [.asyncStatement] else []) ++
        (managers.flatMap fun (e, target) => value e ++ target.toList.flatMap stored) ++
        block (place.inside managers.length) body
    | .attempt body groups handlers otherwise cleanup =>
      let outer := if cleanup.isEmpty then 0 else 1
      let handled := if handlers.isEmpty then 0 else 1
      let handlerPlace := place.inside (outer + 2 * handled)
      let handlerPlace :=
        if groups then { handlerPlace with inLoop := false, inGroup := true } else handlerPlace
      nested (outer + 2 * handled) ++
        provided ((handlers.dropLast).all (·.kind.isSome)) ++
        block (place.inside (outer + handled)) body ++
        (handlers.flatMap fun h => values h.kind.toList ++ h.name.toList.map .bind ++
          block handlerPlace h.body) ++
        block (place.inside outer) otherwise ++ block (place.inside outer) cleanup
    | .select subject cases =>
      value subject ++ cases.zipIdx.flatMap fun (c, i) =>
        c.pattern.occurrences bound (c.condition.isSome || i + 1 == cases.length) ++
          values c.condition.toList ++ block place c.body
    | .function async name decorators parameters result body =>
      .bind name :: parameterOccurrences bound place parameters ++
        result.toList.flatMap (annotationOccurrences bound place) ++ values decorators ++
        [.scope (.mk (.function async) (parameters.all.map (·.name)) (block place.fresh body))]
    | .type name decorators bases body =>
      let names := argumentNames bases
      provided (!hasRepeated names && !names.contains fixedName) ++ .bind name ::
        (values (bases.map (·.value)) ++ values decorators ++
          [.scope (.mk .type [] (block place.fresh body))])

/-! ## Features -/

/-- The features that a script can ask for at its beginning. -/
def features : List String := [
  "nested_scopes", "generators", "division", "absolute_import", "with_statement",
  "print_function", "unicode_literals", "barry_as_FLUFL", "generator_stop", "annotations"]

def Statement.features? : Statement → Option (List String)
  | .loadFrom _ ["__future__"] names =>
    some (names.elim ["*"] fun names => names.flatMap (·.path))
  | _ => none

/-- Whether a statement is a text that describes what it stands in. -/
def Statement.isDescription : Statement → Bool
  | .expression (.constant (.text _)) => true
  | _ => false

/-- The statements behind the description of a script and the statements that ask for features,
and those features. -/
def Program.splitFeatures (program : Program) : List String × Program :=
  let rest := match program with
    | s :: rest => if s.isDescription then rest else program
    | [] => []
  ((rest.takeWhile (·.features?.isSome)).flatMap fun s => s.features?.getD [],
    rest.dropWhile (·.features?.isSome))

/-- Whether annotations are not evaluated. -/
def Program.hasLazyAnnotations (program : Program) : Bool :=
  program.splitFeatures.1.contains "annotations"

/-- The scope of a script. Features can be asked for only at the beginning. -/
def Program.scope (bound : Nat) (program : Program) : Scope :=
  let place : Place := { lazyAnnotations := program.hasLazyAnnotations }
  let (asked, rest) := program.splitFeatures
  .mk .script [] (provided (asked.all features.contains) ++
    rest.flatMap (Statement.occurrences bound place))

end ToolBindings.Script
