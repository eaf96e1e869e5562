import Agenda.Query.Basic
import Agenda.Query.Classify

/-!
# Compilation

Tokens become a query: the first one names the domain, and each of the others adds a clause or fills
a directive. Every name is checked against the tables of the domain; a name or a kind of filter that
only other domains have is reported with those domains.

A `load:` directive stands for a saved text and replaces the whole query, so that nothing else in it
is compiled.
-/

namespace Agenda

/-- The keys of the directives. -/
def directiveNames : List String :=
  ["cols", "sort", "metrics", "with", "group", "view", "save", "load"]

/-- What a sequence of tokens amounts to. -/
inductive Compiled
  /-- A query. -/
  | ready (query : Query)
  /-- The saved query to use instead, and the words that are ignored beside it. -/
  | load (name : String) (discarded : List String)
deriving DecidableEq

namespace Token

/-- Whether the token is a directive with the given key. -/
def isDirective (token : Token) (key : String) : Bool :=
  match token.kind with
  | .directive name _ => name == key
  | _ => false

/-- The only value of a directive. -/
def singleValue (token : Token) (name : String) : Except QueryError String :=
  match token.kind with
  | .directive _ [value] => .ok value
  | _ => .error (.compile (.invalidDirectiveValue name token.raw))

end Token

/-! ## Names -/

/-- The error for a name that the domain does not accept: a mismatch if another domain does, and the
given cause otherwise. -/
def unknownName (domain : Domain) (name : String) (accepts : Schema → Bool)
    (cause : CompileError) : QueryError :=
  match Domain.all.filter fun d => d ≠ domain ∧ accepts d.schema with
  | [] => .compile cause
  | validIn => .domainMismatch name domain validIn

/-- Splits a trailing sign off a sort entry. -/
def splitDirection (entry : String) : String × Direction :=
  match entry.toList.getLast? with
  | some '-' => (String.ofList entry.toList.dropLast, .descending)
  | some '+' => (String.ofList entry.toList.dropLast, .ascending)
  | _ => (entry, .ascending)

namespace Domain

/-- The column that a value of `cols:` names. -/
def column (domain : Domain) (value : String) : Except QueryError String :=
  let name := Text.lower value
  if name ∈ domain.schema.columns then .ok name
  else .error (unknownName domain name (·.columns.contains name)
    (.invalidColumn name domain domain.schema.columns))

/-- The sort key that a value of `sort:` names. -/
def sortKey (domain : Domain) (value : String) : Except QueryError SortKey :=
  let (field, direction) := splitDirection value
  let name := Text.lower field
  if name ∈ domain.schema.sortable then .ok ⟨name, direction⟩
  else .error (unknownName domain name (·.sortable.contains name)
    (.invalidColumn name domain domain.schema.sortable))

/-- The metric that a value of `metrics:` names. -/
def metric (domain : Domain) (value : String) : Except QueryError String :=
  let name := Text.lower value
  if name ∈ domain.schema.metrics then .ok name
  else .error (unknownName domain name (·.metrics.contains name)
    (.invalidMetric name domain domain.schema.metrics))

/-- The relation that a value of `with:` names. -/
def relation (domain : Domain) (value : String) : Except QueryError String :=
  let name := Text.lower value
  if name ∈ domain.schema.relations then .ok name
  else .error (unknownName domain name (·.relations.contains name)
    (.invalidRelation name domain domain.schema.relations))

/-- The field that the value of `group:` names. -/
def groupField (domain : Domain) (value : String) : Except QueryError String :=
  let name := Text.lower value
  if name ∈ domain.schema.groupable then .ok name
  else .error (unknownName domain name (·.groupable.contains name)
    (.invalidGroup name domain domain.schema.groupable))

end Domain

/-- The view that the value of `view:` names. -/
def View.ofValue (value : String) : Except QueryError View :=
  match View.ofName? value with
  | some view => .ok view
  | none => .error (.compile (.invalidView value View.names))

/-! ## Directives -/

namespace Directives

/-- Asks for the metric or relation that a column or sort key needs, if it is not a stored field. -/
def imply (d : Directives) (schema : Schema) (name : String) : Directives :=
  if name ∈ schema.fields then d
  else if name ∈ schema.metrics then { d with metrics := d.metrics.insert name }
  else if name ∈ schema.relations then { d with relations := d.relations.insert name }
  else d

/-- Adds a column, unless it is there. -/
def addColumn (domain : Domain) (d : Directives) (value : String) :
    Except QueryError Directives := do
  let name ← domain.column value
  let d := d.imply domain.schema name
  let columns := d.columns.getD []
  return { d with columns := some (if name ∈ columns then columns else columns ++ [name]) }

/-- Adds a sort key behind those that are there. -/
def addSortKey (domain : Domain) (d : Directives) (value : String) :
    Except QueryError Directives := do
  let key ← domain.sortKey value
  let d := d.imply domain.schema key.field
  return { d with sort := d.sort ++ [key] }

/-- Asks for a metric. -/
def addMetric (domain : Domain) (d : Directives) (value : String) :
    Except QueryError Directives := do
  let name ← domain.metric value
  return { d with metrics := d.metrics.insert name }

/-- Asks for a relation. -/
def addRelation (domain : Domain) (d : Directives) (value : String) :
    Except QueryError Directives := do
  let name ← domain.relation value
  return { d with relations := d.relations.insert name }

/-- The value of a directive that may appear once and takes one value. -/
def onlyValue (token : Token) (name : String) (present : Bool) : Except QueryError String :=
  if present then .error (.compile (.duplicateDirective name)) else token.singleValue name

/-- Takes over a directive token with the given key and values. -/
def add (domain : Domain) (d : Directives) (token : Token) (key : String)
    (values : List String) : Except QueryError Directives :=
  match key with
  | "cols" =>
    values.foldlM (addColumn domain) { d with columns := some (d.columns.getD []) }
  | "sort" => values.foldlM (addSortKey domain) d
  | "metrics" => values.foldlM (addMetric domain) d
  | "with" => values.foldlM (addRelation domain) d
  | "group" => do
    let field ← domain.groupField (← onlyValue token key d.group.isSome)
    return { d with group := some field }
  | "view" => do
    let view ← View.ofValue (← onlyValue token key d.view.isSome)
    return { d with view := some view }
  | "save" => do
    let name ← onlyValue token key d.save.isSome
    return { d with save := some name }
  | _ => .error (.compile (.unknownDirective token.raw key directiveNames))

end Directives

/-! ## Clauses -/

namespace TokenKind

/-- The family that a filter belongs to; a directive is no filter. A domain word behind the first
place is a word to search for. -/
def filterKind? : TokenKind → Option FilterKind
  | domain _ => some .text
  | projectRef _ => some .project
  | priorityExpr _ => some .priority
  | dateExpr _ => some .due
  | overdue => some .due
  | statusExpr _ => some .status
  | tagExpr _ _ => some .tag
  | textTerm _ => some .text
  | directive _ _ => none

end TokenKind

namespace Token

/-- The condition that a filter token states, for a domain that accepts its family. -/
def clause (domain : Domain) (token : Token) : Except CompileError Clause :=
  match token.kind with
  | .domain _ => .ok (.text token.raw)
  | .projectRef name =>
    if name = "" then .error (.invalidProject token.raw) else .ok (.project name)
  | .priorityExpr expr =>
    match PriorityExpression.read? expr with
    | some clause => .ok clause
    | none => .error (.invalidPriority token.raw)
  | .dateExpr expr =>
    match Due.read? expr with
    | some due => .ok (.due due)
    | none => .error (.invalidDate token.raw)
  | .overdue => .ok .overdue
  | .statusExpr value =>
    if value ∈ domain.schema.statuses then .ok (.status value)
    else .error (.invalidStatus token.raw domain domain.schema.statuses)
  | .tagExpr tag negated => .ok (.tag tag negated)
  | .textTerm term => .ok (.text term)
  | .directive name _ => .error (.unknownDirective token.raw name directiveNames)

end Token

/-! ## Queries -/

namespace Query

/-- Takes over a filter token of the given family. -/
def addClause (q : Query) (token : Token) (kind : FilterKind) : Except QueryError Query :=
  if q.domain.schema.allows kind then
    match token.clause q.domain with
    | .ok clause => .ok (q.addFilter clause)
    | .error cause => .error (.compile cause)
  else .error (.domainMismatch token.raw q.domain (Domain.allWhere (·.allows kind)))

/-- Takes over a token behind the first. -/
def addToken (q : Query) (token : Token) : Except QueryError Query :=
  match token.kind.filterKind?, token.kind with
  | some kind, _ => q.addClause token kind
  | none, .directive key values =>
    (q.directives.add q.domain token key values).map ({ q with directives := · })
  | none, _ => .ok q

/-- The query of a domain and the tokens behind it. -/
def ofTokens (domain : Domain) (tokens : List Token) : Except QueryError Query :=
  tokens.foldlM addToken { domain }

end Query

/-- The name in the only `load:` directive, if there is one. -/
def loadName? (tokens : List Token) : Except QueryError (Option String) :=
  match tokens.filter (·.isDirective "load") with
  | [] => .ok none
  | [token] => (token.singleValue "load").map some
  | _ => .error (.compile (.duplicateDirective "load"))

/-- Compiles a sequence of tokens. -/
def compile (tokens : List Token) : Except QueryError Compiled := do
  match ← loadName? tokens with
  | some name =>
    return .load name ((tokens.filter fun t => !t.isDirective "load").map (·.raw))
  | none =>
    match tokens with
    | ⟨.domain domain, _, _⟩ :: rest => return .ready (← Query.ofTokens domain rest)
    | ⟨.textTerm _, raw, _⟩ :: _ =>
      throw (.compile (.unknownDomain raw Domain.keywords))
    | _ => throw (.compile (.missingDomain Domain.keywords))

/-- Compiles a text. -/
def compileText (text : String) : Except QueryError Compiled :=
  match lex text with
  | .ok tokens => compile tokens
  | .error cause => .error (.lex cause)

end Agenda
