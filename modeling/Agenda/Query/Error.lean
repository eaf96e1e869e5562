import Agenda.Query.Basic
import Agenda.Schema

/-!
# Query errors

Everything that can be wrong with a query, as causes: what was found, and what would have been
valid. `kind` names the cause for programs, `message` words it for people, and `suggestions` lists
the valid options where there is such a list.
-/

namespace Agenda

/-- What can go wrong while a text is split into tokens. -/
inductive LexError
  /-- A quote without an end, with the text from the quote on. -/
  | unterminatedQuote (fragment : String) (position : Nat)
  /-- A directive with an empty value or an odd quote. -/
  | malformedDirective (fragment : String) (position : Nat)
deriving DecidableEq

/-- What can go wrong while tokens are compiled. -/
inductive CompileError
  | invalidPriority (token : String)
  | invalidDate (token : String)
  | invalidStatus (token : String) (domain : Domain) (valid : List String)
  | invalidProject (token : String)
  | unknownDirective (token name : String) (valid : List String)
  | invalidColumn (column : String) (domain : Domain) (valid : List String)
  | invalidMetric (metric : String) (domain : Domain) (valid : List String)
  | invalidRelation (relation : String) (domain : Domain) (valid : List String)
  | invalidGroup (field : String) (domain : Domain) (valid : List String)
  | invalidView (value : String) (valid : List String)
  | duplicateDirective (name : String)
  | invalidDirectiveValue (name token : String)
  | missingDomain (valid : List String)
  | unknownDomain (word : String) (valid : List String)
  | nestedLoad (name : String)
deriving DecidableEq

/-- Anything that can be wrong with a query. -/
inductive QueryError
  | lex (error : LexError)
  | compile (error : CompileError)
  /-- A word that other domains accept. -/
  | domainMismatch (token : String) (domain : Domain) (validIn : List Domain)
  /-- A saved query that does not exist, with those that do. -/
  | notFound (name : String) (available : List String)
deriving DecidableEq

/-- A list as it stands in messages. -/
def commaList (names : List String) : String :=
  String.intercalate ", " names

namespace LexError

/-- The stable name of the cause. -/
def kind : LexError → String
  | unterminatedQuote _ _ => "lex.unterminated_quote"
  | malformedDirective _ _ => "lex.malformed_directive"

/-- The wording of the cause. -/
def message : LexError → String
  | unterminatedQuote fragment position =>
    "Unterminated quote at position " ++ toString position ++ ": " ++ fragment
  | malformedDirective fragment position =>
    "Malformed directive list at position " ++ toString position ++ ": " ++ fragment

end LexError

namespace CompileError

/-- The stable name of the cause. -/
def kind : CompileError → String
  | invalidPriority _ => "compile.invalid_priority"
  | invalidDate _ => "compile.invalid_date"
  | invalidStatus _ _ _ => "compile.invalid_status"
  | invalidProject _ => "compile.invalid_project"
  | unknownDirective _ _ _ => "compile.unknown_directive"
  | invalidColumn _ _ _ => "compile.invalid_column"
  | invalidMetric _ _ _ => "compile.invalid_metric"
  | invalidRelation _ _ _ => "compile.invalid_relation"
  | invalidGroup _ _ _ => "compile.invalid_group"
  | invalidView _ _ => "compile.invalid_view"
  | duplicateDirective _ => "compile.duplicate_directive"
  | invalidDirectiveValue _ _ => "compile.invalid_directive_value"
  | missingDomain _ => "compile.missing_domain"
  | unknownDomain _ _ => "compile.unknown_domain"
  | nestedLoad _ => "compile.nested_load"

/-- The wording of the cause. -/
def message : CompileError → String
  | invalidPriority token =>
    "Invalid priority '" ++ token ++ "': expected p1..p3, p<=N, p>=N or pA..B with values 1-3"
  | invalidDate token =>
    "Invalid date '" ++ token ++
      "': expected today, tomorrow, +N, eow, eom, Nm, yyyymmdd or mmdd"
  | invalidStatus token domain valid =>
    "Invalid status '" ++ token ++ "' for " ++ domain.plural ++ "; valid: " ++ commaList valid
  | invalidProject token =>
    "Invalid project reference '" ++ token ++ "': expected @name or @\"name with spaces\""
  | unknownDirective token name valid =>
    "Unknown directive '" ++ name ++ "' in '" ++ token ++ "'; valid: " ++ commaList valid
  | invalidColumn column domain valid =>
    "Invalid column '" ++ column ++ "' for " ++ domain.plural ++ "; valid: " ++ commaList valid
  | invalidMetric metric domain valid =>
    "Invalid metric '" ++ metric ++ "' for " ++ domain.plural ++ "; valid: " ++ commaList valid
  | invalidRelation relation domain valid =>
    "Invalid relation '" ++ relation ++ "' for " ++ domain.plural ++ "; valid: " ++
      commaList valid
  | invalidGroup field domain valid =>
    "Cannot group " ++ domain.plural ++ " by '" ++ field ++ "'; valid: " ++ commaList valid
  | invalidView value valid =>
    "Invalid view '" ++ value ++ "'; valid: " ++ commaList valid
  | duplicateDirective name =>
    "Directive '" ++ name ++ "' may only appear once"
  | invalidDirectiveValue name token =>
    "Directive '" ++ name ++ "' takes exactly one value, got '" ++ token ++ "'"
  | missingDomain valid =>
    "Query must start with a domain; valid: " ++ commaList valid
  | unknownDomain word valid =>
    "Unknown domain '" ++ word ++ "'; valid: " ++ commaList valid
  | nestedLoad name =>
    "Saved query '" ++ name ++ "' contains a load: directive"

/-- The valid options, where the cause has such a list. -/
def suggestions : CompileError → List String
  | invalidStatus _ _ valid | unknownDirective _ _ valid | invalidColumn _ _ valid
  | invalidMetric _ _ valid | invalidRelation _ _ valid | invalidGroup _ _ valid
  | invalidView _ valid | missingDomain valid | unknownDomain _ valid => valid
  | _ => []

end CompileError

namespace QueryError

/-- The stable name of the cause. -/
def kind : QueryError → String
  | lex e => e.kind
  | compile e => e.kind
  | domainMismatch _ _ _ => "domain_mismatch"
  | notFound _ _ => "load.not_found"

/-- The wording of the cause. -/
def message : QueryError → String
  | lex e => "Lex error: " ++ e.message
  | compile e => "Compile error: " ++ e.message
  | domainMismatch token domain validIn =>
    "Domain mismatch: '" ++ token ++ "' is not valid for " ++ domain.plural ++
      "; it applies to: " ++ commaList (validIn.map Domain.plural)
  | notFound name _ => "Load error: Saved query '" ++ name ++ "' not found"

/-- The valid options, where the cause has such a list. -/
def suggestions : QueryError → List String
  | lex _ => []
  | compile e => e.suggestions
  | domainMismatch _ _ validIn => validIn.map Domain.plural
  | notFound _ available => available

end QueryError

end Agenda
