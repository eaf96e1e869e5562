import Agenda.Query.Error
import Agenda.Text.Basic

/-!
# Words and what they say

A text becomes tokens in two steps: it is cut into words, and then each word is classified.
-/

namespace Agenda

/-! ## Words

The text of a query is cut into words at blanks that stand outside double quotes. A word keeps its
quotes, and quoted and bare stretches without a blank between them belong to one word. A quote that
is never closed makes the whole text invalid. -/

/-- A word of a text, with the byte offset at which it starts. -/
structure Word where
  position : Nat
  text : String
deriving DecidableEq

namespace Word

/-- Where a scan for words stands. The characters of the word that is being read are kept in
reverse; inside a quote, its offset and the text from it on are kept as well. -/
inductive Scan
  | between
  | bare (start : Nat) (read : List Char)
  | quoted (start : Nat) (read : List Char) (opened : Nat) (fragment : List Char)

/-- The word whose characters have been read, last one first. -/
def ofRead (start : Nat) (read : List Char) : Word :=
  ⟨start, String.ofList read.reverse⟩

/-- Continues a scan at the given byte offset. -/
def scan : Scan → Nat → List Char → Except LexError (List Word)
  | .between, _, [] => .ok []
  | .bare start read, _, [] => .ok [ofRead start read]
  | .quoted _ _ opened fragment, _, [] =>
    .error (.unterminatedQuote (String.ofList fragment) opened)
  | .between, offset, c :: cs =>
    if Text.isBlank c then scan .between (offset + c.utf8Size) cs
    else if c = '"' then scan (.quoted offset [c] offset (c :: cs)) (offset + c.utf8Size) cs
    else scan (.bare offset [c]) (offset + c.utf8Size) cs
  | .bare start read, offset, c :: cs =>
    if Text.isBlank c then
      (scan .between (offset + c.utf8Size) cs).map (ofRead start read :: ·)
    else if c = '"' then
      scan (.quoted start (c :: read) offset (c :: cs)) (offset + c.utf8Size) cs
    else scan (.bare start (c :: read)) (offset + c.utf8Size) cs
  | .quoted start read opened fragment, offset, c :: cs =>
    if c = '"' then scan (.bare start (c :: read)) (offset + c.utf8Size) cs
    else scan (.quoted start (c :: read) opened fragment) (offset + c.utf8Size) cs

/-- The words of a text, in order. -/
def split (text : String) : Except LexError (List Word) :=
  scan .between 0 text.toList

end Word

/-! ## Classification

Each word takes the first form that fits it, in the order of `Form.all`; the last form fits every
word. Quotes only group characters: they are removed from whatever a word says. -/

/-- The text without its double quotes. -/
def unquoted (cs : List Char) : String :=
  String.ofList (cs.filter (· != '"'))

/-- The shapes that a word can have. -/
inductive Form
  | quotedText
  | projectRef
  | negatedTag
  | tag
  | due
  | overdue
  | status
  | priority
  | directive
  | text
deriving DecidableEq

namespace Form

/-- All forms, in the order in which they are tried. -/
def all : List Form :=
  [quotedText, projectRef, negatedTag, tag, due, overdue, status, priority, directive, text]

/-- The name of the form. -/
def name : Form → String
  | quotedText => "quoted_text"
  | projectRef => "project_ref"
  | negatedTag => "negated_tag"
  | tag => "tag"
  | due => "due"
  | overdue => "overdue"
  | status => "status"
  | priority => "priority"
  | directive => "directive"
  | text => "text"

/-! ### Directives -/

/-- Whether a character may stand in the key of a directive. -/
def isKeyChar (c : Char) : Bool :=
  c.isAlpha || c == '_'

/-- The key of a directive and the text behind its colon. -/
def directiveParts? (cs : List Char) : Option (List Char × List Char) :=
  match cs.takeWhile isKeyChar, cs.dropWhile isKeyChar with
  | k :: key, ':' :: rest => some (k :: key, rest)
  | _, _ => none

/-- The stretches of a text between the commas that stand outside quotes, given what has been read
of the first one (in reverse) and whether a quote is open; none if a quote is left open. -/
def entries? (inQuote : Bool) (read : List Char) : List Char → Option (List (List Char))
  | [] => if inQuote then none else some [read.reverse]
  | c :: cs =>
    if c = '"' then entries? (!inQuote) (c :: read) cs
    else if c = ',' ∧ inQuote = false then (entries? false [] cs).map (read.reverse :: ·)
    else entries? inQuote (c :: read) cs

/-- The values of a directive: the entries of its list, none of which may be empty as written. -/
def directiveValues? (cs : List Char) : Option (List String) :=
  match entries? false [] cs with
  | some entries => if [] ∈ entries then none else some (entries.map unquoted)
  | none => none

/-! ### The forms -/

/-- Whether a character may follow the `p` of a priority. -/
def startsPriority (c : Char) : Bool :=
  c.isDigit || c == '<' || c == '>' || c == '='

/-- What a word says if it has the form. -/
def read? (form : Form) (word : List Char) (position : Nat) :
    Option (Except LexError TokenKind) :=
  match form, word with
  | quotedText, '"' :: _ => some (.ok (.textTerm (unquoted word)))
  | projectRef, '@' :: name => some (.ok (.projectRef (unquoted name)))
  | negatedTag, '-' :: '#' :: c :: cs => some (.ok (.tagExpr (unquoted (c :: cs)) true))
  | tag, '#' :: c :: cs => some (.ok (.tagExpr (unquoted (c :: cs)) false))
  | due, word =>
    (Text.afterFolded "due:".toList word).map fun rest =>
      .ok (.dateExpr (Text.lower (unquoted rest)))
  | overdue, word =>
    if Text.afterFolded "overdue".toList word = some [] then some (.ok .overdue) else none
  | status, word =>
    (Text.afterFolded "status:".toList word).map fun rest =>
      .ok (.statusExpr (Text.lower (unquoted rest)))
  | priority, word =>
    match Text.afterFolded ['p'] word with
    | some (c :: cs) =>
      if startsPriority c then some (.ok (.priorityExpr (String.ofList (c :: cs)))) else none
    | _ => none
  | directive, word =>
    (directiveParts? word).map fun (key, rest) =>
      match directiveValues? rest with
      | some values => .ok (.directive (String.ofList (Text.fold key)) values)
      | none => .error (.malformedDirective (String.ofList word) position)
  | text, word => some (.ok (.textTerm (unquoted word)))
  | _, _ => none

end Form

/-- The first form that fits a word, with what the word says. -/
def classified (word : String) (position : Nat) : Form × Except LexError TokenKind :=
  match Form.all.findSome? fun f => (f.read? word.toList position).map (f, ·) with
  | some found => found
  | none => (.text, .ok (.textTerm (unquoted word.toList)))

/-- What a word says. -/
def classify (word : String) (position : Nat) : Except LexError TokenKind :=
  (classified word position).2

namespace Token

/-- The token of a word that is not the first. -/
def ofWord (w : Word) : Except LexError Token :=
  (classify w.text w.position).map (⟨·, w.text, w.position⟩)

/-- The token of the first word, which may name the domain. -/
def ofFirstWord (w : Word) : Except LexError Token :=
  match Domain.ofKeyword? w.text with
  | some domain => .ok ⟨.domain domain, w.text, w.position⟩
  | none => ofWord w

/-- The tokens of a list of words. -/
def ofWords : List Word → Except LexError (List Token)
  | [] => .ok []
  | first :: rest => do
    let token ← ofFirstWord first
    let tokens ← rest.mapM ofWord
    return token :: tokens

end Token

/-- The tokens of a text. All words are found before the first one is classified. -/
def lex (text : String) : Except LexError (List Token) := do
  Token.ofWords (← Word.split text)

end Agenda
