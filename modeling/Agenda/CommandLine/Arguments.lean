/-!
# Arguments

What the program is asked to do. Arguments come on two levels: in front of the name of a command,
and behind it. Each level has its own options; those for all commands stand on both, and count from
the inner level if they are given on both. An option is written

    --format json    --format=json    -f json    -fjson    -f=json

and given at most once on a level. Behind a lone `--` nothing is an option.
-/

namespace Agenda

/-- What an option takes. -/
inductive OptionValue
  | nothing
  | text
  /-- A path, which is not empty. -/
  | path
deriving DecidableEq

/-- An option. -/
structure OptionForm where
  long : String
  short : Option Char
  takes : OptionValue

/-- What may stand on a level of arguments. -/
structure ArgumentLevel where
  options : List OptionForm
  /-- The names that lead to the next level. -/
  commands : List String
  /-- Whether words may stand that are neither options nor commands. -/
  takesWords : Bool

/-- What has been read on a level: the options by their long names, and the words. -/
structure ReadArguments where
  options : List (String × String)
  words : List String

/-- Why the arguments do not make up a command. -/
inductive ArgumentStop
  /-- They are not understood. -/
  | misuse
  /-- They ask for help or for the version. -/
  | information
deriving DecidableEq

/-- How a single argument is to be read on a level. -/
inductive ArgumentRole
  /-- A lone `--`. -/
  | divider
  /-- An option that takes nothing, or its value with it. -/
  | complete (option : OptionForm) (value : String)
  /-- An option whose value is the next argument. -/
  | awaiting (option : OptionForm)
  /-- Not an option. -/
  | plain
  /-- An option that the level does not have, or one in a wrong form. -/
  | unknown

namespace ArgumentLevel

/-- The role of an argument that starts with `--` and goes on with a name and maybe a value. -/
def longRole (level : ArgumentLevel) (name : List Char) (value : Option (List Char)) :
    ArgumentRole :=
  match level.options.find? (·.long = String.ofList name), value with
  | none, _ => .unknown
  | some option, none => if option.takes = .nothing then .complete option "" else .awaiting option
  | some option, some value =>
    if option.takes = .nothing then .unknown else .complete option (String.ofList value)

/-- The role of an argument that starts with `-` and goes on with a letter and maybe a value. -/
def shortRole (level : ArgumentLevel) (letter : Char) (rest : List Char) : ArgumentRole :=
  match level.options.find? (·.short = some letter) with
  | none => .unknown
  | some option =>
    if option.takes = .nothing then .complete option ""
    else match rest with
      | [] => .awaiting option
      | '=' :: value => .complete option (String.ofList value)
      | value => .complete option (String.ofList value)

/-- The role of an argument. -/
def role (level : ArgumentLevel) (argument : String) : ArgumentRole :=
  match argument.toList with
  | ['-', '-'] => .divider
  | '-' :: '-' :: rest =>
    level.longRole (rest.takeWhile (· != '=')) ((rest.dropWhile (· != '=')).tail?)
  | '-' :: letter :: rest => level.shortRole letter rest
  | _ => .plain

end ArgumentLevel

namespace ReadArguments

/-- Whether an option has been given. -/
def has (r : ReadArguments) (long : String) : Bool :=
  (r.options.lookup long).isSome

/-- What has been read, with one more word. -/
def withWord (r : ReadArguments) (word : String) : ReadArguments :=
  { r with words := r.words ++ [word] }

/-- What has been read, with one more option. Help and version end the reading. -/
def withOption (r : ReadArguments) (option : OptionForm) (value : String) :
    Except ArgumentStop ReadArguments :=
  if option.long = "help" ∨ option.long = "version" then .error .information
  else if r.has option.long ∨ (option.takes = .path ∧ value = "") then .error .misuse
  else .ok { r with options := r.options ++ [(option.long, value)] }

/-- What has been read, with words that stand behind a lone `--`. -/
def withRest (r : ReadArguments) (level : ArgumentLevel) (words : List String) :
    Except ArgumentStop ReadArguments :=
  if level.takesWords ∨ words = [] then .ok { r with words := r.words ++ words }
  else .error .misuse

end ReadArguments

/-- Whether an argument can be the value of the option in front of it. -/
def isPlainValue (argument : String) : Bool :=
  match argument.toList with
  | '-' :: _ :: _ => false
  | _ => true

/-- Reads the arguments of a level, up to the name of a command or to the end. -/
def ArgumentLevel.read (level : ArgumentLevel) (r : ReadArguments) :
    List String → Except ArgumentStop (ReadArguments × List String)
  | [] => .ok (r, [])
  | argument :: rest =>
    match level.role argument, rest with
    | .divider, rest => (r.withRest level rest).map (·, [])
    | .complete option value, rest => do level.read (← r.withOption option value) rest
    | .awaiting option, value :: rest =>
      if isPlainValue value then do level.read (← r.withOption option value) rest
      else .error .misuse
    | .awaiting _, [] => .error .misuse
    | .plain, rest =>
      if argument ∈ level.commands then .ok (r, argument :: rest)
      else if level.takesWords then level.read (r.withWord argument) rest
      else .error .misuse
    | .unknown, _ => .error .misuse

/-! ## Commands -/

/-- What the program does. -/
inductive Command
  /-- Runs a query, or lists the queries that have been run. -/
  | query (words : List String) (today : Option String) (history : Bool)
  /-- Lists the saved queries, or removes one. -/
  | saved (remove : Option String)
  /-- Shows a settings file, or writes it. -/
  | settings (output : Option String)

/-- What the program is asked to do. -/
structure Arguments where
  command : Command
  dataDirectory : Option String
  format : Option String

namespace Arguments

/-- The options of every level. -/
def sharedOptions : List OptionForm :=
  [⟨"data-dir", none, .path⟩, ⟨"format", some 'f', .text⟩, ⟨"help", some 'h', .nothing⟩]

/-- The level in front of a command. -/
def topLevel : ArgumentLevel where
  options := sharedOptions ++ [⟨"version", some 'V', .nothing⟩]
  commands := ["q", "saved", "config", "help"]
  takesWords := false

/-- The level behind a command. -/
def commandLevel (name : String) : ArgumentLevel :=
  match name with
  | "q" =>
    ⟨sharedOptions ++ [⟨"today", none, .text⟩, ⟨"history", none, .nothing⟩], [], true⟩
  | "saved" => ⟨sharedOptions ++ [⟨"remove", none, .text⟩], [], false⟩
  | "config" => ⟨sharedOptions ++ [⟨"output", some 'o', .path⟩], [], false⟩
  | _ => ⟨sharedOptions, [], false⟩

/-- The command with a name. -/
def command? (name : String) (r : ReadArguments) : Option Command :=
  match name with
  | "q" => some (.query r.words (r.options.lookup "today") (r.has "history"))
  | "saved" => some (.saved (r.options.lookup "remove"))
  | "config" => some (.settings (r.options.lookup "output"))
  | _ => none

/-- Whether the help on something can be shown. -/
def hasHelp (names : List String) : Bool :=
  match names with
  | [] => true
  | [name] => name ∈ topLevel.commands
  | _ => false

/-- Reads the arguments of the program. -/
def read (arguments : List String) : Except ArgumentStop Arguments := do
  let (outer, rest) ← topLevel.read ⟨[], []⟩ arguments
  match rest with
  | [] => throw .misuse
  | "help" :: names => throw (if hasHelp names then .information else .misuse)
  | name :: rest =>
    let (inner, _) ← (commandLevel name).read ⟨[], []⟩ rest
    match command? name inner with
    | none => throw .misuse
    | some command =>
      let shared (long : String) := inner.options.lookup long <|> outer.options.lookup long
      return { command, dataDirectory := shared "data-dir", format := shared "format" }

end Arguments

end Agenda
