import Agenda.Files.Basic
import Agenda.Query.Due
import Agenda.Store.Basic
import Agenda.Text.Basic
import Agenda.Toml.Reader

/-!
# Settings

Where the records and the saved queries are kept, how long the history is, what a day that has
passed means, and how the program logs. A settings file may set each of them, in four sections; what
it does not set has a default. Variables of the environment come before the file.
-/

namespace Agenda

/-! ## The environment

The variables that the program is started with, and the directories of the user that they lead to. -/

/-- What the program is started with. -/
structure Environment where
  /-- The variables with their values; of two with one name the first counts. -/
  assignments : List (String × String)
  /-- The home directory of the account, for when no variable names one. -/
  accountHome : Option String

namespace Environment

/-- The names of the variables that are consulted. -/
def consulted : List String :=
  ["HOME", "XDG_DATA_HOME", "XDG_CONFIG_HOME", "TASKLENS_DATA_DIR", "TASKLENS_STORE_PATH",
    "TASKLENS_HISTORY_LIMIT", "TASKLENS_LOG_LEVEL", "TASKLENS_LOG_FORMAT"]

/-- The value of a variable. -/
def get? (env : Environment) (name : String) : Option String :=
  env.assignments.lookup name

/-- The home directory. -/
def home? (env : Environment) : Option String :=
  match env.get? "HOME" with
  | none | some "" => env.accountHome
  | some home => some home

/-- The directory that a variable names by an absolute path, or else one in the home directory. -/
def directory? (env : Environment) (variableName inHome : String) : Option String :=
  match (env.get? variableName).filter Path.isAbsolute with
  | some directory => some directory
  | none => env.home?.map (Path.join · inHome)

/-- The directory for the data of programs. -/
def dataDirectory? (env : Environment) : Option String :=
  env.directory? "XDG_DATA_HOME" ".local/share"

/-- The directory for the settings of programs. -/
def settingsDirectory? (env : Environment) : Option String :=
  env.directory? "XDG_CONFIG_HOME" ".config"

/-- A path with the home directory in place of the `~` that it may start with. -/
def expand (env : Environment) (path : String) : String :=
  match path.toList, env.home? with
  | '~' :: '/' :: rest, some home => Path.join home (String.ofList rest)
  | _, _ => path

end Environment

/-! ## What is set -/

/-- The settings of the program. -/
structure Settings where
  dataDirectory : String
  storePath : String
  historyLimit : Nat
  pastMonthDay : PastMonthDay
  logLevel : String
  logFormat : String
deriving DecidableEq

/-- The policy with a name. -/
def PastMonthDay.ofName? (name : String) : Option PastMonthDay :=
  match name with
  | "next_year" => some .nextYear
  | "current_year" => some .currentYear
  | _ => none

/-- The name of the policy. -/
def PastMonthDay.name : PastMonthDay → String
  | .nextYear => "next_year"
  | .currentYear => "current_year"

namespace Settings

/-- The directory of the program among the data of programs, or one beside the working files. -/
def defaultDataDirectory (env : Environment) : String :=
  match env.dataDirectory? with
  | some directory => Path.join directory "tasklens"
  | none => "./tasklens_data"

/-- The settings where nothing is set. -/
def default (env : Environment) : Settings where
  dataDirectory := defaultDataDirectory env
  storePath := Path.join (defaultDataDirectory env) "queries.json"
  historyLimit := defaultHistoryLimit
  pastMonthDay := .nextYear
  logLevel := "warn"
  logFormat := "pretty"

/-! ### The settings file -/

/-- The values of the named keys of a section, which may be missing as a whole. -/
def section? (keys : List String) : Option Toml → Option (List (Option Toml))
  | some values => values.toFields? keys
  | none => some (keys.map fun _ => none)

/-- Reads the settings of a file. Keys that are not known are ignored. -/
def ofToml? (env : Environment) (t : Toml) : Option Settings := do
  let unset := default env
  match ← t.toFields? ["data", "store", "query", "logging"] with
  | [data, store, query, logging] =>
    match ← section? ["dir"] data, ← section? ["path", "history_limit"] store,
      ← section? ["past_month_day"] query, ← section? ["level", "format"] logging with
    | [directory], [path, limit], [policy], [level, format] =>
      return {
        dataDirectory := ← Toml.defaulted? Toml.toText? unset.dataDirectory directory
        storePath := ← Toml.defaulted? Toml.toText? unset.storePath path
        historyLimit := ← Toml.defaulted? Toml.toNatural? unset.historyLimit limit
        pastMonthDay :=
          ← Toml.defaulted? (Toml.toChoice? PastMonthDay.ofName?) unset.pastMonthDay policy
        logLevel := ← Toml.defaulted? Toml.toText? unset.logLevel level
        logFormat := ← Toml.defaulted? Toml.toText? unset.logFormat format }
    | _, _, _, _ => none
  | _ => none

/-- A settings file in which every setting has its usual value. -/
def fileText : String :=
  "# Tasklens Configuration
#
# Environment variables override these settings:
# - TASKLENS_DATA_DIR
# - TASKLENS_STORE_PATH
# - TASKLENS_HISTORY_LIMIT
# - TASKLENS_LOG_LEVEL
# - TASKLENS_LOG_FORMAT

[data]
# Directory containing tasks.json, projects.json and timelogs.json
dir = \"~/.local/share/tasklens\"

[store]
# File holding saved queries and run history
path = \"~/.local/share/tasklens/queries.json\"

# Number of executed queries kept in history (0 disables history)
history_limit = 100

[query]
# How due:mmdd resolves once that day has passed this year:
# \"next_year\" or \"current_year\"
past_month_day = \"next_year\"

[logging]
# Log level: trace, debug, info, warn, error
level = \"warn\"

# Log format: pretty or json
format = \"pretty\"
"

/-! ### Variables -/

/-- Reads a history limit: a number of at most 64 bits, with an optional plus. -/
def limit? (s : String) : Option Nat :=
  let digits := match s.toList with
    | '+' :: rest => rest
    | cs => cs
  (Decimal.value? digits).filter (· < UInt64.size)

/-- The settings with the variables of the environment in front. A history limit that is no number
is ignored. -/
def overridden (env : Environment) (s : Settings) : Settings :=
  { s with
    dataDirectory := (env.get? "TASKLENS_DATA_DIR").getD s.dataDirectory
    storePath := (env.get? "TASKLENS_STORE_PATH").getD s.storePath
    historyLimit := ((env.get? "TASKLENS_HISTORY_LIMIT").bind limit?).getD s.historyLimit
    logLevel := (env.get? "TASKLENS_LOG_LEVEL").getD s.logLevel
    logFormat := (env.get? "TASKLENS_LOG_FORMAT").getD s.logFormat }

/-- The settings that the environment alone gives. -/
def ofEnvironment (env : Environment) : Settings :=
  (default env).overridden env

end Settings

/-! ## Loading

The settings come from the first of some files that exists, with the environment in front, or from
the environment alone. A file that exists but cannot be read is reported, not passed over. -/

/-- What can go wrong with a settings file. -/
inductive SettingsError
  /-- It cannot be read. -/
  | io
  /-- It does not hold settings. -/
  | parse
deriving DecidableEq

namespace Settings

/-- The settings of what stands at the place of a settings file. -/
def ofEntry (env : Environment) : Option Entry → Except SettingsError Settings
  | some (.file text) =>
    match (Toml.read? text).bind (ofToml? env) with
    | some settings => .ok settings
    | none => .error .parse
  | _ => .error .io

/-- The settings of the first path with a file, and that path. -/
def loadFirst {m : Type → Type} [Monad m] (files : Files m) (env : Environment) :
    (paths : List String) → m (Except SettingsError (Settings × Option String))
  | [] => return .ok (ofEnvironment env, none)
  | path :: rest => do
    match ← files.look path with
    | none => loadFirst files env rest
    | some entry => return (ofEntry env (some entry)).map fun s => (s.overridden env, some path)

/-- The places where a settings file is looked for, the first one first. -/
def defaultPaths (env : Environment) : List String :=
  (env.settingsDirectory?.map (Path.join · "tasklens/config.toml")).toList ++ ["./tasklens.toml"]

/-- The settings of a session; a settings file with a fault counts as none. -/
def forSession {m : Type → Type} [Monad m] (files : Files m) (env : Environment) : m Settings := do
  match ← loadFirst files env (defaultPaths env) with
  | .ok (settings, _) => return settings
  | .error _ => return ofEnvironment env

end Settings

end Agenda
