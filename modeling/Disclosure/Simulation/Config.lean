import Disclosure.Case.Role
import Disclosure.Json.Value
import Disclosure.Text.Blank
import Disclosure.Text.Numeral

/-!
# Configuration

What a run of the simulator depends on.  Every setting has a default, so that an
empty environment is a good one; a setting that cannot be read is an error,
except for the two numbers, which then keep their defaults.
-/

namespace Disclosure

/-- Why there is no configuration. -/
inductive ConfigError where
  | unknownMode (text : String)
  | unknownOutput (text : String)
  | malformedParticipant (entry : String)
  | invalidRoles (name : String) (cause : ValueError)
  | duplicateParticipant (name : String)
  | noParticipants
  deriving DecidableEq, Repr

namespace ConfigError

def kind : ConfigError → String
  | unknownMode _ => "UnknownMode"
  | unknownOutput _ => "UnknownOutput"
  | malformedParticipant _ => "MalformedParticipant"
  | invalidRoles .. => "InvalidRoles"
  | duplicateParticipant _ => "DuplicateParticipant"
  | noParticipants => "NoParticipants"

/-- The error within this one, if there is one. -/
def cause? : ConfigError → Option ValueError
  | invalidRoles _ cause => some cause
  | _ => none

def message : ConfigError → String
  | unknownMode text => "Unknown simulation mode: " ++ text
  | unknownOutput text => "Unknown output format: " ++ text
  | malformedParticipant entry =>
    "Participant entry '" ++ entry ++ "' is not of the form name:ROLES"
  | invalidRoles name cause =>
    "Participant '" ++ name ++ "' has invalid roles: " ++ cause.message
  | duplicateParticipant name => "Duplicate participant name: " ++ name
  | noParticipants => "Case simulations need at least one participant"

end ConfigError

/-- Which kind of simulation runs. -/
inductive Mode where
  /-- One actor with all roles, fed by the outside world. -/
  | bot
  /-- Several actors that tick in lock step. -/
  | lockStep
  /-- Several actors that run side by side. -/
  | concurrent
  deriving DecidableEq, Repr

namespace Mode

def name : Mode → String
  | bot => "bot"
  | lockStep => "case"
  | concurrent => "concurrent"

def all : List Mode := [bot, lockStep, concurrent]

/-- Reads a name in either case, with blanks around it. -/
def parse (text : String) : Except ConfigError Mode :=
  let word := Text.lowerAscii (Text.trim text)
  match all.find? fun mode => mode.name == word with
  | some mode => .ok mode
  | none => .error (.unknownMode word)

end Mode

/-- How the report of a run is shown. -/
inductive OutputFormat where
  | table
  | json
  deriving DecidableEq, Repr

namespace OutputFormat

def name : OutputFormat → String
  | table => "table"
  | json => "json"

def all : List OutputFormat := [table, json]

/-- Reads a name in either case, with blanks around it. -/
def parse (text : String) : Except ConfigError OutputFormat :=
  let word := Text.lowerAscii (Text.trim text)
  match all.find? fun format => format.name == word with
  | some format => .ok format
  | none => .error (.unknownOutput word)

end OutputFormat

/-- One participant that a case begins with. -/
structure Enrollment where
  name : String
  roles : Roles
  deriving DecidableEq, Repr

namespace Enrollment

/-- The written form: name, colon, roles. -/
def code (enrollment : Enrollment) : String :=
  enrollment.name ++ ":" ++ enrollment.roles.code

/-- Reads one entry, trimmed and not empty. -/
def ofEntry (entry : List Char) : Except ConfigError Enrollment :=
  match Text.cutChars ':' entry with
  | none => .error (.malformedParticipant (.ofList entry))
  | some (left, right) =>
    let name := Text.trimChars left
    if name.isEmpty then .error (.malformedParticipant (.ofList entry))
    else
      match Roles.ofChars (Text.trimChars right) with
      | .error cause => .error (.invalidRoles (.ofList name) cause)
      | .ok roles => .ok ⟨.ofList name, roles⟩

/-- The entries of a text: the trimmed parts between commas, empty ones left
out. -/
def entries (text : String) : List (List Char) :=
  ((Text.splitChars ',' text.toList).map Text.trimChars).filter fun entry =>
    !entry.isEmpty

/-- Add the participants of entries to those already read. -/
def readEntries (read : List Enrollment) :
    List (List Char) → Except ConfigError (List Enrollment)
  | [] => .ok read
  | entry :: entries =>
    match ofEntry entry with
    | .error error => .error error
    | .ok enrollment =>
      if read.any fun other => other.name == enrollment.name then
        .error (.duplicateParticipant enrollment.name)
      else readEntries (read ++ [enrollment]) entries

/-- Reads a list of participants such as `finder:FR,vendor:VD`. -/
def parseList (text : String) : Except ConfigError (List Enrollment) :=
  readEntries [] (entries text)

/-- The written form of a list of participants. -/
def listCode (enrollments : List Enrollment) : String :=
  ",".intercalate (enrollments.map code)

end Enrollment

/-- The settings of a run. -/
structure Config where
  mode : Mode
  maxTicks : UInt64
  seed : Option UInt64
  participants : List Enrollment
  output : OutputFormat
  deriving DecidableEq, Repr

namespace Config

/-- The participants of a case by default. -/
def defaultParticipants : List Enrollment :=
  [⟨"finder", .ofList [.finder, .reporter]⟩,
   ⟨"vendor", .ofList [.vendor]⟩,
   ⟨"coordinator", .ofList [.coordinator]⟩]

/-- All settings by default. -/
def standard : Config where
  mode := .bot
  maxTicks := 1000
  seed := none
  participants := defaultParticipants
  output := .table

/-- A setting that keeps its default when it is missing. -/
def setting (read : String → Except ConfigError α) (standard : α) :
    Option String → Except ConfigError α
  | none => .ok standard
  | some text => read text

/-- Read the settings from variables. -/
def ofLookup (get : String → Option String) : Except ConfigError Config := do
  let mode ← setting Mode.parse standard.mode (get "CVD_MODE")
  let number (name : String) : Option UInt64 :=
    (get name).bind fun text => Text.parseUInt64? (Text.trim text)
  let participants ←
    setting Enrollment.parseList standard.participants (get "CVD_PARTICIPANTS")
  let output ← setting OutputFormat.parse standard.output (get "CVD_OUTPUT")
  if mode ≠ .bot ∧ participants.isEmpty then .error .noParticipants
  else
    return {
      mode := mode
      maxTicks := (number "CVD_MAX_TICKS").getD standard.maxTicks
      seed := number "CVD_SEED"
      participants := participants
      output := output }

/-- The seed of the actor of some number, if runs are seeded. -/
def seedFor (config : Config) (index : UInt64) : Option UInt64 :=
  config.seed.map (· + index)

end Config

end Disclosure
