/-
# Faults in a command line

Why a command line is not understood, at which topic, and what is told about it:
what is wrong, a tip if a similar word would have been understood, how the topic
is used, and where help is to be found.

Key definitions: `Fault`, `Fault.words`, `Fault.text`.
-/
import UserAccounts.CommandLine.Help
import UserAccounts.Text.Digits

namespace UserAccounts.CommandLine

inductive PortFault where
  | noNumber (fault : Text.DigitFault)
  | outside (n : Int)
deriving DecidableEq, Repr

def PortFault.message : PortFault → String
  | .noNumber fault => fault.message
  | .outside n => s!"{n} is not in 0..=65535"

/-- What might be meant by a switch that is not known. -/
inductive Guess where
  | switch (s : Switch)
  /-- A switch of a command that comes later in the line. -/
  | under (c : Command) (s : Switch)
deriving DecidableEq, Repr

/-- What is wrong with a command line. -/
inductive Fault where
  | unknownCommand (word : String) (similar : List String)
  /-- A command behind `--`. -/
  | needlessDashes (word : String)
  | excessWord (word : String)
  | unknownLetter (letter : Char)
  | unknownSwitch (name : String) (guess : Option Guess) (used : List Switch)
  | valueMissing (s : Switch)
  | badPort (value : String) (fault : PortFault)
  | repeated (s : Switch)
  | needlessValue (value : String) (s : Switch) (before : List Switch)
deriving DecidableEq, Repr

namespace Fault

/-- A word between single quotes. -/
def named (word : String) : String :=
  "'" ++ word ++ "'"

def unexpected (word : String) : String :=
  "unexpected argument " ++ named word ++ " found"

def words : Fault → String
  | .unknownCommand word _ => s!"unrecognized subcommand {named word}"
  | .needlessDashes word => unexpected word
  | .excessWord word => unexpected word
  | .unknownLetter letter => unexpected (String.ofList ['-', letter])
  | .unknownSwitch name _ _ => unexpected ("--" ++ name)
  | .valueMissing s => s!"a value is required for {named s.label} but none was supplied"
  | .badPort value fault =>
    s!"invalid value {named value} for {named Switch.port.label}: {fault.message}"
  | .repeated s => s!"the argument {named s.label} cannot be used multiple times"
  | .needlessValue value s _ =>
    s!"unexpected value {named value} for {named s.label} found; no more were expected"

def tip? : Fault → Option String
  | .unknownCommand _ [] => none
  | .unknownCommand _ [word] => some s!"a similar subcommand exists: {named word}"
  | .unknownCommand _ similar =>
    some ("some similar subcommands exist: " ++ ", ".intercalate (similar.map named))
  | .needlessDashes word =>
    some s!"subcommand {named word} exists; to use it, remove the '--' before it"
  | .unknownSwitch _ (some (.switch s)) _ =>
    some ("a similar argument exists: " ++ named ("--" ++ s.name))
  | .unknownSwitch _ (some (.under c s)) _ => some (named (c.name ++ " --" ++ s.name) ++ " exists")
  | _ => none

def usage? (topic : Topic) : Fault → Option String
  | .valueMissing _ => none
  | .badPort _ _ => none
  | .unknownSwitch _ _ used => some (usageOf fun c => c.usageWith used)
  | .needlessValue _ s before => some (usageOf fun c => c.usageBehind before s)
  | _ => some topic.usage
where
  /-- The usage of the topic, for a command as `usage` says. -/
  usageOf (usage : Command → String) : String :=
    match topic with
    | .command c => usage c
    | .help _ => topic.usage

/-- Where help is to be found: nowhere for the topic `help`. -/
def pointer : Topic → String
  | .command _ => "\n\nFor more information, try '--help'."
  | .help _ => ""

def text (topic : Topic) (fault : Fault) : String :=
  let tip := fault.tip?.elim "" fun tip => "\n\n  tip: " ++ tip
  let usage := (fault.usage? topic).elim "" fun usage => "\n\n" ++ usageLine usage
  "error: " ++ fault.words ++ tip ++ usage ++ pointer topic ++ "\n"

end Fault

end UserAccounts.CommandLine
