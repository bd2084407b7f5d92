/-
# A run of the program

What a run writes and how it ends, given the words of its command line, its
settings and the database there is. Of what it reports, a filter says what is shown.
A run that listens goes on until it is interrupted.

Key definitions: `Surroundings`, `Outcome`, `run`, `Outcome.interrupt`.
-/
import UserAccounts.CommandLine.Reading
import UserAccounts.Program.Filter

namespace UserAccounts.Program

open CommandLine

structure Surroundings where
  lookup : Lookup
  site : Option Database.Site := none

structure Outcome where
  /-- The code with which it ends; none if it goes on listening. -/
  exit : Option Nat
  output : String := ""
  errors : String := ""
  server : Option Database.Server := none
deriving DecidableEq, Repr

def Surroundings.reach (s : Surroundings) : Database.Reach :=
  { site := s.site, standard := .standard s.lookup }

def Surroundings.filter (s : Surroundings) : Filter :=
  .read s.lookup

def log (filter : Filter) (events : List Event) : String :=
  String.join ((events.filter filter.shows).map Event.line)

def Course.outcome (filter : Filter) (course : Course) : Outcome :=
  let log := log filter
  let output := log course.events ++ String.join course.printed
  let server := course.server
  match course.ending with
  | .listening _ => { exit := none, output, server }
  | .done => { exit := some 0, output, server }
  | .stopped obstacle => { exit := some 1, output := output ++ log [.stopped obstacle], server }
  | .crashed words => { exit := some 101, output, errors := "panic: " ++ words, server }

/-- What a run comes to that shows something in place of doing anything: help that was asked for is
no error. -/
def outcomeOfReply : Reply → Outcome
  | .help topic => { exit := some 0, output := topic.helpText }
  | .missing c => { exit := some 2, errors := (Topic.command c).helpText }
  | .fault topic fault => { exit := some 2, errors := fault.text topic }

/-- Does what a command line asks for. Only the service itself needs all settings. -/
def carryOut (s : Surroundings) : Invocation → Outcome
  | .serve host port storage =>
    match Settings.read s.lookup with
    | .error fault => { exit := some 1, output := log s.filter [.badSettings fault] }
    | .ok settings =>
      (serve settings.service settings.database host port storage s.reach).outcome s.filter
  | .migrate action =>
    (migrate action (DatabaseSettings.read s.lookup) s.reach).outcome s.filter

def run (words : List String) (s : Surroundings) : Outcome :=
  let outcome := match Invocation.ofWords words with
    | .error reply => outcomeOfReply reply
    | .ok invocation => carryOut s invocation
  { outcome with server := outcome.server.or (s.site.map (·.server)) }

/-- What a run comes to that is interrupted if it listens. -/
def Outcome.interrupt (o : Outcome) (filter : Filter) : Outcome :=
  match o.exit with
  | none => { o with exit := some 0, output := o.output ++ log filter [.interrupted] }
  | some _ => o

end UserAccounts.Program
