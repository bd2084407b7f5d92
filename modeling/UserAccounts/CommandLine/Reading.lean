/-
# Reading a command line

The words of a line are read one by one. A word under the command read so far is
a command of its own; `--name`, `--name=value` and `-x` are switches, and a switch
that takes a value takes the next word, unless that word begins with a dash. Help
is shown as soon as it is asked for. A value is looked at only when the next switch
or the end of the line is reached, so an unknown switch is complained of first.

Key definitions: `Word`, `Invocation`, `Progress`, `Progress.settle`, `read`,
`Invocation.ofWords`.
-/
import UserAccounts.CommandLine.Fault
import UserAccounts.Program.Startup
import UserAccounts.Settings.Lookup
import UserAccounts.Text.Similarity

namespace UserAccounts.CommandLine

/-! ### Words -/

inductive Word where
  /-- Two dashes: no switches follow. -/
  | dashes
  | switch (name : String) (value : Option String)
  | letter (c : Char)
  | plain
deriving DecidableEq, Repr

/-- What stands before and behind the first equals sign. -/
def splitAtEquals (cs : List Char) : String × Option String :=
  let name := cs.takeWhile (· != '=')
  match cs.drop name.length with
  | [] => (String.ofList name, none)
  | _ :: value => (String.ofList name, some (String.ofList value))

def Word.of (word : String) : Word :=
  match word.toList with
  | ['-', '-'] => .dashes
  | '-' :: '-' :: cs => let (name, value) := splitAtEquals cs; .switch name value
  | '-' :: c :: _ => .letter c
  | _ => .plain

/-! ### What a line asks for -/

inductive Invocation where
  | serve (host : Option String) (port : Option UInt16) (storage : Program.Storage)
  | migrate (action : Program.MigrationAction)
deriving DecidableEq, Repr

inductive Reply where
  | help (topic : Topic)
  /-- Help that was not asked for: a command is missing. -/
  | missing (c : Command)
  | fault (topic : Topic) (fault : Fault)
deriving DecidableEq, Repr

structure Progress where
  seen : List Switch := []
  /-- A switch that has not been looked at, and its value if that has come. -/
  pending : Option (Switch × Option String) := none
  host : Option String := none
  port : Option UInt16 := none
  inMemory : Bool := false
deriving DecidableEq, Repr

def readPort (value : String) : Except PortFault UInt16 :=
  match Text.readInteger wordRange.1 wordRange.2 value.toList with
  | .error fault => .error (.noNumber fault)
  | .ok n => if 0 ≤ n ∧ n ≤ 65535 then .ok (UInt16.ofNat n.toNat) else .error (.outside n)

namespace Progress

def isAwaiting (p : Progress) : Bool :=
  match p.pending with
  | some (_, none) => true
  | _ => false

/-- Looks at a switch with its value, or without one if it takes none. -/
def enter (p : Progress) (s : Switch) (value : String) : Except Fault Progress :=
  if p.seen.contains s then .error (.repeated s)
  else
    let p := { p with seen := p.seen ++ [s] }
    match s with
    | .host => .ok { p with host := some value }
    | .port =>
      match readPort value with
      | .ok port => .ok { p with port := some port }
      | .error fault => .error (.badPort value fault)
    | .inMemory => .ok { p with inMemory := true }
    | .help => .ok p

def settle (p : Progress) : Except Fault Progress :=
  match p.pending with
  | none => .ok p
  | some (s, none) => .error (.valueMissing s)
  | some (s, some value) => { p with pending := none }.enter s value

/-- The switches that count as used once all have been looked at, whatever came of it: one that is
repeated does not count. -/
def used (p : Progress) : List Switch :=
  match p.pending with
  | some (s, some _) => if p.seen.contains s then p.seen.erase s else p.seen ++ [s]
  | _ => p.seen

end Progress

/-! ### Guesses -/

def similarSwitch? (c : Command) (name : String) : Option Switch :=
  (Text.similarWords name (c.switches.map (·.name))).getLast?.bind c.switch?

/-- What might be meant by an unknown switch of a command: a similar one, or else one of the first
command in the rest of the line that has a similar one. -/
def guess? (c : Command) (name : String) (rest : List String) : Option Guess :=
  match similarSwitch? c name with
  | some s => some (.switch s)
  | none =>
    rest.findSome? fun word =>
      (c.child? word).bind fun child => (similarSwitch? child name).map (.under child)

/-- The fault of an unknown switch; a switch that is guessed counts as used. -/
def unknownSwitch (c : Command) (p : Progress) (name : String) (rest : List String) : Fault :=
  match guess? c name rest with
  | some (.switch s) =>
    .unknownSwitch name (some (.switch s)) (if p.used.contains s then p.used else p.used ++ [s])
  | guess => .unknownSwitch name guess p.used

def excessWord (c : Command) (word : String) : Fault :=
  if c.isGroup then .unknownCommand word (Text.similarWords word c.childNames)
  else .excessWord word

def excessBehindDashes (c : Command) (word : String) : Fault :=
  if c.childNames.contains word then .needlessDashes word else excessWord c word

/-! ### Lines -/

def finish (c : Command) (p : Progress) : Except Reply Invocation :=
  match c with
  | .program | .migrate => .error (.missing c)
  | .serve => .ok (.serve p.host p.port (if p.inMemory then .memory else .database))
  | .up => .ok (.migrate .applyAll)
  | .down => .ok (.migrate .undoLast)
  | .status => .ok (.migrate .showStatus)
  | .fresh => .ok (.migrate .rebuild)

def readHelp : Topic → List String → Reply
  | topic, [] => .help topic
  | topic, word :: rest =>
    match topic.child? word with
    | some topic => readHelp topic rest
    | none => .fault topic (.unknownCommand word [])

/-- Reads the rest of a line behind a command. -/
def read : Command → Progress → List String → Except Reply Invocation
  | c, p, [] => do
    let p ← p.settle.mapError (.fault (.command c))
    finish c p
  | c, p, word :: rest =>
    let faulty (fault : Fault) : Reply := .fault (.command c) fault
    match if p.isAwaiting then none else (Topic.command c).child? word with
    | some (.command child) => read child {} rest
    | some (.help parent) => .error (readHelp (.command parent) rest)
    | none =>
      match Word.of word with
      | .dashes =>
        match rest with
        | excess :: _ => .error (faulty (excessBehindDashes c excess))
        | [] => do
          let p ← p.settle.mapError faulty
          finish c p
      | .switch name value =>
        match c.switch? name with
        | none => .error (faulty (unknownSwitch c p name rest))
        | some s =>
          match s.placeholder?, value with
          | some _, some value => do
            let p ← p.settle.mapError faulty
            let p ← (p.enter s value).mapError faulty
            read c p rest
          | some _, none => do
            let p ← p.settle.mapError faulty
            read c { p with pending := some (s, none) } rest
          | none, some value => .error (faulty (.needlessValue value s p.seen))
          | none, none => do
            let p ← p.settle.mapError faulty
            if s = .help then .error (.help (.command c))
            else
              let p ← (p.enter s "").mapError faulty
              read c p rest
      | .letter letter =>
        if letter = 'h' then do
          let _ ← p.settle.mapError faulty
          .error (.help (.command c))
        else .error (faulty (.unknownLetter letter))
      | .plain =>
        match p.pending with
        | some (s, none) => read c { p with pending := some (s, some word) } rest
        | _ => .error (faulty (excessWord c word))

def Invocation.ofWords (words : List String) : Except Reply Invocation :=
  read .program {} words

end UserAccounts.CommandLine
