/-
# Which events are shown

A filter is a list of directives with commas between them. A directive is a level
(`warn`, or `2`), which holds for every source; the beginning of the names of
sources, which shows all that they report; or both with an equals sign between
(`part=warn`). Behind the beginning of a name may stand brackets with a span and, in
braces, names of fields that an event must have. Of the directives that an event
matches the most specific one decides, and one that is repeated counts as it was
given last. Events stand in no span, so a directive for a span shows none.

Without a filter, or with one that is not well formed, events down to the level of
information are shown; an empty filter shows errors.

Key definitions: `Directive`, `Directive.ofText?`, `Filter`, `Filter.ofText?`,
`Filter.shows`.
-/
import UserAccounts.Program.Event
import UserAccounts.Settings.Lookup

namespace UserAccounts.Program

/-- How far down events are shown: none, and then one level more each. -/
inductive Threshold where
  | off
  | error
  | warning
  | info
  | debug
  | trace
deriving DecidableEq, Repr

def Threshold.depth : Threshold → Nat
  | .off => 0
  | .error => 1
  | .warning => 2
  | .info => 3
  | .debug => 4
  | .trace => 5

/-- The threshold that just lets a level through. -/
def Level.threshold : Level → Threshold
  | .error => .error
  | .warning => .warning
  | .info => .info

def Threshold.admits (t : Threshold) (level : Level) : Bool :=
  level.threshold.depth ≤ t.depth

/-- The threshold that a word names, in letters of either case, or its number. -/
def Threshold.ofText? (word : List Char) : Option Threshold :=
  let all : List Threshold := [.off, .error, .warning, .info, .debug, .trace]
  match Text.readNatural 5 word with
  | .ok n => all[n]?
  | .error _ =>
    let names := ["off", "error", "warn", "info", "debug", "trace"]
    ((names.zip all).find? fun p => p.1.toList == word.map Char.toLower).map (·.2)

structure Directive where
  source : Option (List Char) := none
  span : Option (List Char) := none
  fields : List (List Char) := []
  threshold : Threshold := .trace
deriving DecidableEq, Repr

namespace Directive

def isStart (c : Char) : Bool :=
  c.isAlphanum || 128 ≤ c.toNat || c == '-' || c == ':' || c == '_'

/-- Reads the threshold behind an equals sign; it may be left out. -/
def readThreshold (d : Directive) (word : List Char) : Option Directive :=
  if word.isEmpty then some d
  else (Threshold.ofText? word).map fun threshold => { d with threshold }

/-- Reads what stands behind the brackets: nothing, or an equals sign and a threshold. -/
def readEnd (d : Directive) : List Char → Option Directive
  | [] => some d
  | '=' :: word => d.readThreshold word
  | _ => none

def readSpan (d : Directive) (cs : List Char) : Option Directive :=
  let name := cs.takeWhile fun c => c != ']' && c != '\x7b'
  match cs.drop name.length with
  | ']' :: rest => { d with span := some name }.readEnd rest
  | '\x7b' :: rest =>
    let inside := rest.takeWhile (· != '\x7d')
    let fields := inside.splitOn ','
    let span := if name.isEmpty then none else some name
    match rest.drop inside.length with
    | '\x7d' :: ']' :: rest =>
      if fields.any List.isEmpty then none else { d with span, fields }.readEnd rest
    | _ => none
  | _ => none

def ofText? (text : List Char) : Option Directive :=
  match text with
  | [] => none
  | '[' :: rest => readSpan {} rest
  | c :: _ =>
    let name := text.takeWhile fun c => c != '=' && c != '['
    if !isStart c then none
    else
      match text.drop name.length with
      | '=' :: word => { source := some name : Directive }.readThreshold word
      | '[' :: rest => readSpan { source := some name } rest
      | _ =>
        match Threshold.ofText? name with
        | some threshold => some { threshold }
        | none => some { source := some name }

/-- Whether a directive can hold for an event outside of all spans; one that wants a field of some
value cannot. -/
def isPlain (d : Directive) : Bool :=
  d.span.isNone && !d.fields.any fun field => field.contains '='

/-- Whether a directive holds for an event. The words of an event are its field `message`. -/
def matchesEvent (d : Directive) (event : Event) : Bool :=
  let names := "message" :: event.fields.map (·.1)
  d.isPlain && d.source.all (fun source => source.isPrefixOf event.source.toList) &&
    d.fields.all fun field => names.contains (String.ofList field)

/-- How specific a directive is: the length of the source, and the number of fields. -/
def weight (d : Directive) : Nat × Nat :=
  (d.source.elim 0 fun source => source.length + 1, d.fields.length)

def atLeast (a b : Directive) : Bool :=
  b.weight.1 < a.weight.1 || (b.weight.1 == a.weight.1 && b.weight.2 ≤ a.weight.2)

end Directive

structure Filter where
  directives : List Directive
deriving DecidableEq, Repr

namespace Filter

def key : String := "RUST_LOG"

def standard : Filter := ⟨[{ threshold := .info }]⟩

/-- The filter that a text spells; without any directive it shows errors. -/
def ofText? (text : String) : Option Filter := do
  let pieces := (text.toList.splitOn ',').filter fun piece => !piece.isEmpty
  let directives ← pieces.mapM Directive.ofText?
  some (if directives.isEmpty then ⟨[{ threshold := .error }]⟩ else ⟨directives⟩)

def read (lookup : Lookup) : Filter :=
  ((lookup key).bind ofText?).getD standard

/-- The directive that decides on an event: of the most specific ones the last. -/
def deciding? (f : Filter) (event : Event) : Option Directive :=
  (f.directives.filter fun d => d.matchesEvent event).foldl
    (fun best d => if best.all d.atLeast then some d else best) none

def shows (f : Filter) (event : Event) : Bool :=
  (f.deciding? event).any fun d => d.threshold.admits event.level

end Filter

end UserAccounts.Program
