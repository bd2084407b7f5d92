/-
# Help

What is shown when help is asked for: what a topic does, how it is used, and in
two columns what stands under it and which switches it takes.

Key definitions: `Topic.usage`, `Command.usageWith`, `Command.usageBehind`,
`Topic.helpText`.
-/
import UserAccounts.CommandLine.Command

namespace UserAccounts.CommandLine

/-! ### Usage -/

/-- What stands at the end of the usage of a command with others under it. -/
def childMark (c : Command) : String :=
  if c.isGroup then " <COMMAND>" else ""

def Topic.usage : Topic → String
  | .command c =>
    c.fullName ++ (if c.ownSwitches.isEmpty then "" else " [OPTIONS]") ++ childMark c
  | .help parent => parent.fullName ++ " " ++ helpName ++ " [COMMAND]..."

/-- How a command is used with these switches; with none, how it is used at all. -/
def Command.usageWith (c : Command) (used : List Switch) : String :=
  if used.isEmpty then (Topic.command c).usage
  else " ".intercalate (c.fullName :: used.eraseDups.map Switch.label) ++ childMark c

def Command.choice (c : Command) : String :=
  "<" ++ "|".intercalate (c.ownSwitches.map Switch.label) ++ ">"

/-- How a command is used with a switch; those before it are told together with all that might
have stood there. -/
def Command.usageBehind (c : Command) (before : List Switch) (s : Switch) : String :=
  if before.isEmpty then c.usageWith [s]
  else
    let apart := if c.ownSwitches.contains s then [] else [s.label]
    " ".intercalate (c.fullName :: apart ++ [c.choice]) ++ childMark c

def usageLine (usage : String) : String :=
  "Usage: " ++ usage

/-! ### Columns -/

/-- Lines of two columns, the second of which starts two blanks behind the longest of the first. -/
def columns (rows : List (String × String)) : String :=
  let width := rows.foldl (fun most row => max most row.1.length) 0
  String.join (rows.map fun (left, right) =>
    left ++ String.ofList (List.replicate (width + 2 - left.length) ' ') ++ right ++ "\n")

/-- Lines of two columns under a heading; nothing if there are none. -/
def block (heading : String) (rows : List (String × String)) : String :=
  if rows.isEmpty then "" else "\n" ++ heading ++ ":\n" ++ columns rows

def childRow (name about : String) : String × String :=
  ("  " ++ name, about)

def switchRow (s : Switch) : String × String :=
  let letter := match s.letter? with
    | some c => "  -" ++ String.singleton c ++ ", "
    | none => "      "
  (letter ++ s.label, s.about)

def Topic.helpText (topic : Topic) : String :=
  let opening (about : String) := about ++ "\n\n" ++ usageLine topic.usage ++ "\n"
  match topic with
  | .command c =>
    let children := c.children.map fun child => childRow child.name child.about
    let help := if c.isGroup then [childRow helpName helpAbout] else []
    opening c.about ++ block "Commands" (children ++ help) ++
      block "Options" (c.switches.map switchRow)
  | .help _ =>
    opening helpAbout ++
      block "Arguments" [childRow "[COMMAND]..." "Print help for the subcommand(s)"]

end UserAccounts.CommandLine
