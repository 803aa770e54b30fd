import CodeDesk.Data.Table

/-!
# Forms of command lines

What a command line may hold, as data: a program has options and
subcommands, and a subcommand has options and arguments of its own. Reading
a command line and explaining it both go by the form. The text that explains
a program or a subcommand says what it does, how it is written, and has a
table for each kind of thing that it may hold.
-/

namespace CodeDesk
namespace CommandLine

/-- An option. -/
structure OptionForm where
  /-- The letter that stands for it, if there is one. -/
  letter : Option Char
  /-- Its name. -/
  name : String
  /-- The name of its value, if it takes one. -/
  value : Option String
  /-- Whether its value is a path, which has text. -/
  isPath : Bool
  /-- What it is for. -/
  about : String
  deriving DecidableEq, Repr, Inhabited

/-- An argument that has to be given. -/
structure ArgumentForm where
  /-- Its name. -/
  name : String
  /-- Whether it is a path, which has text. -/
  isPath : Bool
  /-- What it is for. -/
  about : String
  deriving DecidableEq, Repr, Inhabited

/-- A subcommand. -/
structure CommandForm where
  /-- Its name. -/
  name : String
  /-- What it does. -/
  about : String
  /-- Its options. -/
  options : List OptionForm
  /-- Its arguments. -/
  arguments : List ArgumentForm
  deriving DecidableEq, Repr, Inhabited

/-- A program. -/
structure ProgramForm where
  /-- Its name. -/
  name : String
  /-- Its name and version. -/
  version : String
  /-- What it does. -/
  about : String
  /-- Its options. -/
  options : List OptionForm
  /-- Its subcommands. -/
  commands : List CommandForm
  deriving DecidableEq, Repr, Inhabited

/-- The option that asks for an explanation. -/
def helpOption : OptionForm := ⟨some 'h', "help", none, false, "Print help"⟩

/-- The option that asks for the version. -/
def versionOption : OptionForm := ⟨some 'V', "version", none, false, "Print version"⟩

/-- The subcommand that explains the others. -/
def helpCommand : CommandForm :=
  ⟨"help", "Print this message or the help of the given subcommand(s)", [], []⟩

/-- What was given on a command line. -/
structure Given where
  /-- The options by their names, with their values. -/
  options : List (String × String)
  /-- The arguments. -/
  arguments : List String
  deriving DecidableEq, Repr, Inhabited

namespace Given

/-- Nothing. -/
def nothing : Given := ⟨[], []⟩

/-- Whether an option was given. -/
def has (g : Given) (name : String) : Bool := g.options.any fun o => o.1 == name

/-- The value of an option. -/
def value? (g : Given) (name : String) : Option String :=
  (g.options.find? fun o => o.1 == name).map Prod.snd

/-- An argument by its place. -/
def argument (g : Given) (i : Nat) : String := (g.arguments[i]?).getD ""

end Given

/-! ## The program -/

/-- The form of the program's own command line. -/
def workbench : ProgramForm where
  name := "workbench"
  version := "workbench-cli 0.1.0"
  about := "Headless front end for workbench projects"
  options :=
    [⟨none, "json", none, false, "Log as JSON lines"⟩,
     ⟨none, "commands", some "COMMANDS", true, "Command table to use instead of the built-in one"⟩]
  commands :=
    [⟨"init", "Create a project file for a directory", [], [⟨"ROOT", true, ""⟩]⟩,
     ⟨"commands", "List the commands that apply to a language and VCS",
      [⟨none, "lang", some "LANG", false, ""⟩, ⟨none, "vcs", some "VCS", false, ""⟩], []⟩,
     ⟨"run", "Run a \x60Category: Name\x60 command and print its output", [],
      [⟨"PROJECT", true, ""⟩, ⟨"LABEL", false, ""⟩]⟩,
     ⟨"find", "Search the project",
      [⟨some 'i', "ignore-case", none, false, ""⟩, ⟨some 'r', "regex", none, false, ""⟩,
       ⟨none, "open-dirs", none, false, "Only search files in open directories"⟩],
      [⟨"PROJECT", true, ""⟩, ⟨"PATTERN", false, ""⟩]⟩,
     ⟨"recent", "Recently opened projects", [], []⟩]

/-! ## Explanations -/

/-- A text followed by blanks up to a width in characters. -/
def padRight (width : Nat) (s : String) : String :=
  s ++ String.ofList (List.replicate (width - s.length) ' ')

/-- The lines of a table of two columns. -/
def rows (entries : List (String × String)) : List String :=
  let width := (entries.map fun e => e.1.length).foldl max 0
  entries.map fun e => "  " ++ padRight (width + 2) e.1 ++ e.2

/-- How an option is written. -/
def OptionForm.usage (o : OptionForm) : String :=
  let letter := match o.letter with
    | some c => "-" ++ String.singleton c ++ ", "
    | none => "    "
  let value := match o.value with
    | some v => " <" ++ v ++ ">"
    | none => ""
  letter ++ "--" ++ o.name ++ value

/-- How an argument is written. -/
def ArgumentForm.usage (a : ArgumentForm) : String := "<" ++ a.name ++ ">"

/-- A table under its heading. -/
def table (heading : String) (entries : List (String × String)) : List String :=
  if entries.isEmpty then [] else ["", heading ++ ":"] ++ rows entries

/-- The table of options. -/
def optionTable (os : List OptionForm) : List String :=
  table "Options" (os.map fun o => (o.usage, o.about))

/-- Lines as a text. -/
def textOf (ls : List String) : String := String.join (ls.map (· ++ "\n"))

/-- The explanation of a subcommand. -/
def CommandForm.help (c : CommandForm) (program : String) : String :=
  let parts := [program, c.name] ++ (if c.options.isEmpty then [] else ["[OPTIONS]"]) ++
    c.arguments.map ArgumentForm.usage
  textOf ([c.about, "", "Usage: " ++ String.intercalate " " parts] ++
    table "Arguments" (c.arguments.map fun a => (a.usage, a.about)) ++
    optionTable (c.options ++ [helpOption]))

/-- The explanation of the subcommand that explains the others. -/
def helpOfHelp (program : String) : String :=
  textOf ([helpCommand.about, "", "Usage: " ++ program ++ " help [COMMAND]..."] ++
    table "Arguments" [("[COMMAND]...", "Print help for the subcommand(s)")])

/-- The explanation of a program. -/
def ProgramForm.help (p : ProgramForm) : String :=
  textOf ([p.about, "", "Usage: " ++ p.name ++ " [OPTIONS] <COMMAND>"] ++
    table "Commands" ((p.commands ++ [helpCommand]).map fun c => (c.name, c.about)) ++
    optionTable (p.options ++ [helpOption, versionOption]))

/-- The explanation of a program or of a subcommand. -/
def ProgramForm.explain (p : ProgramForm) : Option String → String
  | none => p.help
  | some name =>
    match p.commands.find? fun c => c.name == name with
    | some c => c.help p.name
    | none => helpOfHelp p.name

end CommandLine
end CodeDesk
