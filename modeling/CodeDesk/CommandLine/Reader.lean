import CodeDesk.CommandLine.Form
import CodeDesk.Text.Split

/-!
# Reading command lines

A command line is read from left to right. The first thing that is wrong
with it, or that asks for an explanation, ends the reading; so a request
for an explanation counts only if all that stands before it is right.
-/

namespace CodeDesk
namespace CommandLine

/-- Why the reading ends before the end. -/
inductive Halt where
  /-- An explanation is asked for, of the program or of a subcommand. -/
  | help (command : Option String)
  /-- The version is asked for. -/
  | version
  /-- The command line is wrong. -/
  | usage
  deriving DecidableEq, Repr, Inhabited

/-- A word of a command line. -/
inductive Word where
  /-- What follows is not looked at for options. -/
  | escape
  /-- An option by its name, with a value behind an equals sign. -/
  | long (name : String) (value : Option String)
  /-- Options by their letters. -/
  | letters (cs : List Char)
  /-- Anything else. -/
  | plain (text : String)
  deriving DecidableEq, Repr, Inhabited

/-- What a word of a command line is. -/
def Word.ofText (text : String) : Word :=
  match text.toList with
  | ['-', '-'] => .escape
  | '-' :: '-' :: cs =>
    match cutFirst '=' cs with
    | some (n, v) => .long (String.ofList n) (some (String.ofList v))
    | none => .long (String.ofList cs) none
  | '-' :: c :: cs => .letters (c :: cs)
  | _ => .plain text

/-- Whether a word may be the value of an option. -/
def Word.isPlain : Word → Bool
  | plain _ => true
  | _ => false

namespace Given

/-- Add an option. It is wrong to give one twice, or a path without
text. -/
def addOption (g : Given) (o : OptionForm) (value : String) : Except Halt Given :=
  if g.has o.name || (o.isPath && value.isEmpty) then .error .usage
  else .ok { g with options := g.options ++ [(o.name, value)] }

/-- Add an argument. It is wrong to give more than there are, or a path
without text. -/
def addArgument (g : Given) (forms : List ArgumentForm) (text : String) : Except Halt Given :=
  match forms[g.arguments.length]? with
  | none => .error .usage
  | some a =>
    if a.isPath && text.isEmpty then .error .usage
    else .ok { g with arguments := g.arguments ++ [text] }

end Given

/-- What options mean at a place of the command line. -/
structure Meaning where
  /-- The options. -/
  options : List OptionForm
  /-- What asking for help ends the reading with. -/
  help : Halt
  /-- Whether the version can be asked for. -/
  hasVersion : Bool

namespace Meaning

/-- The option that a condition picks, or why the reading ends. -/
def pick (m : Meaning) (p : OptionForm → Bool) : Except Halt OptionForm :=
  match m.options.find? p with
  | some o => .ok o
  | none =>
    if p helpOption then .error m.help
    else if m.hasVersion && p versionOption then .error .version
    else .error .usage

/-- Add options by their letters. None of them takes a value. -/
def addLetters (m : Meaning) : List Char → Given → Except Halt Given
  | [], g => .ok g
  | c :: cs, g =>
    match m.pick fun o => o.letter == some c with
    | .error h => .error h
    | .ok o =>
      match g.addOption o "" with
      | .error h => .error h
      | .ok g => addLetters m cs g

/-- Read options up to the first other word. The answer holds the words that
are left. -/
def readOptions (m : Meaning) : List String → Given → Except Halt (Given × List String)
  | [], g => .ok (g, [])
  | text :: rest, g =>
    match Word.ofText text with
    | .escape => .ok (g, text :: rest)
    | .plain _ => .ok (g, text :: rest)
    | .letters cs =>
      match m.addLetters cs g with
      | .error h => .error h
      | .ok g => readOptions m rest g
    | .long name value =>
      match m.pick fun o => o.name == name with
      | .error h => if value.isSome then .error .usage else .error h
      | .ok o =>
        match o.value, value with
        | none, some _ => .error .usage
        | none, none =>
          match g.addOption o "" with
          | .error h => .error h
          | .ok g => readOptions m rest g
        | some _, some v =>
          match g.addOption o v with
          | .error h => .error h
          | .ok g => readOptions m rest g
        | some _, none =>
          match rest with
          | [] => .error .usage
          | v :: rest =>
            if (Word.ofText v).isPlain then
              match g.addOption o v with
              | .error h => .error h
              | .ok g => readOptions m rest g
            else .error .usage

end Meaning

/-- Add arguments that are not looked at for options. -/
def addArguments (forms : List ArgumentForm) : List String → Given → Except Halt Given
  | [], g => .ok g
  | text :: rest, g =>
    match g.addArgument forms text with
    | .error h => .error h
    | .ok g => addArguments forms rest g

/-- Read the options and arguments of a subcommand; `fuel` bounds the number
of its words. -/
def readWords (m : Meaning) (forms : List ArgumentForm) :
    (fuel : Nat) → List String → Given → Except Halt Given
  | 0, _, g => .ok g
  | fuel + 1, words, g =>
    match m.readOptions words g with
    | .error h => .error h
    | .ok (g, []) => .ok g
    | .ok (g, text :: rest) =>
      if Word.ofText text = .escape then addArguments forms rest g
      else
        match g.addArgument forms text with
        | .error h => .error h
        | .ok g => readWords m forms fuel rest g

/-- Read what follows the name of a subcommand. -/
def CommandForm.read (c : CommandForm) (words : List String) : Except Halt Given :=
  match readWords ⟨c.options, .help (some c.name), false⟩ c.arguments (words.length + 1) words
      Given.nothing with
  | .error h => .error h
  | .ok g => if g.arguments.length < c.arguments.length then .error .usage else .ok g

/-- Which explanation the words behind the subcommand `help` ask for. -/
def ProgramForm.explains (p : ProgramForm) : List String → Halt
  | [] => .help none
  | [name] =>
    if (helpCommand :: p.commands).any fun c => c.name == name then .help (some name) else .usage
  | _ => .usage

/-- A command line that was read: the options of the program, the
subcommand and what was given for it. -/
structure Reading where
  /-- The options of the program. -/
  options : Given
  /-- The name of the subcommand. -/
  command : String
  /-- What was given for the subcommand. -/
  given : Given
  deriving DecidableEq, Repr, Inhabited

/-- Read a command line. -/
def ProgramForm.read (p : ProgramForm) (words : List String) : Except Halt Reading :=
  match Meaning.readOptions ⟨p.options, .help none, true⟩ words Given.nothing with
  | .error h => .error h
  | .ok (_, []) => .error .usage
  | .ok (g, name :: rest) =>
    if Word.ofText name = .escape then .error .usage
    else if name == helpCommand.name then .error (p.explains rest)
    else
      match p.commands.find? fun c => c.name == name with
      | none => .error .usage
      | some c => (c.read rest).map fun given => ⟨g, name, given⟩

end CommandLine
end CodeDesk
