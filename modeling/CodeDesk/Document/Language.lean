import CodeDesk.Files.Path
import CodeDesk.Text.Lines

/-!
# Languages

The languages of documents, and how they are told by the extension of a
file or by a name that a user has written.
-/

namespace CodeDesk

/-- The language a document is written in. -/
inductive Language where
  /-- Go. -/
  | go
  /-- Rust. -/
  | rust
  /-- Python. -/
  | python
  /-- C. -/
  | c
  /-- C++. -/
  | cpp
  /-- JavaScript. -/
  | javaScript
  /-- TypeScript. -/
  | typeScript
  /-- Markdown. -/
  | markdown
  /-- TOML. -/
  | toml
  /-- JSON. -/
  | json
  /-- YAML. -/
  | yaml
  /-- Shell scripts. -/
  | shell
  /-- HTML. -/
  | html
  /-- CSS. -/
  | css
  /-- Java. -/
  | java
  deriving DecidableEq, Repr, Inhabited, Ord

namespace Language

/-- Every language, in the order of listings. -/
def all : List Language :=
  [go, rust, python, c, cpp, javaScript, typeScript, markdown, toml, json, yaml, shell, html,
    css, java]

/-- The name of a language. -/
def name : Language → String
  | go => "Go"
  | rust => "Rust"
  | python => "Python"
  | c => "C"
  | cpp => "C++"
  | javaScript => "JavaScript"
  | typeScript => "TypeScript"
  | markdown => "Markdown"
  | toml => "TOML"
  | json => "JSON"
  | yaml => "YAML"
  | shell => "Shell"
  | html => "HTML"
  | css => "CSS"
  | java => "Java"

/-- The word that stands for a language in stored documents. -/
def keyword : Language → String
  | cpp => "Cpp"
  | toml => "Toml"
  | json => "Json"
  | yaml => "Yaml"
  | html => "Html"
  | css => "Css"
  | l => l.name

/-- Whether documents of a language are compiled or run. -/
def isSource : Language → Bool
  | markdown => false
  | toml => false
  | json => false
  | yaml => false
  | _ => true

/-- The extensions by which each language is known. -/
def extensions : Language → List String
  | go => ["go"]
  | rust => ["rs"]
  | python => ["py", "pyi"]
  | c => ["c", "h"]
  | cpp => ["cc", "cpp", "cxx", "hh", "hpp", "hxx"]
  | javaScript => ["js", "mjs", "cjs", "jsx"]
  | typeScript => ["ts", "tsx"]
  | markdown => ["md", "markdown"]
  | toml => ["toml"]
  | json => ["json"]
  | yaml => ["yml", "yaml"]
  | shell => ["sh", "bash", "zsh"]
  | html => ["html", "htm"]
  | css => ["css"]
  | java => ["java"]

/-- The language of an extension, in either case. -/
def ofExtension? (ext : String) : Option Language :=
  all.find? fun l => l.extensions.any fun e => eqIgnoringCase e ext

/-- The language of a file. -/
def ofPath? (p : Path) : Option Language := p.extension?.bind ofExtension?

/-- Other names that users write. -/
def aliases : List (String × Language) :=
  [("cpp", cpp), ("js", javaScript), ("ts", typeScript), ("bash", shell), ("sh", shell)]

/-- The language a user means. -/
def ofName? (s : String) : Option Language :=
  match all.find? fun l => eqIgnoringCase l.name (trim s) with
  | some l => some l
  | none => (aliases.find? fun a => eqIgnoringCase a.1 (trim s)).map Prod.snd

/-- What is said about a name that means no language. -/
def unknownMessage (s : String) : String := s!"unknown language {trim s}"

end Language
end CodeDesk
