import CodeDesk.Files.Disk
import CodeDesk.Machine.Program.Files
import CodeDesk.Machine.Program.Text
import CodeDesk.Text.Split
import CodeDesk.Text.Utf8

/-!
# Program files

The files that can be run: a program proper, which is known by a mark at
its start, and a script whose first line names its interpreter. What a program
does is known by its name.
-/

namespace CodeDesk
namespace Machine

/-- What a file that holds a program starts with. -/
def programMark : Bytes := [0x7f, 0x45, 0x4c, 0x46]

/-- The program that the bytes of a file hold. -/
def programIn? (bytes : Bytes) : Option String :=
  if bytes.take 4 == programMark then some (Utf8.decodeLossy (bytes.drop 4)) else none

/-- The interpreter that the first line of a script names, with its
argument. -/
def interpreterIn? (bytes : Bytes) : Option (String × List String) :=
  match bytes with
  | 0x23 :: 0x21 :: rest =>
    let cs := (Utf8.decodeLossy (rest.takeWhile (· ≠ 10))).toList
    let blank (c : Char) : Bool := c = ' ' || c = '\t'
    let cs := cs.dropWhile blank
    let (path, rest) := cs.span fun c => !blank c
    let rest := ((rest.dropWhile blank).reverse.dropWhile blank).reverse
    if path.isEmpty then none
    else some (String.ofList path, if rest.isEmpty then [] else [String.ofList rest])
  | _ => none

/-- Whether a file may be run. -/
def isRunnable (d : Disk) (p : Path) : Bool :=
  match d.entry true p with
  | .ok (.file _ _ mode) => mode &&& 0o111 != 0
  | _ => false

/-- The file of a program on the search path. -/
def searchPath? (d : Disk) (dir : Path) (path : String) (program : String) : Option Path :=
  ((splitChars ':' path.toList).map fun cs =>
    (dir.join ⟨String.ofList cs⟩).join ⟨program⟩).find? (isRunnable d)

/-- The programs of the machine, apart from its shell. -/
def programs : List (String × Program) :=
  [("true", fun _ c => (0, c)), ("false", fun _ c => (1, c)), ("echo", echo), ("printf", printf),
   ("cat", cat), ("head", head), ("wc", wc), ("seq", seq), ("basename", basename),
   ("dirname", dirname), ("pwd", pwd), ("ls", ls), ("touch", touch), ("mkdir", mkdir), ("rm", rm),
   ("sleep", sleep), ("test", test), ("[", test)]

end Machine
end CodeDesk
