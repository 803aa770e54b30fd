import CodeDesk.Data.Toml.Lexeme
import CodeDesk.Data.Value

/-!
# Reading TOML

A text is a sequence of lines that set keys, open tables, or add tables to
arrays of tables. The tables opened so far form a tree whose nodes remember
how they came to be, because a table may be opened only once and a table
made by dotted keys may be extended only by dotted keys.
-/

namespace CodeDesk
namespace Toml

/-- A place in the tree of tables. -/
inductive Node where
  /-- A value that was set. -/
  | leaf (v : Value)
  /-- A table; `isImplicit` when no header opened it, `dotted` when dotted
  keys made it. -/
  | table (isImplicit dotted : Bool) (entries : List (String × Node))
  /-- The tables added to an array, newest first. -/
  | tables (newest : List (String × Node)) (older : List (List (String × Node)))
  deriving Inhabited

/-- A table that is being changed. -/
structure Table where
  /-- No header opened it. -/
  isImplicit : Bool
  /-- Dotted keys made it. -/
  dotted : Bool
  /-- What it holds. -/
  entries : List (String × Node)
  deriving Inhabited

/-- The entry of the given name. -/
def Table.get? (t : Table) (name : String) : Option Node :=
  (t.entries.find? fun e => e.1 == name).map Prod.snd

/-- The table with an entry put in place of the one of the same name. -/
def Table.put (t : Table) (name : String) (n : Node) : Table :=
  if t.entries.any fun e => e.1 == name then
    ⟨t.isImplicit, t.dotted, t.entries.map fun e => if e.1 == name then (name, n) else e⟩
  else ⟨t.isImplicit, t.dotted, t.entries ++ [(name, n)]⟩

/-- Change the table at the end of `path`. Tables on the way are made when
they are missing; an array of tables leads to its newest one. Dotted keys
do not lead through a table that a header opened. -/
def descend (dotted : Bool) (f : Table → Option Table) : (path : List String) → Table →
    Option Table
  | [], t => f t
  | name :: path, t =>
    match t.get? name with
    | none =>
      (descend dotted f path ⟨true, dotted, []⟩).map fun u =>
        t.put name (.table u.isImplicit u.dotted u.entries)
    | some (.leaf _) => none
    | some (.tables newest older) =>
      (descend dotted f path ⟨false, false, newest⟩).map fun u =>
        t.put name (.tables u.entries older)
    | some (.table isImplicit d entries) =>
      if dotted && !isImplicit then none
      else
        (descend dotted f path ⟨isImplicit, d, entries⟩).map fun u =>
          t.put name (.table u.isImplicit u.dotted u.entries)

/-- Set a key of a table. A table of dotted keys takes only dotted keys, and
no key is set twice. -/
def setKey (key : List String) (v : Value) (t : Table) : Option Table :=
  match key.getLast? with
  | none => none
  | some name =>
    let path := key.dropLast
    descend true (fun u =>
      if u.dotted == path.isEmpty then none
      else if (u.get? name).isSome then none
      else some (u.put name (.leaf v))) path t

/-- Open the table a header names. -/
def openTable (key : List String) (t : Table) : Option Table :=
  match key.getLast? with
  | none => none
  | some name =>
    descend false (fun u =>
      match u.get? name with
      | none => some (u.put name (.table false false []))
      | some (.table true false entries) => some (u.put name (.table false false entries))
      | some _ => none) key.dropLast t

/-- Add a table to the array a header names. -/
def addTable (key : List String) (t : Table) : Option Table :=
  match key.getLast? with
  | none => none
  | some name =>
    descend false (fun u =>
      match u.get? name with
      | none => some (u.put name (.tables [] []))
      | some (.tables newest older) => some (u.put name (.tables [] (newest :: older)))
      | some _ => none) key.dropLast t

mutual

/-- The value a node stands for. -/
def Node.value : Node → Value
  | .leaf v => v
  | .table _ _ entries => .map (entriesValue entries)
  | .tables newest older => .list (tablesValue older ++ [.map (entriesValue newest)])

/-- The members a table stands for. -/
def entriesValue : List (String × Node) → List (String × Value)
  | [] => []
  | (name, n) :: rest => (name, n.value) :: entriesValue rest

/-- The tables of an array, oldest first. -/
def tablesValue : List (List (String × Node)) → List Value
  | [] => []
  | entries :: rest => tablesValue rest ++ [.map (entriesValue entries)]

end

/-- How deep values may be nested. -/
def depthLimit : Nat := 80

mutual

/-- A value; `depth` values are open around it. -/
def value : (fuel depth : Nat) → List Char → Option (Value × List Char)
  | 0, _, _ => none
  | fuel + 1, depth, cs =>
    match cs with
    | [] => none
    | c :: rest =>
      if c = '"' || c = '\'' then (string? cs).map fun p => (.text p.1, p.2)
      else if c = '[' then
        if depth + 1 < depthLimit then
          let rest := skipLines (rest.length + 1) rest
          match rest with
          | ']' :: after => some (.list [], after)
          | _ => items fuel (depth + 1) [] rest
        else none
      else if c = '\x7b' then
        if depth + 1 < depthLimit then
          match skipBlanks rest with
          | '\x7d' :: after => some (.map [], after)
          | _ => inlineKeys fuel (depth + 1) ⟨false, false, []⟩ rest
        else none
      else if c = 't' then (dropLead? ['r', 'u', 'e'] rest).map fun after => (.bool true, after)
      else if c = 'f' then
        (dropLead? ['a', 'l', 's', 'e'] rest).map fun after => (.bool false, after)
      else
        match moment? cs with
        | some after =>
          let written := String.ofList (cs.take (cs.length - after.length))
          some (.map [("datetime", .text written)], after)
        | none =>
          match float? cs with
          | some (x, after) => some (.float x, after)
          | none => (integer? cs).map fun p => (.int p.1, p.2)

/-- The items of an array up to its closing bracket. -/
def items : (fuel depth : Nat) → (acc : List Value) → List Char → Option (Value × List Char)
  | 0, _, _, _ => none
  | fuel + 1, depth, acc, cs =>
    match value fuel depth cs with
    | none => none
    | some (v, rest) =>
      match skipLines (rest.length + 1) rest with
      | ']' :: after => some (.list (v :: acc).reverse, after)
      | ',' :: after =>
        let after := skipLines (after.length + 1) after
        match after with
        | ']' :: after => some (.list (v :: acc).reverse, after)
        | _ => items fuel depth (v :: acc) after
      | _ => none

/-- The keys of an inline table up to its closing brace. -/
def inlineKeys : (fuel depth : Nat) → (t : Table) → List Char → Option (Value × List Char)
  | 0, _, _, _ => none
  | fuel + 1, depth, t, cs =>
    match key? (cs.length + 1) cs with
    | some (key, '=' :: rest) =>
      match value fuel depth (skipBlanks rest) with
      | none => none
      | some (v, rest) =>
        match setKey key v t with
        | none => none
        | some t =>
          match skipBlanks rest with
          | '\x7d' :: after => some (.map (entriesValue t.entries), after)
          | ',' :: after => inlineKeys fuel depth t after
          | _ => none
    | _ => none

end

/-- Where the lines of a text have led: the tree, and the table that keys
are set in. An array among the headers is entered at its newest table. -/
structure Reader where
  /-- All tables. -/
  root : Table
  /-- The table of the last header. -/
  current : List String

/-- Set a key in the table of the last header. A header's table is entered
whatever made the tables on the way. -/
def Reader.set (r : Reader) (key : List String) (v : Value) : Option Reader :=
  (descend false (setKey key v) r.current r.root).map fun root => ⟨root, r.current⟩

/-- One line of a text. -/
def line? (r : Reader) (cs : List Char) : Option (Reader × List Char) :=
  let fuel := cs.length + 1
  match skipBlanks cs with
  | '[' :: '[' :: rest =>
    match key? fuel rest with
    | some (key, ']' :: ']' :: rest) =>
      match addTable key r.root, lineEnd? rest with
      | some root, some after => some (⟨root, key⟩, after)
      | _, _ => none
    | _ => none
  | '[' :: rest =>
    match key? fuel rest with
    | some (key, ']' :: rest) =>
      match openTable key r.root, lineEnd? rest with
      | some root, some after => some (⟨root, key⟩, after)
      | _, _ => none
    | _ => none
  | [] => some (r, [])
  | c :: rest =>
    if c = '#' || c = '\n' || c = '\r' then (lineEnd? (c :: rest)).map fun after => (r, after)
    else
      match key? fuel (c :: rest) with
      | some (key, '=' :: rest) =>
        if depthLimit ≤ key.length then none
        else
          match value (2 * fuel) 0 (skipBlanks rest) with
          | none => none
          | some (v, rest) =>
            match r.set key v, lineEnd? rest with
            | some r, some after => some (r, after)
            | _, _ => none
      | _ => none

/-- All lines of a text. -/
def lines? : (fuel : Nat) → Reader → List Char → Option Reader
  | 0, _, _ => none
  | fuel + 1, r, cs =>
    if cs.isEmpty then some r
    else
      match line? r cs with
      | none => none
      | some (r, rest) => lines? fuel r rest

/-- The value of a whole text, always a map. A byte order mark may stand at
its start. -/
def parse? (s : String) : Option Value :=
  let cs := match s.toList with
    | '\ufeff' :: rest => rest
    | cs => cs
  (lines? (cs.length + 1) ⟨⟨false, false, []⟩, []⟩ cs).map fun r =>
    .map (entriesValue r.root.entries)

end Toml
end CodeDesk
