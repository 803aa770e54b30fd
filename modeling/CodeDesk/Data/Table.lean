/-!
# Tables

A table assigns a value to each of its keys and lists them in the order of
the keys.
-/

namespace CodeDesk

/-- Values by key, in the order of the keys. -/
structure Table (κ α : Type) where
  /-- The keys with their values. -/
  entries : List (κ × α)
  deriving Inhabited, DecidableEq

namespace Table

variable {κ α : Type} [Ord κ]

/-- The table without keys. -/
def empty : Table κ α := ⟨[]⟩

/-- The value at a key. -/
def get? (t : Table κ α) (k : κ) : Option α :=
  (t.entries.find? fun e => compare k e.1 == .eq).map Prod.snd

/-- Whether a key has a value. -/
def contains (t : Table κ α) (k : κ) : Bool := (t.get? k).isSome

/-- Put an entry among entries in order. A key that is there already stays
as it is and gets the new value. -/
def insertEntry (k : κ) (v : α) : List (κ × α) → List (κ × α)
  | [] => [(k, v)]
  | (k', v') :: rest =>
    match compare k k' with
    | .lt => (k, v) :: (k', v') :: rest
    | .eq => (k', v) :: rest
    | .gt => (k', v') :: insertEntry k v rest

/-- Give a key a value. -/
def set (t : Table κ α) (k : κ) (v : α) : Table κ α := ⟨insertEntry k v t.entries⟩

/-- Take a key away. -/
def erase (t : Table κ α) (k : κ) : Table κ α :=
  ⟨t.entries.filter fun e => compare k e.1 != .eq⟩

/-- The keys in order. -/
def keys (t : Table κ α) : List κ := t.entries.map Prod.fst

/-- The table of a list of entries, the last of which counts for each
key. -/
def ofList (es : List (κ × α)) : Table κ α := es.foldl (fun t e => t.set e.1 e.2) empty

end Table
end CodeDesk
