/-!
# Entries in order

Keys with values, in the order in which the keys first came.  A key that comes
again keeps its place and gets the new value.
-/

namespace Reckoner

/-- Keys with values, in order of first insertion. -/
abbrev Entries (α : Type) := List (String × α)

namespace Entries

variable {α : Type}

/-- The value of a key. -/
def find? (entries : Entries α) (key : String) : Option α := entries.lookup key

/-- Whether a key is there. -/
def hasKey (entries : Entries α) (key : String) : Bool := entries.any (·.1 == key)

/-- The entries with a new value for the first entry of a key. -/
def replace (key : String) (value : α) : Entries α → Entries α
  | [] => []
  | (k, v) :: rest => if k == key then (k, value) :: rest else (k, v) :: replace key value rest

/-- The entries with a value for a key, in its place or at the end. -/
def insert (entries : Entries α) (key : String) (value : α) : Entries α :=
  if entries.hasKey key then entries.replace key value else entries ++ [(key, value)]

/-- Entries that are inserted one after the other. -/
def insertAll (entries : Entries α) (more : List (String × α)) : Entries α :=
  more.foldl (fun es e => es.insert e.1 e.2) entries

/-- The entries without a key. -/
def erase (entries : Entries α) (key : String) : Entries α := entries.filter (·.1 != key)

/-- The keys in order. -/
def keys (entries : Entries α) : List String := entries.map (·.1)

/-- The values in order. -/
def values (entries : Entries α) : List α := entries.map (·.2)

end Entries

end Reckoner
