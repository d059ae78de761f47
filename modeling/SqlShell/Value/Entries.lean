import SqlShell.Value.Basic

/-!
Keyed entries in order of insertion: a key that comes again takes the new value and keeps its
place and its first spelling.
-/

namespace SqlShell.Entries

/-- The value of a key. -/
def find? (entries : Entries) (key : Value) : Option Value :=
  (List.find? (fun entry => entry.1.sameKey key) entries).map (·.2)

/-- The entries with a key set to a value: in place if the key is there, else at the end. -/
def put : Entries → Value → Value → Entries
  | [], key, value => [(key, value)]
  | entry :: rest, key, value =>
      if entry.1.sameKey key then (entry.1, value) :: rest else entry :: put rest key value

/-- The entries with all entries of the second list put in, in their order. -/
def update (entries changes : Entries) : Entries :=
  changes.foldl (fun all change => put all change.1 change.2) entries

/-- The entries without a key. -/
def erase (entries : Entries) (key : Value) : Entries :=
  List.filter (fun entry => !entry.1.sameKey key) entries

/-- Pairs read as entries: later pairs with the same key win. -/
def ofPairs (pairs : Entries) : Entries :=
  update [] pairs

/-- Entries whose keys and values are texts. -/
def ofTexts (pairs : List (String × String)) : Entries :=
  pairs.map fun pair => (.text pair.1, .text pair.2)

end SqlShell.Entries
