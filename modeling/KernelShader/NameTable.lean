/-
`NameTable.lean` -- tables keyed by names that remember the order of first insertion.

Type tables, transcripts, cached bodies and buffer registries are all listed in the order in which their
entries came, and a second value under an old name takes the old place. The table is the list of its
entries; `insert` and `insertNew` are the only ways to add to it and neither repeats a name.
-/

set_option autoImplicit false

namespace KernelShader

/-- Entries under distinct names, in order of first insertion. -/
structure NameTable (α : Type) where
  entries : List (String × α)
  deriving DecidableEq, Repr

namespace NameTable

variable {α β : Type}

/-- The table without entries. -/
def empty : NameTable α := ⟨[]⟩

instance : Inhabited (NameTable α) := ⟨empty⟩

instance : EmptyCollection (NameTable α) := ⟨empty⟩

/-- The names, in order. -/
def names (t : NameTable α) : List String := t.entries.map Prod.fst

/-- The values, in order of their names. -/
def values (t : NameTable α) : List α := t.entries.map Prod.snd

/-- The value under a name. -/
def get? (t : NameTable α) (name : String) : Option α := t.entries.lookup name

/-- The table has an entry under the name. -/
def contains (t : NameTable α) (name : String) : Bool := (t.get? name).isSome

/-- Puts a value under a name in a list of entries: in the place of the old one, else at the end. -/
def insertEntry (name : String) (value : α) : List (String × α) → List (String × α)
  | [] => [(name, value)]
  | (key, old) :: rest =>
    if key = name then (name, value) :: rest else (key, old) :: insertEntry name value rest

/-- Puts a value under a name; an old value under it is replaced and keeps its place. -/
def insert (t : NameTable α) (name : String) (value : α) : NameTable α :=
  ⟨insertEntry name value t.entries⟩

/-- Puts a value under a name that has none yet; an old value stays. -/
def insertNew (t : NameTable α) (name : String) (value : α) : NameTable α :=
  if t.contains name then t else ⟨t.entries ++ [(name, value)]⟩

/-- Inserts entries one after the other. -/
def insertAll (t : NameTable α) (entries : List (String × α)) : NameTable α :=
  entries.foldl (fun t (name, value) => t.insert name value) t

/-- Inserts those entries that have a new name, one after the other. -/
def insertAllNew (t : NameTable α) (entries : List (String × α)) : NameTable α :=
  entries.foldl (fun t (name, value) => t.insertNew name value) t

/-- The table built from entries: a repeated name keeps its first place and its last value. -/
def ofEntries (entries : List (String × α)) : NameTable α := empty.insertAll entries

/-- Changes every value, names and order untouched. -/
def mapValues (f : α → β) (t : NameTable α) : NameTable β :=
  ⟨t.entries.map fun (name, value) => (name, f value)⟩

end NameTable

end KernelShader
