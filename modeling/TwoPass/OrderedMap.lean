/-!
# Maps that keep their order

A map from keys to values that lists its keys in the order in which they first came in.  A new value
for a key takes the place of the old one.  The main statements say what `put` does to a look-up and
to the list of keys.
-/

namespace TwoPass

/-- Keys with their values, in order of first appearance. -/
structure OrderedMap (κ ν : Type) where
  /-- The entries, one to a key. -/
  entries : List (κ × ν) := []
  deriving DecidableEq, Repr

namespace OrderedMap

variable {κ ν : Type} [DecidableEq κ]

/-- Puts an entry into a row: in the place of the entry of that key, or behind all others. -/
def putEntry (key : κ) (value : ν) : List (κ × ν) → List (κ × ν)
  | [] => [(key, value)]
  | entry :: rest =>
    if entry.1 = key then (key, value) :: rest else entry :: putEntry key value rest

/-- Gives a key a value. -/
def put (map : OrderedMap κ ν) (key : κ) (value : ν) : OrderedMap κ ν :=
  ⟨putEntry key value map.entries⟩

/-- The value of a key. -/
def find? (map : OrderedMap κ ν) (key : κ) : Option ν := map.entries.lookup key

/-- Whether a key has a value. -/
def contains (map : OrderedMap κ ν) (key : κ) : Bool := (map.find? key).isSome

/-- The keys, in order of first appearance. -/
def keys (map : OrderedMap κ ν) : List κ := map.entries.map Prod.fst

/-- The number of keys. -/
def size (map : OrderedMap κ ν) : Nat := map.entries.length

/-- The map of a row of entries, of which later ones replace earlier ones. -/
def ofList (entries : List (κ × ν)) : OrderedMap κ ν :=
  entries.foldl (fun map entry => map.put entry.1 entry.2) {}

/-- Looking up in a row after an entry was put in. -/
theorem lookup_putEntry (key other : κ) (value : ν) (entries : List (κ × ν)) :
    (putEntry key value entries).lookup other =
      if other = key then some value else entries.lookup other := by
  induction entries with
  | nil => by_cases same : other = key <;> simp [putEntry, same]
  | cons entry rest ih =>
    obtain ⟨first, old⟩ := entry
    by_cases found : first = key
    · subst found
      rw [putEntry, if_pos rfl, List.lookup_cons, List.lookup_cons]
      by_cases same : other = first
      · simp [same]
      · have differs : (other == first) = false := by simpa using same
        rw [differs, if_neg same]
    · rw [putEntry, if_neg found, List.lookup_cons, List.lookup_cons, ih]
      by_cases here : other = first
      · subst here
        simp [found]
      · have differs : (other == first) = false := by simpa using here
        rw [differs]

/-- A key that was put in has its new value, and every other key has its old one. -/
theorem find?_put (map : OrderedMap κ ν) (key other : κ) (value : ν) :
    (map.put key value).find? other = if other = key then some value else map.find? other :=
  lookup_putEntry key other value map.entries

/-- A key that was put in has its new value. -/
@[simp]
theorem find?_put_self (map : OrderedMap κ ν) (key : κ) (value : ν) :
    (map.put key value).find? key = some value := by
  rw [find?_put, if_pos rfl]

/-- The keys of a row after an entry was put in. -/
theorem keys_putEntry (key : κ) (value : ν) (entries : List (κ × ν)) :
    (putEntry key value entries).map Prod.fst =
      if key ∈ entries.map Prod.fst then entries.map Prod.fst
      else entries.map Prod.fst ++ [key] := by
  induction entries with
  | nil => rfl
  | cons entry rest ih =>
    by_cases found : entry.1 = key
    · simp [putEntry, found]
    · have apart : key ≠ entry.1 := fun equal => found equal.symm
      rw [putEntry, if_neg found, List.map_cons, List.map_cons, ih]
      by_cases listed : key ∈ rest.map Prod.fst
      · rw [if_pos listed, if_pos (List.mem_cons_of_mem _ listed)]
      · have absent : key ∉ entry.1 :: rest.map Prod.fst := by
          rw [List.mem_cons, not_or]
          exact ⟨apart, listed⟩
        rw [if_neg listed, if_neg absent, List.cons_append]

/-- A known key keeps its place, and a new one goes behind all others. -/
theorem keys_put (map : OrderedMap κ ν) (key : κ) (value : ν) :
    (map.put key value).keys = if key ∈ map.keys then map.keys else map.keys ++ [key] :=
  keys_putEntry key value map.entries

end OrderedMap

end TwoPass
