/-!
# Table — finite maps in key order

A list of entries with distinct keys in increasing order of code points, read by the first entry with the key.
`set` keeps the order and answers for its own key alone (`get?_set`).
-/
namespace SearchDomain

abbrev Table (α : Type) := List (String × α)

namespace Table

variable {α : Type}

def get? (key : String) : Table α → Option α
  | [] => none
  | (k, v) :: rest => if k = key then some v else get? key rest

/-- Put a value in its place by key; an equal key takes the new value. -/
def set (key : String) (value : α) : Table α → Table α
  | [] => [(key, value)]
  | (k, v) :: rest =>
    if key = k then (key, value) :: rest
    else if key < k then (key, value) :: (k, v) :: rest
    else (k, v) :: set key value rest

/-- The table of entries in any order; of equal keys the last one counts. -/
def ofList (entries : List (String × α)) : Table α := entries.foldl (fun t e => set e.1 e.2 t) []

def modify (key : String) (f : α → α) : Table α → Table α
  | [] => []
  | (k, v) :: rest => if k = key then (k, f v) :: rest else (k, v) :: modify key f rest

def mapValues {β : Type} (f : α → β) (t : Table α) : Table β := t.map fun (k, v) => (k, f v)

theorem get?_set (key other : String) (value : α) (t : Table α) :
    get? other (set key value t) = if key = other then some value else get? other t := by
  induction t with
  | nil => simp [set, get?]
  | cons e rest ih =>
    obtain ⟨k, v⟩ := e
    unfold set
    by_cases hk : key = k
    · subst hk; by_cases ho : key = other <;> simp [get?, ho]
    · by_cases hlt : key < k
      · simp [hk, hlt, get?]
      · by_cases ho : key = other
        · subst ho; simp [hk, hlt, get?, ih, Ne.symm hk]
        · simp [hk, hlt, get?, ih, ho]

theorem get?_modify (key other : String) (f : α → α) (t : Table α) :
    get? other (modify key f t) = if key = other then (get? other t).map f else get? other t := by
  induction t with
  | nil => simp [modify, get?]
  | cons e rest ih =>
    obtain ⟨k, v⟩ := e
    by_cases hk : k = key
    · subst hk; by_cases ho : k = other <;> simp [modify, get?, ho]
    · by_cases ho : k = other
      · subst ho; simp [modify, hk, get?, Ne.symm hk]
      · simp [modify, hk, get?, ho, ih]

end Table
end SearchDomain
