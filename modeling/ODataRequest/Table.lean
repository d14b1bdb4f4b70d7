namespace ODataRequest

/-- Puts an entry at its place in a list ordered by name; an entry of the same name is replaced. -/
def insertNamed {α : Type} (name : String) (value : α) :
    List (String × α) → List (String × α)
  | [] => [(name, value)]
  | (other, old) :: rest =>
    if name < other then (name, value) :: (other, old) :: rest
    else if other < name then (other, old) :: insertNamed name value rest
    else (name, value) :: rest

def lookupNamed {α : Type} (name : String) : List (String × α) → Option α
  | [] => none
  | (other, value) :: rest => if other = name then some value else lookupNamed name rest

theorem mem_of_lookupNamed {α : Type} {name : String} {entries : List (String × α)} {value : α}
    (found : lookupNamed name entries = some value) : (name, value) ∈ entries := by
  induction entries with
  | nil => simp [lookupNamed] at found
  | cons entry rest ih =>
    unfold lookupNamed at found
    split at found
    · rename_i same
      simp only [Option.some.injEq] at found
      rw [← same, ← found]
      exact .head _
    · exact .tail _ (ih found)

/-- Every name is smaller than the names after it, so names are distinct. -/
def Ordered {α : Type} (entries : List (String × α)) : Prop :=
  entries.Pairwise fun a b => a.1 < b.1

theorem eq_of_not_lt {a b : String} (low : ¬a < b) (high : ¬b < a) : a = b :=
  String.le_antisymm (String.not_lt.mp high) (String.not_lt.mp low)

theorem mem_insertNamed {α : Type} {name : String} {value : α} {entries : List (String × α)}
    {entry : String × α} (member : entry ∈ insertNamed name value entries) :
    entry = (name, value) ∨ entry ∈ entries := by
  induction entries with
  | nil => simpa [insertNamed] using member
  | cons head rest ih =>
    unfold insertNamed at member
    split at member
    · simpa using member
    · split at member
      · rcases List.mem_cons.mp member with rfl | member
        · simp
        · rcases ih member with rfl | member <;> simp [*]
      · rcases List.mem_cons.mp member with rfl | member <;> simp [*]

theorem ordered_insertNamed {α : Type} (name : String) (value : α)
    {entries : List (String × α)} (ordered : Ordered entries) :
    Ordered (insertNamed name value entries) := by
  induction entries with
  | nil => simp [insertNamed, Ordered]
  | cons head rest ih =>
    obtain ⟨smallest, ordered'⟩ := List.pairwise_cons.mp ordered
    unfold insertNamed
    split
    case isTrue before =>
      refine List.pairwise_cons.mpr ⟨fun entry member => ?_, ordered⟩
      rcases List.mem_cons.mp member with rfl | member
      · exact before
      · exact String.lt_trans before (smallest entry member)
    case isFalse notBefore =>
      split
      case isTrue after =>
        refine List.pairwise_cons.mpr ⟨fun entry member => ?_, ih ordered'⟩
        rcases mem_insertNamed member with rfl | member
        · exact after
        · exact smallest entry member
      case isFalse notAfter =>
        have same := eq_of_not_lt notBefore notAfter
        exact List.pairwise_cons.mpr ⟨fun entry member => same ▸ smallest entry member, ordered'⟩

structure Table (α : Type) where
  entries : List (String × α)
  ordered : Ordered entries

namespace Table

variable {α β : Type}

instance [DecidableEq α] : DecidableEq (Table α) := fun s t =>
  decidable_of_iff (s.entries = t.entries) (by cases s; cases t; simp)

def empty : Table α := ⟨[], List.Pairwise.nil⟩

instance : Inhabited (Table α) := ⟨empty⟩

def insert (table : Table α) (name : String) (value : α) : Table α :=
  ⟨insertNamed name value table.entries, ordered_insertNamed name value table.ordered⟩

def get? (table : Table α) (name : String) : Option α := lookupNamed name table.entries

def contains (table : Table α) (name : String) : Bool := (table.get? name).isSome

/-- Of two entries with one name the later is kept. -/
def ofList (entries : List (String × α)) : Table α :=
  entries.foldl (fun table entry => table.insert entry.1 entry.2) empty

def insertNew (table : Table α) (name : String) (value : α) : Table α :=
  if table.contains name then table else table.insert name value

def names (table : Table α) : List String := table.entries.map Prod.fst

def values (table : Table α) : List α := table.entries.map Prod.snd

end Table
end ODataRequest
