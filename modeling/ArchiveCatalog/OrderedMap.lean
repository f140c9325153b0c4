namespace ArchiveCatalog

/-- A finite map as the list of its bindings, ascending by key. -/
structure OrderedMap (α : Type u) (β : Type v) [Ord α] where
  entries : List (α × β)
  ascending : entries.Pairwise fun x y => compare x.1 y.1 = .lt

namespace OrderedMap

section Entries

variable {α : Type u} {β : Type v} [Ord α]

/-- Put a binding in its place, over any earlier one of the same key. -/
def insertEntry (key : α) (value : β) : List (α × β) → List (α × β)
  | [] => [(key, value)]
  | entry :: rest =>
    match compare key entry.1 with
    | .lt => (key, value) :: entry :: rest
    | .eq => (key, value) :: rest
    | .gt => entry :: insertEntry key value rest

theorem mem_insertEntry {key : α} {value : β} {entry : α × β} {entries : List (α × β)}
    (member : entry ∈ insertEntry key value entries) :
    entry = (key, value) ∨ entry ∈ entries := by
  induction entries with
  | nil => simpa [insertEntry] using member
  | cons head rest ih =>
    unfold insertEntry at member
    split at member
    · simpa using member
    · rcases List.mem_cons.1 member with same | later
      · exact .inl same
      · exact .inr (List.mem_cons_of_mem _ later)
    · rcases List.mem_cons.1 member with same | later
      · exact .inr (same ▸ List.mem_cons_self)
      · exact (ih later).imp_right (List.mem_cons_of_mem _)

theorem pairwise_insertEntry [Std.TransOrd α] {entries : List (α × β)} (key : α) (value : β)
    (ascending : entries.Pairwise fun x y => compare x.1 y.1 = .lt) :
    (insertEntry key value entries).Pairwise fun x y => compare x.1 y.1 = .lt := by
  induction entries with
  | nil => simp [insertEntry]
  | cons head rest ih =>
    have later := (List.pairwise_cons.1 ascending).1
    have tail := (List.pairwise_cons.1 ascending).2
    unfold insertEntry
    split
    case h_1 below =>
      refine List.pairwise_cons.2 ⟨fun entry member => ?_, ascending⟩
      rcases List.mem_cons.1 member with same | member
      · exact same ▸ below
      · exact Std.TransCmp.lt_trans below (later entry member)
    case h_2 same =>
      refine List.pairwise_cons.2 ⟨fun entry member => ?_, tail⟩
      exact Std.TransCmp.lt_of_eq_of_lt same (later entry member)
    case h_3 above =>
      refine List.pairwise_cons.2 ⟨fun entry member => ?_, ih tail⟩
      rcases mem_insertEntry member with same | member
      · exact same ▸ Std.OrientedCmp.lt_of_gt above
      · exact later entry member

end Entries

variable {α : Type u} {β : Type v} [Ord α]

def empty : OrderedMap α β := ⟨[], .nil⟩

instance : EmptyCollection (OrderedMap α β) := ⟨empty⟩

instance : Inhabited (OrderedMap α β) := ⟨empty⟩

def isEmpty (map : OrderedMap α β) : Bool := map.entries.isEmpty

def size (map : OrderedMap α β) : Nat := map.entries.length

def keys (map : OrderedMap α β) : List α := map.entries.map (·.1)

def values (map : OrderedMap α β) : List β := map.entries.map (·.2)

def get? (map : OrderedMap α β) (key : α) : Option β :=
  (map.entries.find? fun entry => compare entry.1 key == .eq).map (·.2)

def contains (map : OrderedMap α β) (key : α) : Bool := (map.get? key).isSome

/-- Bind `key` to `value`, over any earlier binding. -/
def insert [Std.TransOrd α] (map : OrderedMap α β) (key : α) (value : β) : OrderedMap α β :=
  ⟨insertEntry key value map.entries, pairwise_insertEntry key value map.ascending⟩

def erase (map : OrderedMap α β) (key : α) : OrderedMap α β :=
  ⟨map.entries.filter fun entry => compare entry.1 key != .eq, map.ascending.filter _⟩

/-- The bindings at or after a key, in order. -/
def entriesFrom (map : OrderedMap α β) (key : α) : List (α × β) :=
  map.entries.dropWhile fun entry => compare entry.1 key == .lt

/-- Insert the bindings of a list one after the other; the last one of a key stays. -/
def insertMany [Std.TransOrd α] (map : OrderedMap α β) (entries : List (α × β)) : OrderedMap α β :=
  entries.foldl (fun map entry => map.insert entry.1 entry.2) map

def ofList [Std.TransOrd α] (entries : List (α × β)) : OrderedMap α β :=
  empty.insertMany entries

end OrderedMap

end ArchiveCatalog
