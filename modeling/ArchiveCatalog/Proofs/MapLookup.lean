import ArchiveCatalog.OrderedMap

namespace ArchiveCatalog.OrderedMap

variable {α : Type u} {β : Type v} [Ord α]

@[simp]
theorem get?_empty (key : α) : (empty : OrderedMap α β).get? key = none := rfl

theorem keys_ascending (map : OrderedMap α β) :
    map.keys.Pairwise fun first second => compare first second = .lt :=
  List.pairwise_map.2 map.ascending

theorem ext_entries {first second : OrderedMap α β} (same : first.entries = second.entries) :
    first = second := by
  cases first; cases second; cases same; rfl

theorem isEmpty_eq_true_iff {map : OrderedMap α β} : map.isEmpty = true ↔ map = empty := by
  constructor
  · intro none
    exact ext_entries (List.isEmpty_iff.1 none)
  · rintro rfl
    rfl

theorem size_eq_zero_iff {map : OrderedMap α β} : map.size = 0 ↔ map = empty := by
  rw [size, List.length_eq_zero_iff, ← isEmpty_eq_true_iff, isEmpty, List.isEmpty_iff]

section Reflexive

variable [Std.ReflOrd α]

private theorem value_unique {entries : List (α × β)} {key : α} {first second : β}
    (ascending : entries.Pairwise fun x y => compare x.1 y.1 = .lt)
    (left : (key, first) ∈ entries) (right : (key, second) ∈ entries) : first = second := by
  induction entries with
  | nil => simp at left
  | cons head rest ih =>
    obtain ⟨later, tail⟩ := List.pairwise_cons.1 ascending
    rcases List.mem_cons.1 left with own | left <;> rcases List.mem_cons.1 right with same | right
    · exact congrArg Prod.snd (own.trans same.symm)
    · have less := later _ right
      rw [← own] at less
      simp at less
    · have less := later _ left
      rw [← same] at less
      simp at less
    · exact ih tail left right

theorem entries_nodup (map : OrderedMap α β) : map.entries.Nodup :=
  map.ascending.imp fun less same => by simp [same] at less

theorem keys_nodup (map : OrderedMap α β) : map.keys.Nodup :=
  map.keys_ascending.imp fun less same => by simp [same] at less

end Reflexive

section Lawful

variable [Std.LawfulEqOrd α]

theorem get?_eq_some_iff {map : OrderedMap α β} {key : α} {value : β} :
    map.get? key = some value ↔ (key, value) ∈ map.entries := by
  unfold get?
  constructor
  · intro found
    obtain ⟨entry, search, rfl⟩ := Option.map_eq_some_iff.1 found
    have same : entry.1 = key := by simpa using List.find?_some search
    exact same ▸ List.mem_of_find?_eq_some search
  · intro member
    have present : (map.entries.find? fun entry => compare entry.1 key == .eq).isSome :=
      List.find?_isSome.2 ⟨_, member, by simp⟩
    obtain ⟨entry, search⟩ := Option.isSome_iff_exists.1 present
    have same : entry.1 = key := by simpa using List.find?_some search
    have other : (key, entry.2) ∈ map.entries := same ▸ List.mem_of_find?_eq_some search
    rw [search, Option.map_some, value_unique map.ascending other member]

theorem mem_keys {map : OrderedMap α β} {key : α} :
    key ∈ map.keys ↔ ∃ value, map.get? key = some value := by
  simp [keys, get?_eq_some_iff]

theorem perm_entries_iff {map : OrderedMap α β} {entries : List (α × β)}
    (distinct : entries.Nodup) :
    map.entries.Perm entries ↔
      ∀ key value, map.get? key = some value ↔ (key, value) ∈ entries := by
  rw [List.perm_ext_iff_of_nodup map.entries_nodup distinct]
  simp [Prod.forall, get?_eq_some_iff]

theorem get?_eq_none_iff {map : OrderedMap α β} {key : α} :
    map.get? key = none ↔ ∀ entry ∈ map.entries, entry.1 ≠ key := by
  simp [get?]

variable [DecidableEq α]

private theorem find?_insertEntry (key wanted : α) (value : β) (entries : List (α × β)) :
    ((insertEntry key value entries).find? fun entry => compare entry.1 wanted == .eq) =
      if key = wanted then some (key, value)
      else entries.find? fun entry => compare entry.1 wanted == .eq := by
  induction entries with
  | nil => by_cases same : key = wanted <;> simp [insertEntry, same]
  | cons head rest ih =>
    unfold insertEntry
    split
    case h_1 => by_cases same : key = wanted <;> simp [same]
    case h_2 equal =>
      have known : key = head.1 := Std.LawfulEqOrd.eq_of_compare equal
      by_cases same : key = wanted <;> simp [← known, same]
    case h_3 above =>
      by_cases here : head.1 = wanted
      · have other : key ≠ wanted := by
          rintro rfl
          simp [here] at above
        simp [here, other]
      · simp [here, ih]

theorem get?_erase (map : OrderedMap α β) (key wanted : α) :
    (map.erase key).get? wanted = if key = wanted then none else map.get? wanted := by
  simp only [erase, get?, List.find?_filter]
  split
  case isTrue same =>
    subst same
    simp
  case isFalse other =>
    congr 2
    funext entry
    by_cases here : entry.1 = wanted <;> simp [here, Ne.symm other]

@[simp] theorem get?_erase_self (map : OrderedMap α β) (key : α) :
    (map.erase key).get? key = none := by
  simp [get?_erase]

private theorem erase_perm {map : OrderedMap α β} {key : α} {value : β}
    (present : map.get? key = some value) :
    map.entries.Perm ((key, value) :: (map.erase key).entries) := by
  have gone : ∀ other, (key, other) ∉ (map.erase key).entries := fun other member => by
    simp [← get?_eq_some_iff] at member
  refine (perm_entries_iff (List.nodup_cons.2 ⟨gone value, (map.erase key).entries_nodup⟩)).2 ?_
  intro wanted found
  rw [List.mem_cons, ← get?_eq_some_iff, get?_erase]
  split
  case isTrue same =>
    subst same
    simp [present, eq_comm]
  case isFalse other => simp [Ne.symm other]

theorem countP_erase_of_present {map : OrderedMap α β} {key : α} {value : β}
    (test : β → Bool) (present : map.get? key = some value) :
    map.values.countP test =
      (map.erase key).values.countP test + if test value then 1 else 0 := by
  unfold values
  rw [((erase_perm present).map Prod.snd).countP_eq, List.map_cons, List.countP_cons]

end Lawful

section Ordered

variable [Std.TransOrd α] [Std.LawfulEqOrd α]

theorem ext {first second : OrderedMap α β} (same : ∀ key, first.get? key = second.get? key) :
    first = second := by
  have perm : first.entries.Perm second.entries :=
    (perm_entries_iff second.entries_nodup).2 fun key value => by rw [same, get?_eq_some_iff]
  refine ext_entries (perm.eq_of_pairwise ?_ first.ascending second.ascending)
  intro x y _ _ less greater
  have loop : compare x.1 x.1 = .lt := Std.TransCmp.lt_trans less greater
  simp at loop

variable [DecidableEq α]

theorem get?_insert (map : OrderedMap α β) (key wanted : α) (value : β) :
    (map.insert key value).get? wanted = if key = wanted then some value else map.get? wanted := by
  unfold insert get?
  rw [find?_insertEntry]
  split <;> rfl

@[simp] theorem get?_insert_self (map : OrderedMap α β) (key : α) (value : β) :
    (map.insert key value).get? key = some value := by
  simp [get?_insert]

private theorem insert_perm {map : OrderedMap α β} {key : α} (value : β)
    (absent : map.get? key = none) :
    (map.insert key value).entries.Perm ((key, value) :: map.entries) := by
  have fresh : ∀ other, (key, other) ∉ map.entries := fun other member =>
    get?_eq_none_iff.1 absent _ member rfl
  refine (perm_entries_iff (List.nodup_cons.2 ⟨fresh value, map.entries_nodup⟩)).2 ?_
  intro wanted found
  rw [get?_insert]
  split
  case isTrue same =>
    subst same
    simp [fresh, eq_comm]
  case isFalse other => simp [get?_eq_some_iff, Ne.symm other]

theorem erase_erase (map : OrderedMap α β) (key : α) :
    (map.erase key).erase key = map.erase key := by
  apply ext
  intro wanted
  simp only [get?_erase]
  split <;> rfl

theorem insert_insert (map : OrderedMap α β) (key : α) (first second : β) :
    (map.insert key first).insert key second = map.insert key second := by
  apply ext
  intro wanted
  simp only [get?_insert]
  split <;> rfl

private theorem insert_erase (map : OrderedMap α β) (key : α) (value : β) :
    (map.erase key).insert key value = map.insert key value := by
  apply ext
  intro wanted
  simp only [get?_insert, get?_erase]
  split <;> rfl

theorem countP_insert_of_absent {map : OrderedMap α β} {key : α} (test : β → Bool) (value : β)
    (absent : map.get? key = none) :
    (map.insert key value).values.countP test =
      map.values.countP test + if test value then 1 else 0 := by
  unfold values
  rw [((insert_perm value absent).map Prod.snd).countP_eq, List.map_cons, List.countP_cons]

theorem countP_insert_of_present {map : OrderedMap α β} {key : α} {old : β} (test : β → Bool)
    (value : β) (present : map.get? key = some old) (same : test value = test old) :
    (map.insert key value).values.countP test = map.values.countP test := by
  rw [← insert_erase, countP_insert_of_absent test value (get?_erase_self map key), same,
    ← countP_erase_of_present test present]

end Ordered

end ArchiveCatalog.OrderedMap
