/-!
# Finite maps in the order of their keys

A finite map is the list of its entries, whose keys strictly ascend.  The list
is the whole content of a map, so what a map holds can be read off it, and
walking a map in the order of its keys is walking the list.
-/

namespace HierQuery

/-- A finite map from keys to values. -/
structure SortedMap (κ : Type u) (α : Type v) [Ord κ] where
  entries : List (κ × α)
  ascending :
    entries.Pairwise fun first second =>
      compare first.1 second.1 = .lt
deriving DecidableEq

namespace SortedMap

variable {κ : Type u} {α : Type v} [Ord κ]

/-- The map without entries. -/
def empty : SortedMap κ α :=
  ⟨[], .nil⟩

instance : Inhabited (SortedMap κ α) :=
  ⟨empty⟩

/-- The number of entries. -/
def size (map : SortedMap κ α) : Nat :=
  map.entries.length

/-- The value at a key. -/
def get? (map : SortedMap κ α) (key : κ) : Option α :=
  (map.entries.find? fun entry => compare key entry.1 == .eq).map Prod.snd

/-- Whether a key has a value. -/
def contains (map : SortedMap κ α) (key : κ) : Bool :=
  (map.get? key).isSome

/-- The first entry whose key comes after the given one. -/
def firstAfter? (map : SortedMap κ α) (key : κ) : Option (κ × α) :=
  map.entries.find? fun entry => compare key entry.1 == .lt

/-- The first entry whose key does not come before the given one. -/
def firstFrom? (map : SortedMap κ α) (key : κ) : Option (κ × α) :=
  map.entries.find? fun entry => (compare key entry.1).isLE

/-- The first entry of all. -/
def first? (map : SortedMap κ α) : Option (κ × α) :=
  map.entries.head?

/-- Puts an entry in its place; an entry with the same key is replaced. -/
def insertEntry (key : κ) (value : α) : List (κ × α) → List (κ × α)
  | [] => [(key, value)]
  | entry :: entries =>
      match compare key entry.1 with
      | .lt => (key, value) :: entry :: entries
      | .eq => (key, value) :: entries
      | .gt => entry :: insertEntry key value entries

theorem mem_insertEntry
    {key : κ}
    {value : α}
    {entries : List (κ × α)}
    {entry : κ × α}
    (member : entry ∈ insertEntry key value entries) :
    entry = (key, value) ∨ entry ∈ entries := by
  induction entries with
  | nil =>
      simpa [insertEntry] using member
  | cons head tail ih =>
      unfold insertEntry at member
      split at member
      · simpa using member
      · rcases List.mem_cons.1 member with same | inTail
        · exact .inl same
        · exact .inr (List.mem_cons_of_mem _ inTail)
      · rcases List.mem_cons.1 member with same | inTail
        · exact .inr (same ▸ List.mem_cons_self)
        · rcases ih inTail with new | old
          · exact .inl new
          · exact .inr (List.mem_cons_of_mem _ old)

theorem ascending_insertEntry
    [Std.TransOrd κ]
    [Std.LawfulEqOrd κ]
    (key : κ)
    (value : α)
    {entries : List (κ × α)}
    (ascending :
      entries.Pairwise fun first second =>
        compare first.1 second.1 = .lt) :
    (insertEntry key value entries).Pairwise fun first second =>
      compare first.1 second.1 = .lt := by
  induction entries with
  | nil =>
      simp [insertEntry]
  | cons head tail ih =>
      obtain ⟨above, rest⟩ := List.pairwise_cons.1 ascending
      unfold insertEntry
      split
      next below =>
        refine List.pairwise_cons.2 ⟨?_, ascending⟩
        intro entry member
        rcases List.mem_cons.1 member with same | inTail
        · exact same ▸ below
        · exact Std.TransCmp.lt_trans below (above entry inTail)
      next same =>
        have sameKey : key = head.1 :=
          Std.LawfulEqOrd.eq_of_compare same
        exact List.pairwise_cons.2
          ⟨fun entry member => sameKey ▸ above entry member, rest⟩
      next below =>
        refine List.pairwise_cons.2 ⟨?_, ih rest⟩
        intro entry member
        rcases mem_insertEntry member with new | old
        · subst new
          exact Std.OrientedCmp.gt_iff_lt.1 below
        · exact above entry old

/-- The map with a value at a key; an earlier value there is replaced. -/
def insert
    [Std.TransOrd κ]
    [Std.LawfulEqOrd κ]
    (map : SortedMap κ α)
    (key : κ)
    (value : α) :
    SortedMap κ α :=
  ⟨insertEntry key value map.entries,
    ascending_insertEntry key value map.ascending⟩

/-- The map without the entry at a key. -/
def erase (map : SortedMap κ α) (key : κ) : SortedMap κ α :=
  ⟨map.entries.filter fun entry => compare key entry.1 != .eq,
    map.ascending.filter _⟩

/-- The map of the given entries.  The last of several entries with one key stays. -/
def ofList
    [Std.TransOrd κ]
    [Std.LawfulEqOrd κ]
    (entries : List (κ × α)) :
    SortedMap κ α :=
  entries.foldl (fun map entry => map.insert entry.1 entry.2) empty

@[simp]
theorem get?_empty (key : κ) :
    (empty : SortedMap κ α).get? key = none :=
  rfl

theorem find?_insertEntry
    [Std.TransOrd κ]
    [Std.LawfulEqOrd κ]
    (key other : κ)
    (value : α)
    (entries : List (κ × α)) :
    ((insertEntry key value entries).find?
        fun entry => compare other entry.1 == .eq).map Prod.snd =
      if compare other key = .eq then
        some value
      else
        (entries.find? fun entry => compare other entry.1 == .eq).map
          Prod.snd := by
  induction entries with
  | nil =>
      by_cases same : compare other key = .eq <;>
        simp [insertEntry, same]
  | cons head tail ih =>
      unfold insertEntry
      split
      · by_cases same : compare other key = .eq <;>
          simp [List.find?_cons, same]
      next sameHead =>
        have headKey : key = head.1 :=
          Std.LawfulEqOrd.eq_of_compare sameHead
        by_cases same : compare other key = .eq
        · simp [same]
        · have notHead : ¬ compare other head.1 = .eq :=
            headKey ▸ same
          simp [same, notHead]
      next above =>
        by_cases isHead : compare other head.1 = .eq
        · have headKey : other = head.1 :=
            Std.LawfulEqOrd.eq_of_compare isHead
          have notKey : ¬ compare other key = .eq := by
            intro same
            have : key = head.1 :=
              (Std.LawfulEqOrd.eq_of_compare same).symm.trans headKey
            simp [this] at above
          simp [isHead, notKey]
        · simpa [List.find?_cons, isHead] using ih

@[simp]
theorem get?_insert
    [Std.TransOrd κ]
    [Std.LawfulEqOrd κ]
    (map : SortedMap κ α)
    (key other : κ)
    (value : α) :
    (map.insert key value).get? other =
      if compare other key = .eq then some value else map.get? other :=
  find?_insertEntry key other value map.entries

theorem find?_eraseEntry
    [Std.TransOrd κ]
    [Std.LawfulEqOrd κ]
    (key other : κ)
    (entries : List (κ × α)) :
    (entries.filter fun entry => compare key entry.1 != .eq).find?
        (fun entry => compare other entry.1 == .eq) =
      if compare other key = .eq then
        none
      else
        entries.find? fun entry => compare other entry.1 == .eq := by
  induction entries with
  | nil => simp
  | cons head tail ih =>
      by_cases erased : compare key head.1 = .eq
      · have headKey : key = head.1 :=
          Std.LawfulEqOrd.eq_of_compare erased
        by_cases same : compare other key = .eq
        · simpa [erased, same] using ih
        · have notHead : ¬ compare other head.1 = .eq :=
            headKey ▸ same
          simpa [erased, same, notHead] using ih
      · by_cases isHead : compare other head.1 = .eq
        · have headKey : other = head.1 :=
            Std.LawfulEqOrd.eq_of_compare isHead
          have notKey : ¬ compare other key = .eq := by
            intro same
            have : key = head.1 :=
              (Std.LawfulEqOrd.eq_of_compare same).symm.trans headKey
            simp [this] at erased
          simp [erased, isHead, notKey]
        · simpa [erased, isHead] using ih

@[simp]
theorem get?_erase
    [Std.TransOrd κ]
    [Std.LawfulEqOrd κ]
    (map : SortedMap κ α)
    (key other : κ) :
    (map.erase key).get? other =
      if compare other key = .eq then none else map.get? other := by
  unfold get? erase
  rw [find?_eraseEntry]
  split <;> rfl

end SortedMap

end HierQuery
