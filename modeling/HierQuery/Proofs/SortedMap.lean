import HierQuery.SortedMap

/-!
# What a sorted map holds

A key has a value exactly if the pair of both is an entry, so lookups can be
read off the list of entries.  Insertion and removal are described by what
they do to that list: up to the order, an insertion puts one entry in front
of what the removal of the key leaves.
-/

namespace HierQuery.SortedMap

variable {κ α : Type} [Ord κ] [Std.LawfulEqOrd κ]

theorem find?_entry_eq_some_iff
    {entries : List (κ × α)}
    (ascending :
      entries.Pairwise fun first second =>
        compare first.1 second.1 = .lt)
    {key : κ}
    {value : α} :
    (entries.find? fun entry => compare key entry.1 == .eq).map Prod.snd =
        some value ↔
      (key, value) ∈ entries := by
  induction entries with
  | nil =>
      simp
  | cons head tail ih =>
      rcases List.pairwise_cons.1 ascending with ⟨above, rest⟩
      by_cases isHead : compare key head.1 = .eq
      · have headKey : key = head.1 :=
          Std.LawfulEqOrd.eq_of_compare isHead
        have notInTail : (key, value) ∉ tail := by
          intro member
          have later : compare head.1 key = .lt :=
            above (key, value) member
          rw [headKey, Std.ReflOrd.compare_self] at later
          cases later
        rw [List.find?_cons_of_pos (by simpa using isHead)]
        constructor
        · intro found
          have headValue : head.2 = value := by
            simpa using found
          exact List.mem_cons.2 (.inl (by rw [headKey, ← headValue]))
        · intro member
          rcases List.mem_cons.1 member with same | inTail
          · simp [← same]
          · exact (notInTail inTail).elim
      · have notHead : (key, value) ≠ head := by
          rintro rfl
          exact isHead Std.ReflOrd.compare_self
        simpa [isHead, notHead] using ih rest

/-- A key has a value exactly if the pair is an entry. -/
theorem get?_eq_some_iff
    {map : SortedMap κ α}
    {key : κ}
    {value : α} :
    map.get? key = some value ↔ (key, value) ∈ map.entries :=
  find?_entry_eq_some_iff map.ascending

theorem contains_iff
    {map : SortedMap κ α}
    {key : κ} :
    map.contains key = true ↔ ∃ value, (key, value) ∈ map.entries := by
  simp [contains, Option.isSome_iff_exists, get?_eq_some_iff]

theorem mem_erase
    {map : SortedMap κ α}
    {key : κ}
    {entry : κ × α} :
    entry ∈ (map.erase key).entries ↔
      entry ∈ map.entries ∧ entry.1 ≠ key := by
  rw [erase, List.mem_filter, bne_iff_ne, ne_eq,
    Std.LawfulEqOrd.compare_eq_iff_eq, eq_comm]

/-- A new entry is in the map, and of the old ones those with other keys. -/
theorem mem_insert
    [Std.TransOrd κ]
    {map : SortedMap κ α}
    {key : κ}
    {value : α}
    {entry : κ × α} :
    entry ∈ (map.insert key value).entries ↔
      entry = (key, value) ∨ entry ∈ map.entries ∧ entry.1 ≠ key := by
  rcases entry with ⟨other, stored⟩
  rw [← get?_eq_some_iff, get?_insert]
  by_cases same : other = key
  · simp [same, eq_comm]
  · simp [same, get?_eq_some_iff]

theorem nodup_entries (map : SortedMap κ α) :
    map.entries.Nodup :=
  map.ascending.imp fun below same => by
    rw [same, Std.ReflOrd.compare_self] at below
    cases below

theorem nodup_cons_erase
    (map : SortedMap κ α)
    (key : κ)
    (value : α) :
    ((key, value) :: (map.erase key).entries).Nodup :=
  List.nodup_cons.2
    ⟨fun member => (mem_erase.1 member).2 rfl, nodup_entries _⟩

/-- Maps that hold the same at every key are the same. -/
theorem eq_of_get?
    [Std.TransOrd κ]
    {first second : SortedMap κ α}
    (same : ∀ key, first.get? key = second.get? key) :
    first = second := by
  have sameEntries : first.entries.Perm second.entries := by
    apply (List.perm_ext_iff_of_nodup (nodup_entries _)
      (nodup_entries _)).2
    rintro ⟨key, value⟩
    rw [← get?_eq_some_iff, same, get?_eq_some_iff]
  have inOrder : first.entries = second.entries := by
    refine sameEntries.eq_of_pairwise ?_ first.ascending second.ascending
    intro earlier later _ _ below above
    have inverted : compare later.1 earlier.1 = .gt :=
      Std.OrientedCmp.gt_iff_lt.2 below
    rw [above] at inverted
    cases inverted
  cases first
  cases second
  cases inOrder
  rfl

/-- A filter that lets an entry pass, and beside it only later ones, begins with the entry. -/
theorem filter_eq_cons
    [Std.OrientedOrd κ]
    (map : SortedMap κ α)
    {entry : κ × α}
    (member : entry ∈ map.entries)
    (passes later : κ × α → Bool)
    (itself : passes entry = true)
    (others :
      ∀ other ∈ map.entries, entry.1 ≠ other.1 → passes other = later other)
    (above :
      ∀ other ∈ map.entries, later other = true →
        compare entry.1 other.1 = .lt) :
    map.entries.filter passes = entry :: map.entries.filter later := by
  have distinct {lower upper : κ} (below : compare lower upper = .lt) :
      lower ≠ upper := by
    rintro rfl
    rw [Std.ReflOrd.compare_self] at below
    cases below
  have ascending := map.ascending
  rcases List.append_of_mem member with ⟨front, rest, split⟩
  rw [split] at ascending others above ⊢
  rcases List.pairwise_append.1 ascending with ⟨-, fromEntry, inFront⟩
  have notLater : later entry = false :=
    Bool.eq_false_iff.2 fun isLater =>
      distinct (above entry (by simp) isLater) rfl
  have noneInFront : ∀ other ∈ front, later other = false := by
    intro other before
    refine Bool.eq_false_iff.2 fun isLater => ?_
    have under := inFront other before entry List.mem_cons_self
    have beyond := above other (List.mem_append_left _ before) isLater
    rw [Std.OrientedCmp.gt_of_lt under] at beyond
    cases beyond
  have frontSame : front.filter passes = front.filter later := by
    refine List.filter_congr fun other before => ?_
    exact others other (List.mem_append_left _ before)
      (distinct (inFront other before entry List.mem_cons_self)).symm
  have frontEmpty : front.filter later = [] :=
    List.filter_eq_nil_iff.2 fun other before => by
      rw [noneInFront other before]
      exact Bool.false_ne_true
  have restSame : rest.filter passes = rest.filter later := by
    refine List.filter_congr fun other after => ?_
    exact others other (by simp [after])
      (distinct ((List.pairwise_cons.1 fromEntry).1 other after))
  rw [List.filter_append, List.filter_append, frontSame, frontEmpty,
    List.filter_cons_of_pos itself, restSame,
    List.filter_cons_of_neg (by rw [notLater]; exact Bool.false_ne_true)]
  rfl

/-- Up to the order, an insertion adds its entry to what is left without the key. -/
theorem insert_perm
    [Std.TransOrd κ]
    (map : SortedMap κ α)
    (key : κ)
    (value : α) :
    (map.insert key value).entries.Perm
      ((key, value) :: (map.erase key).entries) := by
  apply (List.perm_ext_iff_of_nodup (nodup_entries _)
    (nodup_cons_erase map key value)).2
  intro entry
  rw [mem_insert, List.mem_cons, mem_erase]

/-- Up to the order, the entry of a key stands in front of what is left without the key. -/
theorem perm_erase
    {map : SortedMap κ α}
    {key : κ}
    {value : α}
    (present : map.get? key = some value) :
    map.entries.Perm ((key, value) :: (map.erase key).entries) := by
  apply (List.perm_ext_iff_of_nodup (nodup_entries _)
    (nodup_cons_erase map key value)).2
  intro entry
  rw [List.mem_cons, mem_erase]
  constructor
  · intro member
    by_cases same : entry.1 = key
    · have found : map.get? key = some entry.2 :=
        get?_eq_some_iff.2 (same ▸ member)
      have sameValue : entry.2 = value :=
        Option.some.inj (found.symm.trans present)
      exact .inl (Prod.ext same sameValue)
    · exact .inr ⟨member, same⟩
  · rintro (rfl | ⟨member, -⟩)
    · exact get?_eq_some_iff.1 present
    · exact member

theorem contains_insert
    [Std.TransOrd κ]
    {map : SortedMap κ α}
    {key other : κ}
    {value : α} :
    (map.insert key value).contains other = true ↔
      other = key ∨ map.contains other = true := by
  by_cases same : other = key <;>
    simp [contains, same]

/-- The later of two insertions at one key counts. -/
theorem insert_insert
    [Std.TransOrd κ]
    (map : SortedMap κ α)
    (key : κ)
    (earlier later : α) :
    (map.insert key earlier).insert key later = map.insert key later := by
  apply eq_of_get?
  intro other
  rw [get?_insert, get?_insert, get?_insert]
  split <;> rfl

/-- Insertions at different keys may change places. -/
theorem insert_comm
    [Std.TransOrd κ]
    (map : SortedMap κ α)
    {first second : κ}
    (different : first ≠ second)
    (value other : α) :
    (map.insert first value).insert second other =
      (map.insert second other).insert first value := by
  apply eq_of_get?
  intro key
  simp only [get?_insert, Std.LawfulEqOrd.compare_eq_iff_eq]
  by_cases isFirst : key = first
  · simp [isFirst, different]
  · simp [isFirst]

section OfList

variable [Std.TransOrd κ]

theorem mem_foldl_insert
    {entries : List (κ × α)}
    {map : SortedMap κ α}
    {entry : κ × α}
    (member :
      entry ∈
        (entries.foldl (fun map entry => map.insert entry.1 entry.2)
          map).entries) :
    entry ∈ entries ∨ entry ∈ map.entries := by
  induction entries generalizing map with
  | nil =>
      exact .inr member
  | cons head tail ih =>
      rcases ih member with inTail | inserted
      · exact .inl (List.mem_cons_of_mem _ inTail)
      · rcases mem_insert.1 inserted with new | ⟨old, -⟩
        · exact .inl (new ▸ List.mem_cons_self)
        · exact .inr old

theorem contains_foldl_insert
    {entries : List (κ × α)}
    {map : SortedMap κ α}
    {key : κ} :
    (entries.foldl (fun map entry => map.insert entry.1 entry.2)
        map).contains key = true ↔
      (∃ entry ∈ entries, entry.1 = key) ∨ map.contains key = true := by
  induction entries generalizing map with
  | nil =>
      simp
  | cons head tail ih =>
      rw [List.foldl_cons, ih, contains_insert]
      simp only [List.mem_cons, exists_eq_or_imp, eq_comm (a := key)]
      rw [← or_assoc, or_comm (b := head.1 = key)]

theorem mem_of_mem_ofList
    {entries : List (κ × α)}
    {entry : κ × α}
    (member : entry ∈ (ofList entries).entries) :
    entry ∈ entries := by
  rcases mem_foldl_insert member with listed | impossible
  · exact listed
  · cases impossible

theorem contains_ofList
    {entries : List (κ × α)}
    {key : κ} :
    (ofList entries).contains key = true ↔
      ∃ entry ∈ entries, entry.1 = key := by
  rw [ofList, contains_foldl_insert]
  simp [contains]

end OfList

end HierQuery.SortedMap
