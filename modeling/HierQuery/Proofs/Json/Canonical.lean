import HierQuery.Proofs.Json.Documents

/-!
# Documents with ascending keys

The canonical form of a document has the members of every object in the order
of their keys, each key once.  A document that is like this already is its own
canonical form, so nothing of it is lost when its canonical form is written.
-/

namespace HierQuery.Json

/-- The keys of the members ascend. -/
abbrev KeysAscend (members : List (Text × Json)) : Prop :=
  members.Pairwise fun first second => compare first.1 second.1 = .lt

/-- In each object of the document the keys ascend, so no key is given twice. -/
inductive Ascending : Json → Prop
  | null : Ascending .null
  | bool (flag : Bool) : Ascending (.bool flag)
  | int (number : Int) : Ascending (.int number)
  | decimal (mantissa exponent : Int) : Ascending (.decimal mantissa exponent)
  | string (text : Text) : Ascending (.string text)
  | array
      {items : List Json}
      (each : ∀ item ∈ items, Ascending item) :
      Ascending (.array items)
  | object
      {members : List (Text × Json)}
      (keys : KeysAscend members)
      (each : ∀ member ∈ members, Ascending member.2) :
      Ascending (.object members)

/-! ## Members in their places -/

theorem mem_insertMember
    {key : Text}
    {value : Json}
    {members : List (Text × Json)}
    {member : Text × Json}
    (inside : member ∈ insertMember key value members) :
    member = (key, value) ∨ member ∈ members := by
  induction members with
  | nil =>
      simpa [insertMember] using inside
  | cons first members ih =>
      simp only [insertMember] at inside
      split at inside
      next =>
        simpa using inside
      next =>
        rcases List.mem_cons.1 inside with same | later
        · exact .inl same
        · exact .inr (List.mem_cons_of_mem _ later)
      next =>
        rcases List.mem_cons.1 inside with same | later
        · simp [same]
        · exact (ih later).imp_right (List.mem_cons_of_mem _)

theorem keysAscend_insertMember
    (key : Text)
    (value : Json)
    {members : List (Text × Json)}
    (ascends : KeysAscend members) :
    KeysAscend (insertMember key value members) := by
  induction ascends with
  | nil =>
      simp [insertMember]
  | @cons first members below ascends ih =>
      simp only [insertMember]
      split
      next lower =>
        apply List.Pairwise.cons _ (.cons below ascends)
        intro member inside
        rcases List.mem_cons.1 inside with rfl | later
        · exact lower
        · exact Std.TransCmp.lt_trans lower (below member later)
      next same =>
        apply List.Pairwise.cons _ ascends
        intro member inside
        exact Std.TransCmp.lt_of_eq_of_lt same (below member inside)
      next upper =>
        apply List.Pairwise.cons _ ih
        intro member inside
        rcases mem_insertMember inside with rfl | later
        · exact Std.OrientedCmp.gt_iff_lt.1 upper
        · exact below member later

/-- A member whose key comes after all others is put at the end. -/
theorem insertMember_of_above
    {key : Text}
    {value : Json}
    {members : List (Text × Json)}
    (above : ∀ member ∈ members, compare member.1 key = .lt) :
    insertMember key value members = members ++ [(key, value)] := by
  induction members with
  | nil =>
      simp [insertMember]
  | cons first members ih =>
      have later : compare key first.1 = .gt :=
        Std.OrientedCmp.gt_of_lt (above first (by simp))
      have others := ih fun member inside =>
        above member (List.mem_cons_of_mem _ inside)
      simp [insertMember, later, others]

/-! ## The canonical form -/

theorem canonicalItems_eq_map (items : List Json) :
    canonicalItems items = items.map canonical := by
  induction items with
  | nil => simp [canonicalItems]
  | cons item items ih => simp [canonicalItems, ih]

theorem canonicalMembers_eq_map (members : List (Text × Json)) :
    canonicalMembers members =
      members.map fun member => (member.1, member.2.canonical) := by
  induction members with
  | nil => simp [canonicalMembers]
  | cons member members ih => simp [canonicalMembers, ih]

theorem foldl_insertMember_of_ascending
    {sorted members : List (Text × Json)}
    (ascends : KeysAscend (sorted ++ members)) :
    members.foldl
        (fun sorted member => insertMember member.1 member.2 sorted)
        sorted =
      sorted ++ members := by
  induction members generalizing sorted with
  | nil =>
      simp
  | cons member members ih =>
      have above :
          ∀ earlier ∈ sorted, compare earlier.1 member.1 = .lt := by
        intro earlier inside
        exact (List.pairwise_append.1 ascends).2.2 earlier inside member
          (by simp)
      have last :
          insertMember member.1 member.2 sorted =
            sorted ++ [(member.1, member.2)] :=
        insertMember_of_above above
      have others := @ih (sorted ++ [member]) (by simpa using ascends)
      simpa [last] using others

/-- Putting members in their places keeps the keys ascending and adds no other members. -/
theorem foldl_insertMember_spec
    (members : List (Text × Json))
    {sorted : List (Text × Json)}
    (ascends : KeysAscend sorted) :
    let placed :=
      members.foldl
        (fun sorted member => insertMember member.1 member.2 sorted)
        sorted
    KeysAscend placed ∧
      ∀ member ∈ placed, member ∈ sorted ∨ member ∈ members := by
  induction members generalizing sorted with
  | nil =>
      simpa using ascends
  | cons first members ih =>
      rcases ih (keysAscend_insertMember first.1 first.2 ascends) with
        ⟨placed, origin⟩
      refine ⟨placed, ?_⟩
      intro member inside
      rcases origin member inside with earlier | later
      · rcases mem_insertMember earlier with same | earlier
        · exact .inr (by simp [same])
        · exact .inl earlier
      · exact .inr (List.mem_cons_of_mem _ later)

/-- A document with ascending keys is its own canonical form. -/
theorem Ascending.canonical_eq
    {document : Json}
    (ascending : Ascending document) :
    document.canonical = document := by
  induction ascending with
  | null | bool _ | int _ | decimal _ _ | string _ =>
      simp [canonical]
  | @array items each ih =>
      have same : items.map canonical = items.map id :=
        List.map_congr_left ih
      simp [canonical, canonicalItems_eq_map, same]
  | @object members keys each ih =>
      have same :
          members.map (fun member => (member.1, member.2.canonical)) =
            members.map id := by
        apply List.map_congr_left
        intro member inside
        simp [ih member inside]
      have placed :=
        @foldl_insertMember_of_ascending [] members (by simpa using keys)
      simp only [canonical, canonicalMembers_eq_map, same, sortedObject,
        List.map_id, placed, List.nil_append]

/-- The keys of a canonical form ascend. -/
theorem ascending_canonical (document : Json) :
    Ascending document.canonical := by
  induction document using induct with
  | null => exact .null
  | bool flag => exact .bool flag
  | int number => exact .int number
  | decimal mantissa exponent => exact .decimal mantissa exponent
  | string text => exact .string text
  | array items each =>
      simp only [canonical, canonicalItems_eq_map]
      apply Ascending.array
      simpa using each
  | object members each =>
      simp only [canonical, canonicalMembers_eq_map, sortedObject]
      rcases foldl_insertMember_spec
          (members.map fun member => (member.1, member.2.canonical))
          List.Pairwise.nil with
        ⟨ascends, given⟩
      apply Ascending.object ascends
      intro member inside
      have isGiven := (given member inside).resolve_left List.not_mem_nil
      rcases List.mem_map.1 isGiven with ⟨original, isIn, rfl⟩
      exact each original isIn

end HierQuery.Json
