import MessageExpansion.Json.Record

/-!
# Reading records that were written

An object whose members are known and have different names gives its members as the fields of a
record, and an array gives its items.
-/

namespace MessageExpansion
namespace Json

/-- Known members with different names are all there. -/
theorem knownMembers_map
    {names : List String}
    {members : List (String × Json)}
    (known : ∀ member ∈ members, member.1 ∈ names)
    (distinct : (members.map (·.1)).Nodup) :
    knownMembers names (members.map fun member => (some member.1, member.2)) = some members := by
  induction members with
  | nil => rfl
  | cons member rest inductionHypothesis =>
      obtain ⟨name, value⟩ := member
      obtain ⟨here, others⟩ := List.forall_mem_cons.mp known
      rw [List.map_cons, List.nodup_cons] at distinct
      have fresh : rest.any (·.1 == name) = false := by
        rw [List.any_eq_false]
        intro other present same
        exact distinct.1 (List.mem_map.mpr ⟨other, present, eq_of_beq same⟩)
      have contained : names.contains name = true := List.contains_iff_mem.mpr here
      rw [List.map_cons, knownMembers, inductionHypothesis others distinct.2]
      simp only [contained, fresh, if_true, Bool.false_eq_true, if_false]

theorem fields?_ofMembers
    {names : List String}
    {members : List (String × Json)}
    (known : ∀ member ∈ members, member.1 ∈ names)
    (distinct : (members.map (·.1)).Nodup) :
    fields? names (.ofMembers members) = some members :=
  knownMembers_map known distinct

/-- Members with new names are put behind the others. -/
theorem foldl_putMember
    {found members : List (String × Json)}
    (distinct : ((found ++ members).map (·.1)).Nodup) :
    (members.map fun member => (some member.1, member.2)).foldl
        (fun found member => putMember found (member.1.getD "") member.2) found =
      found ++ members := by
  induction members generalizing found with
  | nil => rw [List.map_nil, List.foldl_nil, List.append_nil]
  | cons member rest inductionHypothesis =>
      have fresh : found.any (·.1 == member.1) = false := by
        rw [List.map_append, List.nodup_append] at distinct
        rw [List.any_eq_false]
        intro other present same
        exact distinct.2.2 other.1 (List.mem_map_of_mem present) member.1 (by simp)
          (eq_of_beq same)
      have put : putMember found member.1 member.2 = found ++ [member] := by
        rw [putMember, fresh]
        rfl
      rw [List.append_cons] at distinct
      rw [List.map_cons, List.foldl_cons, Option.getD_some, put, inductionHypothesis distinct,
        ← List.append_cons]

/-- Members with different names are all there, in order. -/
theorem distinctMembers_map
    {members : List (String × Json)}
    (distinct : (members.map (·.1)).Nodup) :
    distinctMembers (members.map fun member => (some member.1, member.2)) = members :=
  foldl_putMember distinct

/-- An object is sound if the values of its members are. -/
theorem isSound_ofMembers
    {depth : Nat}
    {members : List (String × Json)}
    (each : ∀ member ∈ members, member.2.isSound depth = true) :
    (Json.ofMembers members).isSound (depth + 1) = true := by
  rw [ofMembers, isSound]
  induction members with
  | nil => rfl
  | cons member rest inductionHypothesis =>
      obtain ⟨first, others⟩ := List.forall_mem_cons.mp each
      rw [List.map_cons, membersSound, first, inductionHypothesis others]
      rfl

/-- Items are read as they were written, each by itself. -/
theorem asList?_map
    {α : Type}
    {read : Json → Option α}
    {write : α → Json}
    (items : List α)
    (inverse : ∀ item, read (write item) = some item) :
    asList? read (.array (items.map write)) = some items := by
  unfold asList?
  simp only
  induction items with
  | nil => rfl
  | cons item rest inductionHypothesis =>
      rw [List.map_cons, List.mapM_cons, inverse, inductionHypothesis]
      rfl

end Json
end MessageExpansion
