import MessageExpansion.Proofs.Json.Spelling

/-!
# Objects over several lines

An object that is printed over several lines has each member on a line of its own, indented one
level deeper than the braces.  It spells the object if the values of the members are spelled where
they stand.
-/

namespace MessageExpansion
namespace Json

open Text (stringLiteral)

/-- A new line and its indent are blanks. -/
theorem isGap_newLine
    (level : Nat) :
    IsGap (newLine level).toList := by
  intro c present
  rw [newLine, String.toList_append, String.toList_ofList, List.mem_append] at present
  rcases present with feed | indent
  · have isFeed : c = '\n' := by simpa using feed
    subst isFeed
    rfl
  · rw [String.toList_ofList] at indent
    have isSpace : c = ' ' := (List.mem_replicate.mp indent).2
    subst isSpace
    rfl

/-- Members on lines of their own are spelled if their values are. -/
theorem spells_prettyMembers
    {members : List (String × Json)}
    (level : Nat)
    (nonempty : members ≠ [])
    (each : ∀ member ∈ members, Spells member.2 (member.2.prettyAt (level + 1)).toList) :
    SpellsMembers (members.map fun member => (some member.1, member.2))
      ((prettyMembers (level + 1) (members.map fun member => (some member.1, member.2))).toList ++
        ((newLine level).toList ++ ['\x7d'])) := by
  have space : IsGap [' '] := List.forall_mem_singleton.mpr rfl
  induction members with
  | nil => exact absurd rfl nonempty
  | cons member rest inductionHypothesis =>
      obtain ⟨first, others⟩ := List.forall_mem_cons.mp each
      cases rest with
      | nil =>
          have text : (prettyMembers (level + 1) [(some member.1, member.2)]).toList ++
                ((newLine level).toList ++ ['\x7d']) =
              (newLine (level + 1)).toList ++ ((stringLiteral member.1).toList ++
                ':' :: ([' '] ++ ((member.2.prettyAt (level + 1)).toList ++
                  ((newLine level).toList ++ ['\x7d'])))) := by
            simp [prettyMembers]
          rw [List.map_singleton, text]
          exact .last member.1 (isGap_newLine _) space first (isGap_newLine _)
      | cons next more =>
          have onward := inductionHypothesis (List.cons_ne_nil _ _) others
          rw [List.map_cons] at onward
          have text : (prettyMembers (level + 1) ((some member.1, member.2) ::
                (some next.1, next.2) :: more.map fun member => (some member.1, member.2))).toList ++
                ((newLine level).toList ++ ['\x7d']) =
              (newLine (level + 1)).toList ++ ((stringLiteral member.1).toList ++
                ':' :: ([' '] ++ ((member.2.prettyAt (level + 1)).toList ++
                  ',' :: ((prettyMembers (level + 1) ((some next.1, next.2) ::
                      more.map fun member => (some member.1, member.2))).toList ++
                    ((newLine level).toList ++ ['\x7d']))))) := by
            simp [prettyMembers]
          rw [List.map_cons, List.map_cons, text]
          exact .more member.1 (isGap_newLine _) space first onward

/-- An object over several lines is spelled if the values of its members are. -/
theorem spells_prettyAt_ofMembers
    {members : List (String × Json)}
    (level : Nat)
    (each : ∀ member ∈ members, Spells member.2 (member.2.prettyAt (level + 1)).toList) :
    Spells (.ofMembers members) ((Json.ofMembers members).prettyAt level).toList := by
  cases members with
  | nil =>
      have text : ((Json.ofMembers []).prettyAt level).toList = ['\x7b', '\x7d'] := by
        simp [ofMembers, prettyAt]
      rw [text]
      exact .emptyObject
  | cons member rest =>
      have text : ((Json.ofMembers (member :: rest)).prettyAt level).toList =
          '\x7b' :: ((prettyMembers (level + 1)
            ((member :: rest).map fun member => (some member.1, member.2))).toList ++
              ((newLine level).toList ++ ['\x7d'])) := by
        simp [ofMembers, prettyAt]
      rw [text]
      exact .object (spells_prettyMembers level (List.cons_ne_nil _ _) each)

/-- A text is spelled alike at every level. -/
theorem spells_prettyAt_text
    (level : Nat)
    (value : String) :
    Spells (.text value) ((Json.text value).prettyAt level).toList := by
  rw [text, prettyAt]
  exact .string value

end Json
end MessageExpansion
