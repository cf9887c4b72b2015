import MessageExpansion.Path

/-!
# Joined paths

Joining paths joins their components.  The names on a path are names that entries of directories can
have, and a path that is put together of such names has them as its last components.
-/

namespace MessageExpansion
namespace Path

/-! ### Pieces between slashes -/

/-- Cutting a text at its slashes is cutting it as a list. -/
theorem splitSlashes_eq_splitOn
    (text : List Char) :
    splitSlashes text = text.splitOn '/' := by
  induction text with
  | nil => rfl
  | cons c rest inductionHypothesis =>
      obtain ⟨first, more, parts⟩ := List.exists_cons_of_ne_nil (List.splitOn_ne_nil '/' rest)
      rw [List.splitOn_cons_eq_if_modifyHead, splitSlashes, inductionHypothesis, parts]
      by_cases slash : c = '/' <;> simp [slash]

theorem splitSlashes_ne_nil
    (text : List Char) :
    splitSlashes text ≠ [] := by
  rw [splitSlashes_eq_splitOn]
  exact List.splitOn_ne_nil _ _

/-- Texts with a slash between them are cut at that slash. -/
theorem splitSlashes_append
    (front back : List Char) :
    splitSlashes (front ++ '/' :: back) = splitSlashes front ++ splitSlashes back := by
  rw [splitSlashes_eq_splitOn, splitSlashes_eq_splitOn, splitSlashes_eq_splitOn,
    List.splitOn_append_cons_self]

/-- Pieces with slashes between them are found again. -/
theorem splitSlashes_joinSlashes
    {pieces : List (List Char)}
    (plain : ∀ piece ∈ pieces, '/' ∉ piece)
    (nonempty : pieces ≠ []) :
    splitSlashes (joinSlashes pieces) = pieces := by
  rw [splitSlashes_eq_splitOn]
  exact List.splitOn_intercalate '/' plain nonempty

/-- No piece has a slash. -/
theorem slash_not_mem
    {text piece : List Char}
    (present : piece ∈ splitSlashes text) :
    '/' ∉ piece := by
  induction text generalizing piece with
  | nil =>
      rw [splitSlashes, List.mem_singleton] at present
      simp [present]
  | cons c rest inductionHypothesis =>
      obtain ⟨first, more, parts⟩ := List.exists_cons_of_ne_nil (splitSlashes_ne_nil rest)
      rw [splitSlashes, parts] at present
      rw [parts] at inductionHypothesis
      split at present
      · rcases List.mem_cons.mp present with rfl | inRest
        · simp
        · exact inductionHypothesis inRest
      · next noSlash =>
          rcases List.mem_cons.mp present with rfl | inRest
          · rw [List.mem_cons, not_or]
            exact ⟨fun equal => noSlash equal.symm, inductionHypothesis List.mem_cons_self⟩
          · exact inductionHypothesis (List.mem_cons_of_mem _ inRest)

/-! ### Names -/

/-- An entry of a directory can have the name: no slash is in it, and it leads to no other place. -/
structure IsEntryName (name : String) : Prop where
  plain : '/' ∉ name.toList
  leads : componentOf name.toList = some (.normal name)

instance : DecidablePred IsEntryName := fun _ =>
  decidable_of_iff (_ ∧ _) ⟨fun parts => ⟨parts.1, parts.2⟩, fun isName => ⟨isName.plain, isName.leads⟩⟩

/-- The name of a component, if it is an entry of a directory. -/
def nameOf? : PathComponent → Option String
  | .normal name => some name
  | _ => none

/-- The name that a piece stands for. -/
def pieceName? (piece : List Char) : Option String := (componentOf piece).bind nameOf?

/-- A piece stands for a name if it spells it. -/
theorem pieceName?_eq_some
    {piece : List Char}
    {name : String}
    (stands : pieceName? piece = some name) :
    name.toList = piece ∧ componentOf piece = some (.normal name) := by
  unfold pieceName? componentOf at *
  split at stands
  · cases stands
  · next busy =>
      split at stands
      · cases stands
      · next noParent =>
          cases stands
          simp [busy, noParent]

/-- Names stand for components that are names. -/
theorem filterMap_componentOf_names
    {names : List String}
    (areNames : ∀ name ∈ names, IsEntryName name) :
    (names.map String.toList).filterMap componentOf = names.map .normal := by
  induction names with
  | nil => rfl
  | cons name rest inductionHypothesis =>
      obtain ⟨first, others⟩ := List.forall_mem_cons.mp areNames
      rw [List.map_cons, List.filterMap_cons, first.leads, inductionHypothesis others]
      rfl

/-! ### Components -/

/-- What a path starts with. -/
def lead : (pieces : List (List Char)) → List PathComponent
  | [] :: _ :: _ => [.root]
  | ['.'] :: _ => [.current]
  | _ => []

theorem components_eq
    (path : String) :
    components path =
      lead (splitSlashes path.toList) ++ (splitSlashes path.toList).filterMap componentOf :=
  rfl

/-- What a path starts with depends on its first piece, and on whether there is another one. -/
theorem lead_cons
    (first : List Char)
    (more : List (List Char)) :
    lead (first :: more) =
      if first = [] then if more = [] then [] else [.root]
      else if first = ['.'] then [.current] else [] := by
  by_cases empty : first = []
  · subst empty
    cases more <;> rfl
  · unfold lead
    split <;> simp_all

theorem filterMap_nameOf_lead
    (pieces : List (List Char)) :
    (lead pieces).filterMap nameOf? = [] := by
  unfold lead
  split <;> rfl

/-- The names on a path are those among its components. -/
theorem names_eq_filterMap
    (path : String) :
    names path = (components path).filterMap nameOf? :=
  rfl

/-- They are those of its pieces. -/
theorem names_eq
    (path : String) :
    names path = (splitSlashes path.toList).filterMap pieceName? := by
  rw [names_eq_filterMap, components_eq, List.filterMap_append, filterMap_nameOf_lead,
    List.nil_append, List.filterMap_filterMap]
  rfl

/-- Entries of directories can have the names on a path. -/
theorem isEntryName_of_mem_names
    {path name : String}
    (present : name ∈ names path) :
    IsEntryName name := by
  rw [names_eq] at present
  obtain ⟨piece, inPath, stands⟩ := List.mem_filterMap.mp present
  obtain ⟨rfl, leads⟩ := pieceName?_eq_some stands
  exact ⟨slash_not_mem inPath, leads⟩

/-- Pieces that are put behind others do not change what a path starts with. -/
theorem lead_append
    {pieces more others : List (List Char)}
    (begun : pieces ≠ [])
    (goesOn : more ≠ [])
    (othersGoOn : others ≠ []) :
    lead (pieces ++ more) = lead (pieces ++ others) := by
  obtain ⟨first, rest, rfl⟩ := List.exists_cons_of_ne_nil begun
  simp [lead_cons, goesOn, othersGoOn]

/-- Nor do pieces that are put behind those of a whole path. -/
theorem lead_splitSlashes_append
    {text : List Char}
    (nonempty : text ≠ [])
    (more : List (List Char)) :
    lead (splitSlashes text ++ more) = lead (splitSlashes text) := by
  obtain ⟨first, rest, parts⟩ := List.exists_cons_of_ne_nil (splitSlashes_ne_nil text)
  rw [parts, List.cons_append, lead_cons, lead_cons]
  by_cases empty : first = []
  · -- A path that begins with an empty piece goes on behind a slash.
    have goesOn : rest ≠ [] := by
      rintro rfl
      have joined : List.intercalate ['/'] (text.splitOn '/') = text :=
        List.intercalate_splitOn '/'
      rw [← splitSlashes_eq_splitOn, parts, empty] at joined
      exact nonempty joined.symm
    simp [empty, goesOn]
  · simp [empty]

/-! ### Joining -/

/-- A path that is joined to a base stays relative to it. -/
theorem join_of_relative
    {base path : String}
    (begun : base ≠ "")
    (relative : isAbsolute path = false) :
    (∃ front, base.toList = front ++ ['/'] ∧ (join base path).toList = front ++ '/' :: path.toList) ∨
      (join base path).toList = base.toList ++ '/' :: path.toList := by
  have nonempty : base.isEmpty = false := by simpa using begun
  unfold join
  rw [relative, nonempty]
  simp only [Bool.or_self, Bool.false_eq_true, if_false]
  split
  · next ends =>
      obtain ⟨front, equal⟩ := List.getLast?_eq_some_iff.mp (beq_iff_eq.mp ends)
      exact .inl ⟨front, equal, by simp [equal]⟩
  · exact .inr (by simp)

/-- A joined path starts where its base does. -/
theorem isAbsolute_join
    {base path : String}
    (begun : base ≠ "")
    (relative : isAbsolute path = false) :
    isAbsolute (join base path) = isAbsolute base := by
  obtain ⟨c, rest, text⟩ := List.exists_cons_of_ne_nil (show base.toList ≠ [] by simpa using begun)
  unfold isAbsolute
  rcases join_of_relative begun relative with ⟨front, ends, joined⟩ | joined
  · rw [joined, ends]
    cases front <;> rfl
  · rw [joined, text]
    rfl

/-- The pieces of a joined path are those of the base, but for an empty one behind its last slash,
and those of the path. -/
theorem exists_splitSlashes_join
    {base path : String}
    (begun : base ≠ "")
    (relative : isAbsolute path = false) :
    ∃ front, splitSlashes (join base path).toList = front ++ splitSlashes path.toList ∧
      (splitSlashes base.toList = front ++ [[]] ∨ splitSlashes base.toList = front) := by
  rcases join_of_relative begun relative with ⟨front, ends, joined⟩ | joined
  · refine ⟨splitSlashes front, ?_, .inl ?_⟩
    · rw [joined, splitSlashes_append]
    · rw [ends, splitSlashes_append]
      rfl
  · exact ⟨splitSlashes base.toList, by rw [joined, splitSlashes_append], .inr rfl⟩

/-- The components of a path that is joined to a base are those of the base and of its pieces. -/
theorem components_join
    {base path : String}
    (begun : base ≠ "")
    (relative : isAbsolute path = false) :
    components (join base path) =
      components base ++ (splitSlashes path.toList).filterMap componentOf := by
  have nonempty : base.toList ≠ [] := by simpa using begun
  rw [components_eq, components_eq]
  rcases join_of_relative begun relative with ⟨front, ends, joined⟩ | joined
  · rw [joined, ends, splitSlashes_append, splitSlashes_append,
      lead_append (splitSlashes_ne_nil front) (splitSlashes_ne_nil _) (splitSlashes_ne_nil []),
      List.filterMap_append, List.filterMap_append, List.append_assoc, List.append_assoc]
    rfl
  · rw [joined, splitSlashes_append, lead_splitSlashes_append nonempty, List.filterMap_append,
      List.append_assoc]

section

variable {names : List String}

/-- Names with slashes between them are the pieces of a relative path. -/
theorem splitSlashes_intercalate
    (areNames : ∀ name ∈ names, IsEntryName name)
    (nonempty : names ≠ []) :
    splitSlashes (String.intercalate "/" names).toList = names.map String.toList := by
  rw [String.toList_intercalate]
  refine splitSlashes_joinSlashes ?_ (by simpa using nonempty)
  intro piece present
  obtain ⟨name, inNames, rfl⟩ := List.mem_map.mp present
  exact (areNames name inNames).plain

/-- Names stand for themselves. -/
theorem filterMap_pieceName?_names
    (areNames : ∀ name ∈ names, IsEntryName name) :
    (names.map String.toList).filterMap pieceName? = names := by
  calc (names.map String.toList).filterMap pieceName?
      = ((names.map String.toList).filterMap componentOf).filterMap nameOf? :=
        List.filterMap_filterMap.symm
    _ = (names.map .normal).filterMap nameOf? := by
        rw [filterMap_componentOf_names areNames]
    _ = names := by
        rw [List.filterMap_map]
        exact List.filterMap_some

/-- Names with slashes between them are the names on the path that they make up. -/
theorem names_intercalate
    (areNames : ∀ name ∈ names, IsEntryName name) :
    Path.names (String.intercalate "/" names) = names := by
  cases names with
  | nil => rfl
  | cons first rest =>
      rw [names_eq, splitSlashes_intercalate areNames (List.cons_ne_nil first rest),
        filterMap_pieceName?_names areNames]

/-- A path that does not begin with an empty piece is relative. -/
theorem isAbsolute_eq_false
    {path : String}
    {first : List Char}
    {rest : List (List Char)}
    (parts : splitSlashes path.toList = first :: rest)
    (nonempty : first ≠ []) :
    isAbsolute path = false := by
  unfold isAbsolute
  cases text : path.toList with
  | nil => rfl
  | cons c more =>
      have noSlash : c ≠ '/' := by
        rintro rfl
        rw [text, splitSlashes, if_pos rfl, List.cons.injEq] at parts
        exact nonempty parts.1.symm
      simpa using noSlash

theorem IsEntryName.toList_ne_nil
    {name : String}
    (isName : IsEntryName name) :
    name.toList ≠ [] := by
  intro empty
  have leads := isName.leads
  rw [empty] at leads
  cases leads

theorem isAbsolute_intercalate
    (areNames : ∀ name ∈ names, IsEntryName name) :
    isAbsolute (String.intercalate "/" names) = false := by
  cases names with
  | nil => rfl
  | cons first rest =>
      exact isAbsolute_eq_false (splitSlashes_intercalate areNames (List.cons_ne_nil first rest))
        (areNames first List.mem_cons_self).toList_ne_nil

/-- The components of names with slashes between them are the names, behind those of a base. -/
theorem components_join_intercalate
    (base : String)
    (areNames : ∀ name ∈ names, IsEntryName name) :
    components (join base (String.intercalate "/" names)) =
      components base ++ names.map .normal := by
  cases names with
  | nil =>
      by_cases begun : base = ""
      · subst begun
        rfl
      · exact components_join begun rfl
  | cons first rest =>
      have pieces := splitSlashes_intercalate areNames (List.cons_ne_nil first rest)
      have components := filterMap_componentOf_names areNames
      by_cases begun : base = ""
      · have nothing : join base (String.intercalate "/" (first :: rest)) =
            String.intercalate "/" (first :: rest) := by
          simp [begun, join]
        have noLead : lead ((first :: rest).map String.toList) = [] := by
          have isName := areNames first List.mem_cons_self
          have leads := isName.leads
          rw [List.map_cons, lead_cons, if_neg isName.toList_ne_nil, if_neg]
          intro current
          rw [current] at leads
          cases leads
        rw [nothing, components_eq, pieces, noLead, components, begun]
        rfl
      · rw [components_join begun (isAbsolute_intercalate areNames), pieces, components]

/-- Names that are joined to a base one by one are its last components. -/
theorem components_foldl_join
    (base : String)
    (areNames : ∀ name ∈ names, IsEntryName name) :
    components (names.foldl join base) = components base ++ names.map .normal := by
  induction names generalizing base with
  | nil => simp
  | cons first rest inductionHypothesis =>
      obtain ⟨isName, others⟩ := List.forall_mem_cons.mp areNames
      have single : ∀ name ∈ [first], IsEntryName name := by simpa using isName
      have joined := components_join_intercalate base single
      rw [String.intercalate_singleton] at joined
      rw [List.foldl_cons, inductionHypothesis _ others, joined, List.map_cons, List.append_assoc]
      rfl

/-- The last piece of names that are joined to a base is the last name. -/
theorem componentOf_getLast?_join
    {base : String}
    (areNames : ∀ name ∈ names, IsEntryName name)
    (nonempty : names ≠ []) :
    componentOf ((splitSlashes (join base (String.intercalate "/" names)).toList).getLast?.getD []) =
      some (.normal (names.getLast nonempty)) := by
  have pieces := splitSlashes_intercalate areNames nonempty
  have last (front : List (List Char)) : (front ++ names.map String.toList).getLast? =
      some (names.getLast nonempty).toList := by
    rw [List.getLast?_append, List.getLast?_map, List.getLast?_eq_some_getLast nonempty]
    rfl
  have ends : (splitSlashes (join base (String.intercalate "/" names)).toList).getLast? =
      some (names.getLast nonempty).toList := by
    by_cases begun : base = ""
    · have nothing : join base (String.intercalate "/" names) = String.intercalate "/" names := by
        simp [begun, join]
      rw [nothing, pieces]
      exact last []
    · obtain ⟨front, joined, -⟩ :=
        exists_splitSlashes_join begun (isAbsolute_intercalate areNames)
      rw [joined, pieces, last]
  rw [ends]
  exact (areNames _ (List.getLast_mem nonempty)).leads

/-! ### What follows a base -/

/-- Joining names that entries can have to a base one after the other joins them with slashes. -/
theorem join_join
    {base name rest : String}
    (begun : base ≠ "")
    (isName : IsEntryName name)
    (relative : isAbsolute rest = false) :
    join (join base name) rest = join base (name ++ "/" ++ rest) := by
  have single : ∀ entry ∈ [name], IsEntryName entry := by simpa using isName
  have nameRelative : isAbsolute name = false := by
    simpa using isAbsolute_intercalate single
  obtain ⟨c, more, text⟩ := List.exists_cons_of_ne_nil isName.toList_ne_nil
  have longRelative : isAbsolute (name ++ "/" ++ rest) = false := by
    unfold isAbsolute at nameRelative ⊢
    rw [text] at nameRelative
    simpa [text] using nameRelative
  -- What is joined first ends with the name, and that ends with no slash.
  have ends (front : String) : ((front ++ name).toList.getLast? == some '/') = false := by
    rw [beq_eq_false_iff_ne, String.toList_append, List.getLast?_append]
    intro slash
    rw [List.getLast?_eq_some_getLast isName.toList_ne_nil, Option.some_or, Option.some.injEq]
      at slash
    exact isName.plain (slash ▸ List.getLast_mem _)
  have nonempty : base.isEmpty = false := by simpa using begun
  have joinedNonempty (front : String) : (front ++ name).isEmpty = false := by
    rw [String.isEmpty_eq_false_iff, ne_eq, ← String.toList_inj, String.toList_append, text]
    simp
  unfold join
  rw [relative, nameRelative, longRelative, nonempty]
  simp only [Bool.or_self, Bool.false_eq_true, if_false, Bool.false_or]
  split
  · rw [joinedNonempty, ends]
    simp only [Bool.false_eq_true, if_false, String.append_assoc]
  · rw [joinedNonempty, ends]
    simp only [Bool.false_eq_true, if_false, String.append_assoc]

theorem foldl_join_eq
    {base : String}
    (begun : base ≠ "")
    (areNames : ∀ name ∈ names, IsEntryName name)
    (nonempty : names ≠ []) :
    names.foldl join base = join base (String.intercalate "/" names) := by
  induction names generalizing base with
  | nil => exact absurd rfl nonempty
  | cons first rest inductionHypothesis =>
      obtain ⟨isName, others⟩ := List.forall_mem_cons.mp areNames
      cases rest with
      | nil => simp
      | cons next more =>
          have joined : join base first ≠ "" := by
            intro empty
            have single : ∀ name ∈ [first], IsEntryName name := by simpa using isName
            have parts := components_join_intercalate base single
            rw [String.intercalate_singleton, empty] at parts
            have lengths := congrArg List.length parts
            simp [show components "" = [] from rfl] at lengths
          rw [List.foldl_cons, inductionHypothesis joined others (List.cons_ne_nil next more),
            join_join begun isName (isAbsolute_intercalate others), String.intercalate_cons_cons]

/-- Behind as many pieces as lead somewhere, what follows them is left, from where it leads on. -/
theorem dropBusy_append
    (front back : List (List Char)) :
    dropBusy (front.filter fun piece => !isIdle piece).length (front ++ back) =
      dropBusy 0 back := by
  induction front with
  | nil => rfl
  | cons piece rest inductionHypothesis =>
      cases idle : isIdle piece with
      | true =>
          rw [List.filter_cons_of_neg (by simp [idle]), List.cons_append]
          cases count : (rest.filter fun piece => !isIdle piece).length with
          | zero =>
              rw [count] at inductionHypothesis
              rw [dropBusy, if_pos idle, inductionHypothesis]
          | succ count' =>
              rw [count] at inductionHypothesis
              rw [dropBusy, if_pos idle, inductionHypothesis]
      | false =>
          rw [List.filter_cons_of_pos (by simp [idle]), List.cons_append,
            List.length_cons, dropBusy, if_neg (by simp [idle]), inductionHypothesis]

theorem IsEntryName.isIdle_eq
    {name : String}
    (isName : IsEntryName name) :
    isIdle name.toList = false := by
  have leads := isName.leads
  unfold componentOf at leads
  split at leads
  · cases leads
  · next busy => simpa using busy

/-- What follows a base in a path that names lead on to from there are the names. -/
theorem behind?_foldl_join
    {base : String}
    (begun : base ≠ "")
    (areNames : ∀ name ∈ names, IsEntryName name)
    (nonempty : names ≠ []) :
    behind? base (names.foldl join base) = some (String.intercalate "/" names) := by
  have relative := isAbsolute_intercalate areNames
  have pieces := splitSlashes_intercalate areNames nonempty
  have first : dropBusy 0 (names.map String.toList) = names.map String.toList := by
    cases names with
    | nil => rfl
    | cons name rest =>
        rw [List.map_cons, dropBusy, if_neg]
        simp [(areNames name List.mem_cons_self).isIdle_eq]
  have last : dropIdleEnd (names.map String.toList) = names.map String.toList := by
    obtain ⟨front, name, rfl⟩ := (List.eq_nil_or_concat names).resolve_left nonempty
    rw [List.concat_eq_append] at areNames ⊢
    simp [dropIdleEnd, (areNames name (by simp)).isIdle_eq]
  have rest : dropBusy ((splitSlashes base.toList).filter fun piece => !isIdle piece).length
      (splitSlashes (join base (String.intercalate "/" names)).toList) =
        names.map String.toList := by
    obtain ⟨front, joined, ends | ends⟩ := exists_splitSlashes_join begun relative
    · -- The piece behind the slash at the end of the base leads nowhere.
      rw [joined, ends, pieces, List.filter_append,
        show [[]].filter (fun piece => !isIdle piece) = [] from rfl, List.append_nil,
        dropBusy_append, first]
    · rw [joined, ends, pieces, dropBusy_append, first]
  have isPrefix : (components base).isPrefixOf (components (names.foldl join base)) = true := by
    rw [components_foldl_join base areNames, List.isPrefixOf_iff_prefix]
    exact List.prefix_append _ _
  unfold behind?
  rw [if_neg (by simpa using begun), if_pos isPrefix, foldl_join_eq begun areNames nonempty]
  simp only [rest, last, Option.some.injEq]
  rw [joinSlashes, ← String.toList_inj, String.toList_ofList, String.toList_intercalate]
  rfl

end

end Path
end MessageExpansion
