import MessageExpansion.Proofs.Edit.ExactMap
import MessageExpansion.Proofs.Expansion.Appending
import MessageExpansion.Proofs.Script.Spelling

/-!
# Names of hoisted functions

The names of hoisted functions are made from the function whose calls they stand for and from
numbers that are counted up.  A script is not searched for them, so a script that spells such a name
on its own may clash with a function behind it.  No other script does, and passes over one file
clash with each other only if they use the same numbers for the same function.
-/

namespace MessageExpansion

open Script (IsName IsNameText HasWord OpensName EndsName)

/-! ### Names and what they tell -/

/-- The function in the names of hoisted functions: characters that they do not keep are
replaced. -/
def namedHost (host : String) : List Char :=
  host.toList.map fun c => if Text.isNameChar c then c else '_'

/-- Nothing is in front of a separator that does not come again. -/
theorem eq_nil_of_separated
    {separator : Char}
    {back more rest : List Char}
    (absent : separator ∉ back)
    (equal : separator :: back = more ++ separator :: rest) :
    more = [] := by
  cases more with
  | nil => rfl
  | cons c others =>
      rw [List.cons_append, List.cons.injEq] at equal
      exact absurd (equal.2 ▸ List.mem_append_right _ List.mem_cons_self) absent

/-- The names tell functions and numbers apart. -/
theorem generatedName_eq_iff
    {host other : String}
    {index otherIndex : Nat} :
    generatedName host index = generatedName other otherIndex ↔
      namedHost host = namedHost other ∧ index = otherIndex := by
  constructor
  · intro equal
    have texts : namedHost host ++ '_' :: (toString index).toList =
        namedHost other ++ '_' :: (toString otherIndex).toList := by
      have lists := congrArg String.toList equal
      rw [toList_generatedName, toList_generatedName] at lists
      exact (List.cons.inj (List.cons.inj lists).2).2
    have noUnderscore (value : Nat) : '_' ∉ (toString value).toList := fun present =>
      absurd (Text.isDigit_of_mem_toString present) (by decide)
    -- The last underscore of a name stands in front of its number.
    have sameHost : namedHost host = namedHost other := by
      rcases List.append_eq_append_iff.mp texts with ⟨more, longer, number⟩ | ⟨more, longer, number⟩
      · rw [longer, eq_nil_of_separated (noUnderscore index) number, List.append_nil]
      · rw [longer, eq_nil_of_separated (noUnderscore otherIndex) number, List.append_nil]
    rw [sameHost, List.append_cancel_left_eq, List.cons.injEq] at texts
    exact ⟨sameHost, Text.toString_injective (String.toList_inj.mp texts.2)⟩
  · rintro ⟨sameHost, rfl⟩
    rw [← String.toList_inj, toList_generatedName, toList_generatedName]
    exact congrArg (fun front => '_' :: '_' :: (front ++ '_' :: (toString index).toList)) sameHost

/-! ### Functions behind a script -/

/-- Functions that are hoisted out of a script: they are put behind it, and named for indices that
are counted up from the first one. -/
structure Hoists (inlining : Inlining) (first : Nat) (result : InlinedScript)
    (functions : List (Nat × RenderFunction)) : Prop where
  /-- They are all that is put behind the edited script. -/
  placed : ∃ edited, result.text = withTrailer edited (trailerOf (functions.map (·.2)))
  /-- They are counted. -/
  generated : result.generated = functions.length
  /-- They stand in the order of their indices. -/
  ascending : functions.Pairwise fun earlier later => earlier.1 < later.1
  /-- The indices are those from the first one on and below the next one. -/
  between : ∀ entry ∈ functions, first ≤ entry.1 ∧ entry.1 < result.next
  /-- The functions are named for their indices. -/
  named : ∀ entry ∈ functions, entry.2.name = generatedName inlining.session.function entry.1
  /-- Their names are names. -/
  isName : ∀ entry ∈ functions, IsName entry.2.name.toList

section

variable {inlining : Inlining} {inputMap : Option PositionMap} {first : Nat}
  {result : InlinedScript}

/-- A script with functions calls a variable. -/
theorem Inlining.isNameText_function
    {trees : List Script.CallTree}
    (parsed : Script.parse (.ofPath inlining.file) inlining.script = some trees)
    {state : InliningState}
    (ran : inlining.visitAll (.start first) (Script.CallTree.visitsAll trees) = (state, none))
    (hoisted : state.hoisted.entries ≠ []) :
    IsNameText inlining.session.function.toList := by
  obtain ⟨functions, declared, stands⟩ := Inlining.exists_functions_of_visitAll ran
  rw [HoistedFunctions.declarations_eq] at declared
  have nonempty : functions ≠ [] := by
    rintro rfl
    exact hoisted (List.map_eq_nil_iff.mp declared)
  obtain ⟨function, rest, rfl⟩ := List.exists_cons_of_ne_nil nonempty
  have stands := stands function List.mem_cons_self
  have proper := Inlining.proper_of_standsForCall
    (fun call present => Script.fits_of_parse parsed present) stands
  rw [← stands.host]
  exact proper.host

/-- A script that is inlined has functions hoisted out of it. -/
theorem exists_hoists
    (succeeds : (inlining.run inputMap first).result = .ok result) :
    ∃ functions, Hoists inlining first result functions := by
  obtain ⟨trees, state, parsed, ran, printed⟩ := Inlining.run_ok succeeds
  obtain ⟨⟨expansions, functions, accounted⟩, firstEqual⟩ := Inlining.accounted_visitAll ran
  obtain ⟨-, -, generated, next⟩ := Inlining.finish_ok printed
  obtain ⟨flush, size⟩ := flush_of_entries accounted.entries
  have traversal := Script.Traversal.visitsAll (Script.nestAll_of_parse parsed)
  obtain ⟨edited, -, textEqual⟩ := Inlining.edited_of_finish parsed traversal ran printed
  refine ⟨functions, ⟨edited, flush ▸ textEqual⟩, generated.trans size, accounted.ascending,
    fun entry present => ?_, accounted.named, fun entry present => ?_⟩
  · rw [next, ← firstEqual]
    exact accounted.between entry present
  · have hoisted : state.hoisted.entries ≠ [] := by
      rw [accounted.entries]
      exact List.ne_nil_of_mem (List.mem_map_of_mem present)
    rw [accounted.named entry present]
    exact isName_generatedName (Inlining.isNameText_function parsed ran hoisted) entry.1

/-- A function declares its name, whatever it is, where a word begins and ends. -/
theorem RenderFunction.exists_print
    (function : RenderFunction) :
    ∃ front back, ∀ name,
      ({ function with name := name } : RenderFunction).print.toList =
        front ++ ' ' :: (name.toList ++ '(' :: back) := by
  refine ⟨("// " ++ function.host ++ "() message compiled for " ++
      Text.stringLiteral function.locale ++ "\nfunction").toList,
    ("args) \x7b\n  args = args || \x7b\x7d;\n  return " ++
      function.result.print (Text.stringLiteral function.locale) ++ ";\n\x7d\n").toList,
    fun name => ?_⟩
  simp [RenderFunction.print]

namespace Hoists

variable {functions others : List (Nat × RenderFunction)} {earlier : Inlining} {start : Nat}
  {earlierResult : InlinedScript}

/-- The names of the functions are words of the inlined script. -/
theorem hasWord_text
    (hoists : Hoists inlining first result functions)
    {entry : Nat × RenderFunction}
    (present : entry ∈ functions) :
    HasWord result.text entry.2.name := by
  obtain ⟨edited, textEqual⟩ := hoists.placed
  obtain ⟨front, back, split⟩ := List.append_of_mem (List.mem_map_of_mem (f := (·.2)) present)
  obtain ⟨before, behind, spelled⟩ := entry.2.exists_print
  have printed : entry.2.print.toList = before ++ ' ' :: (entry.2.name.toList ++ '(' :: behind) :=
    spelled entry.2.name
  rw [trailerOf_eq_printAll (by simp [split]), split] at textEqual
  obtain ⟨more, whole, -⟩ := Printed.exists_line_before_trailer edited
    (RenderFunction.printAll (front ++ entry.2 :: back))
  have equal : result.text =
      (edited ++ more ++ RenderFunction.printAll front ++ before ++ [' ']) ++
        (entry.2.name.toList ++ '(' :: (behind ++ RenderFunction.printAll back)) := by
    rw [textEqual, whole]
    simp [RenderFunction.printAll, printed]
  rw [equal]
  exact Script.hasWord_append (Script.opensName_concat (by decide)) (hoists.isName entry present)
    (Script.endsName_cons (by decide))

/-- A declared name is a word of the script exactly if the script spells the name of an index that
is in use. -/
theorem exists_hasWord_iff
    (hoists : Hoists inlining first result functions) :
    (∃ entry ∈ functions, HasWord inlining.script entry.2.name) ↔
      ∃ index ∈ functions.map (·.1),
        HasWord inlining.script (generatedName inlining.session.function index) := by
  constructor
  · rintro ⟨entry, present, word⟩
    exact ⟨entry.1, List.mem_map_of_mem present, hoists.named entry present ▸ word⟩
  · rintro ⟨index, live, word⟩
    obtain ⟨entry, present, rfl⟩ := List.mem_map.mp live
    exact ⟨entry, present, hoists.named entry present ▸ word⟩

/-- Two passes declare a name in common exactly if they use an index in common, for the same
function but for characters that names do not keep. -/
theorem exists_common_iff
    (hoists : Hoists inlining first result functions)
    (earlierHoists : Hoists earlier start earlierResult others) :
    (∃ name ∈ functions.map (·.2.name), name ∈ others.map (·.2.name)) ↔
      namedHost inlining.session.function = namedHost earlier.session.function ∧
        ∃ index ∈ functions.map (·.1), index ∈ others.map (·.1) := by
  constructor
  · rintro ⟨name, declared, declaredEarlier⟩
    obtain ⟨entry, present, rfl⟩ := List.mem_map.mp declared
    obtain ⟨other, otherPresent, equal⟩ := List.mem_map.mp declaredEarlier
    rw [hoists.named entry present, earlierHoists.named other otherPresent,
      generatedName_eq_iff] at equal
    exact ⟨equal.1.symm, entry.1, List.mem_map_of_mem present,
      List.mem_map.mpr ⟨other, otherPresent, equal.2⟩⟩
  · rintro ⟨sameHost, index, live, liveEarlier⟩
    obtain ⟨entry, present, rfl⟩ := List.mem_map.mp live
    obtain ⟨other, otherPresent, equal⟩ := List.mem_map.mp liveEarlier
    refine ⟨entry.2.name, List.mem_map_of_mem present, List.mem_map.mpr ⟨other, otherPresent, ?_⟩⟩
    rw [hoists.named entry present, earlierHoists.named other otherPresent, generatedName_eq_iff]
    exact ⟨sameHost.symm, equal⟩

/-- A pass that goes on with the numbers of an earlier one declares no name again. -/
theorem no_common_of_le
    (hoists : Hoists inlining first result functions)
    (earlierHoists : Hoists earlier start earlierResult others)
    (goesOn : earlierResult.next ≤ first) :
    ∀ name ∈ functions.map (·.2.name), name ∉ others.map (·.2.name) := by
  intro name declared declaredEarlier
  obtain ⟨-, index, live, liveEarlier⟩ :=
    (hoists.exists_common_iff earlierHoists).mp ⟨name, declared, declaredEarlier⟩
  obtain ⟨entry, present, rfl⟩ := List.mem_map.mp live
  obtain ⟨other, otherPresent, equal⟩ := List.mem_map.mp liveEarlier
  have lower := (hoists.between entry present).1
  have upper := (earlierHoists.between other otherPresent).2
  omega

/-- A pass over what an earlier one left clashes with it if they declare a name in common. -/
theorem exists_hasWord_of_common
    (earlierHoists : Hoists earlier start earlierResult others)
    (again : inlining.script = earlierResult.text)
    (common : ∃ name ∈ functions.map (·.2.name), name ∈ others.map (·.2.name)) :
    ∃ entry ∈ functions, HasWord inlining.script entry.2.name := by
  obtain ⟨name, declared, declaredEarlier⟩ := common
  obtain ⟨entry, present, rfl⟩ := List.mem_map.mp declared
  obtain ⟨other, otherPresent, equal⟩ := List.mem_map.mp declaredEarlier
  refine ⟨entry, present, ?_⟩
  rw [again, ← equal]
  exact earlierHoists.hasWord_text otherPresent

end Hoists

/-- What two passes have to do with each other, the second one of which hoists functions and the
first one of which hoisted others. -/
structure FollowsPass (inlining : Inlining) (first : Nat) (functions : List (Nat × RenderFunction))
    (earlier : Inlining) (earlierResult : InlinedScript) (others : List (Nat × RenderFunction)) :
    Prop where
  /-- They declare a name in common exactly if they use an index in common, for the same
  function. -/
  common : (∃ name ∈ functions.map (·.2.name), name ∈ others.map (·.2.name)) ↔
    namedHost inlining.session.function = namedHost earlier.session.function ∧
      ∃ index ∈ functions.map (·.1), index ∈ others.map (·.1)
  /-- They do not if the numbers go on. -/
  goesOn : earlierResult.next ≤ first →
    ∀ name ∈ functions.map (·.2.name), name ∉ others.map (·.2.name)
  /-- If they do, the second pass clashes with what the first one left. -/
  again : inlining.script = earlierResult.text →
    (∃ name ∈ functions.map (·.2.name), name ∈ others.map (·.2.name)) →
      ∃ entry ∈ functions, HasWord inlining.script entry.2.name

/-- What the names of hoisted functions have to do with the words of the script. -/
structure NamesTell (inlining : Inlining) (first : Nat) (result : InlinedScript)
    (functions : List (Nat × RenderFunction)) : Prop where
  /-- The functions are hoisted out of the script. -/
  hoists : Hoists inlining first result functions
  /-- Their names are words of the inlined script. -/
  declared : ∀ entry ∈ functions, HasWord result.text entry.2.name
  /-- One of them is a word of the script exactly if the script spells the name of an index in
  use. -/
  clashes : (∃ entry ∈ functions, HasWord inlining.script entry.2.name) ↔
    ∃ index ∈ functions.map (·.1),
      HasWord inlining.script (generatedName inlining.session.function index)
  /-- None of them is if the script spells no name of an index that may be in use. -/
  fresh : (∀ index, first ≤ index → index < result.next →
      ¬ HasWord inlining.script (generatedName inlining.session.function index)) →
    ∀ entry ∈ functions, ¬ HasWord inlining.script entry.2.name
  /-- Any pass may have come before. -/
  follows : ∀ earlier start earlierResult others, Hoists earlier start earlierResult others →
    FollowsPass inlining first functions earlier earlierResult others

/-- The names that the functions of a script declare are words of the script only where it spells
names with the numbers in use; without such words there is no clash.  In particular a pass clashes
with an earlier one over the same file if they use a number in common for the same function. -/
theorem exists_hoists_named
    (succeeds : (inlining.run inputMap first).result = .ok result) :
    ∃ functions, NamesTell inlining first result functions := by
  obtain ⟨functions, hoists⟩ := exists_hoists succeeds
  refine ⟨functions, hoists, fun entry present => hoists.hasWord_text present,
    hoists.exists_hasWord_iff, fun plain entry present word => ?_,
    fun earlier start earlierResult others earlierHoists =>
      ⟨hoists.exists_common_iff earlierHoists, hoists.no_common_of_le earlierHoists,
        earlierHoists.exists_hasWord_of_common⟩⟩
  obtain ⟨lower, upper⟩ := hoists.between entry present
  exact plain entry.1 lower upper (hoists.named entry present ▸ word)

/-- The script spells the name of a later number, which is not in use. -/
theorem exists_hoists_named_beyond :
    let inlining := Inlining.unlocalized "let __t_2;t('\x7bx\x7d',\x7b\x7d)"
    ∃ result, (inlining.run none 1).result = .ok result ∧ result.next = 2 ∧
      ∃ functions, NamesTell inlining 1 result functions := by
  intro inlining
  have known : (inlining.run none 1).result.toOption.map (·.next) = some 2 := by decide +kernel
  obtain ⟨result, succeeds, next⟩ := Inlining.exists_ok known
  exact ⟨result, succeeds, next, exists_hoists_named succeeds⟩

/-- A script that declares a name with the first number gets a function of the same name. -/
theorem declares_again :
    let inlining := Inlining.unlocalized "let __t_1;t('\x7bx\x7d',\x7b\x7d)"
    ∃ result functions, (inlining.run none 1).result = .ok result ∧
      Hoists inlining 1 result functions ∧
      ∃ entry ∈ functions, entry.2.name = "__t_1" ∧ HasWord inlining.script entry.2.name := by
  intro inlining
  have known : (inlining.run none 1).result.toOption.map (fun result =>
      (result.generated, result.next)) = some (1, 2) := by
    decide +kernel
  obtain ⟨result, succeeds, counted⟩ := Inlining.exists_ok known
  obtain ⟨generated, next⟩ := Prod.ext_iff.mp counted
  obtain ⟨functions, hoists⟩ := exists_hoists succeeds
  obtain ⟨entry, rfl⟩ : ∃ entry, functions = [entry] :=
    List.length_eq_one_iff.mp (hoists.generated.symm.trans generated)
  have name : entry.2.name = "__t_1" := by
    have between := hoists.between entry List.mem_cons_self
    have index : entry.1 = 1 := by
      simp only at next
      omega
    rw [hoists.named entry List.mem_cons_self, index]
    decide +kernel
  have opens : OpensName ("let".toList ++ [' ']) := Script.opensName_concat (by decide)
  have word :
      HasWord ("let ".toList ++ ("__t_1".toList ++ ";t('\x7bx\x7d',\x7b\x7d)".toList)) "__t_1" :=
    Script.hasWord_append opens (by decide +kernel) (Script.endsName_cons (by decide))
  refine ⟨result, [entry], succeeds, hoists, entry, List.mem_cons_self, name, ?_⟩
  rw [name]
  exact word

end

end MessageExpansion
