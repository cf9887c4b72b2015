import MessageExpansion.Proofs.Pattern.Elements
import MessageExpansion.Renderer.CompiledPattern

/-!
# What becomes of a text that is a pattern

A text that is a pattern compiles to nothing, to a constant or to a function, and its elements tell
which: since no texts touch, a pattern of texts only is a single text, all that the spelling says.
The generator has an answer for a `#` outside of every plural, but no text is read as a pattern with
one.
-/

namespace MessageExpansion

/-! ### Number signs inside plurals -/

namespace Renderer

mutual

/-- The expression for an element, and the index of the next fresh variable.  There is none if a `#`
in it stands outside of every plural. -/
def compileElement? (enclosing : Option Enclosing) (next : Nat) :
    Element → Option (Expression × Nat)
  | .text value => some (compileElement enclosing next (.text value))
  | .argument name => some (compileElement enclosing next (.argument name))
  | .number name style => some (compileElement enclosing next (.number name style))
  | .date name style => some (compileElement enclosing next (.date name style))
  | .time name style => some (compileElement enclosing next (.time name style))
  | .pluralValue => enclosing.map fun around => (pluralValue (some around), next)
  | .plural name ordinal offset options =>
      let inner : Enclosing := ⟨⟨.number, next⟩, offset⟩
      (compilePluralOptions? (some inner) (next + 1) options).map fun (results, next) =>
        (.apply inner.subject (pluralBody inner ordinal results) (.asNumber (.argument name)), next)
  | .select name options =>
      let subject : Variable := ⟨.text, next⟩
      (compileSelectOptions? enclosing (next + 1) options).map fun (results, next) =>
        (.apply subject (selectBody subject results) (.argument name), next)

/-- The expression for `front` followed by more elements. -/
def compileAfter? (enclosing : Option Enclosing) (next : Nat) (front : Expression) :
    List Element → Option (Expression × Nat)
  | [] => some (front, next)
  | element :: rest =>
      (compileElement? enclosing next element).bind fun (back, next) =>
        compileAfter? enclosing next (.concatenation front back) rest

/-- The expression for a pattern. -/
def compilePattern? (enclosing : Option Enclosing) (next : Nat) :
    List Element → Option (Expression × Nat)
  | [] => some (.text "", next)
  | element :: rest =>
      (compileElement? enclosing next element).bind fun (front, next) =>
        compileAfter? enclosing next front rest

/-- The expressions for the options of a plural, each with its selector. -/
def compilePluralOptions? (enclosing : Option Enclosing) (next : Nat) :
    List PluralOption → Option (List (PluralSelector × Expression) × Nat)
  | [] => some ([], next)
  | .mk selector value :: rest =>
      (compilePattern? enclosing next value).bind fun (result, next) =>
        (compilePluralOptions? enclosing next rest).map fun (results, next) =>
          ((selector, result) :: results, next)

/-- The expressions for the options of a select, each with its key. -/
def compileSelectOptions? (enclosing : Option Enclosing) (next : Nat) :
    List SelectOption → Option (List (String × Expression) × Nat)
  | [] => some ([], next)
  | .mk key value :: rest =>
      (compilePattern? enclosing next value).bind fun (result, next) =>
        (compileSelectOptions? enclosing next rest).map fun (results, next) =>
          ((key, result) :: results, next)

end

mutual

/-- In a well-formed element, every `#` stands inside a plural or in a pattern that does. -/
theorem compileElement?_of_wellFormed
    (enclosing : Option Enclosing)
    (next : Nat) :
    (element : Element) → element.WellFormed enclosing.isSome →
      compileElement? enclosing next element = some (compileElement enclosing next element)
  | .text _, _ | .argument _, _ | .number _ _, _ | .date _ _, _ | .time _ _, _ => by
      rw [compileElement?]
  | .pluralValue, inside => by
      obtain ⟨around, rfl⟩ := Option.isSome_iff_exists.mp inside
      rw [compileElement?, compileElement]
      rfl
  | .plural name ordinal offset options, wellFormed => by
      rw [compileElement?, compileElement,
        compilePluralOptions?_of_wellFormed ⟨⟨.number, next⟩, offset⟩ (next + 1) options
          wellFormed.2.2]
      rfl
  | .select name options, wellFormed => by
      rw [compileElement?, compileElement,
        compileSelectOptions?_of_wellFormed enclosing (next + 1) options wellFormed.2.2]
      rfl

theorem compileAfter?_of_wellFormed
    (enclosing : Option Enclosing)
    (next : Nat)
    (front : Expression) :
    (pattern : List Element) → Pattern.WellFormed enclosing.isSome pattern →
      compileAfter? enclosing next front pattern =
        some (compileAfter enclosing next front pattern)
  | [], _ => by rw [compileAfter?, compileAfter]
  | element :: rest, wellFormed => by
      rw [compileAfter?, compileAfter,
        compileElement?_of_wellFormed enclosing next element wellFormed.1, Option.bind_some]
      exact compileAfter?_of_wellFormed enclosing _ _ rest wellFormed.2.2

theorem compilePattern?_of_wellFormed
    (enclosing : Option Enclosing)
    (next : Nat) :
    (pattern : List Element) → Pattern.WellFormed enclosing.isSome pattern →
      compilePattern? enclosing next pattern = some (compilePattern enclosing next pattern)
  | [], _ => by rw [compilePattern?, compilePattern]
  | element :: rest, wellFormed => by
      rw [compilePattern?, compilePattern,
        compileElement?_of_wellFormed enclosing next element wellFormed.1, Option.bind_some]
      exact compileAfter?_of_wellFormed enclosing _ _ rest wellFormed.2.2

theorem compilePluralOptions?_of_wellFormed
    (inner : Enclosing)
    (next : Nat) :
    (options : List PluralOption) → PluralOption.AllWellFormed options →
      compilePluralOptions? (some inner) next options =
        some (compilePluralOptions (some inner) next options)
  | [], _ => by rw [compilePluralOptions?, compilePluralOptions]
  | .mk selector value :: rest, wellFormed => by
      rw [compilePluralOptions?, compilePluralOptions,
        compilePattern?_of_wellFormed (some inner) next value wellFormed.2.1, Option.bind_some]
      dsimp only
      rw [compilePluralOptions?_of_wellFormed inner _ rest wellFormed.2.2]
      rfl

theorem compileSelectOptions?_of_wellFormed
    (enclosing : Option Enclosing)
    (next : Nat) :
    (options : List SelectOption) → SelectOption.AllWellFormed enclosing.isSome options →
      compileSelectOptions? enclosing next options =
        some (compileSelectOptions enclosing next options)
  | [], _ => by rw [compileSelectOptions?, compileSelectOptions]
  | .mk key value :: rest, wellFormed => by
      rw [compileSelectOptions?, compileSelectOptions,
        compilePattern?_of_wellFormed enclosing next value wellFormed.2.1, Option.bind_some]
      dsimp only
      rw [compileSelectOptions?_of_wellFormed enclosing _ rest wellFormed.2.2]
      rfl

end

end Renderer

/-! ### Constant patterns -/

namespace Pattern

/-- Without touching texts, a pattern of texts only is a single text or has no elements. -/
theorem eq_text_of_wellFormed
    {inPlural : Bool}
    {pattern : Pattern}
    (wellFormed : WellFormed inPlural pattern)
    (texts : ∀ element ∈ pattern, element.isText = true) :
    pattern = [] ∨ ∃ value, pattern = [.text value] := by
  match pattern with
  | [] => exact Or.inl rfl
  | [element] =>
      cases element with
      | text value => exact Or.inr ⟨value, rfl⟩
      | _ => cases (show false = true from texts _ List.mem_cons_self)
  | first :: second :: rest =>
      have apart := wellFormed.2.1 (texts first (by simp))
      have isText := texts second (by simp)
      rw [startsWithText, List.head?_cons, Option.any_some, isText] at apart
      cases apart

/-- All that the spelling of a single text says is this text. -/
theorem textRun_of_parse
    {text value : String}
    (parsed : parse text = .ok [.text value]) :
    textRun false false text.toList = (value.toList, []) := by
  obtain ⟨run, single, ran⟩ := exists_textRun_of_parse parsed (by simp [Element.isText])
  unfold textElements at single
  split at single
  · cases single
  · cases single
    rwa [String.toList_ofList]

end Pattern

/-! ### Outcomes -/

/-- What a pattern compiles to, by its elements. -/
structure CompiledPattern.Reflects (host locale name text : String) (pattern : Pattern) : Prop where
  /-- Nothing comes of the empty text only. -/
  empty : ofText host locale name text = .ok .empty ↔ text = ""
  /-- A constant comes of a text without dynamic elements: all that its spelling says. -/
  constant : ∀ value, ofText host locale name text = .ok (.constant value) ↔
    text ≠ "" ∧ (∀ element ∈ pattern, element.isText = true) ∧
      Pattern.textRun false false text.toList = (value.toList, [])
  /-- A function comes of a text with dynamic elements. -/
  function : ofText host locale name text =
      .ok (.function ⟨host, locale, name, Renderer.compile pattern⟩) ↔
    ∃ element ∈ pattern, element.isText = false

namespace CompiledPattern

variable {text : String} {pattern : Pattern}

theorem ofText_of_parse
    (parsed : Pattern.parse text = .ok pattern)
    (host locale name : String) :
    ofText host locale name text = .ok (ofPattern host locale name pattern) := by
  rw [ofText, parsed]

/-- A pattern with a dynamic element compiles to a function. -/
theorem ofPattern_of_dynamic
    {element : Element}
    (present : element ∈ pattern)
    (dynamic : element.isText = false)
    (host locale name : String) :
    ofPattern host locale name pattern =
      .function ⟨host, locale, name, Renderer.compile pattern⟩ := by
  unfold ofPattern
  split
  · cases present
  · rw [List.mem_singleton.mp present] at dynamic
    cases dynamic
  · rfl

theorem reflects_of_parse
    (parsed : Pattern.parse text = .ok pattern)
    (host locale name : String) :
    Reflects host locale name text pattern := by
  have outcome := ofText_of_parse parsed host locale name
  by_cases texts : ∀ element ∈ pattern, element.isText = true
  · rcases Pattern.eq_text_of_wellFormed (Pattern.WellFormed.of_parse parsed) texts with
      rfl | ⟨shown, rfl⟩
    · -- Nothing was spelled.
      have blank := Pattern.eq_empty_of_parse parsed
      subst blank
      constructor <;> simp [outcome, ofPattern]
    · -- One text was spelled.
      have ran := Pattern.textRun_of_parse parsed
      have nonempty : text ≠ "" := by
        rintro rfl
        rw [Pattern.parse_empty] at parsed
        cases parsed
      constructor
      · simp [outcome, ofPattern, nonempty]
      · intro value
        simp [outcome, ofPattern, nonempty, texts, ran, String.toList_inj]
      · simp [outcome, ofPattern, Element.isText]
  · obtain ⟨element, present, dynamic⟩ : ∃ element ∈ pattern, element.isText = false := by
      simpa using texts
    have nonempty : text ≠ "" := by
      rintro rfl
      rw [Pattern.parse_empty] at parsed
      cases parsed
      cases present
    rw [ofPattern_of_dynamic present dynamic] at outcome
    constructor
    · simp [outcome, nonempty]
    · intro value
      rw [outcome]
      exact iff_of_false (fun same => by cases same) fun constant => texts constant.2.1
    · exact iff_of_true outcome ⟨element, present, dynamic⟩

end CompiledPattern

/--
A text that is a pattern is a well-formed one, its elements tell whether nothing, a constant or a
function comes of it, and the generator finds every `#` of it inside a plural.
-/
theorem outcome_of_parse
    {text : String}
    {pattern : Pattern}
    (parsed : Pattern.parse text = .ok pattern) :
    Pattern.WellFormed false pattern ∧
      (∀ host locale name, CompiledPattern.Reflects host locale name text pattern) ∧
      Renderer.compilePattern? none 0 pattern = some (Renderer.compilePattern none 0 pattern) := by
  have wellFormed := Pattern.WellFormed.of_parse parsed
  exact ⟨wellFormed, CompiledPattern.reflects_of_parse parsed,
    Renderer.compilePattern?_of_wellFormed none 0 pattern wellFormed⟩

/-- A number sign is quoted in one place and stands for a number in another one, inside a select in
a plural. -/
theorem outcome_of_parse_nested :
    let text := "#\x7bn, plural, other \x7b'#'\x7bg, select, other \x7b#\x7d\x7d\x7d\x7d"
    ∃ pattern,
      Pattern.parse text = .ok pattern ∧
      pattern.length = 2 ∧
      Pattern.WellFormed false pattern ∧
      (∀ host locale name, CompiledPattern.Reflects host locale name text pattern) ∧
      Renderer.compilePattern? none 0 pattern =
        some (Renderer.compilePattern none 0 pattern) := by
  intro text
  have known : (Pattern.parse text).toOption.map List.length = some 2 := by
    decide +kernel
  cases parsed : Pattern.parse text with
  | error problem =>
      rw [parsed] at known
      cases known
  | ok pattern =>
      rw [parsed] at known
      exact ⟨pattern, rfl, Option.some.inj known, outcome_of_parse parsed⟩

end MessageExpansion
