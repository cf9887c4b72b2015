import MessageExpansion.Command.Extract
import MessageExpansion.Proofs.Catalog
import MessageExpansion.Proofs.Expansion.Extraction

/-!
# The patterns of scripts in one catalog

The command that extracts puts the catalogs of the scripts into one, each over those before it.
Under a key that several patterns have, the last of them stays, and the others are lost.  So the
order of the scripts matters as soon as two of them file different patterns under one key.
-/

namespace MessageExpansion

theorem mem_succeeded
    {α : Type}
    {results : List (Except FileFailure α)}
    {value : α} :
    value ∈ succeeded results ↔ .ok value ∈ results := by
  induction results with
  | nil => simp [succeeded]
  | cons result rest inductionHypothesis =>
      cases result with
      | error failure => simp [inductionHypothesis]
      | ok first => simp [inductionHypothesis]

namespace ExtractCommand

variable {session : Session} {sources order : List ScriptSource} {source : ScriptSource}
variable {catalog : Catalog}

/-- The catalog that the command writes for scripts. -/
def gather (session : Session) (sources : List ScriptSource) : Catalog :=
  merge (succeeded (sources.map (extractSource session)))

/-- The patterns of a script that there is something to localize in. -/
def messages (session : Session) (source : ScriptSource) : List String :=
  Extraction.messages ⟨session, source.name, source.text⟩

/-- Each of the scripts is extracted. -/
def Extracts (session : Session) (sources : List ScriptSource) : Prop :=
  ∀ source ∈ sources, ∃ catalog, extractSource session source = .ok catalog

instance : Decidable (Extracts session sources) :=
  decidable_of_iff (∀ source ∈ sources, (extractSource session source).isOk = true) <| by
    refine forall₂_congr fun source _ => ?_
    cases extractSource session source <;> simp [Except.isOk, Except.toBool]

/-- Every pattern of the scripts is in the catalog, under its key. -/
def Complete (session : Session) (sources : List ScriptSource) : Prop :=
  ∀ pattern ∈ sources.flatMap (messages session), ∃ key,
    session.keys.key? pattern = some key ∧
      (gather session sources).pattern? session.locale key = some pattern

/-- The catalog is the same for every order of the scripts. -/
def Orderless (session : Session) (sources : List ScriptSource) : Prop :=
  ∀ order : List ScriptSource, order.Perm sources → gather session order = gather session sources

/-- Wherever both scripts file a pattern under a key, it is the same pattern. -/
def FileAlike (session : Session) (first second : ScriptSource) : Prop :=
  ∀ key pattern other,
    session.keys.lastUnder? (messages session first) key = some pattern →
      session.keys.lastUnder? (messages session second) key = some other → pattern = other

/-! ### One script -/

theorem run_of_extractSource
    (extracts : extractSource session source = .ok catalog) :
    (Extraction.mk session source.name source.text).run = .ok catalog := by
  unfold extractSource at extracts
  split at extracts
  · next run => rw [run, Except.ok.inj extracts]
  · cases extracts

theorem pattern?_extractSource
    (extracts : extractSource session source = .ok catalog)
    (locale key : String) :
    catalog.pattern? locale key =
      if locale = session.locale then session.keys.lastUnder? (messages session source) key
      else none :=
  Extraction.pattern?_of_run (run_of_extractSource extracts) locale key

theorem Extracts.perm
    (extracts : Extracts session sources)
    (perm : order.Perm sources) :
    Extracts session order :=
  fun source present => extracts source (perm.mem_iff.mp present)

theorem failed_of_extracts
    (extracts : Extracts session sources) :
    failed (sources.map (extractSource session)) = [] := by
  refine List.filterMap_eq_nil_iff.mpr fun result present => ?_
  obtain ⟨source, inSources, rfl⟩ := List.mem_map.mp present
  obtain ⟨catalog, extracted⟩ := extracts source inSources
  rw [extracted]

/-- The catalogs of scripts that file alike agree. -/
theorem agrees_of_fileAlike
    {first second : ScriptSource}
    {firstCatalog secondCatalog : Catalog}
    (alike : FileAlike session first second)
    (firstExtracts : extractSource session first = .ok firstCatalog)
    (secondExtracts : extractSource session second = .ok secondCatalog) :
    firstCatalog.Agrees secondCatalog := by
  intro locale key pattern other inFirst inSecond
  rw [pattern?_extractSource firstExtracts] at inFirst
  rw [pattern?_extractSource secondExtracts] at inSecond
  by_cases here : locale = session.locale
  · rw [if_pos here] at inFirst inSecond
    exact alike key pattern other inFirst inSecond
  · rw [if_neg here] at inFirst
    cases inFirst

/-- Under literal keys all scripts file alike. -/
theorem fileAlike_of_literal
    (literal : session.keys = .literal)
    (first second : ScriptSource) :
    FileAlike session first second := by
  intro key pattern other inFirst inSecond
  exact (KeyStrategy.separates_iff session.keys).mpr literal pattern other key
    (KeyStrategy.of_lastUnder? inFirst).2 (KeyStrategy.of_lastUnder? inSecond).2

/-! ### One script after the other -/

/-- The catalog of the last script goes over that of the others. -/
theorem gather_concat
    (extracts : extractSource session source = .ok catalog)
    (sources : List ScriptSource) :
    gather session (sources ++ [source]) = (gather session sources).merge catalog := by
  simp [gather, merge, succeeded, extracts, Except.toOption]

/-- The catalog has the last of all patterns under each key, for the locale of the session. -/
theorem pattern?_gather
    (extracts : Extracts session sources)
    (locale key : String) :
    (gather session sources).pattern? locale key =
      if locale = session.locale then
        session.keys.lastUnder? (sources.flatMap (messages session)) key
      else none := by
  induction sources using List.reverseRecOn with
  | nil =>
      rw [List.flatMap_nil]
      exact (ite_self none).symm
  | append_singleton front source inductionHypothesis =>
      obtain ⟨catalog, last⟩ := extracts source (by simp)
      have before := inductionHypothesis fun other present =>
        extracts other (List.mem_append_left _ present)
      rw [gather_concat last, Catalog.pattern?_merge, before, pattern?_extractSource last,
        List.flatMap_append, List.flatMap_singleton, KeyStrategy.lastUnder?_append]
      by_cases here : locale = session.locale
      · rw [if_pos here, if_pos here, if_pos here]
      · rw [if_neg here, if_neg here, if_neg here, Option.none_or]

/-- All patterns of extracted scripts have keys. -/
theorem isSome_key?_of_extracts
    (extracts : Extracts session sources) :
    ∀ pattern ∈ sources.flatMap (messages session), (session.keys.key? pattern).isSome := by
  intro pattern present
  obtain ⟨source, inSources, inMessages⟩ := List.mem_flatMap.mp present
  obtain ⟨catalog, extracted⟩ := extracts source inSources
  exact Extraction.isSome_key?_of_run (run_of_extractSource extracted) pattern inMessages

/-- No pattern is lost exactly if no two patterns share a key. -/
theorem complete_iff
    (extracts : Extracts session sources) :
    Complete session sources ↔
      ∀ pattern ∈ sources.flatMap (messages session),
        ∀ other ∈ sources.flatMap (messages session),
          session.keys.key? pattern = session.keys.key? other → pattern = other := by
  rw [← KeyStrategy.forall_found_iff (isSome_key?_of_extracts extracts)]
  unfold Complete
  simp only [pattern?_gather extracts, if_true]

/-! ### Orders -/

/-- Scripts that file alike may be gathered in any order. -/
theorem gather_eq_of_perm
    (alike : ∀ first ∈ sources, ∀ second ∈ sources, FileAlike session first second)
    (perm : order.Perm sources) :
    gather session order = gather session sources := by
  have extracted : ∀ catalog ∈ succeeded (order.map (extractSource session)),
      ∃ source ∈ sources, extractSource session source = .ok catalog := by
    intro catalog present
    obtain ⟨source, inOrder, succeeds⟩ := List.mem_map.mp (mem_succeeded.mp present)
    exact ⟨source, perm.mem_iff.mp inOrder, succeeds⟩
  have catalogs : (succeeded (order.map (extractSource session))).Perm
      (succeeded (sources.map (extractSource session))) := (perm.map _).filterMap _
  refine catalogs.foldl_eq' (fun first inFirst second inSecond catalog => ?_) _
  obtain ⟨firstSource, firstPresent, firstExtracts⟩ := extracted first inFirst
  obtain ⟨secondSource, secondPresent, secondExtracts⟩ := extracted second inSecond
  exact Catalog.merge_right_comm (agrees_of_fileAlike
    (alike firstSource firstPresent secondSource secondPresent) firstExtracts secondExtracts) catalog

/-- A script may come last, and then its own patterns are found. -/
theorem exists_order_of_mem
    (extracts : Extracts session sources)
    (present : source ∈ sources) :
    ∃ order : List ScriptSource, order.Perm sources ∧ ∀ key pattern,
      session.keys.lastUnder? (messages session source) key = some pattern →
        (gather session order).pattern? session.locale key = some pattern := by
  obtain ⟨front, back, rfl⟩ := List.append_of_mem present
  have perm : (front ++ back ++ [source]).Perm (front ++ source :: back) :=
    (List.perm_append_singleton source _).trans List.perm_middle.symm
  refine ⟨front ++ back ++ [source], perm, fun key pattern last => ?_⟩
  rw [pattern?_gather (extracts.perm perm), if_pos rfl, List.flatMap_append, List.flatMap_singleton,
    KeyStrategy.lastUnder?_append, last]
  rfl

/-- The order does not matter exactly if all scripts file alike. -/
theorem orderless_iff
    (extracts : Extracts session sources) :
    Orderless session sources ↔
      ∀ first ∈ sources, ∀ second ∈ sources, FileAlike session first second := by
  constructor
  · intro orderless first firstPresent second secondPresent key pattern other inFirst inSecond
    obtain ⟨order, perm, found⟩ := exists_order_of_mem extracts firstPresent
    obtain ⟨otherOrder, otherPerm, otherFound⟩ := exists_order_of_mem extracts secondPresent
    have inOne := found key pattern inFirst
    have inOther := otherFound key other inSecond
    rw [orderless order perm] at inOne
    rw [orderless otherOrder otherPerm, inOne] at inOther
    exact Option.some.inj inOther
  · intro alike order perm
    exact gather_eq_of_perm alike perm

/-- If the catalog is the same, so is all that the command leaves behind. -/
theorem deliver_eq_of_orderless
    (extracts : Extracts session sources)
    (orderless : Orderless session sources)
    (perm : order.Perm sources)
    (workspace : Workspace)
    (outFile : Option String) :
    deliver workspace outFile (order.map (extractSource session)) =
      deliver workspace outFile (sources.map (extractSource session)) := by
  have sameCatalog : merge (succeeded (order.map (extractSource session))) =
      merge (succeeded (sources.map (extractSource session))) := orderless order perm
  unfold deliver
  rw [sameCatalog, failed_of_extracts extracts, failed_of_extracts (extracts.perm perm),
    List.length_map, List.length_map, perm.length_eq]

/-- What gathering the patterns of scripts comes to. -/
structure Gathering (session : Session) (sources : List ScriptSource) : Prop where
  /-- The catalog has the last of all patterns under each key, and nothing else. -/
  latest : ∀ locale key, (gather session sources).pattern? locale key =
    if locale = session.locale then
      session.keys.lastUnder? (sources.flatMap (messages session)) key
    else none
  /-- No pattern is lost exactly if no two patterns share a key. -/
  complete : Complete session sources ↔
    ∀ pattern ∈ sources.flatMap (messages session),
      ∀ other ∈ sources.flatMap (messages session),
        session.keys.key? pattern = session.keys.key? other → pattern = other
  /-- The order does not matter exactly if no two scripts file different patterns under one key. -/
  orderless : Orderless session sources ↔
    ∀ first ∈ sources, ∀ second ∈ sources, FileAlike session first second
  /-- Then the command leaves the same behind for every order. -/
  delivered : Orderless session sources → ∀ order : List ScriptSource, order.Perm sources →
    ∀ workspace outFile, deliver workspace outFile (order.map (extractSource session)) =
      deliver workspace outFile (sources.map (extractSource session))
  /-- Under literal keys no pattern is lost and the order does not matter. -/
  literal : session.keys = .literal → Complete session sources ∧ Orderless session sources

/-- Scripts that are all extracted give the same catalog in every order exactly if no two of them
file different patterns under one key, as is certain under literal keys. -/
theorem gathering_of_extracts
    (session : Session)
    (sources : List ScriptSource)
    (extracts : Extracts session sources) :
    Gathering session sources where
  latest := pattern?_gather extracts
  complete := complete_iff extracts
  orderless := orderless_iff extracts
  delivered orderless _ perm workspace outFile :=
    deliver_eq_of_orderless extracts orderless perm workspace outFile
  literal keys := by
    constructor
    · refine (complete_iff extracts).mpr fun pattern present other _ same => ?_
      obtain ⟨key, derived⟩ := Option.isSome_iff_exists.mp
        (isSome_key?_of_extracts extracts pattern present)
      exact (KeyStrategy.separates_iff session.keys).mpr keys pattern other key derived
        (same ▸ derived)
    · exact (orderless_iff extracts).mpr fun first _ second _ => fileAlike_of_literal keys first second

/-- Two scripts that share a pattern and have one of their own each: in either order, the catalog
has all three patterns. -/
theorem gathering_of_extracts_shared :
    let session : Session := ⟨"t", "en", .underscored, none, .fallback⟩
    let sources : List ScriptSource :=
      [⟨"a.js", none, "t('A b'),t('c')".toList⟩, ⟨"b.js", none, "t('d'),t('A b')".toList⟩]
    Extracts session sources ∧
      sources.flatMap (messages session) = ["A b", "c", "d", "A b"] ∧
      Gathering session sources := by
  intro session sources
  have extracts : Extracts session sources := by decide +kernel
  exact ⟨extracts, by decide +kernel, gathering_of_extracts session sources extracts⟩

/-- Under each of the other strategies there are two scripts with one pattern each whose catalog has
only the pattern of whichever comes last. -/
theorem gather_reverse_ne :
    let session (keys : KeyStrategy) : Session := ⟨"t", "en", keys, none, .fallback⟩
    let scripts (one other : String) : List ScriptSource :=
      [⟨"a.js", none, ("t('" ++ one ++ "')").toList⟩, ⟨"b.js", none, ("t('" ++ other ++ "')").toList⟩]
    let spaced := scripts "a  b" "a b"
    let punctuated := scripts "a b" "a, b"
    let hashed := scripts "a!! ! ??" "a..???!!."
    Extracts (session .normalized) spaced ∧
      gather (session .normalized) spaced.reverse ≠ gather (session .normalized) spaced ∧
      Extracts (session .underscored) punctuated ∧
      gather (session .underscored) punctuated.reverse ≠ gather (session .underscored) punctuated ∧
      Extracts (session .underscoredHash) hashed ∧
      gather (session .underscoredHash) hashed.reverse ≠ gather (session .underscoredHash) hashed := by
  decide +kernel

end ExtractCommand
end MessageExpansion
