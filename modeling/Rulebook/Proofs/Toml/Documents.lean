import Mathlib
import Rulebook.Proofs.Text.Items
import Rulebook.Proofs.Toml.Values

/-!
# Written documents in TOML

A document that is written as sections of named values is read as the table of these sections. The
reader works statement by statement: a heading adds an empty section to the document under
construction, and a line below it adds a value to the section. So the document holds the sections
that have been read so far, and by induction over what is left of them it holds all in the end.
-/

namespace Rulebook.Toml

/-! ## Names -/

/-- The name is written without quotes. -/
structure IsBareName (name : String) : Prop where
  filled : name.toList ≠ []
  bare : ∀ character ∈ name.toList, isBareKeyChar character = true

theorem scanName_bare {name : String} (isName : IsBareName name) {after : Char}
    (ends : isBareKeyChar after = false) (rest : List Char) :
    scanName (name.toList ++ after :: rest) = .ok (name, after :: rest) := by
  have spanned : (name.toList ++ after :: rest).takeWhile isBareKeyChar = name.toList ∧
      (name.toList ++ after :: rest).dropWhile isBareKeyChar = after :: rest := by
    rw [List.takeWhile_append_of_pos isName.bare, List.dropWhile_append_of_pos isName.bare]
    simp [ends]
  have named := @String.ofList_toList name
  rcases List.exists_cons_of_ne_nil isName.filled with ⟨first, more, split⟩
  have bare := isName.bare first (split ▸ List.mem_cons_self)
  have noQuote : ∀ tail, name.toList ++ after :: rest ≠ '"' :: tail ∧
      name.toList ++ after :: rest ≠ '\'' :: tail := by
    intro tail
    rw [split]
    refine ⟨fun same => ?_, fun same => ?_⟩
    · rw [(List.cons.inj same).1] at bare
      exact absurd bare (by decide)
    · rw [(List.cons.inj same).1] at bare
      exact absurd bare (by decide)
  rw [scanName.eq_def]
  split
  · next same => exact absurd same (noQuote _).1
  · next same => exact absurd same (noQuote _).2
  · rw [spanned.1, spanned.2, split]
    rw [split] at named
    simp only [named]

/-- A single name is read as a key up to what follows the space behind it. -/
theorem scanKey_bare {name : String} (isName : IsBareName name) {after next : Char}
    {rest left : List Char} (ends : isBareKeyChar after = false)
    (skipped : skipSpace (after :: rest) = next :: left) (notPoint : next ≠ '.') :
    scanKey (name.toList ++ after :: rest) = .ok ([name], next :: left) := by
  rw [scanKey, scanNames, scanName_bare isName ends]
  simp [skipped, notPoint]

theorem skipSpace_of_visible {first : Char} (visible : isSpace first = false) (rest : List Char) :
    skipSpace (first :: rest) = first :: rest := by
  rw [skipSpace, List.dropWhile_cons, if_neg (by simp [visible])]

theorem isSpace_of_isBareKeyChar {character : Char} (bare : isBareKeyChar character = true) :
    isSpace character = false := by
  by_contra space
  rw [Bool.not_eq_false, isSpace, Bool.or_eq_true, beq_iff_eq, beq_iff_eq] at space
  rcases space with rfl | rfl <;> exact absurd bare (by decide)

/-! ## The document under construction -/

theorem lookup_eq_none_of_not_mem {entries : Table} {name : String}
    (new : name ∉ entries.map Prod.fst) : entries.lookup name = none := by
  rw [List.lookup_eq_none_iff]
  intro entry mem
  rw [bne_iff_ne]
  rintro rfl
  exact new (List.mem_map_of_mem mem)

theorem setEntry_new {entries : Table} {name : String} (new : name ∉ entries.map Prod.fst)
    (value : Toml) : setEntry name value entries = entries ++ [(name, value)] := by
  induction entries with
  | nil => rfl
  | cons first rest ih =>
      rw [List.map_cons, List.mem_cons, not_or] at new
      rw [setEntry, if_neg (Ne.symm new.1), ih new.2, List.cons_append]

theorem setEntry_last {entries : Table} {name : String} (new : name ∉ entries.map Prod.fst)
    (old value : Toml) :
    setEntry name value (entries ++ [(name, old)]) = entries ++ [(name, value)] := by
  induction entries with
  | nil => exact if_pos rfl
  | cons first rest ih =>
      rw [List.map_cons, List.mem_cons, not_or] at new
      rw [List.cons_append, setEntry, if_neg (Ne.symm new.1), ih new.2, List.cons_append]

theorem lookup_last {entries : Table} {name : String} (new : name ∉ entries.map Prod.fst)
    (value : Toml) : (entries ++ [(name, value)]).lookup name = some value := by
  rw [List.lookup_append, lookup_eq_none_of_not_mem new, Option.none_or, List.lookup_cons_self]

/-- Sections as the values of a table. -/
def sectionTables (sections : List (String × Table)) : Table :=
  sections.map fun entry => (entry.1, table entry.2)

theorem names_sectionTables (sections : List (String × Table)) :
    (sectionTables sections).map Prod.fst = sections.map Prod.fst := by
  rw [sectionTables, List.map_map]
  rfl

/-- The document holds the sections, each with a declaration of its own, and nothing else. -/
structure Document.Holds (document : Document) (sections : List (String × Table)) : Prop where
  entries : document.entries = sectionTables sections
  declared : ∀ key ∈ document.declared, ∃ name ∈ sections.map Prod.fst, key = [name]
  frozen : document.frozen = []
  dotted : document.dotted = []

namespace Document

variable {document : Document} {sections : List (String × Table)} {name : String}

theorem holds_empty : Document.empty.Holds [] :=
  ⟨rfl, nofun, rfl, rfl⟩

theorem not_mem_declared (holds : document.Holds sections) (new : name ∉ sections.map Prod.fst) :
    [name] ∉ document.declared := by
  intro mem
  rcases holds.declared [name] mem with ⟨other, held, same⟩
  rw [List.singleton_inj] at same
  exact new (same ▸ held)

/-- A new heading adds an empty section, to which the next statements belong. -/
theorem Holds.declareTable (holds : document.Holds sections)
    (new : name ∉ sections.map Prod.fst) :
    ∃ next, document.settled.declareTable [name] = .ok next ∧
      next.Holds (sections ++ [(name, [])]) ∧ next.header = [name] := by
  -- settling declares what dotted names made, and there is no such table
  have undeclared := not_mem_declared holds new
  have absent : name ∉ (sectionTables sections).map Prod.fst := by rwa [names_sectionTables]
  have altered : alterTable true some [name] (sectionTables sections) =
      some (sectionTables sections ++ [(name, table [])]) := by
    simp [alterTable, lookup_eq_none_of_not_mem absent, setEntry_new absent]
  refine ⟨{ document.settled with
    entries := sectionTables sections ++ [(name, table [])]
    declared := [name] :: document.settled.declared
    header := [name] }, ?_, ?_, rfl⟩
  · simp [Document.declareTable, settled, holds.dotted, undeclared, isFrozen, holds.frozen,
      holds.entries, altered]
  · refine ⟨?_, ?_, holds.frozen, rfl⟩
    · simp [sectionTables]
    · simp only [settled, holds.dotted, List.nil_append, List.forall_mem_cons]
      refine ⟨⟨name, by simp, rfl⟩, fun key mem => ?_⟩
      rcases holds.declared key mem with ⟨other, held, same⟩
      exact ⟨other, by simp [held], same⟩

/-- A new name in the last section adds a value to it. -/
theorem Holds.assign {inner : Table} {entry : String} {value : Toml}
    (holds : document.Holds (sections ++ [(name, inner)])) (header : document.header = [name])
    (new : name ∉ sections.map Prod.fst) (newEntry : entry ∉ inner.map Prod.fst)
    (inOneLine : value.isNested = false) :
    ∃ next, document.assign [entry] value = .ok next ∧
      next.Holds (sections ++ [(name, inner ++ [(entry, value)])]) ∧ next.header = [name] := by
  have absent : name ∉ (sectionTables sections).map Prod.fst := by rwa [names_sectionTables]
  have entries : document.entries = sectionTables sections ++ [(name, table inner)] := by
    simp [holds.entries, sectionTables]
  have altered : alterTable true (addEntry entry value) [name] document.entries =
      some (sectionTables sections ++ [(name, table (inner ++ [(entry, value)]))]) := by
    simp [alterTable, addEntry, entries, lookup_last absent, lookup_eq_none_of_not_mem newEntry,
      setEntry_new newEntry, setEntry_last absent]
  refine ⟨{ document with
    entries := sectionTables sections ++ [(name, table (inner ++ [(entry, value)]))] }, ?_, ?_,
    header⟩
  · simp [Document.assign, passed, isFrozen, holds.frozen, header, altered, inOneLine]
  · refine ⟨?_, ?_, holds.frozen, holds.dotted⟩
    · simp [sectionTables]
    · simpa using holds.declared

end Document

/-! ## Reading on -/

/-- Reading on gives the table, however many more steps are allowed than characters are left. The
lemmas below go backwards: each puts a statement in front of what is already known to be read. -/
def ReadsTo (document : Document) (text : List Char) (entries : Table) : Prop :=
  ∀ bound, text.length < bound → readStatements bound document text = .ok entries

theorem readsTo_nil (document : Document) : ReadsTo document [] document.entries := by
  intro bound enough
  rcases Nat.exists_eq_succ_of_ne_zero (Nat.ne_of_gt enough) with ⟨bound, rfl⟩
  rfl

variable {document : Document} {rest : List Char} {result : Table}

theorem ReadsTo.lineEnd (reads : ReadsTo document rest result) :
    ReadsTo document ('\n' :: rest) result := by
  intro bound enough
  rw [List.length_cons] at enough
  rcases Nat.exists_eq_add_of_lt (Nat.zero_lt_of_lt enough) with ⟨bound, rfl⟩
  have here : skipSpace ('\n' :: rest) = '\n' :: rest := skipSpace_of_visible rfl rest
  rw [Nat.zero_add, readStatements, here]
  exact reads bound (by omega)

/-- A statement is read from its first character to the end of its line. -/
theorem ReadsTo.statement {first : Char} {line : List Char} {next : Document}
    (visible : isSpace first = false) (notEnd : first ≠ '\n')
    (statement : readStatement document (first :: line ++ '\n' :: rest) = .ok (next, '\n' :: rest))
    (reads : ReadsTo next rest result) :
    ReadsTo document (first :: line ++ '\n' :: rest) result := by
  intro bound enough
  rw [List.length_append, List.length_cons, List.length_cons] at enough
  rcases Nat.exists_eq_add_of_lt (Nat.zero_lt_of_lt enough) with ⟨bound, rfl⟩
  rw [List.cons_append] at statement ⊢
  have here := skipSpace_of_visible visible (line ++ '\n' :: rest)
  have lineEnd : skipSpace ('\n' :: rest) = '\n' :: rest := skipSpace_of_visible rfl rest
  have readOn := reads bound (by omega)
  rw [Nat.zero_add, readStatements, here]
  simpa [statement, lineEnd, skipComment, notEnd] using readOn

/-- A new section begins with its heading. -/
theorem ReadsTo.heading {sections : List (String × Table)} {name : String}
    (isName : IsBareName name) (holds : document.Holds sections)
    (new : name ∉ sections.map Prod.fst)
    (reads : ∀ next : Document, next.Holds (sections ++ [(name, [])]) → next.header = [name] →
      ReadsTo next rest result) :
    ReadsTo document ('[' :: (name.toList ++ [']']) ++ '\n' :: rest) result := by
  rcases holds.declareTable new with ⟨next, declared, nextHolds, header⟩
  have key : scanKey (name.toList ++ ']' :: '\n' :: rest) = .ok ([name], ']' :: '\n' :: rest) :=
    scanKey_bare isName rfl rfl (by decide)
  rcases List.exists_cons_of_ne_nil isName.filled with ⟨first, more, split⟩
  have bare := isName.bare first (split ▸ List.mem_cons_self)
  have here : skipSpace (name.toList ++ ']' :: '\n' :: rest) =
      name.toList ++ ']' :: '\n' :: rest := by
    rw [split]
    exact skipSpace_of_visible (isSpace_of_isBareKeyChar bare) _
  refine .statement rfl (by decide) ?_ (reads next nextHolds header)
  rw [List.cons_append, List.append_assoc, List.singleton_append, readStatement.eq_def]
  split
  · next same =>
    -- a name begins with no bracket, so this is no item of a list of tables
    rw [split] at same
    rw [(List.cons.inj (List.cons.inj same).2).1] at bare
    exact absurd bare (by decide)
  · next same =>
    rw [← (List.cons.inj same).2, here, key]
    simp [declared, placed]
  · next same => cases (List.cons.inj same).1
  · next notTable _ same => exact absurd (List.cons.inj same).1.symm notTable
  · next same => cases same

theorem readStatement_pair {first : Char} {more afterKey afterValue : List Char} {key : Key}
    {value : Toml} {next : Document} (start : isKeyStart first = true)
    (pair : scanPairKey (first :: more) = .ok (key, afterKey))
    (read : readValue (2 * afterKey.length + 2) afterKey = .ok (value, afterValue))
    (assigned : document.assign key value = .ok next) :
    readStatement document (first :: more) = .ok (next, afterValue) := by
  have notMark : first ≠ '[' ∧ first ≠ '#' := by
    refine ⟨?_, ?_⟩ <;> (rintro rfl; exact absurd start (by decide))
  rw [readStatement.eq_def]
  split
  · next same => exact absurd (List.cons.inj same).1 notMark.1
  · next same => exact absurd (List.cons.inj same).1 notMark.1
  · next same => exact absurd (List.cons.inj same).1 notMark.2
  · next same =>
    rw [← (List.cons.inj same).1, if_pos start, pair]
    simp [read, assigned, placed]
  · next same => cases same

/-- A line with a new name adds a value to the last section. -/
theorem ReadsTo.entry {sections : List (String × Table)} {name : String} {inner : Table}
    {entry : String} {text : List Char} {value : Toml} (isName : IsBareName entry)
    (denotes : Denotes text value) (inOneLine : value.isNested = false)
    (holds : document.Holds (sections ++ [(name, inner)])) (header : document.header = [name])
    (new : name ∉ sections.map Prod.fst) (newEntry : entry ∉ inner.map Prod.fst)
    (reads : ∀ next : Document, next.Holds (sections ++ [(name, inner ++ [(entry, value)])]) →
      next.header = [name] → ReadsTo next rest result) :
    ReadsTo document (writeEntry entry text ++ rest) result := by
  rcases holds.assign header new newEntry inOneLine with ⟨next, assigned, nextHolds, nextHeader⟩
  have here : skipSpace (text ++ '\n' :: rest) = text ++ '\n' :: rest := by
    rcases text with _ | ⟨first, more⟩
    · exact skipSpace_of_visible rfl rest
    · exact skipSpace_of_visible (denotes.visible first more rfl) _
  have key : scanPairKey (entry.toList ++ ' ' :: '=' :: ' ' :: (text ++ '\n' :: rest)) =
      .ok ([entry], text ++ '\n' :: rest) := by
    have bare : scanKey (entry.toList ++ ' ' :: '=' :: ' ' :: (text ++ '\n' :: rest)) =
        .ok ([entry], '=' :: ' ' :: (text ++ '\n' :: rest)) :=
      scanKey_bare isName rfl rfl (by decide)
    have space : skipSpace (' ' :: (text ++ '\n' :: rest)) = skipSpace (text ++ '\n' :: rest) := rfl
    rw [scanPairKey, bare]
    simp [space, here]
  have value := denotes.read (2 * (text ++ '\n' :: rest).length + 1) rest
  rcases List.exists_cons_of_ne_nil isName.filled with ⟨first, more, split⟩
  have bare := isName.bare first (split ▸ List.mem_cons_self)
  have written : writeEntry entry text ++ rest =
      first :: (more ++ ' ' :: '=' :: ' ' :: text) ++ '\n' :: rest := by
    simp [writeEntry, split]
  have statement : readStatement document (writeEntry entry text ++ rest) =
      .ok (next, '\n' :: rest) := by
    have line : writeEntry entry text ++ rest =
        first :: (more ++ ' ' :: '=' :: ' ' :: (text ++ '\n' :: rest)) := by
      simp [writeEntry, split]
    rw [split] at key
    rw [line]
    exact readStatement_pair (by rw [isKeyStart, bare]; rfl) key value assigned
  rw [written] at statement ⊢
  refine .statement (isSpace_of_isBareKeyChar bare) ?_ statement (reads next nextHolds nextHeader)
  rintro rfl
  exact absurd bare (by decide)

/-! ## Sections -/

/-- The texts of named values and the values that they denote. -/
inductive AreEntries : List (String × List Char) → Table → Prop
  | nil : AreEntries [] []
  | cons {name : String} {text : List Char} {value : Toml} {texts : List (String × List Char)}
      {entries : Table} (isName : IsBareName name) (denotes : Denotes text value)
      (inOneLine : value.isNested = false) (others : AreEntries texts entries) :
      AreEntries ((name, text) :: texts) ((name, value) :: entries)

/-- Written sections and what stands in them. -/
inductive AreSections : List (List Char) → List (String × Table) → Prop
  | nil : AreSections [] []
  | cons {name : String} {texts : List (String × List Char)} {entries : Table}
      {written : List (List Char)} {sections : List (String × Table)} (isName : IsBareName name)
      (areEntries : AreEntries texts entries) (distinct : (entries.map Prod.fst).Nodup)
      (others : AreSections written sections) :
      AreSections (writeSection name texts :: written) ((name, entries) :: sections)

theorem ReadsTo.entries {sections : List (String × Table)} {name : String}
    (new : name ∉ sections.map Prod.fst) {texts : List (String × List Char)} {inner entries : Table}
    (areEntries : AreEntries texts entries)
    (distinct : (inner.map Prod.fst ++ entries.map Prod.fst).Nodup)
    (holds : document.Holds (sections ++ [(name, inner)])) (header : document.header = [name])
    (reads : ∀ next : Document, next.Holds (sections ++ [(name, inner ++ entries)]) →
      ReadsTo next rest result) :
    ReadsTo document ((texts.flatMap fun text => writeEntry text.1 text.2) ++ rest) result := by
  induction areEntries generalizing document inner with
  | nil =>
      rw [List.append_nil] at reads
      exact reads document holds
  | @cons entry text value texts entries isName denotes inOneLine others ih =>
      rw [List.flatMap_cons, List.append_assoc]
      rw [List.map_cons] at distinct
      have newEntry : entry ∉ inner.map Prod.fst := fun mem =>
        (List.nodup_cons.mp (List.nodup_middle.mp distinct)).1 (List.mem_append_left _ mem)
      refine .entry isName denotes inOneLine holds header new newEntry ?_
      intro next nextHolds nextHeader
      refine ih ?_ nextHolds nextHeader ?_
      · simpa using distinct
      · simpa using reads

theorem ReadsTo.sectionLines {sections : List (String × Table)} {name : String}
    {texts : List (String × List Char)} {entries : Table} (isName : IsBareName name)
    (areEntries : AreEntries texts entries) (distinct : (entries.map Prod.fst).Nodup)
    (holds : document.Holds sections) (new : name ∉ sections.map Prod.fst)
    (reads : ∀ next : Document, next.Holds (sections ++ [(name, entries)]) →
      ReadsTo next rest result) :
    ReadsTo document (writeSection name texts ++ rest) result := by
  have written : writeSection name texts ++ rest = '[' :: (name.toList ++ [']']) ++
      '\n' :: ((texts.flatMap fun text => writeEntry text.1 text.2) ++ rest) := by
    simp [writeSection]
  rw [written]
  refine .heading isName holds new fun next nextHolds header => ?_
  exact .entries new areEntries (by simpa using distinct) nextHolds header (by simpa using reads)

theorem readsTo_writeSections {written : List (List Char)} {before sections : List (String × Table)}
    (areSections : AreSections written sections)
    (distinct : (before.map Prod.fst ++ sections.map Prod.fst).Nodup)
    (holds : document.Holds before) :
    ReadsTo document (writeSections written) (sectionTables (before ++ sections)) := by
  induction areSections generalizing document before with
  | nil =>
      rw [List.append_nil, ← holds.entries]
      exact readsTo_nil document
  | @cons name texts entries written sections isName areEntries distinctEntries others ih =>
      rw [List.map_cons] at distinct
      have new : name ∉ before.map Prod.fst := fun mem =>
        (List.nodup_cons.mp (List.nodup_middle.mp distinct)).1 (List.mem_append_left _ mem)
      -- the sections behind find this one among those that are held already
      have readOn (next : Document) (nextHolds : next.Holds (before ++ [(name, entries)])) :
          ReadsTo next (writeSections written)
            (sectionTables (before ++ (name, entries) :: sections)) := by
        rw [List.append_cons]
        exact ih (by simpa using distinct) nextHolds
      -- an empty line stands only between two sections
      cases written with
      | nil =>
          have last : writeSections [writeSection name texts] = writeSection name texts ++ [] := by
            simp [writeSections, Text.join]
          rw [last]
          exact .sectionLines isName areEntries distinctEntries holds new readOn
      | cons second more =>
          have further : writeSections (writeSection name texts :: second :: more) =
              writeSection name texts ++ '\n' :: writeSections (second :: more) := by
            simp [writeSections, Text.join]
          rw [further]
          exact .sectionLines isName areEntries distinctEntries holds new fun next nextHolds =>
            (readOn next nextHolds).lineEnd

/-! ## Line ends -/

theorem unifyLineEnds_of_not_mem {text : List Char} (absent : '\r' ∉ text) :
    unifyLineEnds text = text := by
  induction text with
  | nil => rfl
  | cons first rest ih =>
      rw [List.mem_cons, not_or] at absent
      rw [unifyLineEnds.eq_def]
      split
      · next same => exact absurd (List.cons.inj same).1.symm absent.1
      · next same =>
        rcases List.cons.inj same with ⟨rfl, rfl⟩
        rw [ih absent.2]
      · next same => cases same

theorem return_not_mem_name {name : String} (isName : IsBareName name) : '\r' ∉ name.toList :=
  fun mem => absurd (isName.bare _ mem) (by decide)

theorem return_not_mem_writeEntries {texts : List (String × List Char)} {entries : Table}
    (areEntries : AreEntries texts entries) :
    '\r' ∉ texts.flatMap fun text => writeEntry text.1 text.2 := by
  induction areEntries with
  | nil => exact List.not_mem_nil
  | @cons name text value texts entries isName denotes inOneLine others ih =>
      have noReturn := return_not_mem_name isName
      have oneLine := denotes.oneLine
      rw [List.flatMap_cons, List.mem_append, not_or]
      exact ⟨by simp [writeEntry, noReturn, oneLine], ih⟩

theorem return_not_mem_writeSections {written : List (List Char)}
    {sections : List (String × Table)} (areSections : AreSections written sections) :
    '\r' ∉ writeSections written := by
  have inSections : ∀ piece ∈ written, '\r' ∉ piece := by
    induction areSections with
    | nil => exact nofun
    | cons isName areEntries distinct others ih =>
        rw [List.forall_mem_cons]
        have noReturn := return_not_mem_name isName
        have entries := return_not_mem_writeEntries areEntries
        exact ⟨by simpa [writeSection, noReturn] using entries, ih⟩
  intro mem
  rcases Text.mem_of_mem_join mem with same | ⟨piece, inWritten, held⟩
  · exact absurd same (by decide)
  · exact inSections piece inWritten held

/-- A written document is read as the table of its sections. -/
theorem read_writeSections {written : List (List Char)} {sections : List (String × Table)}
    (areSections : AreSections written sections) (distinct : (sections.map Prod.fst).Nodup) :
    Toml.read (writeSections written) = .ok (sectionTables sections) := by
  rw [Toml.read, unifyLineEnds_of_not_mem (return_not_mem_writeSections areSections)]
  have reads : ReadsTo .empty (writeSections written) (sectionTables ([] ++ sections)) :=
    readsTo_writeSections areSections distinct Document.holds_empty
  exact reads _ (Nat.lt_succ_self _)

end Rulebook.Toml
