import Mathlib
import Rulebook.Proofs.Json.Steps
import Rulebook.Proofs.Number.Proper
import Rulebook.Proofs.Settings.Loading

/-!
# Numbers from all sources

Whatever a settings file and the environment say, the time to wait that is loaded is a proper
number: it is read from a text, rounded from an integer, or the default. The values of all sources
meet in one tree, so it is enough that every number in the tree is proper. A list is no setting, and
the tree does not show what is in it.
-/

namespace Rulebook

namespace Tree

variable {α : Type} {holds : α → Prop}

/-- Every value of a tree has a property. -/
inductive All (holds : α → Prop) : Tree α → Prop
  | leaf {value : α} (has : holds value) : All holds (.leaf value)
  | branch {entries : Entries α} (each : ∀ entry ∈ entries, All holds entry.2) :
      All holds (.branch entries)

/-- Every value of named trees has a property. -/
def AllEntries (holds : α → Prop) (entries : Entries α) : Prop :=
  ∀ entry ∈ entries, entry.2.All holds

theorem All.entries {entries : Entries α} (all : (Tree.branch entries).All holds) :
    AllEntries holds entries := by
  cases all with
  | branch each => exact each

theorem AllEntries.nil : AllEntries holds ([] : Entries α) :=
  fun _ mem => absurd mem List.not_mem_nil

theorem AllEntries.singleton {name : String} {tree : Tree α} (all : tree.All holds) :
    AllEntries holds [(name, tree)] :=
  List.forall_mem_singleton.mpr all

theorem AllEntries.cons {name : String} {tree : Tree α} {rest : Entries α}
    (all : tree.All holds) (restAll : AllEntries holds rest) :
    AllEntries holds ((name, tree) :: rest) :=
  List.forall_mem_cons.mpr ⟨all, restAll⟩

theorem AllEntries.lookup {entries : Entries α} (all : AllEntries holds entries) {name : String}
    {tree : Tree α} (held : entries.lookup name = some tree) : tree.All holds := by
  rcases List.lookup_eq_some_iff.mp held with ⟨before, after, rfl, _⟩
  exact all (name, tree) (by simp)

theorem AllEntries.setEntry {entries : Entries α} (all : AllEntries holds entries) (name : String)
    {tree : Tree α} (treeAll : tree.All holds) : AllEntries holds (setEntry name tree entries) := by
  induction entries with
  | nil => simpa [AllEntries, Tree.setEntry] using treeAll
  | cons first rest ih =>
      rcases first with ⟨other, old⟩
      have split := List.forall_mem_cons.mp all
      rw [Tree.setEntry]
      split
      · exact .cons treeAll split.2
      · exact .cons split.1 (ih split.2)

theorem AllEntries.filter {entries : Entries α} (all : AllEntries holds entries)
    (keeps : String × Tree α → Bool) : AllEntries holds (entries.filter keeps) :=
  fun entry mem => all entry (List.mem_filter.mp mem).1

theorem AllEntries.append {entries further : Entries α} (all : AllEntries holds entries)
    (furtherAll : AllEntries holds further) : AllEntries holds (entries ++ further) :=
  List.forall_mem_append.mpr ⟨all, furtherAll⟩

theorem AllEntries.insertAt {value : α} (has : holds value) (name : String) (path : List String)
    {entries : Entries α} (all : AllEntries holds entries) :
    AllEntries holds (insertAt value name path entries) := by
  induction path generalizing entries with
  | nil => exact all.setEntry name (.leaf has)
  | cons first path ih =>
      rw [Tree.insertAt]
      split
      · exact all.setEntry first (.branch (ih .nil))
      · next inner held => exact all.setEntry first (.branch (ih (all.lookup held).entries))
      · exact all

mutual

/-- Trees that have a property keep it when they are laid over each other. -/
theorem All.merge {base override : Tree α} (all : base.All holds)
    (overrideAll : override.All holds) : (base.merge override).All holds := by
  cases all with
  | leaf has => cases override <;> exact overrideAll
  | branch each =>
      cases overrideAll with
      | leaf has => exact .leaf has
      | branch overrideEach =>
          rw [Tree.merge]
          exact .branch (AllEntries.append (AllEntries.mergeShared each overrideEach)
            (AllEntries.filter overrideEach _))

theorem AllEntries.mergeShared {base override : Entries α} (all : AllEntries holds base)
    (overrideAll : AllEntries holds override) : AllEntries holds (mergeShared base override) := by
  cases base with
  | nil => exact .nil
  | cons first rest =>
      rcases first with ⟨name, value⟩
      have split := List.forall_mem_cons.mp all
      rw [Tree.mergeShared]
      refine .cons ?_ (AllEntries.mergeShared split.2 overrideAll)
      split
      · next upper held => exact All.merge split.1 (overrideAll.lookup held)
      · exact split.1

end

theorem AllEntries.mergeEntries {base override : Entries α} (all : AllEntries holds base)
    (overrideAll : AllEntries holds override) : AllEntries holds (mergeEntries base override) :=
  (all.mergeShared overrideAll).append (overrideAll.filter _)

end Tree

/-! ## Values -/

/-- A number is proper; other values have no say. -/
def PlainValue.IsSound : PlainValue → Prop
  | real value => value.IsProper
  | _ => True

theorem PlainValue.isProper_of_toReal? {value : PlainValue} (sound : value.IsSound)
    {number : Binary64} (read : value.toReal? = some number) : number.IsProper := by
  cases value with
  | real value =>
      cases read
      exact sound
  | int value =>
      change (some (Binary64.ofInt value)).filter Binary64.isFinite = some number at read
      cases (Option.filter_eq_some_iff.mp read).1
      exact Binary64.isProper_ofInt value
  | bool value =>
      cases read
      exact Binary64.isProper_ofInt _
  | str value =>
      change PlainValue.realOfText? value.toList = some number at read
      rw [PlainValue.realOfText?] at read
      split at read
      · next plain =>
        cases read
        exact Binary64.isProper_of_realBy? plain
      · split_ifs at read
        exact Binary64.isProper_of_realBy? read
  | other => cases read

namespace Tree

/-- Every number of a tree is proper. -/
abbrev IsSound (tree : Tree PlainValue) : Prop :=
  tree.All PlainValue.IsSound

/-- Every number of named trees is proper. -/
abbrev AreSound (entries : SettingsTree) : Prop :=
  AllEntries PlainValue.IsSound entries

end Tree

/-! ## JSON -/

namespace Json

theorem toEntries_set (fields : Fields) (name : String) (value : Json) :
    toEntries (fields.set name value) = Tree.setEntry name value.toTree (toEntries fields) := by
  induction fields with
  | nil => rfl
  | cons first rest ih =>
      rcases first with ⟨other, old⟩
      rw [Fields.set, toEntries, Tree.setEntry]
      split
      · rfl
      · rw [toEntries, ih]

theorem areSound_ofBindings {bindings : List (String × Json)}
    (sound : Tree.AreSound (toEntries bindings)) :
    Tree.AreSound (toEntries (Fields.ofBindings bindings)) := by
  have added : ∀ fields : Fields, Tree.AreSound (toEntries fields) →
      Tree.AreSound (toEntries (bindings.foldl (fun fields binding =>
        Fields.set binding.1 binding.2 fields) fields)) := by
    induction bindings with
    | nil => exact fun _ => id
    | cons first rest ih =>
        have split := List.forall_mem_cons.mp sound
        intro fields before
        refine ih split.2 _ ?_
        rw [toEntries_set]
        exact before.setEntry first.1 split.1
  exact added [] .nil

theorem isSound_of_scanScalar {text rest : List Char} {value : Json}
    (scanned : scanScalar text = .ok (value, rest)) : value.toTree.IsSound := by
  have named : ∀ entry ∈ namedValues, entry.2.toTree.IsSound := by
    simp only [namedValues, List.forall_mem_cons, List.not_mem_nil, false_imp_iff, implies_true,
      and_true]
    exact ⟨.leaf trivial, .leaf trivial, .leaf trivial, .leaf nofun, .leaf nofun, .leaf nofun⟩
  rw [scanScalar] at scanned
  split at scanned
  · next found =>
    cases scanned
    rcases List.exists_of_findSome?_eq_some found with ⟨⟨word, value⟩, mem, taken⟩
    simp only at taken
    split_ifs at taken
    cases taken
    exact named _ mem
  · split at scanned
    · cases scanned
    · split_ifs at scanned
      · cases scanned
        exact .leaf trivial
      · cases scanned
        exact .leaf (Binary64.isProper_ofDecimal _ _ _)

/-- Reading gives proper numbers, by induction on the bound of the reader. -/
theorem isSound_of_parseValue (bound : Nat) :
    (∀ text value rest, parseValue bound text = .ok (value, rest) → value.toTree.IsSound) ∧
      ∀ text bindings rest, parseBindings bound text = .ok (bindings, rest) →
        Tree.AreSound (toEntries bindings) := by
  induction bound with
  | zero => exact ⟨nofun, nofun⟩
  | succ bound ih =>
      refine ⟨fun text value rest read => ?_, fun text bindings rest read => ?_⟩
      · cases valueStep_of_parseValue read with
        | text _ => exact .leaf trivial
        | emptyList _ => exact .leaf trivial
        | list _ => exact .leaf trivial
        | emptyObject _ => exact .branch Tree.AllEntries.nil
        | object readBindings => exact .branch (areSound_ofBindings (ih.2 _ _ _ readBindings))
        | scalar scanned => exact isSound_of_scanScalar scanned
      · cases bindingsStep_of_parseBindings read with
        | last _ _ readValue _ => exact Tree.AllEntries.singleton (ih.1 _ _ _ readValue)
        | more _ _ readValue _ readMore =>
            exact Tree.AllEntries.cons (ih.1 _ _ _ readValue) (ih.2 _ _ _ readMore)

theorem isSound_of_parse {text : List Char} {value : Json} (read : parse text = .ok value) :
    value.toTree.IsSound := by
  rcases exists_parseValue_of_parse read with ⟨bound, _, readValue, _⟩
  exact (isSound_of_parseValue bound).1 _ _ _ readValue

end Json

/-! ## TOML -/

namespace Toml

theorem toEntries_setEntry (entries : Table) (name : String) (value : Toml) :
    toEntries (setEntry name value entries) =
      Tree.setEntry name value.toTree (toEntries entries) := by
  induction entries with
  | nil => rfl
  | cons first rest ih =>
      rcases first with ⟨other, old⟩
      rw [setEntry, toEntries, Tree.setEntry]
      split
      · rfl
      · rw [toEntries, ih]

/-- Every number of a table is proper. -/
abbrev Table.IsSound (entries : Table) : Prop :=
  Tree.AreSound (toEntries entries)

theorem Table.IsSound.setEntry {entries : Table} (sound : entries.IsSound) (name : String)
    {value : Toml} (valueSound : value.toTree.IsSound) :
    Table.IsSound (setEntry name value entries) := by
  rw [Table.IsSound, toEntries_setEntry]
  exact Tree.AllEntries.setEntry sound name valueSound

theorem Table.IsSound.lookup {entries inner : Table} (sound : entries.IsSound) {name : String}
    (held : entries.lookup name = some (table inner)) : inner.IsSound := by
  have found : (toEntries entries).lookup name = some (table inner).toTree := by
    rw [Settings.lookup_toEntries, held]
    rfl
  exact (Tree.AllEntries.lookup sound found).entries

/-- A change that keeps tables sound does so behind every key. What is inside of lists does not
count. -/
theorem Table.IsSound.alterTable {intoLists : Bool} {change : Table → Option Table}
    (keeps : ∀ before after : Table, change before = some after → before.IsSound → after.IsSound)
    {key : Key} {entries changed : Table} (sound : entries.IsSound)
    (altered : alterTable intoLists change key entries = some changed) : changed.IsSound := by
  induction key generalizing entries changed with
  | nil => exact keeps entries changed altered sound
  | cons name names ih =>
      rw [Toml.alterTable] at altered
      split at altered
      · rcases Option.map_eq_some_iff.mp altered with ⟨inner, alteredInner, rfl⟩
        exact sound.setEntry name (.branch (ih .nil alteredInner))
      · next inner held =>
        rcases Option.map_eq_some_iff.mp altered with ⟨inner, alteredInner, rfl⟩
        exact sound.setEntry name (.branch (ih (sound.lookup held) alteredInner))
      · split at altered
        · rcases Option.map_eq_some_iff.mp altered with ⟨inner, alteredInner, rfl⟩
          exact sound.setEntry name (.leaf trivial)
        · cases altered
      · cases altered

theorem isSound_of_addEntry {name : String} {value : Toml} (sound : value.toTree.IsSound)
    (before after : Table) (added : Document.addEntry name value before = some after)
    (beforeSound : before.IsSound) : after.IsSound := by
  rw [Document.addEntry] at added
  split at added
  · cases added
    exact beforeSound.setEntry name sound
  · cases added

theorem isSound_of_scanDecimal? {text rest : List Char} {value : Toml}
    (scanned : scanDecimal? text = some (.ok (value, rest))) : value.toTree.IsSound := by
  rw [scanDecimal?] at scanned
  simp only at scanned
  split at scanned
  · cases scanned
  · split at scanned
    · split at scanned
      · cases scanned
      · cases scanned
        exact .leaf trivial
    · cases scanned
      exact .leaf (Binary64.isProper_ofDecimal _ _ _)

theorem isSound_of_scanNamedReal? {text rest : List Char} {value : Toml}
    (scanned : scanNamedReal? text = some (value, rest)) : value.toTree.IsSound := by
  rw [scanNamedReal?] at scanned
  simp only at scanned
  split at scanned
  · cases scanned
    exact .leaf (Binary64.isProper_infinity _)
  · cases scanned
    exact .leaf Binary64.isProper_undefined
  · cases scanned

theorem isSound_of_scanScalar {text rest : List Char} {value : Toml}
    (scanned : scanScalar text = .ok (value, rest)) : value.toTree.IsSound := by
  rw [scanScalar.eq_def] at scanned
  split at scanned
  · cases scanned
    exact .leaf trivial
  · cases scanned
    exact .leaf trivial
  · split at scanned
    · cases scanned
      exact .leaf trivial
    · cases scanned
    · split at scanned
      · cases scanned
        exact .leaf trivial
      · split at scanned
        · cases scanned
          exact .leaf trivial
        · split at scanned
          · next decimal =>
            subst scanned
            exact isSound_of_scanDecimal? decimal
          · split at scanned
            · next named =>
              cases scanned
              exact isSound_of_scanNamedReal? named
            · cases scanned

theorem eq_ok_of_placed {α : Type} {rest : List Char} {result : Except FaultCause α} {value : α}
    (given : placed rest result = .ok value) : result = .ok value := by
  cases result with
  | ok value =>
      cases given
      rfl
  | error cause => cases given

theorem isSound_of_inlineAssign {inline assigned : InlineTable} {key : Key} {value : Toml}
    (sound : inline.entries.IsSound) (valueSound : value.toTree.IsSound)
    (done : inline.assign key value = .ok assigned) : assigned.entries.IsSound := by
  rw [InlineTable.assign] at done
  split at done
  · cases done
  · split at done
    · cases done
    · split at done
      · cases done
      · next altered =>
        cases done
        exact sound.alterTable (isSound_of_addEntry valueSound) altered

/-- What one step of the reader gives: a text, a list, or a table whose pairs are read with the
bound that is left, or else what the scanner of scalars gives. -/
theorem readValue_succ_cases {bound : Nat} {text rest : List Char} {value : Toml}
    (read : readValue (bound + 1) text = .ok (value, rest)) :
    (∃ characters, value = str characters) ∨ (∃ items, value = arr items) ∨ value = table [] ∨
      (∃ entries first, value = table entries ∧
        readPairs bound ⟨[], []⟩ first = .ok (entries, rest)) ∨
      scanScalar text = .ok (value, rest) := by
  rw [readValue.eq_def] at read
  simp only at read
  split at read
  · cases read
    exact .inl ⟨_, rfl⟩
  · cases read
  · right
    split at read
    · left
      split at read
      · cases read
      · cases read
        exact ⟨_, rfl⟩
      · split at read <;> cases read
        exact ⟨_, rfl⟩
    · right
      split at read
      · cases read
        exact .inl rfl
      · split at read <;> cases read
        next readPairs => exact .inr (.inl ⟨_, _, rfl, readPairs⟩)
    · exact .inr (.inr (.inr read))

/-- What one step of the reader of pairs gives: the table with a value added to it that is read
with the bound that is left, and the pairs after it added to that table. -/
theorem readPairs_succ_cases {bound : Nat} {inline : InlineTable} {text rest : List Char}
    {entries : Table} (read : readPairs (bound + 1) inline text = .ok (entries, rest)) :
    ∃ key value start after assigned, readValue bound start = .ok (value, after) ∧
      inline.assign key value = .ok assigned ∧
      (entries = assigned.entries ∨
        ∃ more, readPairs bound assigned more = .ok (entries, rest)) := by
  rw [readPairs.eq_def] at read
  simp only at read
  split at read
  · cases read
  · split at read
    · cases read
    · next readValue =>
      split at read
      · cases read
      · next placed =>
        refine ⟨_, _, _, _, _, readValue, eq_ok_of_placed placed, ?_⟩
        split at read
        · cases read
          exact .inl rfl
        · exact .inr ⟨_, read⟩
        · cases read

/-- Reading gives proper numbers, by induction on the bound of the reader. -/
theorem isSound_of_readValue (bound : Nat) :
    (∀ text value rest, readValue bound text = .ok (value, rest) → value.toTree.IsSound) ∧
      ∀ inline text entries rest, readPairs bound inline text = .ok (entries, rest) →
        inline.entries.IsSound → Table.IsSound entries := by
  induction bound with
  | zero => exact ⟨nofun, nofun⟩
  | succ bound ih =>
      refine ⟨fun text value rest read => ?_, fun inline text entries rest read sound => ?_⟩
      · rcases readValue_succ_cases read with
          ⟨_, rfl⟩ | ⟨_, rfl⟩ | rfl | ⟨entries, first, rfl, readPairs⟩ | scanned
        · exact .leaf trivial
        · exact .leaf trivial
        · exact .branch Tree.AllEntries.nil
        · exact .branch (ih.2 _ _ _ _ readPairs .nil)
        · exact isSound_of_scanScalar scanned
      · rcases readPairs_succ_cases read with
          ⟨key, value, _, _, assigned, readValue, isAssigned, rfl | ⟨more, readMore⟩⟩
        · exact isSound_of_inlineAssign sound (ih.1 _ _ _ readValue) isAssigned
        · exact ih.2 _ _ _ _ readMore
            (isSound_of_inlineAssign sound (ih.1 _ _ _ readValue) isAssigned)

theorem isSound_of_appendItem {name : String} (before after : Table)
    (appended : Document.appendItem name before = some after) (sound : before.IsSound) :
    after.IsSound := by
  rw [Document.appendItem] at appended
  split at appended
  · cases appended
    exact sound.setEntry name (.leaf trivial)
  · cases appended
    exact sound.setEntry name (.leaf trivial)
  · cases appended

theorem isSound_of_declareItem {document later : Document} {key : Key}
    (sound : document.entries.IsSound) (declared : document.declareItem key = .ok later) :
    later.entries.IsSound := by
  rw [Document.declareItem] at declared
  split at declared
  · cases declared
  · split at declared
    · cases declared
    · next altered =>
      cases declared
      exact sound.alterTable isSound_of_appendItem altered

theorem isSound_of_declareTable {document later : Document} {key : Key}
    (sound : document.entries.IsSound) (declared : document.declareTable key = .ok later) :
    later.entries.IsSound := by
  rw [Document.declareTable] at declared
  split at declared
  · cases declared
  · split at declared
    · cases declared
    · next altered =>
      cases declared
      refine sound.alterTable (fun before after same beforeSound => ?_) altered
      cases same
      exact beforeSound

theorem isSound_of_assign {document later : Document} {key : Key} {value : Toml}
    (sound : document.entries.IsSound) (valueSound : value.toTree.IsSound)
    (assigned : document.assign key value = .ok later) : later.entries.IsSound := by
  rw [Document.assign] at assigned
  split at assigned
  · cases assigned
  · split at assigned
    · cases assigned
    · split at assigned
      · cases assigned
      · next altered =>
        cases assigned
        exact sound.alterTable (isSound_of_addEntry valueSound) altered

/-- What a statement does to the document: it declares an item of a list or a table, binds a key
to the value it has read, or leaves the document as it is. -/
theorem readStatement_cases {document later : Document} {text rest : List Char}
    (read : readStatement document text = .ok (later, rest)) :
    (∃ key, document.settled.declareItem key = .ok later) ∨
      (∃ key, document.settled.declareTable key = .ok later) ∨
      (∃ key value bound start, readValue bound start = .ok (value, rest) ∧
        document.assign key value = .ok later) ∨
      later = document := by
  rw [readStatement.eq_def] at read
  split at read
  · left
    split at read
    · cases read
    · split at read <;> cases read
      next placed => exact ⟨_, eq_ok_of_placed placed⟩
  · right; left
    split at read
    · cases read
    · split at read <;> cases read
      next placed => exact ⟨_, eq_ok_of_placed placed⟩
  · cases read
    exact .inr (.inr (.inr rfl))
  · right; right; left
    split at read
    · split at read
      · cases read
      · split at read
        · cases read
        · next readValue =>
          split at read <;> cases read
          next placed => exact ⟨_, _, _, _, readValue, eq_ok_of_placed placed⟩
    · cases read
  · cases read
    exact .inr (.inr (.inr rfl))

/-- A statement adds proper numbers only. -/
theorem isSound_of_readStatement {document later : Document} {text rest : List Char}
    (sound : document.entries.IsSound) (read : readStatement document text = .ok (later, rest)) :
    later.entries.IsSound := by
  have settled : document.settled.entries.IsSound := sound
  rcases readStatement_cases read with
    ⟨key, declared⟩ | ⟨key, declared⟩ | ⟨key, value, bound, start, readValue, assigned⟩ | rfl
  · exact isSound_of_declareItem settled declared
  · exact isSound_of_declareTable settled declared
  · exact isSound_of_assign sound ((isSound_of_readValue bound).1 _ _ _ readValue) assigned
  · exact sound

theorem isSound_of_readStatements {bound : Nat} {document : Document} {text : List Char}
    {entries : Table} (sound : document.entries.IsSound)
    (read : readStatements bound document text = .ok entries) : entries.IsSound := by
  induction bound generalizing document text with
  | zero =>
      cases read
      exact sound
  | succ bound ih =>
      rw [readStatements.eq_def] at read
      simp only at read
      split at read
      · cases read
        exact sound
      · exact ih sound read
      · split at read
        · cases read
        · next readOne =>
          have later := isSound_of_readStatement sound readOne
          split at read
          · cases read
          · cases read
            exact later
          · exact ih later read
          · cases read

theorem isSound_of_read {text : List Char} {entries : Table} (parsed : read text = .ok entries) :
    entries.IsSound :=
  isSound_of_readStatements .nil parsed

end Toml

/-! ## The environment -/

namespace Settings

theorem areSound_singleVariables (sectionName : String) (bindings : Environment) :
    Tree.AreSound (singleVariables sectionName bindings) := by
  have isText (text : String) : (PlainValue.str text).IsSound := trivial
  refine List.foldlRecOn bindings _ .nil fun entries before binding _ => ?_
  rcases binding with ⟨name, value⟩
  cases path : variablePath? sectionName name with
  | none => simpa only [path] using before
  | some names => simpa only [path] using before.insertAt (isText value) _ _

theorem areSound_matchNames (sectionName : String) {entries : SettingsTree}
    (sound : Tree.AreSound entries) : Tree.AreSound (matchNames sectionName entries) :=
  List.foldlRecOn entries _ .nil fun _ before entry mem => before.setEntry _ (sound entry mem)

theorem isSound_of_sectionOf {sectionName : String} {bindings : Environment}
    {tree : Tree PlainValue} (read : sectionOf sectionName bindings = .ok (some tree)) :
    tree.IsSound := by
  have single := areSound_singleVariables sectionName bindings
  rw [sectionOf] at read
  split at read
  · split at read
    · cases read
    · cases read
      exact .branch (areSound_matchNames sectionName single)
  · split at read
    · cases read
    · cases read
    · next parsed =>
      cases read
      have given := (Json.isSound_of_parse parsed).entries
      exact .branch (areSound_matchNames sectionName (given.mergeEntries single))
    · next parsed =>
      cases read
      exact Json.isSound_of_parse parsed

theorem areSound_of_ofEnvironment {environment : Environment} {bindings : SettingsTree}
    (read : ofEnvironment environment = .ok bindings) : Tree.AreSound bindings := by
  rw [ofEnvironment] at read
  split at read
  · cases read
  · next api readApi =>
    split at read
    · cases read
    · next log readLog =>
      cases read
      refine Tree.AllEntries.append ?_ ?_
      · cases api with
        | none => exact .nil
        | some tree => exact .singleton (isSound_of_sectionOf readApi)
      · cases log with
        | none => exact .nil
        | some tree => exact .singleton (isSound_of_sectionOf readLog)

theorem areSound_nameSections {given : SettingsTree} (sound : Tree.AreSound given) :
    Tree.AreSound (nameSections given) := by
  refine Tree.AllEntries.append (fun entry mem => ?_) (sound.filter _)
  rcases List.mem_filterMap.mp mem with ⟨name, _, found⟩
  rcases Option.map_eq_some_iff.mp found with ⟨tree, isGiven, rfl⟩
  rw [givenSection?, Option.or_eq_some_iff] at isGiven
  rcases isGiven with held | ⟨_, inOtherCase⟩
  · exact sound.lookup held
  · rcases Option.map_eq_some_iff.mp inOtherCase with ⟨entry, isEntry, rfl⟩
    exact sound entry (List.mem_of_find?_eq_some isEntry)

/-! ## Settings -/

theorem isProper_readSetting {sectionName name : String} {default : Binary64}
    (isProper : default.IsProper) {entries : SettingsTree} (sound : Tree.AreSound entries) :
    (readSetting PlainValue.toReal? sectionName name default entries).2.IsProper := by
  rw [readSetting]
  split
  · exact isProper
  · next value held =>
    cases sound.lookup held with
    | leaf valueSound =>
        split
        · next read => exact PlainValue.isProper_of_toReal? valueSound read
        · exact isProper
  · exact isProper

theorem isProper_timeout_default : ApiSettings.default.timeout.IsProper :=
  Binary64.isProper_ofInt 10

theorem isProper_timeout_of_ofEntries {entries : SettingsTree} (sound : Tree.AreSound entries)
    {settings : Settings} (read : ofEntries entries = .ok settings) :
    settings.api.timeout.IsProper := by
  have isApi : settings.api = (readApi (entries.lookup "api")).2 := by
    rw [ofEntries_eq] at read
    split at read
    · cases read
      rfl
    · cases read
  rw [isApi]
  cases held : entries.lookup "api" with
  | none => exact isProper_timeout_default
  | some tree =>
      cases tree with
      | leaf value => exact isProper_timeout_default
      | branch inner =>
          exact isProper_readSetting isProper_timeout_default (sound.lookup held).entries

theorem isProper_timeout_of_assemble {environment : Environment} {given : SettingsTree}
    (sound : Tree.AreSound given) {settings : Settings}
    (assembled : assemble environment given = .ok settings) : settings.api.timeout.IsProper := by
  rw [assemble] at assembled
  split at assembled
  · cases assembled
  · next bindings read =>
    have merged := (areSound_of_ofEnvironment read).mergeEntries (areSound_nameSections sound)
    exact isProper_timeout_of_ofEntries merged assembled

theorem areSound_toEntries {settings : Settings} (isProper : settings.api.timeout.IsProper) :
    Tree.AreSound settings.toEntries := by
  have isText (text : String) : (Tree.leaf (PlainValue.str text)).IsSound := .leaf trivial
  have isNumber : (Tree.leaf (.real settings.api.timeout)).IsSound := .leaf isProper
  have isSwitch : (Tree.leaf (.bool settings.log.toFile)).IsSound := .leaf trivial
  refine .cons (.branch ?_) (.singleton (.branch ?_))
  · exact Tree.AllEntries.cons (isText _) (.cons (isText _) (.singleton isNumber))
  · exact Tree.AllEntries.cons (isText _) (.cons (isText _) (.singleton isSwitch))

/-- Where settings are loaded, they are assembled from the environment and given values. -/
theorem exists_assemble_of_load {environment : Environment} {path : List Char}
    {file : Option (List UInt8)} {settings : Settings}
    (loads : (load environment path file).1 = .ok settings) :
    ∃ given, Tree.AreSound given ∧ assemble environment given = .ok settings := by
  have alone (assembled : assemble environment [] = .ok settings) :
      ∃ given, Tree.AreSound given ∧ assemble environment given = .ok settings :=
    ⟨[], .nil, assembled⟩
  rw [load.eq_def] at loads
  split at loads
  · exact alone loads
  · split at loads
    · cases loads
    · split at loads
      · next entries parsed =>
        rw [ofDocument] at loads
        split at loads
        · next assembled =>
          cases loads
          have below : Tree.AreSound Settings.default.toEntries :=
            areSound_toEntries isProper_timeout_default
          exact ⟨_, below.mergeEntries (Toml.isSound_of_read parsed), assembled⟩
        · exact alone loads
        · cases loads
      · split at loads
        · cases loads
        · exact alone loads

/-- The time to wait that is loaded is a proper number. -/
theorem isProper_timeout_of_load {environment : Environment} {path : List Char}
    {file : Option (List UInt8)} {settings : Settings}
    (loads : (load environment path file).1 = .ok settings) :
    settings.api.timeout.IsProper := by
  rcases exists_assemble_of_load loads with ⟨given, sound, assembled⟩
  exact isProper_timeout_of_assemble sound assembled

end Settings

end Rulebook
