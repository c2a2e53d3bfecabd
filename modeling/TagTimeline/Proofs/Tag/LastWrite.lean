import TagTimeline.Proofs.Tag.CatalogWriting

/-!
# The Last Write of a Column

Where the value of a stored column comes from. An operation of the catalog selects tags by id or by
the slug names that they have at that moment, and writes some of their columns; overwriting a tag
writes all of them and may rename it, so that later operations by slug name meet other tags. After
any run of operations every column of a stored tag holds what the last successful operation that
wrote it had written, or what the tag was made with.

## Main results

* `CatalogWrite.written` — which columns of which tags an operation writes, and with what.
* `CatalogWrite.column_eq_lastWritten` — every column is explained by its last write.
-/

namespace TagTimeline

open Time

/-! ### Columns -/

/-- **A column of the tag table** besides the id. -/
inductive TagColumn where
  | slugName
  | displayName
  | originalText
  | parsedText
  | mainTagId
  | mainTagSlugName
  | recommend
  | reserved
  | status
  | followCount
  | questionCount
  | revisionId
  | createdAt
  | updatedAt
  deriving DecidableEq

/-- What a column holds. -/
abbrev TagColumn.Value : TagColumn → Type
  | slugName | displayName | originalText | parsedText | revisionId => String
  | mainTagId | mainTagSlugName => Option String
  | recommend | reserved => Bool
  | status => TagStatus
  | followCount | questionCount => Int32
  | createdAt | updatedAt => Timestamp

/-- The value of a tag in a column. -/
def Tag.column (tag : Tag) : (column : TagColumn) → column.Value
  | .slugName => tag.slugName
  | .displayName => tag.displayName
  | .originalText => tag.originalText
  | .parsedText => tag.parsedText
  | .mainTagId => tag.mainTagId
  | .mainTagSlugName => tag.mainTagSlugName
  | .recommend => tag.recommend
  | .reserved => tag.reserved
  | .status => tag.status
  | .followCount => tag.followCount
  | .questionCount => tag.questionCount
  | .revisionId => tag.revisionId
  | .createdAt => tag.createdAt
  | .updatedAt => tag.updatedAt

namespace CatalogWrite

/-- What an operation makes of a row if it succeeds. -/
def change (write : CatalogWrite) (row : Tag) : Tag :=
  (write.onStore?.map fun stored => stored.change row).getD row

/-! ### What is written -/

/-- The link that is stored for a main tag: none at all, in both columns, if there is no main tag
or its id is empty or `0`. -/
def storedLink : Option String → Option String → Option String × Option String
  | none, _ => (none, none)
  | some id, name => if id = "" ∨ id = "0" then (none, none) else (some id, name)

/-- What overwriting a row writes into a column, if it is this row. -/
def overwritten {α : Type} (write : CatalogWrite) (row : Tag) (column : Tag → α) : Option α :=
  match write with
  | updateTag tag _ => if row.id = tag.id then some (column tag) else none
  | _ => none

/-- **What a successful operation writes into a column of a row**, the row as it is at that moment;
nothing if the operation does not write this column of this row. -/
def written (write : CatalogWrite) (row : Tag) : (column : TagColumn) → Option column.Value
  | .status =>
      match write with
      | removeTag id _ => if row.id = id then some TagStatus.deleted else none
      | write => write.overwritten row Tag.status
  | .questionCount =>
      match write with
      | updateQuestionCount id count => if row.id = id then some count else none
      | write => write.overwritten row Tag.questionCount
  | .mainTagId =>
      match write with
      | updateSynonyms names mainTag =>
          if row.slugName ∈ names then
            some (storedLink (mainTag.map Tag.id) (mainTag.map Tag.slugName)).1
          else none
      | write => write.overwritten row fun tag =>
          (storedLink tag.mainTagId tag.mainTagSlugName).1
  | .mainTagSlugName =>
      match write with
      | updateSynonyms names mainTag =>
          if row.slugName ∈ names then
            some (storedLink (mainTag.map Tag.id) (mainTag.map Tag.slugName)).2
          else none
      | write => write.overwritten row fun tag =>
          (storedLink tag.mainTagId tag.mainTagSlugName).2
  | .recommend =>
      match write with
      | updateAttribute names flagName value =>
          if flagName = "recommend" ∧ row.slugName ∈ names then some value else none
      | write => write.overwritten row Tag.recommend
  | .reserved =>
      match write with
      | updateAttribute names flagName value =>
          if flagName = "reserved" ∧ row.slugName ∈ names then some value else none
      | write => write.overwritten row Tag.reserved
  | .updatedAt =>
      match write with
      | removeTag id now => if row.id = id then some now else none
      | updateTag tag now => if row.id = tag.id then some now else none
      | _ => none
  | .slugName => write.overwritten row Tag.slugName
  | .displayName => write.overwritten row Tag.displayName
  | .originalText => write.overwritten row Tag.originalText
  | .parsedText => write.overwritten row Tag.parsedText
  | .followCount => write.overwritten row Tag.followCount
  | .revisionId => write.overwritten row Tag.revisionId
  | .createdAt => write.overwritten row Tag.createdAt

/-- The link that is stored is the one that leads somewhere. -/
theorem storedLink_eq (id name : Option String) :
    storedLink id name =
      (Tag.linkTarget? id, if (Tag.linkTarget? id).isSome then name else none) := by
  cases id with
  | none => rfl
  | some id =>
      by_cases hid : id = "" ∨ id = "0"
      · have htarget : Tag.linkTarget? (some id) = none := by
          rcases hid with rfl | rfl <;> rfl
        simp [storedLink, hid, htarget]
      · have htarget : Tag.linkTarget? (some id) = some id :=
          Tag.linkTarget?_eq_some.mpr ⟨rfl, not_or.mp hid⟩
        simp [storedLink, hid, htarget]

/-- What is stored of a tag that is overwritten: all of it except the link that is stored and the
time. -/
theorem overwriting_eq (tag : Tag) (now : Timestamp) :
    tag.overwriting now =
      { tag with
        mainTagId := (storedLink tag.mainTagId tag.mainTagSlugName).1
        mainTagSlugName := (storedLink tag.mainTagId tag.mainTagSlugName).2
        updatedAt := now } := by
  rw [Tag.overwriting, Tag.withUsableLink]
  cases htarget : Tag.linkTarget? tag.mainTagId with
  | none => simp [storedLink_eq, htarget]
  | some id =>
      have hid := (Tag.linkTarget?_eq_some.mp htarget).1
      rw [hid] at htarget
      simp [storedLink_eq, htarget, hid]

/-- An operation that overwrites another row, or none, writes no column by that. -/
theorem written_updateTag_of_ne {tag row : Tag} {now : Timestamp} (h : row.id ≠ tag.id)
    (column : TagColumn) : (updateTag tag now).written row column = none := by
  cases column <;> simp [written, overwritten, h]

/-- Overwriting a row writes every column of it. -/
theorem written_updateTag_of_eq {tag row : Tag} {now : Timestamp} (h : row.id = tag.id)
    (column : TagColumn) :
    (updateTag tag now).written row column = some ((tag.overwriting now).column column) := by
  rw [overwriting_eq]
  cases column <;> simp [written, overwritten, h, Tag.column]

/-- Deleting a tag changes its status and time. -/
theorem change_removeTag (id : String) (now : Timestamp) (row : Tag) :
    (removeTag id now).change row =
      if row.id = id then { row with status := .deleted, updatedAt := now } else row := by
  simp [change, onStore?, TagWrite.change]

/-- Overwriting a tag exchanges it for what is stored of the other. -/
theorem change_updateTag (tag : Tag) (now : Timestamp) (row : Tag) :
    (updateTag tag now).change row = if row.id = tag.id then tag.overwriting now else row := by
  simp [change, onStore?, TagWrite.change]

/-- Setting the number of a tag's questions changes nothing else. -/
theorem change_updateQuestionCount (id : String) (count : Int32) (row : Tag) :
    (updateQuestionCount id count).change row =
      if row.id = id then { row with questionCount := count } else row := by
  simp [change, onStore?, TagWrite.change]

/-- Linking tags writes both parts of the link that is stored. -/
theorem change_updateSynonyms (names : List String) (mainTag : Option Tag) (row : Tag) :
    (updateSynonyms names mainTag).change row =
      if row.slugName ∈ names then
        { row with
          mainTagId := (storedLink (mainTag.map Tag.id) (mainTag.map Tag.slugName)).1
          mainTagSlugName := (storedLink (mainTag.map Tag.id) (mainTag.map Tag.slugName)).2 }
      else row := by
  simp [change, onStore?, TagWrite.change, storedLink_eq]

/-- Setting a flag by its name changes the flag with that name, if there is one. -/
theorem change_updateAttribute (names : List String) (flagName : String) (value : Bool)
    (row : Tag) :
    (updateAttribute names flagName value).change row =
      if row.slugName ∈ names then
        { row with
          recommend := if flagName = "recommend" then value else row.recommend
          reserved := if flagName = "reserved" then value else row.reserved }
      else row := by
  by_cases hname : row.slugName ∈ names
  · rw [if_pos hname]
    by_cases hrecommend : flagName = "recommend"
    · simp [change, onStore?, TagWrite.change, TagAttribute.ofName?, TagAttribute.set, hname,
        hrecommend]
    · by_cases hreserved : flagName = "reserved" <;>
        simp [change, onStore?, TagWrite.change, TagAttribute.ofName?, TagAttribute.set, hname,
          hrecommend, hreserved]
  · rw [if_neg hname]
    cases hflag : TagAttribute.ofName? flagName <;>
      simp [change, onStore?, TagWrite.change, hname, hflag]

/-- **What is written is what a row holds behind an operation**, column by column. -/
theorem column_change (write : CatalogWrite) (row : Tag) (column : TagColumn) :
    (write.change row).column column = (write.written row column).getD (row.column column) := by
  cases write with
  | addTags => cases column <;> rfl
  | removeTag id now =>
      rw [change_removeTag]
      by_cases hid : row.id = id <;> cases column <;> simp [written, overwritten, Tag.column, hid]
  | updateTag tag now =>
      rw [change_updateTag]
      by_cases hid : row.id = tag.id
      · rw [if_pos hid, written_updateTag_of_eq hid]
        rfl
      · rw [if_neg hid, written_updateTag_of_ne hid]
        rfl
  | updateQuestionCount id count =>
      rw [change_updateQuestionCount]
      by_cases hid : row.id = id <;> cases column <;> simp [written, overwritten, Tag.column, hid]
  | updateSynonyms names mainTag =>
      rw [change_updateSynonyms]
      by_cases hname : row.slugName ∈ names <;> cases column <;>
        simp [written, overwritten, Tag.column, hname]
  | updateAttribute names flagName value =>
      rw [change_updateAttribute]
      by_cases hname : row.slugName ∈ names
      · by_cases hrecommend : flagName = "recommend"
        · cases column <;> simp [written, overwritten, Tag.column, hname, hrecommend]
        · by_cases hreserved : flagName = "reserved" <;> cases column <;>
            simp [written, overwritten, Tag.column, hname, hrecommend, hreserved]
      · cases column <;> simp [written, overwritten, Tag.column, hname]

/-! ### Runs -/

/-- **The moments of a run**: its operations, each with the store that it meets. -/
def moments : List CatalogWrite → Store → List (CatalogWrite × Store)
  | [], _ => []
  | write :: more, s => (write, s) :: moments more (write.run s).2

/-- What one moment writes into a column of the tag under an id: nothing if the operation fails. -/
def writtenAt (id : String) (column : TagColumn) (moment : CatalogWrite × Store) :
    Option column.Value :=
  match (moment.1.run moment.2).1 with
  | .ok _ => (moment.2.tag? id).bind fun row => moment.1.written row column
  | .error _ => none

/-- **The last value** that a run writes into a column of the tag under an id. -/
def lastWritten (id : String) (column : TagColumn) (history : List (CatalogWrite × Store)) :
    Option column.Value :=
  (history.filterMap (writtenAt id column)).getLast?

/-- The last value of a run is that of the moments behind the first, or else that of the first. -/
theorem lastWritten_cons (id : String) (column : TagColumn) (moment : CatalogWrite × Store)
    (history : List (CatalogWrite × Store)) :
    lastWritten id column (moment :: history) =
      (lastWritten id column history).or (writtenAt id column moment) := by
  rw [lastWritten, lastWritten]
  cases hfirst : writtenAt id column moment with
  | none => rw [List.filterMap_cons_none hfirst, Option.or_none]
  | some value =>
      rw [List.filterMap_cons_some hfirst, List.getLast?_cons]
      cases (history.filterMap (writtenAt id column)).getLast? <;> rfl

variable {s : Store}

/-- **What one operation makes of a stored tag**: it stays under its id, and each column holds what
the operation wrote into it, or else what it held. -/
theorem tag?_run {id : String} {row : Tag} (h : s.tag? id = some row) (write : CatalogWrite) :
    ∃ row', (write.run s).2.tag? id = some row' ∧ ∀ column,
      row'.column column = (writtenAt id column (write, s)).getD (row.column column) := by
  cases hstored : write.onStore? with
  | none =>
      have hrun : write.run s = (.ok (), s) := by rw [run_eq, hstored]
      have hchange : write.change row = row := by rw [change, hstored]; rfl
      refine ⟨row, by rw [hrun, h], fun column => ?_⟩
      rw [writtenAt, hrun]
      simp only [h, Option.bind_some]
      rw [← column_change, hchange]
  | some stored =>
      have hrun : write.run s = stored.run s := by rw [run_eq, hstored]
      have hchange : write.change row = stored.change row := by rw [change, hstored]; rfl
      refine ⟨_, by rw [hrun, stored.tag?_run h], fun column => ?_⟩
      rw [writtenAt, hrun]
      cases (stored.run s).1 with
      | error e => rfl
      | ok answer =>
          simp only [h, Option.bind_some]
          rw [← column_change, hchange]
          rfl

/-- **What a run makes of a stored tag**: it stays under its id, and each column holds the last
value that was written into it, or else what it held at the beginning. -/
theorem tag?_runAll {id : String} {row : Tag} (h : s.tag? id = some row)
    (writes : List CatalogWrite) :
    ∃ row', (runAll writes s).tag? id = some row' ∧ ∀ column,
      row'.column column =
        (lastWritten id column (moments writes s)).getD (row.column column) := by
  induction writes generalizing s row with
  | nil => exact ⟨row, h, fun column => rfl⟩
  | cons write more ih =>
      obtain ⟨row₁, h₁, hcolumns₁⟩ := tag?_run h write
      obtain ⟨row₂, h₂, hcolumns₂⟩ := ih h₁
      refine ⟨row₂, h₂, fun column => ?_⟩
      rw [hcolumns₂, hcolumns₁, moments, lastWritten_cons, Option.getD_or]

/-- **Every column is explained by its last write.** A tag that is added at any moment is, behind
whatever follows, the only one stored under its id, and each column holds the last value that a
successful operation wrote into it since, or else what the tag was made with. -/
theorem column_eq_lastWritten {before after : List CatalogWrite} {ids : List String}
    {now : Timestamp} {new : List NewTag} {tags : List Tag} {tag : Tag}
    (hadd : Catalog.addTags ids now new (runAll before Store.fresh) = (.ok tags, s))
    (htag : tag ∈ tags) :
    ∃ rows row, (runAll after s).rows? Tag = some rows ∧
      (rows.filter fun t => t.id = tag.id) = [row] ∧
      ∀ column, row.column column =
        (lastWritten tag.id column (moments after s)).getD (tag.column column) := by
  have hbefore := hasConsistentTags_runAll Store.hasConsistentTags_fresh before
  have hs : s.HasConsistentTags := Store.hasConsistentTags_addTags hbefore hadd
  have hstored : s.tag? tag.id = some tag := Store.tag?_addTags hbefore hadd htag
  obtain ⟨row, hrow, hcolumns⟩ := tag?_runAll hstored after
  obtain ⟨rows, hrows, hfilter⟩ := Store.filter_eq_of_tag? (hasConsistentTags_runAll hs after) hrow
  exact ⟨rows, row, hrows, hfilter, hcolumns⟩

/-- Two new tags. -/
def rustAndGo : List NewTag :=
  [⟨"rust", "Rust", "", "", false, false⟩, ⟨"go", "Go", "", "", false, false⟩]

/-- The first of the two as it is stored. -/
def rust : Tag := NewTag.toTag ⟨"rust", "Rust", "", "", false, false⟩ "t1" .epoch

/-- The second of the two as it is stored. -/
def go : Tag := NewTag.toTag ⟨"go", "Go", "", "", false, false⟩ "t2" .epoch

/-- A tag is recommended under its first name, cannot take the name of the other, gets a second
name, and is linked under that name; what is asked for under the first name then meets no tag. -/
def renameAndLink : List CatalogWrite :=
  [updateAttribute ["rust"] "recommend" true,
    updateTag { rust with slugName := "go" } .epoch,
    updateTag { rust with slugName := "crab", recommend := true, mainTagId := some "0" } .epoch,
    updateAttribute ["rust"] "recommend" false,
    updateSynonyms ["crab"] (some go)]

/-- The name of the tag is its second one, and neither the name that it could not take nor what was
asked for under the first name later is seen in it. -/
theorem column_eq_lastWritten_renamed :
    ∃ rows row,
      (runAll (addTags ["t1", "t2"] .epoch rustAndGo :: renameAndLink) Store.fresh).rows? Tag =
        some rows ∧
      (rows.filter fun t => t.id = "t1") = [row] ∧
      row.slugName = "crab" ∧ row.recommend = true ∧ row.mainTagSlugName = some "go" := by
  obtain ⟨rows, row, hrows, hfilter, hcolumns⟩ :=
    @column_eq_lastWritten ((addTags ["t1", "t2"] .epoch rustAndGo).run Store.fresh).2 []
      renameAndLink ["t1", "t2"] .epoch rustAndGo [rust, go] rust rfl List.mem_cons_self
  exact ⟨rows, row, hrows, hfilter, (hcolumns .slugName).trans (by decide),
    (hcolumns .recommend).trans (by decide), (hcolumns .mainTagSlugName).trans (by decide)⟩

end CatalogWrite

end TagTimeline
