import TagTimeline.Proofs.Tag.Masking

/-!
# Writing Back What Was Read

What an edit of a tag does that is made on the row that a reader sees. Overwriting a tag trusts
every field that it is given, the recommendation included, and a reader sees the recommendation
masked. So a row that is written back restores every column exactly if the mask hid nothing, that
is, if the setting is on or the tag was not recommended; else the recommendation is lost.

## Main results

* `TagRead.updateTag_of_mem_answer` — the outcome of an edit of a row as it was read, and the exact
  condition under which it changes nothing else.
* `TagRead.updateTag_loses_recommend` — an edit that loses a recommendation.
-/

namespace TagTimeline

open Time

/-- **An edit of a tag**: another display name, other texts, another revision, or any of them. -/
structure TagEdit where
  displayName : Option String := none
  originalText : Option String := none
  parsedText : Option String := none
  revisionId : Option String := none

namespace TagEdit

/-- The tag with an edit made. -/
def apply (edit : TagEdit) (tag : Tag) : Tag :=
  { tag with
    displayName := edit.displayName.getD tag.displayName
    originalText := edit.originalText.getD tag.originalText
    parsedText := edit.parsedText.getD tag.parsedText
    revisionId := edit.revisionId.getD tag.revisionId }

end TagEdit

namespace TagRead

/-- **Writing back an edited row.** A row that any read answers in any reachable store can be
written back with an edit; nothing but its own tag is changed, and of that nothing but what the
edit says, the time, and the recommendation, which becomes the one that was shown. So the
recommendation stays as it was stored, and with it every column but the time that the edit does not
name, exactly if the setting is on or the tag was not recommended. -/
theorem updateTag_of_mem_answer {operations : List Operation} {read : TagRead}
    {source : SettingSource} {answer : TagAnswer} {row : Tag}
    (hanswer : read.answer source (Store.after operations) = .ok answer)
    (hrow : row ∈ answer.rows) (edit : TagEdit) (now : Timestamp) :
    ∃ stored kept s', (Store.after operations).tag? row.id = some stored ∧
      Catalog.updateTag (edit.apply row) now (Store.after operations) = (.ok kept, s') ∧
      (∀ id, s'.tag? id = if id = row.id then some kept else (Store.after operations).tag? id) ∧
      kept = edit.apply
        { stored with
          recommend := stored.recommend && source.current operations
          updatedAt := now } ∧
      (kept.recommend = stored.recommend ↔
        source.current operations = true ∨ stored.recommend = false) ∧
      (kept = edit.apply { stored with updatedAt := now } ↔
        source.current operations = true ∨ stored.recommend = false) := by
  obtain ⟨rows, hrows, hconsistent⟩ := (Store.isSound_after operations).tags
  obtain ⟨stored, hmem, rfl⟩ := exists_stored_of_mem_answer hrows hanswer hrow
  rw [SettingSource.effective_after, Tag.masked_eq]
  have hstored : (Store.after operations).tag? stored.id = some stored := by
    rw [Store.tag?, hrows, Option.bind_some]
    exact hconsistent.find?_eq hmem
  set shown : Tag :=
    { stored with recommend := stored.recommend && source.current operations } with hshown
  have hlink : (edit.apply shown).HasUsableLink := hconsistent.links stored hmem
  obtain ⟨s', hupdate, hfound⟩ := Store.updateTag_of_tag? ⟨rows, hrows, hconsistent⟩
    (edit.apply shown) hstored rfl now
  rw [Tag.overwriting, hlink.withUsableLink_eq] at hupdate hfound
  have hflag : (stored.recommend && source.current operations) = stored.recommend ↔
      source.current operations = true ∨ stored.recommend = false := by
    cases stored.recommend <;> cases source.current operations <;> decide
  refine ⟨stored, _, s', hstored, hupdate, hfound, rfl, hflag, ⟨fun hkept => ?_, fun hsame => ?_⟩⟩
  · exact hflag.mp (congrArg Tag.recommend hkept)
  · rw [hshown, hflag.mpr hsame]
    rfl

/-- A recommended tag, and nothing about the setting. -/
def recommendedOnly : List Operation :=
  [.tag (.addTags ["t1"] .epoch [⟨"rust", "Rust", "", "", true, false⟩])]

/-- The recommended tag as it is stored. -/
def recommendedTag : Tag := NewTag.toTag ⟨"rust", "Rust", "", "", true, false⟩ "t1" .epoch

/-- While the site requires tags, a tag can be given another name and stays recommended. -/
theorem updateTag_of_mem_answer_required :
    ∃ stored kept s',
      (Store.after (recommendedOnly ++ [.setRequiredTag true .epoch .epoch])).tag? "t1" =
        some stored ∧
      Catalog.updateTag { recommendedTag with displayName := "Rust language" } .epoch
        (Store.after (recommendedOnly ++ [.setRequiredTag true .epoch .epoch])) = (.ok kept, s') ∧
      kept.recommend = stored.recommend := by
  obtain ⟨stored, kept, s', hstored, hupdate, -, -, hrecommend, -⟩ :=
    @updateTag_of_mem_answer (recommendedOnly ++ [.setRequiredTag true .epoch .epoch])
      (.tagBySlugName "rust") .stored (.one recommendedTag) recommendedTag rfl
      List.mem_cons_self { displayName := some "Rust language" } .epoch
  exact ⟨stored, kept, s', hstored, hupdate, hrecommend.mpr (.inl rfl)⟩

/-- **A recommendation is lost.** While the site does not require tags, writing a recommended tag
back as it was read leaves it without its recommendation. -/
theorem updateTag_loses_recommend :
    ¬ ∀ (operations : List Operation) (read : TagRead) (source : SettingSource)
        (answer : TagAnswer) (row : Tag) (edit : TagEdit) (now : Timestamp),
      read.answer source (Store.after operations) = .ok answer → row ∈ answer.rows →
        ((Catalog.updateTag (edit.apply row) now (Store.after operations)).2.tag? row.id).map
            Tag.recommend =
          ((Store.after operations).tag? row.id).map Tag.recommend := by
  intro h
  have hkept := h recommendedOnly (.tag "t1") (.fixed false)
    (.one { recommendedTag with recommend := false }) { recommendedTag with recommend := false } {}
    .epoch rfl List.mem_cons_self
  revert hkept
  decide

end TagRead

end TagTimeline
