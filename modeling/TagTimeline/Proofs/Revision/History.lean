import Mathlib
import TagTimeline.Proofs.Keys
import TagTimeline.Proofs.StableSort
import TagTimeline.Proofs.Store.Call
import TagTimeline.Proofs.Time.Order

/-!
# The History of Objects Only Grows

What runs make of the revisions. One operation writes them: it puts the revision that it answers
behind those that are stored, unless its id is taken. Nothing changes a revision and nothing erases
one, so at every moment the table holds the revisions that have been answered so far, in the order
in which they were created.

All that clients read follows from that list. Ids tell revisions of the same time apart, so the
history of an object has one order whatever the clocks read, and a revision that is created later
takes its place in it without moving any other.

## Main results

* `Call.rows?_revision_run` — what a call does to the revisions.
* `Store.keepsRevisions_of_rows?` — what is read of a table of revisions.
* `Store.revisionsKept_afterCalls` — the revisions in every run.
-/

namespace TagTimeline

open Time

namespace Revision

variable {rows : List Revision}

/-- Two revisions clash exactly if they have the same id. -/
theorem clash?_eq_none_iff {new old : Revision} : clash? new old = none ↔ old.id ≠ new.id := by
  rw [clash?]
  by_cases hid : old.id = new.id <;> simp [hid]

/-- `notAfter` is transitive. -/
theorem notAfter_trans (a b c : Revision) (hab : notAfter a b = true)
    (hbc : notAfter b c = true) : notAfter a c = true :=
  Timestamp.orderedWith_trans hab hbc

/-- Of two revisions one does not come after the other. -/
theorem notAfter_total (a b : Revision) : (notAfter a b || notAfter b a) = true :=
  Timestamp.orderedWith_total _ _ _ _

/-- **The order of a history**: by time as times are stored, and by id among the same time, so that
no two revisions have the same place. -/
def Precedes (a b : Revision) : Prop :=
  a.createdAt.notAfter b.createdAt = true ∧
    (b.createdAt.notAfter a.createdAt = true → a.id < b.id)

/-- The order by instant, and by id among the same instant. -/
def PrecedesInTime (a b : Revision) : Prop :=
  a.createdAt.notLater b.createdAt = true ∧
    (b.createdAt.notLater a.createdAt = true → a.id < b.id)

/-- The history of an object has the revisions of the object. -/
theorem ofObject_perm (objectId : String) (rows : List Revision) :
    (ofObject objectId rows).Perm (rows.filter fun r => r.objectId = objectId) := by
  have hkept : (rows.filter fun r => r.objectId == objectId) =
      rows.filter fun r => r.objectId = objectId :=
    List.filter_congr fun r _ => rfl
  rw [ofObject, hkept]
  exact List.mergeSort_perm _ _

/-- **Revisions with ids of their own are in the order of the history.** -/
theorem pairwise_ofObject (hids : (rows.map Revision.id).Nodup) (objectId : String) :
    (ofObject objectId rows).Pairwise Precedes := by
  have hsorted := Sorting.pairwise_mergeSort_distinct notAfter_trans notAfter_total
    (hids.sublist ((List.filter_sublist (p := fun r => r.objectId == objectId)).map Revision.id))
  refine hsorted.imp fun {a b} h => ?_
  obtain ⟨hbefore, htie⟩ := Timestamp.orderedWith_iff.mp h.1
  refine ⟨hbefore, fun hsame => ?_⟩
  by_contra hlt
  exact h.2 (String.le_antisymm (htie hsame) (String.not_lt.mp hlt))

/-- Where times have one offset the order of a history is that of instants. -/
theorem precedesInTime_of_precedes {a b : Revision} {offset : Int}
    (ha : a.createdAt.IsPlainAt offset) (hb : b.createdAt.IsPlainAt offset) (h : Precedes a b) :
    PrecedesInTime a b := by
  rw [PrecedesInTime, ← Timestamp.notAfter_eq_notLater ha hb,
    ← Timestamp.notAfter_eq_notLater hb ha]
  exact h

/-- **More revisions move none of a history**: it is part of theirs, in its order. -/
theorem ofObject_sublist (objectId : String) (rows more : List Revision) :
    (ofObject objectId rows).Sublist (ofObject objectId (rows ++ more)) :=
  Sorting.sublist_mergeSort notAfter_trans notAfter_total
    ((List.sublist_append_left rows more).filter _)

end Revision

namespace Store

variable {s : Store} {rows : List Revision}

/-- **A revision is stored** exactly if no other has its id, and is then the last. -/
theorem createRevision_eq (h : s.rows? Revision = some rows) (id : String) (now : Timestamp)
    (new : NewRevision) :
    ((∀ r ∈ rows, r.id ≠ id) ∧ s.createRevision id now new =
      (.ok (new.toRevision id now), s.withRows (rows ++ [new.toRevision id now]))) ∨
    ((∃ r ∈ rows, r.id = id) ∧ ∃ e, s.createRevision id now new = (.error e, s)) := by
  simp only [createRevision]
  rcases write_insert h "insert revision" Revision.clash? (new.toRevision id now) with
    ⟨hfree, hinsert⟩ | ⟨⟨r, hr, hclash⟩, failure, hinsert⟩
  · exact .inl ⟨fun r hr => Revision.clash?_eq_none_iff.mp (hfree r hr), hinsert⟩
  · refine .inr ⟨⟨r, hr, ?_⟩, _, hinsert⟩
    by_contra hid
    exact hclash (Revision.clash?_eq_none_iff.mpr hid)

/-- **That created revisions are kept**, as clients see it: each of them is found as it was created,
and the history of an object lists those of the object in its order. -/
structure KeepsRevisions (s : Store) (created : List Revision) : Prop where
  found : ∀ r ∈ created, s.findRevision r.id = .ok (some r) ∧ s.getRevision r.id = .ok r
  /-- An id under which nothing was created leads nowhere. -/
  absent : ∀ id, (∀ r ∈ created, r.id ≠ id) →
    s.findRevision id = .ok none ∧ s.getRevision id = .error (.revisionNotFound id)
  listed : ∀ objectId, ∃ history, s.revisionsOf objectId = .ok history ∧
    history.Perm (created.filter fun r => r.objectId = objectId) ∧ history.Nodup ∧
    history.Pairwise Revision.Precedes ∧
    ∀ offset, (∀ r ∈ created, r.createdAt.IsPlainAt offset) →
      history.Pairwise Revision.PrecedesInTime
  /-- A revision is in the history of one object. -/
  own : ∀ r ∈ created, ∀ objectId history, s.revisionsOf objectId = .ok history →
    (r ∈ history ↔ objectId = r.objectId)
  /-- A new id makes the revision that is asked for. -/
  made : ∀ id now new, (∀ r ∈ created, r.id ≠ id) →
    ∃ s', s.createRevision id now new = (.ok (new.toRevision id now), s')
  refused : ∀ r ∈ created, ∀ now new, ∃ e, s.createRevision r.id now new = (.error e, s)

/-- The history of an object is read from the table. -/
theorem revisionsOf_eq (h : s.rows? Revision = some rows) (objectId : String) :
    s.revisionsOf objectId = .ok (Revision.ofObject objectId rows) :=
  select_ok_iff.mpr ⟨rows, h, rfl⟩

/-- A revision is looked up in the table. -/
theorem findRevision_eq (h : s.rows? Revision = some rows) (id : String) :
    s.findRevision id = .ok (rows.find? fun r => r.id == id) :=
  select_ok_iff.mpr ⟨rows, h, rfl⟩

/-- **A table of revisions with distinct ids keeps them.** -/
theorem keepsRevisions_of_rows? (h : s.rows? Revision = some rows)
    (hids : (rows.map Revision.id).Nodup) : s.KeepsRevisions rows where
  found r hr := by
    have hfind : rows.find? (fun row => row.id == r.id) = some r :=
      (Keyed.find?_key_eq_some_iff hids).mpr ⟨hr, rfl⟩
    refine ⟨by rw [findRevision_eq h, hfind], ?_⟩
    rw [getRevision, findRevision_eq h, hfind]
  absent id habsent := by
    have hfind : rows.find? (fun row => row.id == id) = none :=
      List.find?_eq_none.mpr fun r hr => by simpa using habsent r hr
    refine ⟨by rw [findRevision_eq h, hfind], ?_⟩
    rw [getRevision, findRevision_eq h, hfind]
  listed objectId := by
    have hperm := Revision.ofObject_perm objectId rows
    have hordered := Revision.pairwise_ofObject hids objectId
    refine ⟨_, revisionsOf_eq h objectId, hperm, ?_, hordered, fun offset hplain => ?_⟩
    · rw [hperm.nodup_iff]
      exact hids.of_map.filter _
    · have hyear : ∀ r ∈ Revision.ofObject objectId rows, r.createdAt.IsPlainAt offset :=
        fun r hr => hplain r (List.mem_of_mem_filter (hperm.mem_iff.mp hr))
      exact hordered.imp_of_mem fun ha hb hab =>
        Revision.precedesInTime_of_precedes (hyear _ ha) (hyear _ hb) hab
  own r hr objectId history hhistory := by
    obtain rfl := Except.ok.inj ((revisionsOf_eq h objectId).symm.trans hhistory)
    rw [(Revision.ofObject_perm objectId rows).mem_iff, List.mem_filter]
    simp [hr, eq_comm]
  made id now new hfresh := by
    rcases createRevision_eq h id now new with ⟨-, hcreate⟩ | ⟨⟨r, hr, hid⟩, -⟩
    · exact ⟨_, hcreate⟩
    · exact absurd hid (hfresh r hr)
  refused r hr now new := by
    rcases createRevision_eq h r.id now new with ⟨hfresh, -⟩ | ⟨-, hcreate⟩
    · exact absurd rfl (hfresh r hr)
    · exact hcreate

end Store

namespace Call

variable {α : Type} {s : Store} {rows : List Revision}

/-- **The revision that a call has created**, by what it answered. -/
def createdRevision? : Call α → Except ServiceError α → Option Revision
  | createRevision _ _ _, .ok revision => some revision
  | _, _ => none

/-- **What a call does to the revisions**: it leaves those that are stored, and puts the one that it
has created, which has an id of its own, behind them. -/
theorem rows?_revision_run (h : s.rows? Revision = some rows) (call : Call α) :
    (call.run s).2.rows? Revision =
        some (rows ++ (call.createdRevision? (call.run s).1).toList) ∧
      ∀ r ∈ call.createdRevision? (call.run s).1, ∀ old ∈ rows, old.id ≠ r.id := by
  by_cases hwritten : call.written? = some .revision
  · cases call with
    | createRevision id now new =>
        rcases Store.createRevision_eq h id now new with ⟨hfresh, hcreate⟩ | ⟨-, e, hcreate⟩
        · rw [run, hcreate]
          refine ⟨Store.rows?_withRows h _, ?_⟩
          rintro r ⟨⟩
          exact hfresh
        · rw [run, hcreate]
          refine ⟨?_, ?_⟩
          · rw [createdRevision?, Option.toList_none, List.append_nil, h]
            simp
          · rintro r ⟨⟩
    | _ => cases hwritten
  · have hnone : call.createdRevision? (call.run s).1 = none := by
      cases call with
      | createRevision => exact absurd rfl hwritten
      | _ => rfl
    rw [rows?_run_other hwritten, hnone, Option.toList_none, List.append_nil]
    exact ⟨h, by simp⟩

end Call

namespace Store

/-- The revisions that calls have created, from a store on. -/
def createdFrom (s : Store) : List ((α : Type) × Call α) → List Revision
  | [] => []
  | call :: more =>
      (call.2.createdRevision? (call.2.run s).1).toList ++ createdFrom (call.2.run s).2 more

/-- **The revisions that have been created in a run**: what its calls answered, in their order. -/
def createdRevisions (calls : List ((α : Type) × Call α)) : List Revision := createdFrom fresh calls

/-- More calls create more revisions behind those that there are. -/
theorem createdFrom_append (s : Store) (before after : List ((α : Type) × Call α)) :
    createdFrom s (before ++ after) =
      createdFrom s before ++
        createdFrom (before.foldl (fun s call => (call.2.run s).2) s) after := by
  induction before generalizing s with
  | nil => rfl
  | cons call more ih => rw [List.cons_append, createdFrom, createdFrom, ih, List.append_assoc]; rfl

/-- **Calls put what they create behind the revisions that are stored**, and ids stay distinct. -/
theorem rows?_revision_foldl {s : Store} {rows : List Revision} (h : s.rows? Revision = some rows)
    (hids : (rows.map Revision.id).Nodup) (calls : List ((α : Type) × Call α)) :
    (calls.foldl (fun s call => (call.2.run s).2) s).rows? Revision =
        some (rows ++ createdFrom s calls) ∧
      ((rows ++ createdFrom s calls).map Revision.id).Nodup := by
  induction calls generalizing s rows with
  | nil => rw [createdFrom, List.append_nil]; exact ⟨h, hids⟩
  | cons call more ih =>
      obtain ⟨hrows, hfresh⟩ := call.2.rows?_revision_run h
      rw [createdFrom, ← List.append_assoc]
      refine ih hrows ?_
      cases hcreated : call.2.createdRevision? (call.2.run s).1 with
      | none => rw [Option.toList_none, List.append_nil]; exact hids
      | some r =>
          rw [Option.toList_some, List.map_append, List.nodup_append]
          refine ⟨hids, List.nodup_singleton _, fun id hid id' hid' => ?_⟩
          obtain ⟨old, hold, rfl⟩ := List.mem_map.mp hid
          rw [List.mem_singleton.mp hid']
          exact hfresh r hcreated old hold

/-- **The table of revisions in a run** holds what has been created, under distinct ids. -/
theorem rows?_revision_afterCalls (calls : List ((α : Type) × Call α)) :
    (afterCalls calls).rows? Revision = some (createdRevisions calls) ∧
      ((createdRevisions calls).map Revision.id).Nodup := by
  have hfresh : fresh.rows? Revision = some [] := by decide
  exact rows?_revision_foldl hfresh List.nodup_nil calls

/-- **The history of objects is kept.** At two moments of any run, whatever calls it is made of and
whatever their clocks read, the revisions that have been created so far are found under their ids,
and nothing is under another id; the history of an object lists those of the object, each once, by
time and id. What was created by the first moment is found unchanged at the second, and what a
history listed at the first it lists at the second, in the same order. -/
theorem revisionsKept_afterCalls (before after : List ((α : Type) × Call α)) :
    (afterCalls before).KeepsRevisions (createdRevisions before) ∧
    (afterCalls (before ++ after)).KeepsRevisions (createdRevisions (before ++ after)) ∧
    createdRevisions before <+: createdRevisions (before ++ after) ∧
    (∀ r ∈ createdRevisions before,
      (afterCalls (before ++ after)).findRevision r.id = .ok (some r) ∧
      (afterCalls (before ++ after)).getRevision r.id = .ok r) ∧
    ∀ objectId, ∃ history history',
      (afterCalls before).revisionsOf objectId = .ok history ∧
      (afterCalls (before ++ after)).revisionsOf objectId = .ok history' ∧
      history.Sublist history' := by
  obtain ⟨hrows, hids⟩ := rows?_revision_afterCalls before
  obtain ⟨hrows', hids'⟩ := rows?_revision_afterCalls (before ++ after)
  have hkeeps := keepsRevisions_of_rows? hrows' hids'
  have hmore : createdRevisions (before ++ after) =
      createdRevisions before ++ createdFrom (afterCalls before) after :=
    createdFrom_append fresh before after
  refine ⟨keepsRevisions_of_rows? hrows hids, hkeeps, ?_, fun r hr => ?_, fun objectId => ?_⟩
  · exact hmore ▸ List.prefix_append _ _
  · exact hkeeps.found r (hmore ▸ List.mem_append_left _ hr)
  · refine ⟨_, _, revisionsOf_eq hrows objectId, revisionsOf_eq hrows' objectId, ?_⟩
    rw [hmore]
    exact Revision.ofObject_sublist objectId _ _

/-- The text of a question. -/
def questionText : NewRevision := ⟨"u1", "q1", "Why?", "", none⟩

/-- A minute into 1970. -/
def minuteLater : Timestamp := ⟨⟨1970, 1, 1, 0, 1, 0, 0, 0⟩, by decide⟩

/-- A text, another of the same time, and one by a clock that has run backwards. -/
def rewritten : List ((α : Type) × Call α) × List ((α : Type) × Call α) :=
  ([⟨_, .createRevision "r2" minuteLater questionText⟩],
   [⟨_, .createRevision "r1" minuteLater questionText⟩,
    ⟨_, .createRevision "r3" .epoch questionText⟩])

/-- The text that was written first is listed last, and is still the same. -/
theorem revisionsKept_afterCalls_rewritten :
    ∃ history history', (afterCalls (rewritten.1 ++ rewritten.2)).getRevision "r2" =
        .ok (questionText.toRevision "r2" minuteLater) ∧
      (afterCalls rewritten.1).revisionsOf "q1" = .ok history ∧
      (afterCalls (rewritten.1 ++ rewritten.2)).revisionsOf "q1" = .ok history' ∧
      history.Sublist history' ∧ history.map Revision.id = ["r2"] ∧
      history'.map Revision.id = ["r3", "r1", "r2"] := by
  obtain ⟨-, -, -, hfound, hlisted⟩ := revisionsKept_afterCalls rewritten.1 rewritten.2
  obtain ⟨history, history', hbefore, hafter, hsublist⟩ := hlisted "q1"
  have hcreated : createdRevisions rewritten.1 = [questionText.toRevision "r2" minuteLater] := rfl
  have hget := (hfound (questionText.toRevision "r2" minuteLater) (by simp [hcreated])).2
  refine ⟨history, history', hget, hbefore, hafter, hsublist, ?_, ?_⟩
  · rw [revisionsOf_eq (rows?_revision_afterCalls _).1, hcreated] at hbefore
    obtain rfl := Except.ok.inj hbefore
    cbv
  · let first := questionText.toRevision "r2" minuteLater
    let again := questionText.toRevision "r1" minuteLater
    let earlier := questionText.toRevision "r3" .epoch
    have hcreated' : createdRevisions (rewritten.1 ++ rewritten.2) = [first, again, earlier] := rfl
    have hsorted : Revision.ofObject "q1" [first, again, earlier] = [earlier, again, first] :=
      Sorting.mergeSort_eq_of_pairwise Revision.notAfter_trans Revision.notAfter_total (by decide)
        (by decide +kernel)
    rw [revisionsOf_eq (rows?_revision_afterCalls _).1, hcreated', hsorted] at hafter
    obtain rfl := Except.ok.inj hafter
    rfl

end Store

end TagTimeline
