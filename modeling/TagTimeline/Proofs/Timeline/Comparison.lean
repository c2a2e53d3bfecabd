import TagTimeline.Activity.Timeline

/-!
# Comparing Revisions

Two revisions side by side. Each side is looked up in two steps, the revision and then its object,
and its content is decoded. The two have different policies: a look-up that fails makes the whole
comparison fail, with the first failure in the order of the old side and the new one; a content that
cannot be read leaves its side empty. So whether there is a comparison does not depend on the
contents, and what a side shows depends on nothing but its own content and the summary of its
object.

## Main results

* `RevisionContent.displays_detailOf` — what a side shows of a content.
* `Timeline.isSide_or_sideFails` — what one side is made of, or why there is none.
* `Timeline.diffOfRequest_settled` — when a comparison fails and with what, and what it shows.
-/

namespace TagTimeline

namespace RevisionContent

/-- **What a comparison shows of a content**: what the content says, or nothing at all if it cannot
be read or the object is a comment. -/
inductive Displays (info : ObjectInfo) (content : String) : RevisionDetail → Prop where
  | decoded {decoded : RevisionContent} (hkind : info.kind ≠ .comment)
      (hdecode : decode info.kind content = .ok decoded) :
      Displays info content (decoded.toDetail info)
  | blank (hlost : info.kind = .comment ∨ ∃ e, decode info.kind content = .error e) :
      Displays info content ⟨"", [], ""⟩

/-- Every content is shown, whatever it holds. -/
theorem displays_detailOf (info : ObjectInfo) (content : String) :
    Displays info content (detailOf info content) := by
  rw [detailOf]
  cases hdecode : decode info.kind content with
  | error e => exact .blank (.inr ⟨e, hdecode⟩)
  | ok decoded =>
      refine .decoded (fun hkind => ?_) hdecode
      rw [decode, if_pos hkind] at hdecode
      cases hdecode

end RevisionContent

namespace Store

/-- The revision under an id. -/
def revision? (id : String) (s : Store) : Option Revision :=
  (s.rows? Revision).bind fun rows => rows.find? fun r => r.id == id

/-- A revision is got exactly if it is the one under its id. -/
theorem getRevision_of_revision? {id : String} {s : Store} {revision : Revision}
    (h : s.revision? id = some revision) : s.getRevision id = .ok revision := by
  obtain ⟨rows, hrows, hfind⟩ := Option.bind_eq_some_iff.mp h
  have hread : s.findRevision id = .ok (some revision) :=
    select_ok_iff.mpr ⟨rows, hrows, hfind⟩
  rw [getRevision, hread]

/-- A revision that no row has is told by its id. -/
theorem getRevision_of_absent {id : String} {s : Store} {rows : List Revision}
    (hrows : s.rows? Revision = some rows) (habsent : ∀ r ∈ rows, r.id ≠ id) :
    s.getRevision id = .error (.revisionNotFound id) := by
  have hread : s.findRevision id = .ok none :=
    select_ok_iff.mpr ⟨rows, hrows, List.find?_eq_none.mpr (by simpa using habsent)⟩
  rw [getRevision, hread]

/-- Without a table there is no revision. -/
theorem getRevision_of_missing {id : String} {s : Store} (h : s.rows? Revision = none) :
    s.getRevision id = .error (missing Revision "get revision") := by
  rw [getRevision, findRevision, select, Option.map_eq_none_iff.mp h]

end Store

namespace Timeline

/-- **What one side of a comparison is made of**: the revision under an id, and the summary of its
object. -/
structure IsSide (object : String → Except ServiceError ObjectInfo) (s : Store) (id : String)
    (revision : Revision) (info : ObjectInfo) : Prop where
  stored : s.revision? id = some revision
  resolved : object revision.objectId = .ok info

/-- **Why there is no side** of a comparison: its revision cannot be loaded, or the object of the
revision cannot be resolved. -/
inductive SideFails (object : String → Except ServiceError ObjectInfo) (s : Store) (id : String) :
    ServiceError → Prop where
  | missing (hrows : s.rows? Revision = none) :
      SideFails object s id (Store.missing Revision "get revision")
  | absent {rows : List Revision} (hrows : s.rows? Revision = some rows)
      (habsent : ∀ r ∈ rows, r.id ≠ id) : SideFails object s id (.revisionNotFound id)
  | unresolved {revision : Revision} {e : ServiceError} (hstored : s.revision? id = some revision)
      (hobject : object revision.objectId = .error e) : SideFails object s id e

section

variable {resolvers : Resolvers} {s : Store} {id : String}

/-- There is a side, or a reason why there is none. -/
theorem isSide_or_sideFails (object : String → Except ServiceError ObjectInfo) (s : Store)
    (id : String) :
    (∃ revision info, IsSide object s id revision info) ∨ ∃ e, SideFails object s id e := by
  cases hrows : s.rows? Revision with
  | none => exact .inr ⟨_, .missing hrows⟩
  | some rows =>
      cases hfind : rows.find? fun r => r.id == id with
      | none => exact .inr ⟨_, .absent hrows (by simpa using List.find?_eq_none.mp hfind)⟩
      | some revision =>
          have hstored : s.revision? id = some revision := by
            rw [Store.revision?, hrows, Option.bind_some, hfind]
          cases hobject : object revision.objectId with
          | error e => exact .inr ⟨e, .unresolved hstored hobject⟩
          | ok info => exact .inl ⟨revision, info, hstored, hobject⟩

/-- A side shows the content of its revision. -/
theorem IsSide.revisionDetail_eq {revision : Revision} {info : ObjectInfo}
    (h : IsSide resolvers.object s id revision info) :
    revisionDetail resolvers id s = .ok (RevisionContent.detailOf info revision.content) := by
  rw [revisionDetail, Store.getRevision_of_revision? h.stored]
  simp only [bind, Except.bind, h.resolved]
  rfl

/-- What stands in the way of a side is the failure that is told. -/
theorem SideFails.revisionDetail_eq {e : ServiceError} (h : SideFails resolvers.object s id e) :
    revisionDetail resolvers id s = .error e := by
  rw [revisionDetail]
  cases h with
  | missing hrows => rw [Store.getRevision_of_missing hrows]; rfl
  | absent hrows habsent => rw [Store.getRevision_of_absent hrows habsent]; rfl
  | unresolved hstored hobject =>
      rw [Store.getRevision_of_revision? hstored]
      simp only [bind, Except.bind, hobject]

end

/-- **Why there is no comparison**: an empty id, before anything is looked up; or else what stands
in the way of the old side; or else, once there is an old side, what stands in the way of the new
one. -/
inductive DiffFails (object : String → Except ServiceError ObjectInfo) (s : Store)
    (request : DiffRequest) : ServiceError → Prop where
  | empty (hempty : request.oldRevisionId = "" ∨ request.newRevisionId = "") :
      DiffFails object s request (.validation (Violation.summary request.violations))
  | old {e : ServiceError} (hold : request.oldRevisionId ≠ "") (hnew : request.newRevisionId ≠ "")
      (hfails : SideFails object s request.oldRevisionId e) : DiffFails object s request e
  | new {e : ServiceError} {revision : Revision} {info : ObjectInfo}
      (hold : request.oldRevisionId ≠ "") (hnew : request.newRevisionId ≠ "")
      (hside : IsSide object s request.oldRevisionId revision info)
      (hfails : SideFails object s request.newRevisionId e) : DiffFails object s request e

/-- **What a comparison is made of**: two sides under ids that are not empty. -/
structure IsComparison (object : String → Except ServiceError ObjectInfo) (s : Store)
    (request : DiffRequest) (old : Revision) (oldInfo : ObjectInfo) (new : Revision)
    (newInfo : ObjectInfo) : Prop where
  oldId : request.oldRevisionId ≠ ""
  newId : request.newRevisionId ≠ ""
  oldSide : IsSide object s request.oldRevisionId old oldInfo
  newSide : IsSide object s request.newRevisionId new newInfo

section

variable {resolvers : Resolvers} {s : Store} {request : DiffRequest}

/-- A request is acceptable exactly if neither id is empty. -/
theorem violations_eq_nil_iff :
    request.violations = [] ↔ request.oldRevisionId ≠ "" ∧ request.newRevisionId ≠ "" := by
  simp [DiffRequest.violations, Violation.checkNotEmpty]

/-- An acceptable request is answered by its two sides, the old one first. -/
theorem diffOfRequest_eq (hold : request.oldRevisionId ≠ "") (hnew : request.newRevisionId ≠ "") :
    diffOfRequest resolvers request s = do
      let oldRevision ← revisionDetail resolvers request.oldRevisionId s
      let newRevision ← revisionDetail resolvers request.newRevisionId s
      return ⟨oldRevision, newRevision⟩ := by
  rw [diffOfRequest, violations_eq_nil_iff.mpr ⟨hold, hnew⟩]

/-- What stands in the way of a comparison is the failure that is told. -/
theorem DiffFails.diffOfRequest_eq {e : ServiceError}
    (h : DiffFails resolvers.object s request e) :
    diffOfRequest resolvers request s = .error e := by
  cases h with
  | empty hempty =>
      have hviolations : request.violations ≠ [] := fun hnil => by
        obtain ⟨hold, hnew⟩ := violations_eq_nil_iff.mp hnil
        exact hempty.elim hold hnew
      rw [diffOfRequest]
      split
      · next hnil => exact absurd hnil hviolations
      · rfl
  | old hold hnew hfails =>
      rw [Timeline.diffOfRequest_eq hold hnew, hfails.revisionDetail_eq]
      rfl
  | new hold hnew hside hfails =>
      rw [Timeline.diffOfRequest_eq hold hnew, hside.revisionDetail_eq, hfails.revisionDetail_eq]
      rfl

/-- A comparison shows its two sides, whatever their contents hold. -/
theorem IsComparison.diffOfRequest_eq {old new : Revision} {oldInfo newInfo : ObjectInfo}
    (h : IsComparison resolvers.object s request old oldInfo new newInfo) :
    diffOfRequest resolvers request s =
      .ok ⟨RevisionContent.detailOf oldInfo old.content,
        RevisionContent.detailOf newInfo new.content⟩ := by
  rw [Timeline.diffOfRequest_eq h.oldId h.newId, h.oldSide.revisionDetail_eq,
    h.newSide.revisionDetail_eq]
  rfl

/-- The two ids of a comparison can be exchanged. -/
theorem IsComparison.swap {object : String → Except ServiceError ObjectInfo} {a b : String}
    {old new : Revision} {oldInfo newInfo : ObjectInfo}
    (h : IsComparison object s ⟨a, b⟩ old oldInfo new newInfo) :
    IsComparison object s ⟨b, a⟩ new newInfo old oldInfo :=
  ⟨h.newId, h.oldId, h.newSide, h.oldSide⟩

/-- **There is a comparison, or a reason why there is none.** -/
theorem isComparison_or_diffFails (object : String → Except ServiceError ObjectInfo) (s : Store)
    (request : DiffRequest) :
    (∃ old oldInfo new newInfo, IsComparison object s request old oldInfo new newInfo) ∨
      ∃ e, DiffFails object s request e := by
  by_cases hold : request.oldRevisionId = ""
  · exact .inr ⟨_, .empty (.inl hold)⟩
  by_cases hnew : request.newRevisionId = ""
  · exact .inr ⟨_, .empty (.inr hnew)⟩
  obtain ⟨old, oldInfo, holdSide⟩ | ⟨e, hfails⟩ :=
    isSide_or_sideFails object s request.oldRevisionId
  · obtain ⟨new, newInfo, hnewSide⟩ | ⟨e, hfails⟩ :=
      isSide_or_sideFails object s request.newRevisionId
    · exact .inl ⟨old, oldInfo, new, newInfo, hold, hnew, holdSide, hnewSide⟩
    · exact .inr ⟨e, .new hold hnew holdSide hfails⟩
  · exact .inr ⟨e, .old hold hnew hfails⟩

/-- A comparison fails exactly with what stands in its way. -/
theorem diffOfRequest_eq_error_iff {e : ServiceError} :
    diffOfRequest resolvers request s = .error e ↔ DiffFails resolvers.object s request e := by
  refine ⟨fun herror => ?_, DiffFails.diffOfRequest_eq⟩
  obtain ⟨old, oldInfo, new, newInfo, hcompares⟩ | ⟨e', hfails⟩ :=
    isComparison_or_diffFails resolvers.object s request
  · cases hcompares.diffOfRequest_eq.symm.trans herror
  · obtain rfl := Except.error.inj (hfails.diffOfRequest_eq.symm.trans herror)
    exact hfails

/-- A comparison is answered exactly if there are two sides, and shows these. -/
theorem diffOfRequest_eq_ok_iff {diff : RevisionDiff} :
    diffOfRequest resolvers request s = .ok diff ↔
      ∃ old oldInfo new newInfo,
        IsComparison resolvers.object s request old oldInfo new newInfo ∧
        diff = ⟨RevisionContent.detailOf oldInfo old.content,
          RevisionContent.detailOf newInfo new.content⟩ := by
  constructor
  · intro hok
    obtain ⟨old, oldInfo, new, newInfo, hcompares⟩ | ⟨e, hfails⟩ :=
      isComparison_or_diffFails resolvers.object s request
    · exact ⟨old, oldInfo, new, newInfo, hcompares,
        Except.ok.inj (hok.symm.trans hcompares.diffOfRequest_eq)⟩
    · cases hfails.diffOfRequest_eq.symm.trans hok
  · rintro ⟨old, oldInfo, new, newInfo, hcompares, rfl⟩
    exact hcompares.diffOfRequest_eq

/-- A comparison that is answered is answered with its ids exchanged, and shows its sides
exchanged. -/
theorem diffOfRequest_swap {a b : String} {x y : RevisionDetail}
    (h : diffOfRequest resolvers ⟨a, b⟩ s = .ok ⟨x, y⟩) :
    diffOfRequest resolvers ⟨b, a⟩ s = .ok ⟨y, x⟩ := by
  obtain ⟨old, oldInfo, new, newInfo, hcompares, hdiff⟩ := diffOfRequest_eq_ok_iff.mp h
  obtain ⟨rfl, rfl⟩ := RevisionDiff.mk.inj hdiff
  exact hcompares.swap.diffOfRequest_eq

/-- Both sides of a comparison of a revision with itself show the same. -/
theorem diffOfRequest_self {id : String} {x y : RevisionDetail}
    (h : diffOfRequest resolvers ⟨id, id⟩ s = .ok ⟨x, y⟩) : x = y := by
  obtain ⟨old, oldInfo, new, newInfo, hcompares, hdiff⟩ := diffOfRequest_eq_ok_iff.mp h
  obtain ⟨rfl, rfl⟩ := RevisionDiff.mk.inj hdiff
  exact Except.ok.inj
    (hcompares.oldSide.revisionDetail_eq.symm.trans hcompares.newSide.revisionDetail_eq)

end

/-- **A comparison fails for its look-ups only, and its sides do not depend on each other.** It
fails exactly with what stands in its way, the first in the order of an empty id, the old side and
the new side; otherwise it is answered, whatever the contents hold, and each side shows its own
content by the summary of its own object. So the answer with the two ids exchanged is the answer
with its sides exchanged, and a revision compared with itself is shown twice. -/
theorem diffOfRequest_settled (resolvers : Resolvers) (a b : String) (s : Store) :
    (∀ e, diffOfRequest resolvers ⟨a, b⟩ s = .error e ↔
      DiffFails resolvers.object s ⟨a, b⟩ e) ∧
    (∀ diff, diffOfRequest resolvers ⟨a, b⟩ s = .ok diff ↔
      ∃ old oldInfo new newInfo,
        IsComparison resolvers.object s ⟨a, b⟩ old oldInfo new newInfo ∧
        diff = ⟨RevisionContent.detailOf oldInfo old.content,
          RevisionContent.detailOf newInfo new.content⟩) ∧
    (∀ info content,
      RevisionContent.Displays info content (RevisionContent.detailOf info content)) ∧
    (∀ x y, diffOfRequest resolvers ⟨a, b⟩ s = .ok ⟨x, y⟩ ↔
      diffOfRequest resolvers ⟨b, a⟩ s = .ok ⟨y, x⟩) ∧
    ∀ x y, diffOfRequest resolvers ⟨a, a⟩ s = .ok ⟨x, y⟩ → x = y := by
  refine ⟨fun e => diffOfRequest_eq_error_iff, fun diff => diffOfRequest_eq_ok_iff,
    RevisionContent.displays_detailOf, fun x y => ⟨diffOfRequest_swap, diffOfRequest_swap⟩,
    fun x y => diffOfRequest_self⟩

end Timeline

end TagTimeline
