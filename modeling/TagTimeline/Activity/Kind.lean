import TagTimeline.Object

/-!
# Kinds of Activity

Every kind of activity that a timeline can record: on what kind of object it acts, what it does,
the code by which it is stored, and how a timeline labels it. The codes of one kind of object lie
together, those of questions from 1, of answers from 21, of tags from 41, of comments from 51.

A vote is recorded twice, for the voter (`vote_up`, `vote_down`) and for the one voted on
(`voted_up`, `voted_down`), an acceptance also (`accept`, `accepted`). A timeline never shows the
receiving side, and shows the voter's side on request, as `upvote` and `downvote`.

## Main results

* `ActivityKind.ofCode?_code` — every kind is found by its code.
* `ActivityKind.mem_voteCodes_iff` — the codes of votes are those of the kinds that are votes.
-/

namespace TagTimeline

/-- **What can be recorded on a timeline.** -/
inductive ActivityKind where
  | questionAsked
  | questionClosed
  | questionReopened
  | questionAnswered
  | questionCommented
  | questionAccept
  | questionVoteUp
  | questionVotedUp
  | questionVoteDown
  | questionVotedDown
  | questionEdited
  | questionRollback
  | questionDeleted
  | questionUndeleted
  | answerAnswered
  | answerCommented
  | answerAccept
  | answerAccepted
  | answerVoteUp
  | answerVotedUp
  | answerVoteDown
  | answerVotedDown
  | answerEdited
  | answerRollback
  | answerDeleted
  | answerUndeleted
  | tagCreated
  | tagEdited
  | tagRollback
  | tagDeleted
  | tagUndeleted
  | commentCreated
  | commentEdited
  | commentDeleted
  deriving DecidableEq, Repr

namespace ActivityKind

/-- Every kind, in the order of the codes. -/
def all : List ActivityKind :=
  [questionAsked, questionClosed, questionReopened, questionAnswered, questionCommented,
   questionAccept, questionVoteUp, questionVotedUp, questionVoteDown, questionVotedDown,
   questionEdited, questionRollback, questionDeleted, questionUndeleted, answerAnswered,
   answerCommented, answerAccept, answerAccepted, answerVoteUp, answerVotedUp, answerVoteDown,
   answerVotedDown, answerEdited, answerRollback, answerDeleted, answerUndeleted, tagCreated,
   tagEdited, tagRollback, tagDeleted, tagUndeleted, commentCreated, commentEdited, commentDeleted]

/-- The code by which a kind is stored. -/
def code : ActivityKind → Int32
  | questionAsked => 1
  | questionClosed => 2
  | questionReopened => 3
  | questionAnswered => 4
  | questionCommented => 5
  | questionAccept => 6
  | questionVoteUp => 7
  | questionVotedUp => 8
  | questionVoteDown => 9
  | questionVotedDown => 10
  | questionEdited => 11
  | questionRollback => 12
  | questionDeleted => 13
  | questionUndeleted => 14
  | answerAnswered => 21
  | answerCommented => 22
  | answerAccept => 23
  | answerAccepted => 24
  | answerVoteUp => 25
  | answerVotedUp => 26
  | answerVoteDown => 27
  | answerVotedDown => 28
  | answerEdited => 29
  | answerRollback => 30
  | answerDeleted => 31
  | answerUndeleted => 32
  | tagCreated => 41
  | tagEdited => 42
  | tagRollback => 43
  | tagDeleted => 44
  | tagUndeleted => 45
  | commentCreated => 51
  | commentEdited => 52
  | commentDeleted => 53

/-- The kind of object that an activity acts on. -/
def objectKind : ActivityKind → ObjectKind
  | questionAsked | questionClosed | questionReopened | questionAnswered | questionCommented
  | questionAccept | questionVoteUp | questionVotedUp | questionVoteDown | questionVotedDown
  | questionEdited | questionRollback | questionDeleted | questionUndeleted => .question
  | answerAnswered | answerCommented | answerAccept | answerAccepted | answerVoteUp
  | answerVotedUp | answerVoteDown | answerVotedDown | answerEdited | answerRollback
  | answerDeleted | answerUndeleted => .answer
  | tagCreated | tagEdited | tagRollback | tagDeleted | tagUndeleted => .tag
  | commentCreated | commentEdited | commentDeleted => .comment

/-- What an activity does. -/
def verb : ActivityKind → String
  | questionAsked => "asked"
  | questionClosed => "closed"
  | questionReopened => "reopened"
  | questionAnswered | answerAnswered => "answered"
  | questionCommented | answerCommented => "commented"
  | questionAccept | answerAccept => "accept"
  | answerAccepted => "accepted"
  | questionVoteUp | answerVoteUp => "vote_up"
  | questionVotedUp | answerVotedUp => "voted_up"
  | questionVoteDown | answerVoteDown => "vote_down"
  | questionVotedDown | answerVotedDown => "voted_down"
  | questionEdited | answerEdited | tagEdited | commentEdited => "edited"
  | questionRollback | answerRollback | tagRollback => "rollback"
  | questionDeleted | answerDeleted | tagDeleted | commentDeleted => "deleted"
  | questionUndeleted | answerUndeleted | tagUndeleted => "undeleted"
  | tagCreated | commentCreated => "created"

/-- **How a timeline labels an activity**, nothing for the receiving side of votes and acceptances.
The voter's side is labelled by the vote. -/
def label? (kind : ActivityKind) : Option String :=
  if kind.verb ∈ ["voted_up", "voted_down", "accepted"] then none
  else if kind.verb = "vote_up" then some "upvote"
  else if kind.verb = "vote_down" then some "downvote"
  else some kind.verb

/-- Whether an activity is the voter's side of a vote. -/
def isVote (kind : ActivityKind) : Bool := kind.verb ∈ ["vote_up", "vote_down"]

/-- The codes of votes. -/
def voteCodes : List Int32 := (all.filter isVote).map code

/-- The kind with a code. -/
def ofCode? (code : Int32) : Option ActivityKind := all.find? fun kind => kind.code == code

/-- The name of a kind: the kind of object and what is done. -/
def name : ActivityKind → String
  | questionAsked => "QuestionAsked"
  | questionClosed => "QuestionClosed"
  | questionReopened => "QuestionReopened"
  | questionAnswered => "QuestionAnswered"
  | questionCommented => "QuestionCommented"
  | questionAccept => "QuestionAccept"
  | questionVoteUp => "QuestionVoteUp"
  | questionVotedUp => "QuestionVotedUp"
  | questionVoteDown => "QuestionVoteDown"
  | questionVotedDown => "QuestionVotedDown"
  | questionEdited => "QuestionEdited"
  | questionRollback => "QuestionRollback"
  | questionDeleted => "QuestionDeleted"
  | questionUndeleted => "QuestionUndeleted"
  | answerAnswered => "AnswerAnswered"
  | answerCommented => "AnswerCommented"
  | answerAccept => "AnswerAccept"
  | answerAccepted => "AnswerAccepted"
  | answerVoteUp => "AnswerVoteUp"
  | answerVotedUp => "AnswerVotedUp"
  | answerVoteDown => "AnswerVoteDown"
  | answerVotedDown => "AnswerVotedDown"
  | answerEdited => "AnswerEdited"
  | answerRollback => "AnswerRollback"
  | answerDeleted => "AnswerDeleted"
  | answerUndeleted => "AnswerUndeleted"
  | tagCreated => "TagCreated"
  | tagEdited => "TagEdited"
  | tagRollback => "TagRollback"
  | tagDeleted => "TagDeleted"
  | tagUndeleted => "TagUndeleted"
  | commentCreated => "CommentCreated"
  | commentEdited => "CommentEdited"
  | commentDeleted => "CommentDeleted"

/-- Every kind is found by its code. -/
theorem ofCode?_code (kind : ActivityKind) : ofCode? kind.code = some kind := by
  cases kind <;> decide

/-- What is found by a code has it. -/
theorem code_of_ofCode? {code : Int32} {kind : ActivityKind} (h : ofCode? code = some kind) :
    kind.code = code := by
  simpa using List.find?_some h

/-- **The codes of votes** are those of the kinds that are votes. -/
theorem mem_voteCodes_iff (kind : ActivityKind) : kind.code ∈ voteCodes ↔ kind.isVote = true := by
  cases kind <;> decide

end ActivityKind

end TagTimeline
