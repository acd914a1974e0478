import PackageVerification.Data.Vocabulary
import PackageVerification.Service.Session

/-!
# Reports as data

How events and summaries are written. The kind of an event comes first, then its fields.
-/

namespace PackageVerification

def Event.toData : Event → Data
  | .sessionStarted s d =>
    .obj [("event", .str "session_started"), ("session", s.toData), ("deadline", d.toData)]
  | .responseRejected s v r =>
    .obj
      [("event", .str "response_rejected"), ("session", s.toData), ("verifier", v.toData),
       ("reason", .str r.name)]
  | .timeoutExtended s d =>
    .obj [("event", .str "timeout_extended"), ("session", s.toData), ("new_deadline", d.toData)]
  | .sessionTimedOut s => .obj [("event", .str "session_timed_out"), ("session", s.toData)]
  | .sessionCompleted s v =>
    .obj
      [("event", .str "session_completed"), ("session", s.toData), ("verdict", .str v.name)]

def Summary.toData (s : Summary) : Data :=
  .obj
    [("session", s.session.toData), ("verdict", .str s.verdict.name), ("axes", s.axes.toData),
     ("timed_out", .bool s.timedOut), ("timeout_extended", .bool s.timeoutExtended),
     ("integrity_result", .ofOption Answer.toData s.integrityResult),
     ("started_at", s.startedAt.toData), ("deadline", s.deadline.toData)]

end PackageVerification
