import PackageVerification.Data.Vocabulary
import PackageVerification.Json.Parser
import PackageVerification.Json.Printer
import PackageVerification.Tracker.Basic

/-!
# Snapshots of a tracker

A tracker as data, and back. A snapshot is one flat record; its sets may be given in any order, and
whatever is missing from it, apart from the two values that may be absent, makes it unreadable.
-/

namespace PackageVerification.Tracker

def snapshotFields : List String :=
  ["session", "policy", "required", "unresponded_required", "required_complete",
   "required_passed", "sufficient", "had_sufficient", "sufficient_complete", "sufficient_passed",
   "optional", "optional_complete", "optional_passed", "timeout_extended", "integrity_result"]

def toData (t : Tracker) : Data :=
  .obj
    [("session", t.session.toData),
     ("policy", .str t.policy.name),
     ("required", t.required.members.toData),
     ("unresponded_required", t.required.unanswered.toData),
     ("required_complete", .bool t.required.complete),
     ("required_passed", .bool t.required.passed),
     ("sufficient", t.sufficient.pool.toData),
     ("had_sufficient", .bool t.sufficient.registered),
     ("sufficient_complete", .bool t.sufficient.complete),
     ("sufficient_passed", .bool t.sufficient.passed),
     ("optional", .ofOption VerifierId.toData t.optional.verifier),
     ("optional_complete", .bool t.optional.complete),
     ("optional_passed", .bool t.optional.passed),
     ("timeout_extended", .bool t.timeoutExtended),
     ("integrity_result", .ofOption Answer.toData t.integrityResult)]

def requiredOfFields? (f : Data.Fields) : Option RequiredAxis := do
  let members ← f.need "required" VerifierSet.ofData?
  let unanswered ← f.need "unresponded_required" VerifierSet.ofData?
  let complete ← f.need "required_complete" Data.bool?
  let passed ← f.need "required_passed" Data.bool?
  some { members, unanswered, complete, passed }

def sufficientOfFields? (f : Data.Fields) : Option SufficientPool := do
  let pool ← f.need "sufficient" VerifierSet.ofData?
  let registered ← f.need "had_sufficient" Data.bool?
  let complete ← f.need "sufficient_complete" Data.bool?
  let passed ← f.need "sufficient_passed" Data.bool?
  some { pool, registered, complete, passed }

def optionalOfFields? (f : Data.Fields) : Option OptionalSeat := do
  let verifier ← f.optional "optional" VerifierId.ofData?
  let complete ← f.need "optional_complete" Data.bool?
  let passed ← f.need "optional_passed" Data.bool?
  some { verifier, complete, passed }

def ofData? (dialect : Dialect) (d : Data) : Option Tracker := do
  let f ← d.fields? dialect snapshotFields
  let session ← f.need "session" SessionId.ofData?
  let policy ← f.need "policy" (Data.enum? dialect PendingPolicy.ofName?)
  let required ← requiredOfFields? f
  let sufficient ← sufficientOfFields? f
  let optional ← optionalOfFields? f
  let timeoutExtended ← f.need "timeout_extended" Data.bool?
  let integrityResult ← f.optional "integrity_result" Answer.ofData?
  some { session, policy, required, sufficient, optional, timeoutExtended, integrityResult }

def snapshot (t : Tracker) : String := Json.print t.toData

def restore? (text : String) : Option Tracker := (Json.parse text).bind (ofData? Json.dialect)

end PackageVerification.Tracker
