import Steward.Domain.Throttle

/-!
# Outcomes of finished turns

`internal/domain/turn_outcome.go`: what was observed of a finished turn, and the transition that
records it on the attempt and on the throttle record that decided its control state.
-/

namespace Steward

def TurnOutcomeMarker.text : TurnOutcomeMarker → String
  | .unset => ""
  | .done => "done"
  | .continue => "continue"
  | .missing => "missing"
  | .waiting => "waiting"

structure TurnOutcome where
  reviewVerdict : Option ReviewVerdict := none
  (id attemptID : String := "")
  marker : TurnOutcomeMarker := .unset
  verificationPassed : Bool := false
  (failure finalSummaryArtifactID : String := "")
  observedAt : Time := 0
  reviewGate : Option ReviewCompletionGate := none
deriving DecidableEq

/-- One optimistic update of an attempt by the outcome of its turn, with the update of the active
throttle record, if there is one. -/
structure TurnOutcomeTransition where
  outcomeID : String := ""
  expectedAttemptRevision : Int := 0
  attempt : Attempt := {}
  throttle : Option ThrottleAttemptTransition := none
deriving DecidableEq

end Steward
