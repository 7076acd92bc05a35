import Verdict.Text.Point

/-! The outcome of an evaluation: success, or failure with a reason and its type. -/

namespace Verdict

inductive FailureType where
  | conditionFailed | typeMismatched | missingOperator | invalidOperand | unknown
  deriving DecidableEq

def FailureType.text : FailureType → Text
  | .conditionFailed => "condition_failed"
  | .typeMismatched => "type_mismatched"
  | .missingOperator => "missing_operator"
  | .invalidOperand => "invalid_operand"
  | .unknown => "unknown"

inductive Outcome where
  | success
  | failure (reason : Text) (type : FailureType)
  deriving DecidableEq

namespace Outcome

def succeeded : Outcome → Bool
  | .success => true
  | .failure .. => false

def reason? : Outcome → Option Text
  | .success => none
  | .failure reason _ => some reason

def failureType? : Outcome → Option FailureType
  | .success => none
  | .failure _ type => some type

end Outcome

end Verdict
