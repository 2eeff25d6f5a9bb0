import GatewayNat.Notice
import GatewayNat.Validation.Basic

/-!
# Rejections

A rejection is the reason why a compilation has no document.  What is told about
it is a notice, and its message, its attributes and its context are those of the
notice.
-/

namespace GatewayNat

/-- Why an intent is rejected. -/
inductive Rejection where
  | gatewayNotFound (gateway : Text)
  | unknownNetwork (gateway network : Text) (rule : Option Int)
  | unsupportedRuleType (rule : Int) (value : Json)
  | missingField (rule : Int) (field : String)
  | invalidField (rule : Option Int) (field reason : String)
  | idRangeExhausted (rule id maximum : Int)
  /-- A rejection of a directory's own, with a message and a context. -/
  | other (message : Text) (context : Members)
  deriving DecidableEq, Repr

namespace Rejection

/-- What is told about a rejection. -/
def notice : Rejection → Notice
  | .gatewayNotFound gateway => .gatewayNotFound (.str gateway)
  | .unknownNetwork gateway network rule =>
    .unknownNetwork (.str gateway) (.str network) (Json.ofInt? rule)
  | .unsupportedRuleType rule value => .unsupportedRuleType (.int rule) value
  | .missingField rule field => .missingField (.int rule) (.str field)
  | .invalidField rule field reason => .invalidField (Json.ofInt? rule) (.str field) (.str reason)
  | .idRangeExhausted rule id maximum => .idRangeExhausted (.int rule) (.int id) (.int maximum)
  | .other message context => .plain (.str message) context

/-- The name of the kind of a rejection. -/
def kind (rejection : Rejection) : String := rejection.notice.kind.name

/-- The wording of a rejection. -/
def message (rejection : Rejection) : Text := rejection.notice.message

/-- The attributes of a rejection, null for an absent one. -/
def attributes (rejection : Rejection) : Members := rejection.notice.attributes

/-- The context of a rejection. -/
def context (rejection : Rejection) : Members := rejection.notice.context

/-- The index of the rule that a rejection blames, if it blames one. -/
def rule? : Rejection → Option Int
  | .unknownNetwork _ _ rule => rule
  | .unsupportedRuleType rule _ => some rule
  | .missingField rule _ => some rule
  | .invalidField rule _ _ => rule
  | .idRangeExhausted rule _ _ => some rule
  | .gatewayNotFound _ | .other _ _ => none

/-- The name of a step. -/
def stepName : Step → String
  | .name name => name
  | .item index => toString index

/-- The name of a path. -/
def pathName (path : List Step) : String := ".".intercalate (path.map stepName)

/-- The rejection for an issue of a rule. -/
def ofRuleIssue (rule : Nat) (issue : Issue) : Rejection :=
  if issue.path.isEmpty then .invalidField (some rule) "intent" issue.problem.message
  else .invalidField (some rule) (pathName issue.path) issue.problem.message

/-- The rejection for an issue of a service intent.  An issue of one rule blames that rule. -/
def ofServiceIssue (issue : Issue) : Rejection :=
  match issue.path with
  | [] => .invalidField none "intent" issue.problem.message
  | .name "nat_rules" :: .item index :: rest =>
    .invalidField (some index) (if rest.isEmpty then "nat_rules" else pathName rest)
      issue.problem.message
  | path => .invalidField none (pathName path) issue.problem.message

end Rejection

end GatewayNat
