import AgentCommerce.Core.Numbers
import AgentCommerce.Core.Texts
import AgentCommerce.Core.Transaction

/-!
# Reconciliation evidence

What the readers of chain evidence share: the answer without a verdict, and the reading of members
of JSON values.
-/

namespace AgentCommerce

/-! ## Answers -/

/-- `unknown`: an answer without a verdict, with its reason. -/
def unknown (reason : String) (evidence : Option Members := none) :
    PaymentReconciliationResult where
  outcome := "unknown"
  reason := some reason
  externalReference := none
  evidence := evidence
  retryAfter := none

/-! ## Members of JSON values -/

namespace Value

/-- `value[key]`: a `TypeError` for `undefined` and `null`. -/
def member (key : String) : Value → Except Thrown Value
  | .undefined => .error (.error "TypeError" "Cannot read properties of undefined")
  | .null => .error (.error "TypeError" "Cannot read properties of null")
  | .obj members => .ok (Members.read members key)
  | _ => .ok .undefined

/-- `value?.[key]`. -/
def member? (key : String) : Value → Value
  | .obj members => Members.read members key
  | _ => .undefined

/-- `value === text`. -/
def isText (text : String) : Value → Bool
  | .str s => s = text
  | _ => false

end Value

end AgentCommerce
