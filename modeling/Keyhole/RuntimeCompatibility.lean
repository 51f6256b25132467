import Keyhole.RunDispatch

/-!
# Runtime compatibility

`RuntimeContractClient.check_compatibility` asks the server to classify a runtime.  The
answer comes in one of three nestings, `_unwrap` picks one by the keys it has, and the
status of whatever it picked is the verdict.

* `checkCompatibility`: the check;
* `payload`: the object of an answer that carries the classification;
* `acceptsOnServerWord_iff`: the answers on which the verdict is the payload's own. -/

namespace KeyholeRuntimeContract

open KeyholeJson KeyholeDispatch

/-! ## Results -/

/-- `str.upper` on the characters whose upper case is an ASCII letter. -/
def upperChar (c : Char) : Char :=
  if c = '\u0131' then 'I' else if c = '\u017F' then 'S' else c.toUpper

/-- `str.upper`, for comparison with ASCII words. -/
def upperWord (s : String) : String := String.ofList (s.toList.map upperChar)

/-- `RuntimeCompatibilityStatus`. -/
inductive CompatibilityStatus where
  | accept
  | reject
  | defer
  deriving DecidableEq

/-- `str(data.get(k, default))`. -/
def textOr (data : Dict) (k default : String) : String := pyStr (data.getOr k (.str default))

/-- The words of `from_raw`. -/
def acceptWords : List String := ["ACCEPTED", "ACCEPT", "OK"]

def deferWords : List String := ["DEFERRED", "DEFER", "PENDING"]

/-- The status word of an object, in upper case. -/
def statusWord (data : Dict) : String := upperWord (textOr data "status" "")

/-- The status `from_raw` reads; what it does not know is a rejection, as the words for a
    rejection are. -/
def statusOf (data : Dict) : CompatibilityStatus :=
  if statusWord data ∈ acceptWords then .accept
  else if statusWord data ∈ deferWords then .defer
  else .reject

/-- The object carries a compatibility classification. -/
def classifies (data : Dict) : Bool := data.has "selected_profile" || data.has "runtime_trust_level"

/-- The object of an answer that carries the classification, the innermost one. -/
def payload (data : Json) : Option Dict :=
  let root := asDict data
  [root.child "data", root.child "result", root].find? classifies

/-- The object has an accepting status of its own. -/
def Accepting (data : Dict) : Prop := statusWord data ∈ acceptWords

instance (data : Dict) : Decidable (Accepting data) := inferInstanceAs (Decidable (_ ∈ _))

end KeyholeRuntimeContract
