import Keyhole.JsonDocument

/-!
# Capability names

The canonical name of a capability is `<domain>.<category>.<capability>.v<major>`.
This file models `capability/namespace.py` up to `validate_capability_name`: the
patterns of the segments, the validation of a whole name, and the suggestion a
name gets that is only spelled carelessly.

Why a name is refused (the reject reasons and the message built from them) is not
modelled: nothing here reads it.  In particular `_has_uppercase` only picks the
reason, since no pattern admits an upper-case character. -/

namespace KeyholeNamespace

open KeyholeJson

abbrev Text := List Char

/-- `text.split(sep)`. -/
def splitOn (sep : Char) : Text → List Text
  | [] => [[]]
  | c :: rest =>
      if c = sep then [] :: splitOn sep rest
      else
        match splitOn sep rest with
        | [] => [[c]]
        | part :: parts => (c :: part) :: parts

/-- What is left of a text for a pattern that ends in `$`, which also matches
    before a final newline. -/
def beforeNewline (text : Text) : Text :=
  if text.getLast? = some '\n' then text.dropLast else text

/-- `[a-z0-9]`. -/
def isAlnum (c : Char) : Bool := c.isLower || c.isDigit

/-- `[a-z0-9\-]`. -/
def isSegmentChar (c : Char) : Bool := isAlnum c || c == '-'

/-- `_SEGMENT_RE` on the text it has to cover. -/
def segmentShape (text : Text) : Bool :=
  text.all isSegmentChar && text.head?.any isAlnum && text.getLast?.any isAlnum

/-- `_VERSION_RE` on the text it has to cover. -/
def versionShape : Text → Bool
  | 'v' :: '0' :: [] => true
  | 'v' :: '0' :: _ :: _ => false
  | 'v' :: d :: rest => d.isDigit && rest.all Char.isDigit
  | _ => false

/-- `_check_segment(seg) is None`. -/
def checkSegment (seg : Text) : Bool := segmentShape (beforeNewline seg)

/-- `_check_version_segment(seg) is None`. -/
def checkVersionSegment (seg : Text) : Bool := versionShape (beforeNewline seg)

/-- `_validate_raw(name).valid`. -/
def validateRaw (name : Text) : Bool :=
  if occursIn ['.', '.'] name then false
  else
    match splitOn '.' name with
    | [domain, category, capability, version] =>
        checkSegment domain && checkSegment category && checkSegment capability
          && checkVersionSegment version
    | _ => false

/-- `sep.join(parts)`. -/
def joinOn (sep : Char) : List Text → Text
  | [] => []
  | [part] => part
  | part :: next :: rest => part ++ sep :: joinOn sep (next :: rest)

/-- `text.strip()`. -/
def stripText (text : Text) : Text :=
  ((text.dropWhile isSpace).reverse.dropWhile isSpace).reverse

/-- `_safe_normalize`.  Once the text is stripped, removing the blanks around each
    dot strips every part between two dots. -/
def safeNormalize (name : Text) : Text :=
  (joinOn '.' ((splitOn '.' (stripText name)).map stripText)).map lowerChar

/-- `_suggest_correction`. -/
def suggestCorrection (name : Text) : Text :=
  let normalized := safeNormalize name
  if validateRaw normalized && normalized != name then normalized else []

/-- `CapabilityValidationResult`. -/
structure CapabilityValidationResult where
  name : String
  valid : Bool
  suggestion : String
  normalized : String
  deriving DecidableEq, Repr

/-- `validate_capability_name` of a string. -/
def validateCapabilityName (name : String) : CapabilityValidationResult :=
  if validateRaw name.toList then ⟨name, true, "", name⟩
  else ⟨name, false, String.ofList (suggestCorrection name.toList), ""⟩

@[simp] theorem validateCapabilityName_valid (name : String) :
    (validateCapabilityName name).valid = validateRaw name.toList := by
  rw [validateCapabilityName]
  cases h : validateRaw name.toList with
  | true => rfl
  | false => rfl

example : (validateCapabilityName "payment.stripe.integration.v1").valid = true := by decide

example : (validateCapabilityName " Payment . stripe.integration.v1").suggestion
    = "payment.stripe.integration.v1" := by decide

end KeyholeNamespace
