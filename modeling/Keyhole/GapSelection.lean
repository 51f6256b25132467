import Keyhole.RunEnvelope

/-!
# Gap selection

`_select_gap_id` of `governed_demo.py`: collect every gap object of a
`gaps.list` answer, rank the objects by what their JSON text mentions, keep the
claimable ones, and refuse a tie. -/

namespace KeyholeGaps

open KeyholeJson KeyholeEnvelope

/-- `CLAIMABLE_GAP_STATUSES`. -/
def claimableGapStatuses : List String := ["open", "claimable", "actionable"]

/-- `NON_CLAIMABLE_GAP_STATUSES`. -/
def nonClaimableGapStatuses : List String :=
  ["archived", "blocked", "cancelled", "canceled", "closed", "done", "rejected", "resolved",
    "stale"]

/-- `_first_string(gap.get("gap_id"), gap.get("id"))`. -/
def gapId (gap : Dict) : String := firstString [gap.get "gap_id", gap.get "id"]

mutual

/-- `_iter_gap_objects`. -/
def iterGapObjects : Json → List Dict
  | .arr items => iterGapItems items
  | .obj fields =>
      (if startsWith (gapId fields) "gap_" then [fields] else []) ++ iterGapFields fields
  | _ => []

/-- `_iter_gap_objects` over the elements of a list. -/
def iterGapItems : List Json → List Dict
  | [] => []
  | v :: rest => iterGapObjects v ++ iterGapItems rest

/-- `_iter_gap_objects` over the values of a dictionary. -/
def iterGapFields : List (String × Json) → List Dict
  | [] => []
  | (_, v) :: rest => iterGapObjects v ++ iterGapFields rest

end

/-- `str(gap.get("status") or gap.get("state") or "").lower()`. -/
def gapStatus (gap : Dict) : String := lower (strOr (orElse (gap.get "status") (gap.get "state")))

/-- What a gap is looked up for. -/
structure GapQuery where
  repoName : String
  storyId : String
  capabilityId : String

/-- The ranking score of `_select_gap_id`. -/
def gapScore (query : GapQuery) (gap : Dict) : Nat :=
  let raw := lower (dumps defaultSeparators (.obj gap))
  (if query.storyId ≠ "" ∧ contains raw (lower query.storyId) = true then 100 else 0)
    + (if query.capabilityId ≠ "" ∧ contains raw (lower query.capabilityId) = true then 40 else 0)
    + (if contains raw (lower query.repoName) = true then 20 else 0)
    + (if contains raw "sdk-v1" = true then 10 else 0)
    + (if ["open", "claimable", "actionable", "claimed"].contains (gapStatus gap) = true then 5
        else 0)

/-- `_truthy`. -/
def truthyFlag : Json → Bool
  | .bool b => b
  | .str s => ["1", "true", "yes", "y"].contains (lower (strip s))
  | _ => false

/-- `_falsey`. -/
def falseyFlag : Json → Bool
  | .bool b => !b
  | .str s => ["0", "false", "no", "n"].contains (lower (strip s))
  | _ => false

/-- `_display_bool`. -/
def displayBool (v : Json) : String :=
  if truthyFlag v then "true" else if falseyFlag v then "false" else "<unknown>"

/-- `_has_blocked_reasons`. -/
def hasBlockedReasons (gap : Dict) : Bool :=
  match gap.get "blocked_reasons" with
  | .arr items => items.any truthy
  | .obj fields => !fields.isEmpty
  | .str s => strip s != ""
  | _ => false

/-- `_is_claimable_gap`. -/
def isClaimableGap (gap : Dict) : Bool :=
  if truthyFlag (gap.get "blocked") then false
  else if hasBlockedReasons gap then false
  else if truthyFlag (gap.get "claimable") then true
  else if falseyFlag (gap.get "claimable") then false
  else if nonClaimableGapStatuses.contains (gapStatus gap) then false
  else claimableGapStatuses.contains (gapStatus gap)

/-- The label `_summarize_blocked_reasons` prints for one reason. -/
def reasonLabel : Json → String
  | .obj d => firstString [Dict.get d "code", Dict.get d "reason", Dict.get d "message"]
  | v => strOr v

/-- `_summarize_blocked_reasons`. -/
def summarizeBlockedReasons : Json → String
  | .arr items => join "," ((items.map reasonLabel).filter (fun label => label != ""))
  | .obj d => reasonLabel (.obj d)
  | .str s => strip s
  | _ => ""

/-- The loop of `_summarize_required_action`. -/
def firstRequiredAction : List Json → String
  | [] => ""
  | .obj d :: rest =>
      match Dict.get d "required_action" with
      | .obj required =>
          firstString [Dict.get required "type", Dict.get required "action",
            Dict.get required "message"]
      | .str required => required
      | _ => firstRequiredAction rest
  | _ :: rest => firstRequiredAction rest

/-- `_summarize_required_action`. -/
def summarizeRequiredAction : Json → String
  | .arr items => firstRequiredAction items
  | v => firstRequiredAction [v]

/-- `text or "<unknown>"`. -/
def orUnknown (text : String) : String := if text = "" then "<unknown>" else text

/-- `_no_claimable_gap_message`. -/
def noClaimableGapMessage (gap : Dict) : String :=
  let blockedReasons := summarizeBlockedReasons (gap.get "blocked_reasons")
  let requiredAction := summarizeRequiredAction (gap.get "blocked_reasons")
  join " " (
    ["NO_CLAIMABLE_GAP: gaps.list returned matching gaps but none are claimable.",
      "best_gap_id=" ++ orUnknown (gapId gap),
      "status=" ++ orUnknown (firstString [gap.get "status", gap.get "state"]),
      "claimable=" ++ displayBool (gap.get "claimable"),
      "blocked=" ++ displayBool (gap.get "blocked")]
    ++ (if blockedReasons = "" then [] else ["blocked_reasons=" ++ blockedReasons])
    ++ (if requiredAction = "" then [] else ["required_action=" ++ requiredAction])
    ++ ["Run 'keyhole gaps list --json' and make the gap OPEN/claimable before running " ++
        "governed realization."])

/-- The gaps in the order `sorted(gaps, key=score, reverse=True)` puts them. -/
def rankGaps (query : GapQuery) (gaps : List Dict) : List Dict :=
  gaps.mergeSort (fun a b => decide (gapScore query b ≤ gapScore query a))

/-- `_select_gap_id`: the id, or the message of the error it raises. -/
def selectGapId (data : Dict) (query : GapQuery) : Except String String :=
  let ranked := (rankGaps query (iterGapObjects (.obj data))).filter
    (fun gap => decide (0 < gapScore query gap))
  match ranked with
  | [] => .ok ""
  | top :: _ =>
      match ranked.filter isClaimableGap with
      | [] => .error (noClaimableGapMessage top)
      | best :: rest =>
          if (rest.filter (fun gap => gapScore query gap == gapScore query best)).isEmpty then
            .ok (gapId best)
          else
            .error ("MULTIPLE_GAP_CANDIDATES: server returned multiple equally ranked " ++
              "canonical gaps.")

end KeyholeGaps
