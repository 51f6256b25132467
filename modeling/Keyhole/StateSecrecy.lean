import Keyhole.FlowWorld

/-!
# Secrets and the persisted run state

`GovernedRunStateStore.write` sanitizes the state it is given and writes the result to
`latest.json` and to the file of the run.

* `SameButSecrets`: two documents that differ in the values of secret keys only;
* `persisted_secretFree`: what is written does not depend on a secret, and the sanitizer changes
  nothing else. -/

namespace KeyholeSecrecy

open KeyholeJson KeyholeRedaction KeyholeFlow

/-! ## The store -/

/-- A line break of `json.dumps` with `indent=2`, `level` levels deep. -/
def lineBreak (level : Nat) : String := "\n" ++ String.ofList (List.replicate (2 * level) ' ')

/-- The items of a list or a dictionary between its two brackets. -/
def bracketed (first last : String) (level : Nat) (items : List String) : String :=
  if items.isEmpty then first ++ last
  else first ++ lineBreak (level + 1) ++ join ("," ++ lineBreak (level + 1)) items
    ++ lineBreak level ++ last

mutual

/-- `json.dumps(v, indent=2)`. -/
def dumpsIndented (level : Nat) : Json → String
  | .null => "null"
  | .bool b => if b then "true" else "false"
  | .int n => toString n
  | .float text => dumpFloat text
  | .str s => dumpStr s
  | .arr items => bracketed "[" "]" level (dumpsIndentedItems (level + 1) items)
  | .obj fields => bracketed "\x7b" "\x7d" level (dumpsIndentedFields (level + 1) fields)

/-- The elements of a list, encoded. -/
def dumpsIndentedItems (level : Nat) : List Json → List String
  | [] => []
  | v :: rest => dumpsIndented level v :: dumpsIndentedItems level rest

/-- The entries of a dictionary, encoded. -/
def dumpsIndentedFields (level : Nat) : List (String × Json) → List String
  | [] => []
  | (k, v) :: rest =>
      (dumpStr k ++ ": " ++ dumpsIndented level v) :: dumpsIndentedFields level rest

end

/-- A file of the state directory. -/
inductive StatePath where
  /-- `LATEST_STATE` -/
  | latest
  /-- `runs/<run_key>.json` -/
  | run (runKey : String)
  deriving DecidableEq

/-- What `write` returns, and the files it writes, in order. -/
structure Written where
  payload : Dict
  files : List (StatePath × String)

/-- `GovernedRunStateStore.write`; `timestamp` is `_safe_timestamp()`. -/
def write (timestamp : String) (state : Dict) (updateLatest : Bool) : Written :=
  let payload := sanitizeState state
  let runKey := pyStr (orElse (payload.get "run_record_id") (.str timestamp))
  let payload := payload.set "run_record_id" (.str runKey)
  let body := dumpsIndented 0 (.obj payload)
  { payload
    files := (if updateLatest then [(.latest, body)] else []) ++ [(.run runKey, body)] }

/-! ## Documents that differ in secrets -/

mutual

/-- Two values that differ only in what is stored under secret keys. -/
inductive SameButSecrets : Json → Json → Prop where
  | refl (v : Json) : SameButSecrets v v
  | arr {a b : List Json} : SameItems a b → SameButSecrets (.arr a) (.arr b)
  | obj {a b : List (String × Json)} : SameFields a b → SameButSecrets (.obj a) (.obj b)

/-- `SameButSecrets` along two lists. -/
inductive SameItems : List Json → List Json → Prop where
  | nil : SameItems [] []
  | cons {v w : Json} {a b : List Json} :
      SameButSecrets v w → SameItems a b → SameItems (v :: a) (w :: b)

/-- `SameButSecrets` along two dictionaries: the same keys in the same order. -/
inductive SameFields : List (String × Json) → List (String × Json) → Prop where
  | nil : SameFields [] []
  | secret {k : String} {v w : Json} {a b : List (String × Json)} :
      isSecretKey k = true → SameFields a b → SameFields ((k, v) :: a) ((k, w) :: b)
  | plain {k : String} {v w : Json} {a b : List (String × Json)} :
      SameButSecrets v w → SameFields a b → SameFields ((k, v) :: a) ((k, w) :: b)

end

mutual

theorem SameButSecrets.redact_eq {v w : Json} : SameButSecrets v w → redact v = redact w
  | .refl _ => rfl
  | .arr h => congrArg Json.arr h.redactItems_eq
  | .obj h => congrArg Json.obj h.redactFields_eq

theorem SameItems.redactItems_eq {a b : List Json} :
    SameItems a b → redactItems a = redactItems b
  | .nil => rfl
  | .cons hv hrest => by
    rw [redactItems, redactItems, hv.redact_eq, hrest.redactItems_eq]

theorem SameFields.redactFields_eq {a b : List (String × Json)} :
    SameFields a b → redactFields a = redactFields b
  | .nil => rfl
  | .secret hk hrest => by
    rw [redactFields, redactFields, if_pos hk, if_pos hk, hrest.redactFields_eq]
  | .plain hv hrest => by
    rw [redactFields, redactFields, hv.redact_eq, hrest.redactFields_eq]

end

mutual

/-- `_redact` changes nothing but the values of secret keys. -/
theorem sameButSecrets_redact : (v : Json) → SameButSecrets v (redact v)
  | .arr items => .arr (sameItems_redactItems items)
  | .obj fields => .obj (sameFields_redactFields fields)
  | .null => .refl _
  | .bool _ => .refl _
  | .int _ => .refl _
  | .float _ => .refl _
  | .str _ => .refl _

theorem sameItems_redactItems : (items : List Json) → SameItems items (redactItems items)
  | [] => .nil
  | v :: rest => .cons (sameButSecrets_redact v) (sameItems_redactItems rest)

theorem sameFields_redactFields :
    (fields : List (String × Json)) → SameFields fields (redactFields fields)
  | [] => .nil
  | (k, v) :: rest => by
    rw [redactFields]
    by_cases hk : isSecretKey k = true
    · exact .secret hk (sameFields_redactFields rest)
    · rw [if_neg hk]
      exact .plain (sameButSecrets_redact v) (sameFields_redactFields rest)

end

/-! ## What is persisted -/

/-- `key.lower() in forbidden`. -/
def isForbidden (k : String) : Bool := forbiddenKeys.contains (lower k)

/-- A key that names a credential outright also mentions it. -/
theorem secret_of_forbidden {k : String} (h : isForbidden k = true) : isSecretKey k = true := by
  have hmem : lower k ∈ forbiddenKeys := List.contains_iff_mem.mp h
  unfold isSecretKey
  rcases List.mem_cons.mp hmem with heq | hmem
  · rw [heq]
    decide
  rcases List.mem_cons.mp hmem with heq | hmem
  · rw [heq]
    decide
  rcases List.mem_cons.mp hmem with heq | hmem
  · rw [heq]
    decide
  · rw [List.mem_singleton.mp hmem]
    decide

theorem SameFields.sanitizeState_eq {a b : Dict} (h : SameFields a b) :
    sanitizeState a = sanitizeState b := by
  unfold sanitizeState
  rw [h.redactFields_eq]

/-- The sanitizer drops the entries of the forbidden keys, and changes the others only in the
    values of secret keys. -/
theorem sameFields_sanitizeState (state : Dict) :
    SameFields (state.filter (fun kv => !isForbidden kv.1)) (sanitizeState state) := by
  have hcommutes : sanitizeState state
      = redactFields (state.filter (fun kv => !isForbidden kv.1)) :=
    (redactFields_filter (fun k => !isForbidden k) state).symm
  rw [hcommutes]
  exact sameFields_redactFields _

/-- **Persisted state does not depend on secrets**: states that differ only under secret keys are
    written alike; the sanitizer keeps every other key and value; and it is idempotent. -/
theorem persisted_secretFree :
    (∀ a b : Dict, SameFields a b → ∀ (timestamp : String) (updateLatest : Bool),
      write timestamp a updateLatest = write timestamp b updateLatest) ∧
    (∀ state : Dict,
      SameFields (state.filter (fun kv => !isForbidden kv.1)) (sanitizeState state) ∧
      ∀ kv ∈ state, isForbidden kv.1 = true → isSecretKey kv.1 = true) ∧
    (∀ state : Dict, sanitizeState (sanitizeState state) = sanitizeState state) := by
  refine ⟨?_, ?_, sanitizeState_sanitizeState⟩
  · intro a b hab timestamp updateLatest
    unfold write
    rw [hab.sanitizeState_eq]
  · intro state
    exact ⟨sameFields_sanitizeState state, fun _ _ => secret_of_forbidden⟩

end KeyholeSecrecy
