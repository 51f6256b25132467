import Keyhole.JsonDocument

/-!
# Redaction of persisted documents

Every document the governed flow writes to disk passes through `_redact`, which
hides the value of each key whose name mentions a token or an authorization, and
the run state also loses the keys that name a credential outright.

A document that has been through the sanitizer is fixed by it, so a saved state
is a document *together with* that fact: `SavedState`.  Reading a key of a saved
state after updating it needs no case distinction on secrets any more. -/

namespace KeyholeRedaction

open KeyholeJson

/-- What a secret value is replaced by. -/
def redacted : String := "<redacted>"

/-- Does `_redact` hide the value stored under this key? -/
def isSecretKey (k : String) : Bool :=
  contains (lower k) "token" || contains (lower k) "authorization"

/-- The top-level keys `_sanitize_state` removes. -/
def forbiddenKeys : List String := ["token", "access_token", "refresh_token", "authorization"]

mutual

/-- `_redact`. -/
def redact : Json → Json
  | .arr items => .arr (redactItems items)
  | .obj fields => .obj (redactFields fields)
  | v => v

/-- `_redact` on the elements of a list. -/
def redactItems : List Json → List Json
  | [] => []
  | v :: rest => redact v :: redactItems rest

/-- `_redact` on the entries of a dictionary. -/
def redactFields : List (String × Json) → List (String × Json)
  | [] => []
  | (k, v) :: rest =>
      (k, if isSecretKey k then .str redacted else redact v) :: redactFields rest

end

/-- `_sanitize_state`. -/
def sanitizeState (state : Dict) : Dict :=
  (redactFields state).filter (fun kv => !forbiddenKeys.contains (lower kv.1))

/-! ## Redaction is a projection -/

@[simp] theorem redact_null : redact .null = .null := rfl

@[simp] theorem redact_str (s : String) : redact (.str s) = .str s := rfl

@[simp] theorem redact_bool (b : Bool) : redact (.bool b) = .bool b := rfl

mutual

theorem redact_redact : (v : Json) → redact (redact v) = redact v
  | .arr items => congrArg Json.arr (redactItems_redactItems items)
  | .obj fields => congrArg Json.obj (redactFields_redactFields fields)
  | .null => rfl
  | .bool _ => rfl
  | .int _ => rfl
  | .float _ => rfl
  | .str _ => rfl

theorem redactItems_redactItems : (items : List Json) →
    redactItems (redactItems items) = redactItems items
  | [] => rfl
  | v :: rest => by
    rw [redactItems, redactItems, redact_redact v, redactItems_redactItems rest]

theorem redactFields_redactFields : (fields : List (String × Json)) →
    redactFields (redactFields fields) = redactFields fields
  | [] => rfl
  | (k, v) :: rest => by
    rw [redactFields, redactFields, redactFields_redactFields rest]
    by_cases h : isSecretKey k = true
    · rw [if_pos h, if_pos h]
    · rw [if_neg h, if_neg h, redact_redact v]

end

/-- Redaction commutes with dropping entries by their key. -/
theorem redactFields_filter (p : String → Bool) (fields : Dict) :
    redactFields (fields.filter (fun kv => p kv.1))
      = (redactFields fields).filter (fun kv => p kv.1) := by
  induction fields with
  | nil => rfl
  | cons hd rest ih =>
    obtain ⟨k, v⟩ := hd
    by_cases h : p k = true
    · rw [List.filter_cons_of_pos (by exact h), redactFields, ih, redactFields,
        List.filter_cons_of_pos (by exact h)]
    · rw [List.filter_cons_of_neg (by exact h), ih, redactFields,
        List.filter_cons_of_neg (by exact h)]

/-- Sanitizing twice is sanitizing once. -/
theorem sanitizeState_sanitizeState (state : Dict) :
    sanitizeState (sanitizeState state) = sanitizeState state := by
  unfold sanitizeState
  rw [redactFields_filter (fun k => !forbiddenKeys.contains (lower k)),
    redactFields_redactFields, List.filter_filter]
  simp only [Bool.and_self]

theorem get_redactFields (fields : Dict) (k : String) (h : isSecretKey k = false) :
    Dict.get (redactFields fields) k = redact (Dict.get fields k) := by
  induction fields with
  | nil => rfl
  | cons hd rest ih =>
    obtain ⟨k', v⟩ := hd
    rw [redactFields, get_cons, get_cons, ih]
    by_cases hk : k = k'
    · subst hk
      rw [if_pos rfl, if_pos rfl, h]
      rfl
    · rw [if_neg hk, if_neg hk]

theorem get_filter_key (p : String → Bool) (d : Dict) (k : String) (h : p k = true) :
    Dict.get (d.filter (fun kv => p kv.1)) k = Dict.get d k := by
  induction d with
  | nil => rfl
  | cons hd rest ih =>
    obtain ⟨k', v⟩ := hd
    by_cases hp : p k' = true
    · rw [List.filter_cons_of_pos (by exact hp), get_cons, get_cons, ih]
    · have hk : k ≠ k' := fun hk => hp (hk ▸ h)
      rw [List.filter_cons_of_neg (by exact hp), ih, get_cons, if_neg hk]

/-- A key the sanitizer has nothing to hide under. -/
def PlainKey (k : String) : Prop :=
  isSecretKey k = false ∧ forbiddenKeys.contains (lower k) = false

instance (k : String) : Decidable (PlainKey k) := by unfold PlainKey; infer_instance

theorem get_sanitizeState (state : Dict) (k : String) (h : PlainKey k) :
    Dict.get (sanitizeState state) k = redact (Dict.get state k) := by
  unfold sanitizeState
  rw [get_filter_key (fun k => !forbiddenKeys.contains (lower k)) _ k (by simp only [h.2]; rfl),
    get_redactFields state k h.1]

/-! ## Saved states -/

/-- A governed-run state as it can stand in memory or on disk after the
    sanitizer: no secret left in it. -/
structure SavedState where
  doc : Dict
  clean : sanitizeState doc = doc

/-- `state.get(k)`. -/
def SavedState.get (s : SavedState) (k : String) : Json := s.doc.get k

/-- `state.get(k, default)`. -/
def SavedState.getOr (s : SavedState) (k : String) (default : Json) : Json :=
  s.doc.getOr k default

/-- The state that sanitizing a document leaves. -/
def SavedState.ofDict (d : Dict) : SavedState := ⟨sanitizeState d, sanitizeState_sanitizeState d⟩

/-- The empty state of a client that has not opened a run yet. -/
def SavedState.empty : SavedState := ⟨[], rfl⟩

@[simp] theorem SavedState.get_empty (k : String) : SavedState.empty.get k = .null := rfl

theorem SavedState.get_ofDict (d : Dict) (k : String) (h : PlainKey k) :
    (SavedState.ofDict d).get k = redact (d.get k) := get_sanitizeState d k h

/-- Redaction leaves the plain values of a saved state alone. -/
theorem SavedState.redact_get (s : SavedState) (k : String) (h : PlainKey k) :
    redact (s.get k) = s.get k := by
  have hget := get_sanitizeState s.doc k h
  rw [s.clean] at hget
  exact hget.symm

end KeyholeRedaction
