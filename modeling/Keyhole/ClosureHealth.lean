import Keyhole.JsonDocument
import Keyhole.ValidationPipeline

/-!
# The health a gap closure asks for

Before a gap is closed `assert_event_spine_safe` looks at the health document: its
classification, the `max_msgs` of the `KH_VERDICTS` stream and the number of unpersisted
messages.  Each counter can stand in several places, and the first one that reads as an integer
is the only one looked at.

* `assertEventSpineSafe`: the check, with the exception a call of it ends in;
* `Healthy`: what every counter in the document is to be;
* `Stops`, `Masked`: where the check stops, and the counters it does not see;
* `failClosed_health_iff`: the documents on which it is fail-closed. -/

namespace KeyholeHealth

open KeyholeJson
open KeyholePipeline (isDecimal decimal intMaxStrDigits)

/-! ## Numbers in a document -/

/-- The characters with a digit value that are no decimal digits. -/
def digitRanges : List (Nat × Nat) :=
  [(0xB2, 0xB3), (0xB9, 0xB9), (0x1369, 0x1371), (0x19DA, 0x19DA), (0x2070, 0x2070),
    (0x2074, 0x2079), (0x2080, 0x2089), (0x2460, 0x2468), (0x2474, 0x247C), (0x2488, 0x2490),
    (0x24EA, 0x24EA), (0x24F5, 0x24FD), (0x24FF, 0x24FF), (0x2776, 0x277E), (0x2780, 0x2788),
    (0x278A, 0x2792), (0x10A40, 0x10A43), (0x10E60, 0x10E68), (0x11052, 0x1105A),
    (0x1F100, 0x1F10A)]

/-- `c.isdigit()`. -/
def isDigitChar (c : Char) : Bool :=
  isDecimal c || digitRanges.any fun range => range.1 ≤ c.toNat && c.toNat ≤ range.2

/-- `s.isdigit()`. -/
def isDigitText (s : String) : Bool := !s.toList.isEmpty && s.toList.all isDigitChar

/-- What a call of the check can raise. -/
inductive HealthError where
  | gapClosureError (text : String)
  | valueError
  deriving DecidableEq, Repr

/-- `int(s)`, which takes decimal digits only, and not too many. -/
def intOfText (s : String) : Except HealthError Int :=
  if s.toList.all isDecimal && s.toList.length ≤ intMaxStrDigits then
    .ok (s.toList.foldl (fun n c => 10 * n + ((decimal c).getD 0 : Nat)) (0 : Nat) : Nat)
  else .error .valueError

/-- `_first_int`. -/
def firstInt : List Json → Except HealthError Int
  | [] => .ok 0
  | .bool _ :: rest => firstInt rest
  | .int n :: _ => .ok n
  | .str s :: rest => if isDigitText s then intOfText s else firstInt rest
  | _ :: rest => firstInt rest

/-! ## The check -/

/-- `ACCEPTABLE_EVENT_SPINE_STATUS`. -/
def acceptableEventSpineStatus : List String := ["PASS", "PASS_WITH_LEGACY_WARNINGS"]

/-- The three places of a classification at the top level. -/
def topClassifications (health : Dict) : List Json :=
  [health.get "final_classification", health.get "event_spine_status", health.get "status"]

/-- The classification the check accepts or refuses. -/
def statusOf (health : Dict) : String :=
  firstString (topClassifications health ++ [(Dict.child health "data").get "final_classification"])

/-- A stream's entry in a list of streams. -/
def namedEntry (name : String) : Json → Option Dict
  | .obj stream => if isStr name (Dict.get stream "name") then some stream else none
  | _ => none

/-- `_find_stream`. -/
def findStream (data : Dict) (name : String) : Dict :=
  match data.get "streams" with
  | .obj streams =>
      match Dict.get streams name with
      | .obj stream => stream
      | _ => asDict (data.get name)
  | .arr items =>
      match items.findSome? (namedEntry name) with
      | some stream => stream
      | none => asDict (data.get name)
  | _ => asDict (data.get name)

/-- Where the check looks for `max_msgs`. -/
def maxLooks (health : Dict) : List Json :=
  [(findStream health "KH_VERDICTS").get "max_msgs", health.get "max_msgs"]

/-- Where the check looks for `unpersisted_message_count`. -/
def countLooks (health : Dict) : List Json :=
  [health.get "unpersisted_message_count",
    (findStream health "KH_VERDICTS").get "unpersisted_message_count"]

/-- `assert_event_spine_safe`. -/
def assertEventSpineSafe (health : Dict) : Except HealthError Unit :=
  if acceptableEventSpineStatus.contains (statusOf health) = false then
    .error (.gapClosureError ("event spine health is not safe for closure: "
      ++ if statusOf health = "" then "missing status" else statusOf health))
  else
    match firstInt (maxLooks health) with
    | .error raised => .error raised
    | .ok maxMsgs =>
        if maxMsgs ≠ 0 ∧ maxMsgs ≠ 1000000 then
          .error (.gapClosureError ("KH_VERDICTS max_msgs is " ++ toString maxMsgs
            ++ ", expected 1000000."))
        else
          match firstInt (countLooks health) with
          | .error raised => .error raised
          | .ok unpersisted =>
              if unpersisted ≠ 0 then
                .error (.gapClosureError ("unpersisted_message_count is unsafe: "
                  ++ toString unpersisted ++ "."))
              else .ok ()

/-! ## What the document reports -/

/-- The dictionary a value is, if it is one. -/
def entryOf : Json → List Dict
  | .obj entry => [entry]
  | _ => []

/-- Every entry of a stream in the document. -/
def streamEntries (data : Dict) (name : String) : List Dict :=
  (match data.get "streams" with
    | .obj streams => entryOf (Dict.get streams name)
    | .arr items => items.filterMap (namedEntry name)
    | _ => []) ++ entryOf (data.get name)

/-- The value is a number, and another one than expected; `shown` is how floats that equal the
    expected number print.  A string is the number `int` reads in its digits. -/
def OtherThan (expected : Int) (shown : List String) : Json → Prop
  | .int n => n ≠ expected
  | .float text => text ∉ shown
  | .str s => isDigitText s = true ∧ ∃ n, intOfText s = .ok n ∧ n ≠ expected
  | _ => False

/-- A number of unpersisted messages that is not zero. -/
def Unpersisted : Json → Prop := OtherThan 0 ["0.0", "-0.0"]

/-- A `max_msgs` that is not 1000000. -/
def OddMax : Json → Prop := OtherThan 1000000 ["1000000.0"]

/-- The classification the check looks at stands under `data`. -/
def UnderData (health : Dict) : Prop := firstString (topClassifications health) = ""

/-- Every counter the document reports is as it is to be. -/
structure Healthy (health : Dict) : Prop where
  topCount : ¬ Unpersisted (health.get "unpersisted_message_count")
  streamCount : ∀ entry ∈ streamEntries health "KH_VERDICTS",
    ¬ Unpersisted (entry.get "unpersisted_message_count")
  dataCount : UnderData health →
    ¬ Unpersisted ((Dict.child health "data").get "unpersisted_message_count")
  topMax : ¬ OddMax (health.get "max_msgs")
  streamMax : ∀ entry ∈ streamEntries health "KH_VERDICTS", ¬ OddMax (entry.get "max_msgs")

/-- The check lets only healthy documents through. -/
def FailClosed (health : Dict) : Prop := assertEventSpineSafe health = .ok () → Healthy health

/-! ## What the check sees -/

/-- `_first_int` stops at the value. -/
def readable : Json → Bool
  | .int _ => true
  | .str s => isDigitText s
  | _ => false

/-- What `_first_int` makes of the value it stops at. -/
def readInt : Json → Except HealthError Int
  | .int n => .ok n
  | .str s => intOfText s
  | _ => .ok 0

/-- The check stops: at the classification, or at the counter it reads. -/
inductive Stops (health : Dict) : Prop where
  | status : statusOf health ∉ acceptableEventSpineStatus → Stops health
  | maxMsgs (v : Json) : (maxLooks health).find? readable = some v → readInt v ≠ .ok 0 →
      readInt v ≠ .ok 1000000 → Stops health
  | unpersisted (v : Json) : (countLooks health).find? readable = some v → readInt v ≠ .ok 0 →
      Stops health

/-- An unhealthy counter that the check does not see, or does not take for one. -/
inductive Masked (health : Dict) : Prop where
  /-- the stream's `max_msgs` is read instead -/
  | behindMax : readable ((findStream health "KH_VERDICTS").get "max_msgs") = true →
      OddMax (health.get "max_msgs") → Masked health
  /-- the count at the top level is read instead -/
  | behindCount : readable (health.get "unpersisted_message_count") = true →
      Unpersisted ((findStream health "KH_VERDICTS").get "unpersisted_message_count") →
      Masked health
  /-- a float is skipped -/
  | floatMax (text : String) : .float text ∈ maxLooks health → OddMax (.float text) →
      Masked health
  | floatCount (text : String) : .float text ∈ countLooks health → Unpersisted (.float text) →
      Masked health
  /-- a `max_msgs` of 0 counts as none -/
  | zeroMax (v : Json) : (maxLooks health).find? readable = some v → readInt v = .ok 0 →
      Masked health
  /-- only the first entry of the stream is looked at -/
  | laterEntry (entry : Dict) : entry ∈ (streamEntries health "KH_VERDICTS").tail →
      OddMax (entry.get "max_msgs") ∨ Unpersisted (entry.get "unpersisted_message_count") →
      Masked health
  /-- the count beside the classification is never looked at -/
  | besideClassification : UnderData health →
      Unpersisted ((Dict.child health "data").get "unpersisted_message_count") → Masked health

theorem firstInt_eq (values : List Json) :
    firstInt values = match values.find? readable with
      | none => .ok 0
      | some v => readInt v := by
  induction values with
  | nil => rfl
  | cons v rest ih =>
    cases v with
    | int n => rfl
    | str s =>
      rw [firstInt]
      by_cases hdigits : isDigitText s = true
      · have hread : readable (.str s) = true := hdigits
        rw [if_pos hdigits, List.find?_cons_of_pos hread]
        rfl
      · have hskip : ¬ readable (.str s) = true := hdigits
        rw [if_neg hdigits, List.find?_cons_of_neg hskip]
        exact ih
    | _ => exact ih

/-- What one look at the counters can come to. -/
theorem firstInt_cases (values : List Json) :
    (values.find? readable = none ∧ firstInt values = .ok 0) ∨
      ∃ v, values.find? readable = some v ∧ firstInt values = readInt v := by
  rw [firstInt_eq]
  cases hfind : values.find? readable with
  | none => exact .inl ⟨rfl, rfl⟩
  | some v => exact .inr ⟨v, rfl, rfl⟩

theorem not_stops_maxMsgs {health : Dict} (h : ¬ Stops health) :
    firstInt (maxLooks health) = .ok 0 ∨ firstInt (maxLooks health) = .ok 1000000 := by
  rcases firstInt_cases (maxLooks health) with ⟨-, hread⟩ | ⟨v, hfind, hread⟩
  · exact .inl hread
  · rw [hread]
    by_contra hneither
    rw [not_or] at hneither
    exact h (.maxMsgs v hfind hneither.1 hneither.2)

theorem not_stops_unpersisted {health : Dict} (h : ¬ Stops health) :
    firstInt (countLooks health) = .ok 0 := by
  rcases firstInt_cases (countLooks health) with ⟨-, hread⟩ | ⟨v, hfind, hread⟩
  · exact hread
  · rw [hread]
    by_contra hother
    exact h (.unpersisted v hfind hother)

/-- The check returns exactly where it does not stop. -/
theorem assert_ok_iff (health : Dict) :
    assertEventSpineSafe health = .ok () ↔ ¬ Stops health := by
  rw [assertEventSpineSafe]
  constructor
  · intro hok hstops
    cases hstops with
    | status hstatus =>
      have hrefused : acceptableEventSpineStatus.contains (statusOf health) = false :=
        Bool.eq_false_iff.mpr fun h => hstatus (List.contains_iff_mem.mp h)
      rw [if_pos hrefused] at hok
      exact nomatch hok
    | maxMsgs v hfind hzero hexpected =>
      have hread : firstInt (maxLooks health) = readInt v := by rw [firstInt_eq, hfind]
      rw [hread] at hok
      split at hok
      · exact nomatch hok
      · split at hok
        · exact nomatch hok
        · rename_i maxMsgs hvalue
          have hodd : maxMsgs ≠ 0 ∧ maxMsgs ≠ 1000000 :=
            ⟨fun h => hzero (h ▸ hvalue), fun h => hexpected (h ▸ hvalue)⟩
          rw [if_pos hodd] at hok
          exact nomatch hok
    | unpersisted v hfind hzero =>
      have hread : firstInt (countLooks health) = readInt v := by rw [firstInt_eq, hfind]
      rw [hread] at hok
      split at hok
      · exact nomatch hok
      · split at hok
        · exact nomatch hok
        · split at hok
          · exact nomatch hok
          · split at hok
            · exact nomatch hok
            · rename_i unpersisted hvalue
              have hodd : unpersisted ≠ 0 := fun h => hzero (h ▸ hvalue)
              rw [if_pos hodd] at hok
              exact nomatch hok
  · intro h
    have hstatus : ¬ acceptableEventSpineStatus.contains (statusOf health) = false := by
      intro hrefused
      refine h (.status fun hmem => ?_)
      rw [List.contains_iff_mem.mpr hmem] at hrefused
      exact nomatch hrefused
    rw [if_neg hstatus, not_stops_unpersisted h]
    rcases not_stops_maxMsgs h with hmax | hmax
    · rw [hmax]
      rfl
    · rw [hmax]
      rfl

/-! ## Looking at every counter -/

/-- A number other than expected is a float, or `_first_int` stops at it and reads it. -/
theorem OtherThan.cases {expected : Int} {shown : List String} {v : Json}
    (h : OtherThan expected shown v) :
    (∃ text, v = .float text) ∨
      (readable v = true ∧ ∃ n, readInt v = .ok n ∧ n ≠ expected) := by
  cases v with
  | int n => exact .inr ⟨rfl, n, rfl, h⟩
  | float text => exact .inl ⟨text, rfl⟩
  | str s => exact .inr h
  | _ => exact h.elim

theorem findSome?_eq_head? {α β : Type} (f : α → Option β) (items : List α) :
    items.findSome? f = (items.filterMap f).head? := by
  induction items with
  | nil => rfl
  | cons item rest ih =>
    cases hitem : f item with
    | none => rw [List.findSome?_cons, hitem, List.filterMap_cons_none hitem, ih]
    | some found => rw [List.findSome?_cons, hitem, List.filterMap_cons_some hitem, List.head?_cons]

theorem asDict_eq_headD (v : Json) : asDict v = (entryOf v).headD [] := by
  cases v <;> rfl

/-- The entry the check looks at is the first one of the stream. -/
theorem findStream_eq (data : Dict) (name : String) :
    findStream data name = (streamEntries data name).headD [] := by
  rw [findStream, streamEntries]
  cases data.get "streams" with
  | obj streams =>
    simp only
    cases Dict.get streams name with
    | obj stream => rfl
    | _ => exact asDict_eq_headD _
  | arr items =>
    simp only
    rw [findSome?_eq_head?]
    cases items.filterMap (namedEntry name) with
    | nil => exact asDict_eq_headD _
    | cons stream rest => rfl
  | _ => exact asDict_eq_headD _

/-- A counter of the entry the check looks at is a counter of an entry of the stream. -/
theorem entry_of_findStream {health : Dict} {key : String} {bad : Json → Prop}
    (hnull : ¬ bad .null) (h : bad ((findStream health "KH_VERDICTS").get key)) :
    ∃ entry ∈ streamEntries health "KH_VERDICTS", bad (Dict.get entry key) := by
  rw [findStream_eq] at h
  cases hentries : streamEntries health "KH_VERDICTS" with
  | nil =>
    rw [hentries] at h
    exact absurd h hnull
  | cons entry rest =>
    rw [hentries] at h
    exact ⟨entry, List.mem_cons_self, h⟩

/-- Where the check does not stop, an entry's unhealthy counter stands in a later entry, or in
    the one the check looks at. -/
theorem entry_cases {health entry : Dict} (h : entry ∈ streamEntries health "KH_VERDICTS") :
    entry = findStream health "KH_VERDICTS" ∨
      entry ∈ (streamEntries health "KH_VERDICTS").tail := by
  rw [findStream_eq]
  cases hentries : streamEntries health "KH_VERDICTS" with
  | nil =>
    rw [hentries] at h
    exact nomatch h
  | cons first rest =>
    rw [hentries] at h
    exact List.mem_cons.mp h

theorem Healthy.not_masked {health : Dict} (h : Healthy health) : ¬ Masked health := by
  have hstreamMax : ¬ OddMax ((findStream health "KH_VERDICTS").get "max_msgs") := by
    intro hbad
    obtain ⟨entry, hentry, hodd⟩ := entry_of_findStream (fun h => h) hbad
    exact h.streamMax entry hentry hodd
  have hstreamCount :
      ¬ Unpersisted ((findStream health "KH_VERDICTS").get "unpersisted_message_count") := by
    intro hbad
    obtain ⟨entry, hentry, hodd⟩ := entry_of_findStream (fun h => h) hbad
    exact h.streamCount entry hentry hodd
  have hmaxLooks : ∀ v ∈ maxLooks health, ¬ OddMax v := by
    intro v hv
    rcases List.mem_cons.mp hv with rfl | hv
    · exact hstreamMax
    · rw [List.mem_singleton.mp hv]
      exact h.topMax
  intro hmasked
  cases hmasked with
  | behindMax _ hodd => exact h.topMax hodd
  | behindCount _ hcount => exact hstreamCount hcount
  | floatMax text hmem hodd => exact hmaxLooks _ hmem hodd
  | floatCount text hmem hcount =>
    rcases List.mem_cons.mp hmem with heq | hmem
    · exact h.topCount (heq ▸ hcount)
    · exact hstreamCount (List.mem_singleton.mp hmem ▸ hcount)
  | zeroMax v hfind hzero =>
    -- a zero is a number other than 1000000
    apply hmaxLooks v (List.mem_of_find?_eq_some hfind)
    have hread := List.find?_some hfind
    cases v with
    | int n =>
      rw [Except.ok.inj hzero]
      exact nofun
    | str s => exact ⟨hread, 0, hzero, nofun⟩
    | _ => exact nomatch hread
  | laterEntry entry hmem hbad =>
    rcases hbad with hodd | hcount
    · exact h.streamMax entry (List.mem_of_mem_tail hmem) hodd
    · exact h.streamCount entry (List.mem_of_mem_tail hmem) hcount
  | besideClassification hunder hcount => exact h.dataCount hunder hcount

theorem healthy_of_not_masked {health : Dict} (hstops : ¬ Stops health) (h : ¬ Masked health) :
    Healthy health := by
  have hcount := not_stops_unpersisted hstops
  have hmax := not_stops_maxMsgs hstops
  rw [firstInt_eq] at hcount hmax
  -- what the check stops at, it has read as it should be
  have hcountRead : ∀ v, (countLooks health).find? readable = some v → ¬ Unpersisted v := by
    intro v hfind hbad
    rw [hfind] at hcount
    rcases hbad.cases with ⟨text, rfl⟩ | ⟨-, n, hn, hne⟩
    · exact nomatch List.find?_some hfind
    · exact hne (Except.ok.inj (hn.symm.trans hcount))
  have hmaxRead : ∀ v, (maxLooks health).find? readable = some v → ¬ OddMax v := by
    intro v hfind hbad
    rw [hfind] at hmax
    rcases hbad.cases with ⟨text, rfl⟩ | ⟨-, n, hn, hne⟩
    · exact nomatch List.find?_some hfind
    · rcases hmax with hzero | hexpected
      · exact h (.zeroMax v hfind hzero)
      · exact hne (Except.ok.inj (hn.symm.trans hexpected))
  have hstreamMax : ¬ OddMax ((findStream health "KH_VERDICTS").get "max_msgs") := by
    intro hbad
    rcases hbad.cases with ⟨text, htext⟩ | ⟨hread, -⟩
    · exact h (.floatMax text (htext ▸ List.mem_cons_self) (htext ▸ hbad))
    · exact hmaxRead _ (List.find?_cons_of_pos hread) hbad
  have hstreamCount :
      ¬ Unpersisted ((findStream health "KH_VERDICTS").get "unpersisted_message_count") := by
    intro hbad
    rcases hbad.cases with ⟨text, htext⟩ | ⟨hread, -⟩
    · exact h (.floatCount text (htext ▸ List.mem_cons_of_mem _ List.mem_cons_self) (htext ▸ hbad))
    · by_cases htop : readable (health.get "unpersisted_message_count") = true
      · exact h (.behindCount htop hbad)
      · refine hcountRead _ ?_ hbad
        exact (List.find?_cons_of_neg htop).trans (List.find?_cons_of_pos hread)
  constructor
  · intro hbad
    rcases hbad.cases with ⟨text, htext⟩ | ⟨hread, -⟩
    · exact h (.floatCount text (htext ▸ List.mem_cons_self) (htext ▸ hbad))
    · exact hcountRead _ (List.find?_cons_of_pos hread) hbad
  · intro entry hentry hbad
    rcases entry_cases hentry with rfl | hlater
    · exact hstreamCount hbad
    · exact h (.laterEntry entry hlater (.inr hbad))
  · intro hunder hbad
    exact h (.besideClassification hunder hbad)
  · intro hbad
    rcases hbad.cases with ⟨text, htext⟩ | ⟨hread, -⟩
    · exact h (.floatMax text (htext ▸ List.mem_cons_of_mem _ List.mem_cons_self) (htext ▸ hbad))
    · by_cases hstream : readable ((findStream health "KH_VERDICTS").get "max_msgs") = true
      · exact h (.behindMax hstream hbad)
      · refine hmaxRead _ ?_ hbad
        exact (List.find?_cons_of_neg hstream).trans (List.find?_cons_of_pos hread)
  · intro entry hentry hbad
    rcases entry_cases hentry with rfl | hlater
    · exact hstreamMax hbad
    · exact h (.laterEntry entry hlater (.inl hbad))

/-- The check is fail-closed on a document exactly when it stops there, or no unhealthy counter
    is masked. -/
theorem failClosed_health_iff (health : Dict) :
    FailClosed health ↔ (Stops health ∨ ¬ Masked health) := by
  rw [FailClosed, assert_ok_iff]
  constructor
  · intro h
    by_cases hstops : Stops health
    · exact .inl hstops
    · exact .inr ((h hstops).not_masked)
  · rintro (hstops | hmasked) hruns
    · exact absurd hstops hruns
    · exact healthy_of_not_masked hruns hmasked

/-- Two unpersisted messages in the stream's entry, and a zero at the top level. -/
theorem stream_count_masked : ¬ FailClosed
    [("final_classification", .str "PASS"), ("unpersisted_message_count", .int 0),
      ("streams", .obj [("KH_VERDICTS",
        .obj [("max_msgs", .int 1000000), ("unpersisted_message_count", .int 2)])])] := by
  intro h
  refine (h rfl).streamCount _ List.mem_cons_self ?_
  show (2 : Int) ≠ 0
  decide

end KeyholeHealth
