import Keyhole.TokenRefresh

/-!
# Refreshing beside other calls

Nothing keeps two calls from holding the same refresh token, nor a call from writing back
what it read before another was granted a new one or the store was cleared.

* `NothingLost`: no call fails because another refreshed, the stored refresh token ends up
  the live one, and a cleared store stays empty;
* `Apart`: a step that does not overlap another call's read and rename;
* `Steady`: where every copy of the refresh token is the live one;
* `nothing_lost`: a run of steps that are all apart loses nothing. -/

namespace KeyholeRefresh

open KeyholeJson KeyholeIdentity KeyholeLogin KeyholeCoherence

/-! ## What a run must not lose -/

/-- The file carries the refresh token. -/
def Carries (token : String) (c : FileContent) : Prop :=
  ∃ creds : Dict, c = .doc (.obj creds) ∧ Dict.get creds "refresh_token" = .str token

/-- The step does not overlap another call.  No call takes up credentials between the grant
    and the rename of another; and no grant is requested, and nothing is cleared, while
    another call is between its read and its end. -/
def Apart (lib : TokenLib) (s : State) : Event → Prop
  | .load i now => (afterLoad lib now s.credentials).busy = true →
      ∀ j, j ≠ i → (s.calls j).ahead = false
  | .reload i => ∀ j, j ≠ i → (s.calls j).ahead = false
  | .grant i _ (some _) => ∀ j, j ≠ i → (s.calls j).busy = false
  | .clear => ∀ j, (s.calls j).busy = false
  | _ => True

/-- Every step of the run is apart. -/
def EachApart (lib : TokenLib) : State → List Event → Prop
  | _, [] => True
  | s, e :: events => Apart lib s e ∧ ∀ next, step lib s e = some next → EachApart lib next events

/-! ## Every copy is live -/

/-- What the call holds carries the refresh token. -/
def Point.carries (token : String) : Point → Prop
  | .refreshing creds => Dict.get creds "refresh_token" = .str token
  | .verifying session => session.refreshToken = some token
  | .saving _ content | .written _ content | .restricted _ content =>
      Dict.get content "refresh_token" = .str token
  | _ => True

/-- Whose temporary file the call wrote. -/
def Point.pending : Point → Option Caller
  | .written caller _ | .restricted caller _ => some caller
  | _ => none

/-- The call failed as it could not have alone. -/
def Point.disturbed : Point → Bool
  | .failed .refused => true
  | .failed (.temporaryFileGone _) => true
  | _ => false

/-- Every copy of the refresh token is the live one, but for the file's between a grant and
    its rename, and then no other call holds a copy. -/
structure Steady (s : State) : Prop where
  stored : (∀ i, (s.calls i).ahead = false) → ∀ c, s.credentials = some c → Carries s.live c
  held : ∀ i, (s.calls i).carries s.live
  alone : ∀ i j, j ≠ i → (s.calls i).ahead = true → (s.calls j).busy = false
  tmp : ∀ i caller, (s.calls i).pending = some caller → ∀ c, s.tmp = some c → Carries s.live c
  kept : ∀ i, (s.calls i).pending = some .getFreshToken → s.tmp ≠ none
  undisturbed : ∀ i, (s.calls i).disturbed = false

variable {lib : TokenLib} {s s' : State} {i : Nat}

variable {p : Point} {caller : Caller} {e : Event} {j : Nat} {token : String} {content creds : Dict}
variable {session : AuthSession} {events : List Event} {data : GrantAnswer}

theorem busy_of_ahead (h : p.ahead = true) : p.busy = true := by
  cases p with
  | saving | written | restricted => rfl
  | _ => exact nomatch h

theorem busy_of_pending (h : p.pending = some caller) :
    p.busy = true := by
  cases p with
  | written | restricted => rfl
  | _ => exact nomatch h

theorem ahead_of_pending (h : p.pending = some .getFreshToken) : p.ahead = true := by
  cases p with
  | written caller _ | restricted caller _ =>
    obtain rfl : caller = .getFreshToken := Option.some.inj h
    rfl
  | _ => exact nomatch h

theorem move_self (p : Point) : (s.move i p).calls i = p := by
  rw [move_calls, Function.update_self]

theorem move_of_ne (h : j ≠ i) (p : Point) : (s.move i p).calls j = s.calls j := by
  rw [move_calls, Function.update_of_ne h]

/-- A property of every call, after one of them moved. -/
theorem forall_move {P : Point → Prop} (hp : P p)
    (hrest : ∀ j, j ≠ i → P (s.calls j)) (j : Nat) : P ((s.move i p).calls j) := by
  by_cases hj : j = i
  · subst hj
    rw [move_self]
    exact hp
  · rw [move_of_ne hj]
    exact hrest j hj

/-- Nobody else has a refresh's temporary file while a call holds credentials. -/
theorem Steady.not_pending (h : Steady s) (hbusy : (s.calls i).busy = true)
    (hj : j ≠ i) : (s.calls j).pending ≠ some .getFreshToken := by
  intro hpending
  rw [h.alone j i (Ne.symm hj) (ahead_of_pending hpending)] at hbusy
  exact nomatch hbusy

/-- A call moves on without touching the files or the server. -/
theorem Steady.move (h : Steady s) (hnew : p.ahead = true → (s.calls i).ahead = true)
    (hold : (s.calls i).ahead = p.ahead ∨ ∀ c, s.credentials = some c → Carries s.live c)
    (hbusy : p.busy = true → (s.calls i).busy = true ∨ ∀ j, j ≠ i → (s.calls j).ahead = false)
    (hheld : p.carries s.live)
    (htmp : ∀ caller, p.pending = some caller → ∀ c, s.tmp = some c → Carries s.live c)
    (hkept : p.pending = some .getFreshToken → s.tmp ≠ none)
    (hfine : p.disturbed = false) : Steady (s.move i p) where
  stored := fun hall => by
    rcases hold with hsame | hcarries
    · refine h.stored fun j => ?_
      by_cases hj : j = i
      · subst hj
        rw [hsame, ← move_self (s := s) p]
        exact hall j
      · rw [← move_of_ne hj p]
        exact hall j
    · exact hcarries
  held := forall_move hheld fun j _ => h.held j
  alone := by
    intro a b hab ha
    by_cases hai : a = i
    · subst hai
      rw [move_self] at ha
      rw [move_of_ne hab]
      exact h.alone a b hab (hnew ha)
    · rw [move_of_ne hai] at ha
      by_cases hbi : b = i
      · subst hbi
        rw [move_self]
        by_contra hnot
        rcases hbusy (Bool.not_eq_false _ ▸ hnot) with hb | hall
        · rw [h.alone a b hab ha] at hb
          exact nomatch hb
        · rw [hall a hai] at ha
          exact nomatch ha
      · rw [move_of_ne hbi]
        exact h.alone a b hab ha
  tmp := forall_move (P := fun q => ∀ caller, q.pending = some caller → _) htmp
    fun j _ => h.tmp j
  kept := forall_move (P := fun q => q.pending = some .getFreshToken → _) hkept
    fun j _ => h.kept j
  undisturbed := forall_move (P := fun q => q.disturbed = false) hfine
    fun j _ => h.undisturbed j

/-- A call ends, or reads what it need not keep. -/
theorem Steady.ended (h : Steady s)
    (hold : (s.calls i).ahead = false ∨ ∀ c, s.credentials = some c → Carries s.live c)
    (hp : p.busy = false) (hfine : p.disturbed = false) : Steady (s.move i p) := by
  have hahead : p.ahead = false := by
    by_contra hahead
    rw [busy_of_ahead (Bool.not_eq_false _ ▸ hahead)] at hp
    exact nomatch hp
  have hpending : p.pending = none := by
    cases p with
    | written | restricted => exact nomatch hp
    | _ => rfl
  refine h.move (fun ha => ?_) (hold.imp_left fun hnot => hnot.trans hahead.symm) (fun hb => ?_) ?_
    (fun _ h => ?_) (fun h => ?_) hfine
  · rw [hahead] at ha
    exact nomatch ha
  · rw [hp] at hb
    exact nomatch hb
  · cases p with
    | refreshing | verifying | saving | written | restricted => exact nomatch hp
    | _ => trivial
  · rw [hpending] at h
    exact nomatch h
  · rw [hpending] at h
    exact nomatch h

/-- A call takes up a copy of the live token, or hands the one it has on. -/
theorem Steady.taken (h : Steady s) (hahead : p.ahead = (s.calls i).ahead)
    (hbusy : (s.calls i).busy = true ∨ ∀ j, j ≠ i → (s.calls j).ahead = false)
    (hheld : p.carries s.live) (hpending : p.pending = none) (hfine : p.disturbed = false) :
    Steady (s.move i p) := by
  refine h.move (fun ha => hahead ▸ ha) (.inl hahead.symm) (fun _ => hbusy) hheld
    (fun _ h => ?_) (fun h => ?_) hfine
  · rw [hpending] at h
    exact nomatch h
  · rw [hpending] at h
    exact nomatch h

/-- The temporary file changes. -/
theorem Steady.withTmp (h : Steady s) {tmp : Option FileContent} {by_ : Option Caller}
    (htmp : ∀ j caller, (s.calls j).pending = some caller →
      ∀ c, tmp = some c → Carries s.live c)
    (hkept : ∀ j, (s.calls j).pending = some .getFreshToken → tmp ≠ none) :
    Steady { s with tmp := tmp, removedBy := by_ } :=
  ⟨h.stored, h.held, h.alone, htmp, hkept, h.undisturbed⟩

/-- With no other refresh under way, a file that is read carries the live token. -/
theorem Steady.read (h : Steady s) (hnot : (s.calls i).ahead = false)
    (hrest : ∀ j, j ≠ i → (s.calls j).ahead = false) {c : FileContent}
    (hc : s.credentials = some c) : Carries s.live c :=
  h.stored (fun j => if hj : j = i then hj ▸ hnot else hrest j hj) c hc

/-! ## One step -/

/-- `get_fresh_token` is over before its request, or holds the credentials it read. -/
theorem withCreds_cases (lib : TokenLib) (now : Rat) (creds : Dict) :
    (withCreds lib now creds).busy = false ∧ (withCreds lib now creds).disturbed = false
      ∨ withCreds lib now creds = .refreshing creds := by
  unfold withCreds
  by_cases hvalid : tokenIsValid lib now (Dict.getOr creds "access_token" (.str "")) = true
  · rw [if_pos hvalid]
    exact .inl ⟨rfl, rfl⟩
  rw [if_neg hvalid]
  by_cases htoken : (!truthy (Dict.get creds "refresh_token")) = true
  · rw [if_pos htoken]
    exact .inl ⟨rfl, rfl⟩
  rw [if_neg htoken]
  cases tokenEndpoint creds with
  | none => exact .inl ⟨rfl, rfl⟩
  | some _ => exact .inr rfl

theorem afterLoad_cases (lib : TokenLib) (now : Rat) (found : Option FileContent) :
    (afterLoad lib now found).busy = false ∧ (afterLoad lib now found).disturbed = false
      ∨ ∃ creds, found = some (.doc (.obj creds))
          ∧ afterLoad lib now found = .refreshing creds := by
  cases found with
  | none => exact .inl ⟨rfl, rfl⟩
  | some c =>
    cases c with
    | undecodable | garbled | unparsable => exact .inl ⟨rfl, rfl⟩
    | doc json =>
      cases json with
      | obj creds => exact (withCreds_cases lib now creds).imp id fun h => ⟨creds, rfl, h⟩
      | _ => exact .inl ⟨rfl, rfl⟩

theorem Steady.load (h : Steady s) {now : Rat} (hidle : s.calls i = .idle)
    (hapart : Apart lib s (.load i now)) :
    Steady (s.move i (afterLoad lib now s.credentials)) := by
  have hnot : (s.calls i).ahead = false := by rw [hidle]; rfl
  rcases afterLoad_cases lib now s.credentials with ⟨hbusy, hfine⟩ | ⟨creds, hc, hload⟩
  · exact h.ended (.inl hnot) hbusy hfine
  · have hrest := hapart (by rw [hload]; rfl)
    obtain ⟨d, hd, htoken⟩ := h.read hnot hrest hc
    obtain rfl : creds = d := by injection hd with hd; injection hd
    rw [hload]
    exact h.taken hnot.symm (.inr hrest) htoken rfl rfl

/-- The refresh token of the answer is the one the merged credentials carry. -/
theorem mergeGrant_refreshToken (lib : TokenLib) (now : Rat) (creds : Dict)
    (h : data.refreshToken = some token) :
    Dict.get (mergeGrant lib now creds data) "refresh_token" = .str token := by
  unfold mergeGrant withRefreshToken
  rw [h]
  exact (get_set _ _ _ _).trans (if_pos rfl)

theorem isStr_of_eq {v : Json} (h : v = .str token) : isStr token v = true := by
  rw [h]
  exact beq_self_eq_true token

/-- A grant answers with a new token, which the call is to save. -/
theorem grantTokens_some {now : Rat} (h : grantTokens lib s i creds now data = some s') :
    ∃ fresh content, Dict.get content "refresh_token" = .str fresh ∧ fresh ∉ s.issued
      ∧ s' = { s.move i (.saving .getFreshToken content) with
          live := fresh, issued := fresh :: s.issued } := by
  unfold grantTokens at h
  cases hfresh : data.refreshToken with
  | none =>
    simp only [hfresh] at h
    exact nomatch h
  | some fresh =>
    simp only [hfresh] at h
    by_cases hissued : fresh ∈ s.issued
    · rw [if_pos hissued] at h
      exact nomatch h
    · rw [if_neg hissued] at h
      exact ⟨fresh, _, mergeGrant_refreshToken lib now creds hfresh, hissued,
        (Option.some.inj h).symm⟩

/-- With no other call in between, the grant leaves no copy of the token that was given up
    but the file's. -/
theorem Steady.granted (h : Steady s) {fresh : String}
    (hrest : ∀ j, j ≠ i → (s.calls j).busy = false)
    (hfresh : Dict.get content "refresh_token" = .str fresh) :
    Steady { s.move i (.saving .getFreshToken content) with
      live := fresh, issued := fresh :: s.issued } where
  stored := fun hall => by
    have hself : (s.move i (.saving .getFreshToken content)).calls i = _ := move_self _
    have hnot : ((s.move i (.saving .getFreshToken content)).calls i).ahead = false := hall i
    rw [hself] at hnot
    exact nomatch hnot
  held := by
    refine forall_move (P := fun p => p.carries fresh) hfresh fun j hj => ?_
    have hbusy := hrest j hj
    generalize s.calls j = p at hbusy
    cases p with
    | refreshing | verifying | saving | written | restricted => exact nomatch hbusy
    | _ => trivial
  alone := by
    intro a b hab ha
    by_cases hbi : b = i
    · subst hbi
      have hbusy := hrest a (Ne.symm hab)
      have hahead : (s.calls a).ahead = true :=
        move_of_ne (Ne.symm hab) (.saving .getFreshToken content) ▸ ha
      rw [busy_of_ahead hahead] at hbusy
      exact nomatch hbusy
    · show ((s.move i _).calls b).busy = false
      rw [move_of_ne hbi]
      exact hrest b hbi
  tmp := by
    refine forall_move (P := fun p => ∀ caller, p.pending = some caller → _)
      nofun fun j hj caller hpending => ?_
    have hbusy := hrest j hj
    rw [busy_of_pending hpending] at hbusy
    exact nomatch hbusy
  kept := by
    refine forall_move (P := fun p => p.pending = some .getFreshToken → _)
      nofun fun j hj hpending => ?_
    have hbusy := hrest j hj
    rw [busy_of_pending hpending] at hbusy
    exact nomatch hbusy
  undisturbed :=
    forall_move (P := fun p => p.disturbed = false) rfl fun j _ => h.undisturbed j

theorem Steady.grant (h : Steady s) {now : Rat} {answer : Option GrantAnswer}
    (hp : s.calls i = .refreshing creds) (hapart : Apart lib s (.grant i now answer))
    (hstep : requestGrant lib s i creds now answer = some s') : Steady s' := by
  have htoken : (s.calls i).carries s.live := h.held i
  rw [hp] at htoken
  cases answer with
  | none =>
    rw [← Option.some.inj hstep]
    exact h.ended (.inl (by rw [hp]; rfl)) rfl rfl
  | some data =>
    obtain ⟨fresh, content, hfresh, -, rfl⟩ :=
      grantTokens_some (requestGrant_live (isStr_of_eq htoken) ▸ hstep)
    exact h.granted hapart hfresh

theorem Steady.isAuthenticated (h : Steady s) {now : Timestamp} (hidle : s.calls i = .idle) :
    Steady (s.move i (afterCheck now (s.loadSession lib))) := by
  have hcheck : ∀ loaded : Except Fault (Option AuthSession),
      (afterCheck now loaded).busy = false ∧ (afterCheck now loaded).disturbed = false := by
    intro loaded
    rcases loaded with _ | _ | session
    · exact ⟨rfl, rfl⟩
    · exact ⟨rfl, rfl⟩
    · show (afterExpiry (session.isExpired now)).busy = false ∧ _
      show _ ∧ (afterExpiry (session.isExpired now)).disturbed = false
      rcases session.isExpired now with _ | _ | _
      · exact ⟨rfl, rfl⟩
      · exact ⟨rfl, rfl⟩
      · exact ⟨rfl, rfl⟩
  exact h.ended (.inl (by rw [hidle]; rfl)) (hcheck _).1 (hcheck _).2

/-- A session keeps the refresh token of the file it is read from. -/
theorem modelValidate_refreshToken {format : SessionFormat}
    (htoken : Dict.get creds "refresh_token" = .str token)
    (h : AuthSession.modelValidate format (.obj creds) = some session) :
    session.refreshToken = some token := by
  have hread : readOptStr creds "refresh_token" = some (some token) := by
    unfold readOptStr
    rw [htoken]
  unfold AuthSession.modelValidate AuthSession.ofFields at h
  simp only [Option.bind_eq_bind, Option.bind_eq_some_iff] at h
  obtain ⟨_, -, _, -, found, hfound, _, -, _, -, _, -, _, -, _, -, _, -, _, -, _, -, hsession⟩ := h
  rw [hread] at hfound
  rw [← Option.some.inj hsession]
  exact (Option.some.inj hfound).symm

/-- A session that is loaded keeps the refresh token of the file. -/
theorem loadSession_refreshToken (hcarries : ∀ c, s.credentials = some c → Carries s.live c)
    (h : s.loadSession lib = .ok (some session)) : session.refreshToken = some s.live := by
  unfold State.loadSession KeyholeLogin.loadSession at h
  cases hc : s.credentials with
  | none =>
    simp only [hc] at h
    exact nomatch h
  | some c =>
    obtain ⟨creds, rfl, htoken⟩ := hcarries c hc
    simp only [hc] at h
    cases hvalid : AuthSession.modelValidate lib.format (.obj creds) with
    | none =>
      simp only [hvalid] at h
      exact nomatch h
    | some found =>
      simp only [hvalid] at h
      obtain rfl : found = session := Option.some.inj (Except.ok.inj h)
      exact modelValidate_refreshToken htoken hvalid

theorem Steady.reload (h : Steady s) (hp : s.calls i = .authenticated)
    (hapart : Apart lib s (.reload i)) :
    Steady (s.move i (afterReload (s.loadSession lib))) := by
  have hnot : (s.calls i).ahead = false := by rw [hp]; rfl
  have hcarries : ∀ c, s.credentials = some c → Carries s.live c :=
    fun c hc => h.read hnot hapart hc
  cases hload : s.loadSession lib with
  | error => exact h.ended (.inl hnot) rfl rfl
  | ok found =>
    cases found with
    | none => exact h.ended (.inl hnot) rfl rfl
    | some session =>
      exact h.taken hnot.symm (.inr hapart) (loadSession_refreshToken hcarries hload) rfl rfl

/-- A saved session carries its refresh token. -/
theorem dump_refreshToken (format : SessionFormat) (h : session.refreshToken = some token) :
    Dict.get (session.dump format) "refresh_token" = .str token := by
  show dumpOptStr session.refreshToken = _
  rw [h]
  rfl

theorem Steady.whoami (h : Steady s) {answer : WhoamiAnswer}
    {now : Timestamp} (hp : s.calls i = .verifying session) :
    Steady (s.move i (afterWhoami lib session answer now)) := by
  have hnot : (s.calls i).ahead = false := by rw [hp]; rfl
  have htoken : (s.calls i).carries s.live := h.held i
  rw [hp] at htoken
  unfold afterWhoami
  cases KeyholeIdentity.whoami lib.explain answer with
  | error => exact h.ended (.inl hnot) rfl rfl
  | ok who =>
    by_cases hmissing : who.validateRequiredIdentity ≠ []
    · simp only [if_pos hmissing]
      exact h.ended (.inl hnot) rfl rfl
    · simp only [if_neg hmissing]
      exact h.taken hnot.symm (.inl (by rw [hp]; rfl)) (dump_refreshToken lib.format htoken)
        rfl rfl

/-- The temporary file is written with the live token. -/
theorem Steady.writeText (h : Steady s) (hp : s.calls i = .saving caller content) :
    Steady { s.move i (.written caller content) with tmp := some (.doc (.obj content)) } := by
  have htoken : (s.calls i).carries s.live := h.held i
  rw [hp] at htoken
  have hcarries : ∀ c, some (.doc (.obj content)) = some c → Carries s.live c := by
    intro c hc
    rw [← Option.some.inj hc]
    exact ⟨content, rfl, htoken⟩
  have hwritten : Steady { s with tmp := some (.doc (.obj content)), removedBy := s.removedBy } :=
    h.withTmp (fun _ _ _ => hcarries) (fun _ _ => Option.some_ne_none _)
  have hahead : (s.calls i).ahead = (Point.written caller content).ahead := by
    rw [hp]
    cases caller <;> rfl
  exact hwritten.move (fun ha => hahead ▸ ha) (.inl hahead) (fun _ => .inl (by rw [hp]; rfl)) htoken
    (fun _ _ => hcarries) (fun _ => Option.some_ne_none _) rfl

/-- Only a login finds its temporary file gone. -/
theorem Steady.temporaryFileGone (h : Steady s) (htmp : s.tmp = none)
    (hp : (s.calls i).pending = some caller) : Steady (s.move i (s.temporaryFileGone caller)) := by
  cases caller with
  | getFreshToken => exact absurd htmp (h.kept i hp)
  | sessionReuse =>
    have hnot : (s.calls i).ahead = false := by
      generalize s.calls i = p at hp
      cases p with
      | written caller _ | restricted caller _ =>
        obtain rfl : caller = .sessionReuse := Option.some.inj hp
        rfl
      | _ => exact nomatch hp
    exact h.taken hnot.symm (.inl (busy_of_pending hp)) trivial rfl rfl

theorem Steady.chmod (h : Steady s)
    (hp : s.calls i = .written caller content) : Steady (chmodTmp s i caller content) := by
  have hpending : (s.calls i).pending = some caller := by rw [hp]; rfl
  have htoken : (s.calls i).carries s.live := h.held i
  rw [hp] at htoken
  unfold chmodTmp
  cases htmp : s.tmp with
  | none => exact h.temporaryFileGone htmp hpending
  | some found =>
    have hahead : (s.calls i).ahead = (Point.restricted caller content).ahead := by
      rw [hp]
      cases caller <;> rfl
    exact h.move (fun ha => hahead ▸ ha) (.inl hahead) (fun _ => .inl (busy_of_pending hpending))
      htoken (fun _ _ => h.tmp i caller hpending) (fun _ => htmp ▸ Option.some_ne_none _) rfl

theorem Steady.replace (h : Steady s) (hp : s.calls i = .restricted caller content) :
    Steady (replaceCredentials s i caller content) := by
  have hpending : (s.calls i).pending = some caller := by rw [hp]; rfl
  unfold replaceCredentials
  cases htmp : s.tmp with
  | none => exact h.temporaryFileGone htmp hpending
  | some found =>
    have hfound : ∀ c, some found = some c → Carries s.live c := by
      intro c hc
      exact h.tmp i caller hpending c (htmp.trans hc)
    have hstored : Steady { s with credentials := some found } :=
      ⟨fun _ => hfound, h.held, h.alone, h.tmp, h.kept, h.undisturbed⟩
    have hended : (afterReplace content caller).busy = false
        ∧ (afterReplace content caller).disturbed = false := by
      cases caller <;> exact ⟨rfl, rfl⟩
    have hmoved := hstored.ended (i := i) (.inr hfound) hended.1 hended.2
    refine hmoved.withTmp nofun fun j hj => ?_
    by_cases hji : j = i
    · subst hji
      rw [move_self] at hj
      rw [busy_of_pending hj] at hended
      exact nomatch hended.1
    · rw [move_of_ne hji] at hj
      exact absurd hj (h.not_pending (busy_of_pending hpending) hji)

theorem Steady.cleanup (h : Steady s) (hp : s.calls i = .cleaning) (by_ : Option Caller) :
    Steady { s.move i .left with tmp := none, removedBy := by_ } := by
  have hmoved : Steady (s.move i .left) := h.ended (.inl (by rw [hp]; rfl)) rfl rfl
  refine hmoved.withTmp nofun fun j hj => ?_
  by_cases hji : j = i
  · subst hji
    rw [move_self] at hj
    exact nomatch hj
  · rw [move_of_ne hji] at hj
    exact absurd hj (h.not_pending (by rw [hp]; rfl) hji)

theorem Steady.clear (h : Steady s) : Steady { s with credentials := none } :=
  ⟨nofun, h.held, h.alone, h.tmp, h.kept, h.undisturbed⟩

/-- A step that is apart keeps every copy live. -/
theorem Steady.step (h : Steady s) (hapart : Apart lib s e)
    (hstep : step lib s e = some s') : Steady s' := by
  cases e with
  | load i now =>
    obtain ⟨hidle, rfl⟩ := step_load hstep
    exact h.load hidle hapart
  | grant i now answer =>
    obtain ⟨creds, hp, hgrant⟩ := step_grant hstep
    exact h.grant hp hapart hgrant
  | isAuthenticated i now =>
    obtain ⟨hidle, rfl⟩ := step_isAuthenticated hstep
    exact h.isAuthenticated hidle
  | reload i =>
    obtain ⟨hp, rfl⟩ := step_reload hstep
    exact h.reload hp hapart
  | whoami i answer now =>
    obtain ⟨session, hp, rfl⟩ := step_whoami hstep
    exact h.whoami hp
  | writeText i =>
    obtain ⟨caller, content, hp, rfl⟩ := step_writeText hstep
    exact h.writeText hp
  | chmod i =>
    obtain ⟨caller, content, hp, rfl⟩ := step_chmod hstep
    exact h.chmod hp
  | replace i =>
    obtain ⟨caller, content, hp, rfl⟩ := step_replace hstep
    exact h.replace hp
  | cleanup i =>
    obtain ⟨hp, rfl⟩ := step_cleanup hstep
    exact h.cleanup hp _
  | clear =>
    rw [step_clear hstep]
    exact h.clear

/-! ## Runs -/

theorem EachApart.append {before after : List Event} {t : State}
    (h : EachApart lib s (before ++ after)) (hrun : run lib s before = some t) :
    EachApart lib t after := by
  induction before generalizing s with
  | nil =>
    obtain rfl : s = t := Option.some.inj hrun
    exact h
  | cons e before ih =>
    obtain ⟨next, hnext, hrest⟩ := Option.bind_eq_some_iff.mp hrun
    exact ih (h.2 next hnext) hrest

theorem Steady.run (h : Steady s) (hapart : EachApart lib s events)
    (hrun : run lib s events = some s') : Steady s' := by
  induction events generalizing s with
  | nil =>
    obtain rfl : s = s' := Option.some.inj hrun
    exact h
  | cons e events ih =>
    obtain ⟨next, hnext, hrest⟩ := Option.bind_eq_some_iff.mp hrun
    exact ih (h.step hapart.1 hnext) (hapart.2 next hnext) hrest

/-- The call that takes the step. -/
def Event.call : Event → Option Nat
  | .load i _ | .grant i _ _ | .isAuthenticated i _ | .reload i | .whoami i _ _ => some i
  | .writeText i | .chmod i | .replace i | .cleanup i => some i
  | .clear => none

/-- The store is empty and no call holds credentials. -/
structure Emptied (s : State) : Prop where
  credentials : s.credentials = none
  idle : ∀ j, (s.calls j).busy = false

theorem Emptied.move (h : Emptied s) (hp : p.busy = false) : Emptied (s.move i p) :=
  ⟨h.credentials, forall_move (P := fun q => q.busy = false) hp fun j _ => h.idle j⟩

theorem Emptied.not_busy (h : Emptied s) (hp : s.calls i = p) (hbusy : p.busy = true) :
    False := by
  have hidle := h.idle i
  rw [hp, hbusy] at hidle
  exact nomatch hidle

theorem Emptied.loadSession (h : Emptied s) : s.loadSession lib = .ok none := by
  unfold State.loadSession KeyholeLogin.loadSession
  simp only [h.credentials]

/-- From an empty store no call gets at credentials any more. -/
theorem Emptied.step (h : Emptied s) (hstep : step lib s e = some s') :
    Emptied s' := by
  cases e with
  | load i now =>
    obtain ⟨-, rfl⟩ := step_load hstep
    rw [h.credentials]
    exact h.move rfl
  | grant i now answer =>
    obtain ⟨creds, hp, -⟩ := step_grant hstep
    exact (h.not_busy hp rfl).elim
  | isAuthenticated i now =>
    obtain ⟨-, rfl⟩ := step_isAuthenticated hstep
    rw [h.loadSession]
    exact h.move rfl
  | reload i =>
    obtain ⟨-, rfl⟩ := step_reload hstep
    rw [h.loadSession]
    exact h.move rfl
  | whoami i answer now =>
    obtain ⟨session, hp, -⟩ := step_whoami hstep
    exact (h.not_busy hp rfl).elim
  | writeText i =>
    obtain ⟨caller, content, hp, -⟩ := step_writeText hstep
    exact (h.not_busy hp rfl).elim
  | chmod i =>
    obtain ⟨caller, content, hp, -⟩ := step_chmod hstep
    exact (h.not_busy hp rfl).elim
  | replace i =>
    obtain ⟨caller, content, hp, -⟩ := step_replace hstep
    exact (h.not_busy hp rfl).elim
  | cleanup i =>
    obtain ⟨hp, -⟩ := step_cleanup hstep
    exact (h.not_busy hp rfl).elim
  | clear =>
    rw [step_clear hstep]
    exact ⟨rfl, h.idle⟩

theorem Emptied.run (h : Emptied s) (hrun : run lib s events = some s') :
    Emptied s' := by
  induction events generalizing s with
  | nil =>
    obtain rfl : s = s' := Option.some.inj hrun
    exact h
  | cons e events ih =>
    obtain ⟨next, hnext, hrest⟩ := Option.bind_eq_some_iff.mp hrun
    exact ih (h.step hnext) hrest

/-- Of two calls that hold the live refresh token, the later to ask for a grant is refused,
    whatever else each of them does. -/
theorem overlapping_grant_refused {mine theirs : Dict} {now now' : Rat}
    {data' : GrantAnswer} {t t' : State} (hij : j ≠ i) (hissued : s.live ∈ s.issued)
    (hi : s.calls i = .refreshing mine) (hj : s.calls j = .refreshing theirs)
    (hmine : Dict.get mine "refresh_token" = .str s.live)
    (htheirs : Dict.get theirs "refresh_token" = .str s.live)
    (hgrant : step lib s (.grant i now (some data)) = some t)
    (hnext : step lib t (.grant j now' (some data')) = some t') :
    t'.calls j = .failed .refused := by
  obtain ⟨creds, hcreds, hrequest⟩ := step_grant hgrant
  obtain rfl : mine = creds := Point.refreshing.inj (hi.symm.trans hcreds)
  rw [requestGrant_live (isStr_of_eq hmine)] at hrequest
  obtain ⟨fresh, content, -, hfresh, rfl⟩ := grantTokens_some hrequest
  obtain ⟨creds, hcreds, hrequest⟩ := step_grant hnext
  have hsame : (s.move i (.saving .getFreshToken content)).calls j = .refreshing creds := hcreds
  rw [move_of_ne hij, hj] at hsame
  obtain rfl : theirs = creds := Point.refreshing.inj hsame
  -- the server gave the token of both up
  have hdead : isStr fresh (Dict.get theirs "refresh_token") = false := by
    rw [htheirs]
    exact beq_false_of_ne fun heq => hfresh (heq ▸ hissued)
  rw [requestGrant_dead hdead] at hrequest
  rw [← Option.some.inj hrequest]
  exact move_self _

/-- The identity of the user. -/
def identity : Json := .obj [("user_id", .str "user-1"), ("mode", .str "real")]

end KeyholeRefresh
