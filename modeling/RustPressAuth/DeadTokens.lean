import RustPressAuth.Credentials
import RustPressAuth.Reference

/-!
# Revoked, used and expired tokens

No statement takes back a revocation or a use, or moves an expiry. So a call that begins
when the row of its token is revoked, used or expired never accepts the token, whatever
other calls do in the meantime: it does not succeed, it signs nothing, and it writes
nothing except that a refresh ends all sessions of the user whose revoked token it was
given.
-/

namespace RustPressAuth

open Atomic Program Machine Relational

/-- A one-time token is used or expired at `now`. -/
def OneTimeToken.Dead (t : OneTimeToken) (now : Instant) : Prop := t.usedAt.isSome = true ∨ t.expiresAt ≤ now

/-- The token that is presented names a row that is revoked, used or expired at `now`. -/
def PresentsDead (svc : AuthService) (db : Db) (now : Instant) (request : Request) : Prop :=
  (∃ x ipAddress userAgent claims, request = .refreshTokens x ipAddress userAgent ∧ svc.claims? x = some claims ∧
    ∃ row ∈ db.refreshTokens, row.id = claims.tid ∧ row.isValid now = false) ∨
  ∃ purpose token, request.oneTimeToken? = some (purpose, token) ∧
    ∃ row ∈ db.oneTimeTokens purpose, row.tokenHash = svc.hashToken token ∧ row.Dead now

/-- A call has achieved nothing: it has not succeeded, and all it did beyond reading was to end the
sessions of the user whose revoked token was presented again. -/
structure AchievesNothing (svc : AuthService) (req : ℕ → Request) (d : System) (i : ℕ) : Prop where
  unsuccessful : (d.calls i).succeeded = false
  silent : ∀ e ∈ d.log, e.caller = i → e.action.grants = true → ∃ x ipAddress userAgent claims,
    req i = .refreshTokens x ipAddress userAgent ∧ svc.claims? x = some claims ∧
      e.action = .sql (.revokeAllTokens claims.sub) ∧
      ∃ row ∈ e.before.db.refreshTokens, row.id = claims.tid ∧ row.isRevoked = true

/-- A refresh token row that is not valid is not valid later on. -/
theorem RefreshToken.Later.invalid {t t' : RefreshToken} (hlater : t.Later t') {now now' : Instant}
    (hle : now ≤ now') (h : t.isValid now = false) : t'.isValid now' = false := by
  simp only [RefreshToken.isValid, RefreshToken.isExpired, Bool.and_eq_false_iff, Bool.not_eq_false',
    decide_eq_true_eq] at h ⊢
  rcases h with hexpired | hrevoked
  · left
    rw [hlater.expiresAt]
    exact Int.lt_of_lt_of_le hexpired hle
  · exact Or.inr (hlater.revoked hrevoked)

/-- A one-time token that is dead is dead later on. -/
theorem OneTimeToken.Dead.later {t t' : OneTimeToken} {now now' : Instant} (h : t.Dead now) (hlater : t.Later t')
    (hle : now ≤ now') : t'.Dead now' := by
  rcases h with hused | hexpired
  · exact Or.inl (hlater.used hused)
  · right
    rw [hlater.expiresAt]
    exact Int.le_trans hexpired hle

variable {svc : AuthService} {req : ℕ → Request} {w : World} {ok : System → System → Prop} {b d : System} {i : ℕ}

/-- A call has accepted a credential when it succeeds. -/
theorem Succeeded.accepted {request : Request} {response : Response} {h : Trace}
    (hdone : Succeeded svc h request response)
    (htoken : (∃ x ip ua, request = .refreshTokens x ip ua) ∨ ∃ t, request.oneTimeToken? = some t) :
    ∃ userId, Accepted svc request userId h := by
  cases request with
  | refreshTokens x ip ua =>
    obtain ⟨claims, row, user, now, h', access, successor, h'', n, hchecked, hsuffix, -, rfl, -⟩ := hdone
    exact ⟨_, hchecked.accepted (hsuffix.trans (List.suffix_cons _ _))⟩
  | resetPassword r =>
    obtain ⟨-, userId, h', n, hconsumed, rfl⟩ := hdone
    obtain ⟨tokenId, h'', hfound, hsuffix⟩ := hconsumed.found
    exact ⟨userId, .oneTime rfl hfound (hsuffix.trans (List.suffix_cons _ _))⟩
  | verifyEmail token =>
    obtain ⟨tokenId, userId, user, h', n, hfound, -, rfl⟩ := hdone
    exact ⟨userId, .oneTime rfl hfound ⟨[_, _], rfl⟩⟩
  | _ => rcases htoken with ⟨x, ip, ua, hrequest⟩ | ⟨t, hrequest⟩ <;> cases hrequest

/-- What a call did that began later was performed on later worlds. -/
theorem performed_since (hb : svc.machine.Reaches ok (svc.start w req) b) (hd : svc.machine.Reaches ok b d)
    (hnew : ownHistory i b.log = []) {a : Action} {r : a.Reply} (hx : did a r ∈ ownHistory i d.log) :
    ∃ s s', svc.machine.perform a s r s' ∧ b.shared.Precedes s := by
  obtain ⟨e, he, hcaller, hentry⟩ := mem_ownHistory.mp hx
  obtain ⟨s', hperform, -⟩ := (hb.trans hd).event_monotone svc.machine_monotone rfl he
  rcases hd.before_since svc.machine_monotone he with hold | hlater
  · have hmem : e.entry ∈ ownHistory i b.log := mem_ownHistory.mpr ⟨e, hold, hcaller, rfl⟩
    rw [hnew] at hmem
    exact absurd hmem List.not_mem_nil
  · exact ⟨e.before, s', perform_of_entry hentry hperform, hlater⟩

/-- A call that begins when its token is dead does not accept it. -/
theorem not_accepted_of_dead (hb : svc.machine.Reaches ok (svc.start w req) b) (hd : svc.machine.Reaches ok b d)
    (hnew : ownHistory i b.log = []) (hdead : PresentsDead svc b.shared.db b.shared.now (req i)) {h : Trace}
    (hsuffix : h <:+ ownHistory i d.log) {userId : Uuid} : ¬ Accepted svc (req i) userId h := by
  intro haccepted
  generalize hreq : req i = request at haccepted hdead
  rcases hdead with ⟨x, ip, ua, claims, rfl, hclaims, row, hrow, hid, hinvalid⟩ |
    ⟨purpose, token, htoken, row, hrow, hhash, hdead⟩
  · cases haccepted with
    | oneTime htoken => cases htoken
    | @refreshTokens _ _ _ found read now h' _ hfound hvalid hbelow =>
      have hsame : claims = found := Option.some.inj (hclaims.symm.trans hfound.claims?_eq)
      subst hsame
      have hown := hbelow.trans hsuffix
      obtain ⟨tokenString, jwt, t, -, -, rfl⟩ := hfound.decoded
      obtain ⟨s, s', hselect, hlater⟩ := performed_since hb hd hnew
        (hown.subset (List.mem_cons_of_mem _ List.mem_cons_self))
      obtain ⟨hread, hreadId, -⟩ := selectRefreshToken_row hselect
      obtain ⟨row', hrow', hrowLater⟩ := hlater.db.refreshTokens row hrow
      obtain rfl : row' = read := Table.eq_of_pk hrow' hread (hrowLater.id.trans (hid.trans hreadId.symm))
      obtain ⟨v, v', hclock, hlater'⟩ := performed_since hb hd hnew (hown.subset List.mem_cons_self)
      obtain ⟨choice, hexec⟩ := hclock
      obtain rfl : v.now = now := (Prod.mk.inj hexec).1
      rw [hrowLater.invalid hlater'.now_le hinvalid] at hvalid
      cases hvalid
  · cases haccepted with
    | @oneTime _ purpose' token' tokenId _ h' _ htoken' hfound hbelow =>
      obtain ⟨rfl, rfl⟩ := Prod.mk.inj (Option.some.inj (htoken.symm.trans htoken'))
      rw [hfound] at hbelow
      obtain ⟨s, s', hselect, hlater⟩ := performed_since hb hd hnew
        ((hbelow.trans hsuffix).subset List.mem_cons_self)
      obtain ⟨read, hread, -, -, hreadHash, hlive, hunused⟩ := selectValidToken_row hselect
      obtain ⟨row', hrow', hrowLater⟩ := hlater.db.oneTimeTokens purpose row hrow
      obtain rfl : row' = read :=
        Table.eq_of_unique hrow' hread (hrowLater.tokenHash.trans (hhash.trans hreadHash.symm))
      rcases hdead.later hrowLater hlater.now_le with hused | hexpired
      · rw [hunused] at hused
        cases hused
      · exact absurd hlive (Int.not_lt.mpr hexpired)
    | _ => cases htoken

/-- A request that presents a token presents a credential. -/
theorem presentsCredential_of_token {request : Request}
    (htoken : (∃ x ip ua, request = .refreshTokens x ip ua) ∨ ∃ t, request.oneTimeToken? = some t) :
    request.presentsCredential = true := by
  rcases htoken with ⟨x, ip, ua, hreq⟩ | ⟨t, ht⟩
  · rw [hreq]
    rfl
  · cases request with
    | register | logout => cases ht
    | _ => rfl

/-- What a call does beyond reading, when it presents a credential that it did not accept, is to end the sessions of
the user whose revoked token was presented again. -/
theorem reuse_of_grant (hrun : svc.machine.Reaches ok (svc.start w req) d) {e : LogEvent} {older : List LogEvent}
    (hsuffix : (e :: older) <:+ d.log) (hpresents : (req e.caller).presentsCredential = true)
    (hrefused : ∀ userId, ¬ Accepted svc (req e.caller) userId (ownHistory e.caller older))
    (hgrants : e.action.grants = true) : ∃ x ipAddress userAgent claims,
      req e.caller = .refreshTokens x ipAddress userAgent ∧ svc.claims? x = some claims ∧
        e.action = .sql (.revokeAllTokens claims.sub) ∧
        ∃ row ∈ e.before.db.refreshTokens, row.id = claims.tid ∧ row.isRevoked = true := by
  have hguard := guard_of_run hrun hsuffix
  cases haction : e.action with
  | sign payload =>
    rw [haction] at hguard
    obtain ⟨user, h', hauth, hbelow⟩ := authorized_of_sign hguard
    obtain ⟨userId, haccepted⟩ := hauth.accepted hbelow
    exact absurd haccepted (hrefused userId)
  | sql s =>
    rw [haction] at hguard hgrants
    have hrests := rests_of_guard hguard (by simpa [Action.grants] using hgrants) hpresents
    cases hrests with
    | subject _ haccepted => exact absurd haccepted (hrefused _)
    | issue _ hauth hbelow =>
      obtain ⟨userId, haccepted⟩ := hauth.accepted hbelow
      exact absurd haccepted (hrefused userId)
    | @rotate x ip ua claims row now h' hrequest hfound hvalid hbelow =>
      have haccepted : Accepted svc (.refreshTokens x ip ua) claims.sub _ := .refreshTokens hfound hvalid hbelow
      rw [← hrequest] at haccepted
      exact absurd haccepted (hrefused _)
    | redeem htoken hfound hbelow => exact absurd (.oneTime htoken hfound hbelow) (hrefused _)
    | @reuse x ip ua claims row h' hrequest hfound hrevoked hbelow =>
      have hclaims := hfound.claims?_eq
      obtain ⟨tokenString, jwt, t, -, -, rfl⟩ := hfound.decoded
      obtain ⟨f, olderF, hf, -, hfentry, -⟩ := exists_event_of_suffix hbelow
      have hread := hf.subset List.mem_cons_self
      obtain ⟨s', hselect, -⟩ := hrun.effect_le svc.machine_monotone rfl hsuffix hread
      obtain ⟨hrow, hid, -⟩ := selectRefreshToken_row (perform_of_entry hfentry hselect)
      obtain ⟨row', hrow', hlater⟩ :=
        (hrun.before_le svc.machine_monotone rfl hsuffix hread).db.refreshTokens row hrow
      exact ⟨x, ip, ua, claims, hrequest, hclaims, rfl, row', hrow', hlater.id.trans hid, hlater.revoked hrevoked⟩
  | _ => rw [haction] at hgrants; cases hgrants

/-- Rows keep their id, user, hash and expiry along every run, and what was revoked or used stays
so; a call that begins when the row of its token is revoked, used or expired achieves nothing. -/
theorem dead_tokens_stay_dead (svc : AuthService) (w : World) (req : ℕ → Request) (b d : System)
    (hb : svc.machine.Reaches (fun _ _ => True) (svc.start w req) b)
    (hd : svc.machine.Reaches (fun _ _ => True) b d) :
    b.shared.db.Evolves d.shared.db ∧ ∀ i, ownHistory i b.log = [] →
      PresentsDead svc b.shared.db b.shared.now (req i) → AchievesNothing svc req d i := by
  refine ⟨(hd.monotone svc.machine_monotone).db, fun i hnew hdead => ?_⟩
  have hrefused (h : Trace) (hsuffix : h <:+ ownHistory i d.log) (userId : Uuid) :
    ¬ Accepted svc (req i) userId h :=
    not_accepted_of_dead hb hd hnew hdead hsuffix
  have htoken : (∃ x ip ua, req i = .refreshTokens x ip ua) ∨ ∃ t, (req i).oneTimeToken? = some t := by
    rcases hdead with ⟨x, ip, ua, claims, hreq, -⟩ | ⟨purpose, token, htoken, -⟩
    · exact Or.inl ⟨x, ip, ua, hreq⟩
    · exact Or.inr ⟨_, htoken⟩
  constructor
  · by_contra hsucceeded
    obtain ⟨response, hdone⟩ := succeeded_iff.mp (Bool.not_eq_false _ ▸ hsucceeded)
    obtain ⟨userId, haccepted⟩ := (succeeded_of_run (hb.trans hd) hdone).accepted htoken
    exact hrefused _ (List.suffix_refl _) userId haccepted
  · intro e he heq hgrants
    subst heq
    obtain ⟨older, hsuffix⟩ := exists_suffix_of_mem he
    have hown : ownHistory e.caller older <:+ ownHistory e.caller d.log :=
      ownHistory_suffix e.caller ((List.suffix_cons _ _).trans hsuffix)
    exact reuse_of_grant (hb.trans hd) hsuffix (presentsCredential_of_token htoken) (hrefused _ hown) hgrants

section Runs

open Reference

/-- The verification token that is issued below. -/
def verificationToken : String := base64UrlEncode (choice 2).bytes.toList

/-- A user registers and is sent a verification token, which is presented twice. -/
def verificationRequests : ℕ → Request
  | 0 => .register ⟨"a@b.c", "Abcdefg1", "Abcdefg1", "A"⟩
  | 1 => .createEmailVerification 1
  | _ => .verifyEmail verificationToken

/-- The state after the token was used for the first time. -/
def tokenUsedUp : System :=
  service.executor.play (moves 0 3 1 ++ moves 1 4 2 ++ moves 2 3 3) (service.start world verificationRequests)

/-- A verification token that was used achieves nothing when it is presented again. -/
theorem dead_tokens_stay_dead_verified : (tokenUsedUp.calls 2).succeeded = true ∧
    AchievesNothing service verificationRequests (service.executor.play (moves 3 3 4) tokenUsedUp) 3 := by
  refine ⟨by decide +kernel, (dead_tokens_stay_dead service world verificationRequests tokenUsedUp _
    (service.executor.play_reaches _ _) (service.executor.play_reaches _ _)).2 3 (by decide +kernel) ?_⟩
  have hrow : ∃ row ∈ (tokenUsedUp.shared.db.oneTimeTokens .emailVerification).rows,
      row.tokenHash = service.hashToken verificationToken ∧ row.usedAt.isSome = true := by decide +kernel
  obtain ⟨row, hrow, hhash, hused⟩ := hrow
  exact Or.inr ⟨.emailVerification, verificationToken, rfl, row, hrow, hhash, Or.inl hused⟩

end Runs

end RustPressAuth
