import Mathlib.Data.Fintype.BigOperators
import Mathlib.Data.Fintype.Pigeonhole
import RustPressAuth.Isolation

/-!
# Which strings are accepted as one-time tokens

A one-time token is looked up by its hash alone, and the hash has 64 bits where the token
has 256. So tokens with the same hash exist for every secret, and a string that was never
issued is accepted in the place of an issued one that has its hash. In a run in which no
string is looked up that has the hash of another live token, only issued strings are accepted.
-/

namespace RustPressAuth

open Atomic Program Machine Relational

/-- The one-time token that a call has returned. The empty string for an unknown email is none. -/
def issuedToken? : Request → Response → Option (Purpose × String)
  | .forgotPassword _, .token token => if token = "" then none else some (.passwordReset, token)
  | .createEmailVerification _, .token token => some (.emailVerification, token)
  | .resendVerification _, .verification token => token.map (Prod.mk .emailVerification)
  | _, _ => none

/-- The one-time token of a call that has ended. -/
def returnedBy? (req : ℕ → Request) (c : System) (i : ℕ) : Option (Purpose × String) :=
  match (c.calls i).result? with
  | some (.ok response) => issuedToken? (req i) response
  | _ => none

/-- The one-time tokens that the calls of a run have returned. -/
def returnedTokens (req : ℕ → Request) (c : System) : List (Purpose × String) :=
  c.log.filterMap fun e => returnedBy? req c e.caller

/-- Every string that was accepted as a one-time token is one that was returned for the purpose. -/
def AcceptsIssued (req : ℕ → Request) (c : System) : Prop :=
  ∀ i response t, c.calls i = .done (.ok response) → (req i).oneTimeToken? = some t → t ∈ returnedTokens req c

/-- Different tokens, each the text of 32 bytes, have different hashes. -/
def AuthService.SeparatesTokens (svc : AuthService) : Prop :=
  ∀ bytes bytes' : Vector UInt8 32, base64UrlEncode bytes.toList ≠ base64UrlEncode bytes'.toList →
    svc.hashToken (base64UrlEncode bytes.toList) ≠ svc.hashToken (base64UrlEncode bytes'.toList)

/-- No string is looked up that has the hash of another token that was returned and is live: neither used nor
expired. -/
def looksUpApart (svc : AuthService) (req : ℕ → Request) : Rule ℕ Action Action.Reply Failure Response World :=
  .ofEvent fun c e => ∀ t ∈ (req e.caller).oneTimeToken?, e.action =
    .sql (.selectValidToken t.1 (svc.hashToken t.2)) →
    ∀ other ∈ returnedTokens req c, other.1 = t.1 → svc.hashToken other.2 = svc.hashToken t.2 → other = t ∨
      ∀ row ∈ (c.shared.db.oneTimeTokens t.1).rows, row.tokenHash = svc.hashToken t.2 →
        row.usedAt ≠ none ∨ row.expiresAt ≤ c.shared.now

/-- The 32 bytes with these values. -/
def ofValues (values : Fin 32 → Fin 256) : Vector UInt8 32 := Vector.ofFn fun i => UInt8.ofFin (values i)

/-- Different values make different bytes. -/
theorem ofValues_inj {values values' : Fin 32 → Fin 256} (h : ofValues values = ofValues values') :
    values = values' := by
  funext i
  have hvalue : (ofValues values)[i] = (ofValues values')[i] := by rw [h]
  simp only [ofValues, Fin.getElem_fin, Vector.getElem_ofFn] at hvalue
  exact congrArg UInt8.toFin hvalue

/-- There are more tokens than hashes. -/
theorem exists_collision (f : Vector UInt8 32 → UInt64) : ∃ bytes bytes', bytes ≠ bytes' ∧ f bytes = f bytes' := by
  have hcard : Fintype.card (Fin UInt64.size) < Fintype.card (Fin 32 → Fin 256) := by
    rw [Fintype.card_fin, Fintype.card_fun, Fintype.card_fin, Fintype.card_fin]
    decide
  obtain ⟨values, values', hne, heq⟩ :=
    Fintype.exists_ne_map_eq_of_card_lt (fun values => (f (ofValues values)).toFin) hcard
  exact ⟨ofValues values, ofValues values', fun hsame => hne (ofValues_inj hsame), UInt64.toFin_inj.mp heq⟩

/-- Whatever the secret, some tokens have the same hash. -/
theorem AuthService.not_separatesTokens (svc : AuthService) : ¬ svc.SeparatesTokens := by
  intro hseparates
  obtain ⟨bytes, bytes', hne, heq⟩ := exists_collision fun bytes =>
    svc.prims.defaultHasher (hashedBytes (base64UrlEncode bytes.toList) ++ hashedBytes svc.config.jwtSecret)
  apply hseparates bytes bytes'
  · intro hsame
    exact hne (Vector.toList_inj.mp (base64UrlEncode_inj.mp hsame))
  · rw [hashToken, hashToken, heq]

section Calls

variable {svc : AuthService} {request : Request} {h : Trace} {purpose : Purpose} {userId : Uuid}
    {bytes : Vector UInt8 32}

/-- A call that has stored a token has ended, and has returned the token. -/
theorem returns_of_inserted {issuedAt expiresAt : Instant} {tokenHash : String} {n : ℕ}
    {p : Program Action Action.Reply Failure Response}
    (hinvalidated : TokensInvalidated request purpose userId bytes issuedAt h)
    (hleads :
      (svc.serve request).LeadsTo (executed (.insertOneTimeToken purpose userId tokenHash expiresAt) n :: h) p) :
    ∃ response, p = .done (.ok response) ∧
      issuedToken? request response = some (purpose, base64UrlEncode bytes.toList) := by
  obtain ⟨h₁, m, ⟨h₂, hissues, rfl⟩, rfl⟩ := hinvalidated
  cases hissues with
  | forgotPassword =>
    simp only [leadsTo_cons, leadsTo_nil] at hleads
    obtain ⟨next₄, ⟨next₃, ⟨next₂, ⟨next₁, ⟨next₀, hselect, hbytes⟩, hnow⟩, hinvalidate⟩, hinsert⟩, rfl⟩ := hleads
    cases hselect
    cases hbytes
    cases hnow
    rcases expiresAfter_cases issuedAt svc.config.passwordResetExpiration with hexpires | ⟨fault, hexpires⟩ <;>
      simp only [bind_eq, Program.bind, hexpires] at hinvalidate
    · cases hinvalidate
      cases hinsert
      refine ⟨.token (base64UrlEncode bytes.toList), rfl, ?_⟩
      simp [issuedToken?, base64UrlEncode_ne_empty]
    · cases hinvalidate
  | createEmailVerification =>
    simp only [leadsTo_cons, leadsTo_nil] at hleads
    obtain ⟨next₃, ⟨next₂, ⟨next₁, ⟨next₀, hbytes, hnow⟩, hinvalidate⟩, hinsert⟩, rfl⟩ := hleads
    cases hbytes
    cases hnow
    rcases expiresAfter_cases issuedAt svc.config.emailVerificationExpiration with hexpires | ⟨fault, hexpires⟩ <;>
      simp only [bind_eq, Program.bind, hexpires] at hinvalidate
    · cases hinvalidate
      cases hinsert
      exact ⟨.token (base64UrlEncode bytes.toList), rfl, rfl⟩
    · cases hinvalidate
  | resendVerification hunverified =>
    simp only [leadsTo_cons, leadsTo_nil] at hleads
    obtain ⟨next₄, ⟨next₃, ⟨next₂, ⟨next₁, ⟨next₀, hselect, hbytes⟩, hnow⟩, hinvalidate⟩, hinsert⟩, rfl⟩ := hleads
    cases hselect
    simp only [bind_eq, Program.bind, pure, okOr, hunverified, Option.isSome_none, Bool.false_eq_true,
      if_false] at hbytes
    cases hbytes
    cases hnow
    rcases expiresAfter_cases issuedAt svc.config.emailVerificationExpiration with hexpires | ⟨fault, hexpires⟩ <;>
      simp only [bind_eq, Program.bind, hexpires] at hinvalidate
    · cases hinvalidate
      cases hinsert
      exact ⟨.verification (some (base64UrlEncode bytes.toList)), rfl, rfl⟩
    · cases hinvalidate

end Calls

section Run

variable {svc : AuthService} {req : ℕ → Request} {w : World} {ok : System → System → Prop} {c d : System}

/-- A call that is done has returned the token of its response. -/
theorem returnedBy?_of_done {i : ℕ} {response : Response} (h : c.calls i = .done (.ok response)) :
    returnedBy? req c i = issuedToken? (req i) response := by
  rw [returnedBy?, h]
  rfl

/-- Only a call that has ended has returned a token. -/
theorem ended_of_returnedBy? {i : ℕ} {t : Purpose × String} (h : returnedBy? req c i = some t) :
    (c.calls i).Ended := by
  unfold returnedBy? at h
  split at h
  · rename_i response hresult
    exact ⟨_, result?_eq_some.mp hresult⟩
  · cases h

/-- A token that was returned stays returned. -/
theorem returnedTokens_mono (hrun : svc.machine.Reaches ok c d) {t : Purpose × String}
    (h : t ∈ returnedTokens req c) :
    t ∈ returnedTokens req d := by
  obtain ⟨e, he, hreturned⟩ := List.mem_filterMap.mp h
  have hcalls := hrun.calls_of_ended (ended_of_returnedBy? hreturned)
  refine List.mem_filterMap.mpr ⟨e, hrun.log_suffix.subset he, ?_⟩
  rw [returnedBy?, hcalls]
  exact hreturned

/-- In every run from an empty database, the hash of a row is that of a token that was returned. -/
theorem returned_of_row (hempty : w.db = Db.empty) (hrun : svc.machine.Reaches ok (svc.start w req) d)
    {purpose : Purpose} {row : OneTimeToken} (hrow : row ∈ d.shared.db.oneTimeTokens purpose) :
    ∃ token, (purpose, token) ∈ returnedTokens req d ∧ svc.hashToken token = row.tokenHash := by
  obtain ⟨_, hstored⟩ := oneTimeStored_of_run hempty hrun row hrow
  obtain ⟨e, he, expiresAt, n, hentry⟩ := hstored.stored
  obtain ⟨older, hsuffix⟩ := exists_suffix_of_mem he
  have hguard := guard_of_run hrun hsuffix
  obtain ⟨mid, next, s, hat, rfl⟩ := hrun.performedAt rfl hsuffix
  have hleads := hat.run.leadsTo rfl e.caller
  rw [hat.call] at hleads
  have hafter : (svc.serve (req e.caller)).LeadsTo (e.entry :: ownHistory e.caller mid.log)
    (next e.reply) := hleads.act
  rw [show e.action = _ from congrArg Sigma.fst hentry] at hguard
  obtain ⟨bytes, issuedAt, hinvalidated, hhash, -⟩ := hguard
  rw [hentry] at hafter
  obtain ⟨response, hdone, hissued⟩ := returns_of_inserted hinvalidated hafter
  refine ⟨base64UrlEncode bytes.toList, ?_, hhash.symm.trans hstored.hash.symm⟩
  have hended : (mid.advance e.caller e.action e.reply s (next e.reply)).calls e.caller = .done (.ok response) := by
    rw [← hdone]
    exact Function.update_self _ _ _
  have hcall : d.calls e.caller = .done (.ok response) := (hat.rest.calls_of_ended ⟨_, hended⟩).trans hended
  exact List.mem_filterMap.mpr ⟨e, he, (returnedBy?_of_done hcall).trans hissued⟩

/-- A call that was accepted with a one-time token has found a row by the hash of the token. -/
theorem found_of_accepted (hrun : svc.machine.Reaches ok (svc.start w req) d) {i : ℕ} {response : Response}
    {t : Purpose × String} (hdone : d.calls i = .done (.ok response)) (htoken : (req i).oneTimeToken? = some t) :
    ∃ tokenId userId, executed (.selectValidToken t.1 (svc.hashToken t.2)) (some (tokenId, userId)) ∈
      ownHistory i d.log := by
  have hsucceeded := succeeded_of_run hrun hdone
  generalize req i = request at hsucceeded htoken
  cases request with
  | resetPassword r =>
    obtain rfl := Option.some.inj htoken
    obtain ⟨-, userId, h', n, hconsumed, htrace⟩ := hsucceeded
    obtain ⟨tokenId, h₀, hfound, hsuffix⟩ := hconsumed.found
    rw [hfound] at hsuffix
    refine ⟨tokenId, userId, ?_⟩
    rw [htrace]
    exact List.mem_cons_of_mem _ (hsuffix.subset List.mem_cons_self)
  | verifyEmail token =>
    obtain rfl := Option.some.inj htoken
    obtain ⟨tokenId, userId, user, h', n, hfound, -, htrace⟩ := hsucceeded
    refine ⟨tokenId, userId, ?_⟩
    rw [htrace, hfound]
    simp
  | _ => cases htoken

/-- In every run from an empty database in which no string is looked up that has the hash of another live
token, only strings that were issued are accepted; but the hash separates the tokens under no secret. -/
theorem only_issued_accepted (svc : AuthService) (w : World) (hempty : w.db = Db.empty) (req : ℕ → Request)
    (d : System) (hrun : svc.machine.Reaches (looksUpApart svc req).Keeps (svc.start w req) d) :
    AcceptsIssued req d ∧ ¬ svc.SeparatesTokens := by
  refine ⟨?_, svc.not_separatesTokens⟩
  intro i response t hdone htoken
  obtain ⟨tokenId, userId, hfound⟩ := found_of_accepted hrun hdone htoken
  obtain ⟨e, he, rfl, hentry⟩ := mem_ownHistory.mp hfound
  obtain ⟨mid, next, s, hat⟩ := hrun.performedAt_of_mem rfl he
  obtain ⟨row, hrow, -, -, hhash, hlive, hunused⟩ := selectValidToken_row (perform_of_entry hentry hat.perform)
  rw [← hat.before] at hrow hlive
  obtain ⟨other, hreturned, hcollides⟩ := returned_of_row hempty hat.run hrow
  have haction : e.action = .sql (.selectValidToken t.1 (svc.hashToken t.2)) := congrArg Sigma.fst hentry
  rcases hat.event_ok t htoken haction (t.1, other) hreturned rfl (hcollides.trans hhash) with hsame | hdead
  · rw [hsame] at hreturned
    exact returnedTokens_mono hat.toLast hreturned
  · rcases hdead row hrow hhash with hused | hexpired
    · exact absurd hunused hused
    · exact absurd hlive (Int.not_lt.mpr hexpired)

end Run

section Runs

open Reference

instance (svc : AuthService) (req : ℕ → Request) (c : System) (e : LogEvent) :
    Decidable ((looksUpApart svc req).event c e) :=
  inferInstanceAs (Decidable (∀ t ∈ (req e.caller).oneTimeToken?, _ → ∀ other ∈ returnedTokens req c, _ → _ → _ ∨
    ∀ row ∈ (c.shared.db.oneTimeTokens t.1).rows, _))

/-- A user registers, asks for a password reset and presents a string. -/
def lookupRequests (token : String) : ℕ → Request
  | 0 => .register ⟨"a@b.c", "Abcdefg1", "Abcdefg1", "A"⟩
  | 1 => .forgotPassword "a@b.c"
  | _ => .resetPassword ⟨token, "Hijklmn2", "Hijklmn2"⟩

/-- The calls one after the other; the token is drawn with the choice. -/
def lookupMoves (drawn : Choice) : List (Machine.Move ℕ Choice EnvMove) :=
  moves 0 3 1 ++ List.replicate 5 (.call 1 drawn) ++ moves 2 5 3

/-- The run in which a token is drawn and a string presented. -/
def lookupRun (drawn : Choice) (token : String) : System :=
  service.executor.play (lookupMoves drawn) (service.start world (lookupRequests token))

/-- The token that was issued is accepted. -/
theorem only_issued_accepted_reset : ∃ response,
    (lookupRun (choice 2) (base64UrlEncode (choice 2).bytes.toList)).calls 2 = .done (.ok response) ∧
    AcceptsIssued (lookupRequests (base64UrlEncode (choice 2).bytes.toList))
      (lookupRun (choice 2) (base64UrlEncode (choice 2).bytes.toList)) := by
  have hallows :
    service.executor.Allows (looksUpApart service (lookupRequests (base64UrlEncode (choice 2).bytes.toList)))
      (fun _ => True) (lookupMoves (choice 2))
      (service.start world (lookupRequests (base64UrlEncode (choice 2).bytes.toList))) := by decide +kernel
  have hsucceeded :
    ((lookupRun (choice 2) (base64UrlEncode (choice 2).bytes.toList)).calls 2).succeeded = true := by
    decide +kernel
  obtain ⟨response, hdone⟩ := succeeded_iff.mp hsucceeded
  exact ⟨response, hdone, (only_issued_accepted service world rfl _ _ (hallows.reaches fun _ _ _ => trivial)).1⟩

/-- Bytes that begin with 24 zeros. -/
def afterZeros (tail : Vector UInt8 8) : Vector UInt8 32 := Vector.replicate 24 (0 : UInt8) ++ tail

/-- Two tokens with the same hash under the secret of the configuration. -/
def twinBytes : Vector UInt8 32 × Vector UInt8 32 :=
  (afterZeros #v[0xee, 0x35, 0xcb, 0x7c, 0x81, 0xa0, 0xec, 0xb0],
    afterZeros #v[0xc5, 0x94, 0x39, 0xef, 0x6c, 0xe8, 0x84, 0xdb])

/-- The choice that draws the first of them. -/
def drawsTwin : Choice := { choice 2 with bytes := twinBytes.1 }

/-- A reset with a string that was never issued is accepted. -/
theorem unissued_accepted : ∃ d, service.machine.Reaches (fun _ _ => True)
    (service.start world (lookupRequests (base64UrlEncode twinBytes.2.toList))) d ∧
    ¬ AcceptsIssued (lookupRequests (base64UrlEncode twinBytes.2.toList)) d := by
  refine ⟨lookupRun drawsTwin (base64UrlEncode twinBytes.2.toList), service.executor.play_reaches _ _, ?_⟩
  have hfacts : ((lookupRun drawsTwin (base64UrlEncode twinBytes.2.toList)).calls 2).succeeded = true ∧
      (.passwordReset, base64UrlEncode twinBytes.2.toList) ∉ returnedTokens
        (lookupRequests (base64UrlEncode twinBytes.2.toList))
        (lookupRun drawsTwin (base64UrlEncode twinBytes.2.toList)) := by decide +kernel
  obtain ⟨hsucceeded, hunissued⟩ := hfacts
  obtain ⟨response, hdone⟩ := succeeded_iff.mp hsucceeded
  exact fun haccepts => hunissued (haccepts 2 response _ hdone rfl)

end Runs

end RustPressAuth
