import RustPressAuth.SessionChains

/-!
# Which tokens a logout acts on

A logout revokes the row that the JWT of its token names. It checks neither the signature
of the JWT nor the random part, both of which a refresh checks. So it acts on a genuine
token as it should, but also on a token that anyone can write who knows the id of a row.
-/

namespace RustPressAuth

open Atomic Program Machine Relational

/-- The string is a refresh token of the row: its JWT is signed, is accepted at the instant and names the row,
and its random part hashes to the hash of the row. -/
def AuthService.Genuine (svc : AuthService) (db : Db) (now : Instant) (refreshToken : String) (row : RefreshToken) :
    Prop :=
  ∃ tokenString claims, svc.Decodes true refreshToken now tokenString claims ∧
    db.refreshRow? claims.tid (svc.hashToken tokenString) = some row

/-- The JWT part of the string is signed with the secret of the service, and its random part hashes to the hash of
the row. -/
def AuthService.Binds (svc : AuthService) (refreshToken : String) (row : RefreshToken) : Prop :=
  ∃ tokenString jwt, rsplitDot refreshToken = [tokenString, jwt] ∧
    svc.prims.jwtVerify svc.config.jwtSecret jwt = true ∧ svc.hashToken tokenString = row.tokenHash

/-- A logout acts on genuine tokens only: a row it changes is bound to the token and is the only one it changes,
and a string that is no token of a row is refused and changes nothing. -/
structure ActsOnGenuine (svc : AuthService) (refreshToken : String) (w : World) (now : Instant)
    (res : Except Failure Unit) (w' : World) : Prop where
  changed : ∀ row ∈ w.db.refreshTokens, row ∉ w'.db.refreshTokens → svc.Binds refreshToken row ∧
    ∀ other ∈ w.db.refreshTokens, other ≠ row → other ∈ w'.db.refreshTokens
  refused : (∀ row, ¬ svc.Genuine w.db now refreshToken row) → w'.db = w.db ∧ res = .error (.err .invalidToken)

section Logout

variable {svc : AuthService} {refreshToken : String} {w w' : World} {tr : Trace} {now : Instant}
  {res : Except Failure Unit}

/-- What a refresh accepts is signed, and a logout accepts it too. -/
theorem decodeRefresh_signed {jwt : String} {claims : RefreshTokenClaims}
    (h : svc.decodeRefresh true now jwt = some claims) :
    svc.decodeRefresh false now jwt = some claims ∧ svc.prims.jwtVerify svc.config.jwtSecret jwt = true := by
  obtain ⟨payload, hdecoded, hread⟩ := Option.bind_eq_some_iff.mp h
  simp only [Primitives.jwtDecode, Option.bind_eq_bind, Option.bind_eq_some_iff] at hdecoded
  obtain ⟨⟨alg, payload'⟩, hparts, hchecks⟩ := hdecoded
  simp only [AuthService.refreshValidation, Bool.true_and] at hchecks
  obtain ⟨hsigned, hpassed⟩ := Option.ite_none_left_eq_some.mp hchecks
  have hverify : alg = .hs256 ∧ svc.prims.jwtVerify svc.config.jwtSecret jwt = true := by simpa using hsigned
  refine ⟨?_, hverify.2⟩
  rw [AuthService.decodeRefresh, Primitives.jwtDecode, hparts]
  simp only [AuthService.refreshValidation, Bool.false_and, Bool.false_eq_true, if_false, Option.bind_eq_bind,
    Option.bind_some]
  exact Option.bind_eq_some_iff.mpr ⟨payload, hpassed, hread⟩

/-- What decodes with a check of its expiry decodes without one. -/
theorem AuthService.Decodes.unsigned {tokenString : String} {claims : RefreshTokenClaims}
    (h : svc.Decodes true refreshToken now tokenString claims) :
    svc.Decodes false refreshToken now tokenString claims := by
  obtain ⟨jwt, hcut, hdecoded⟩ := h
  exact ⟨jwt, hcut, (decodeRefresh_signed hdecoded).1⟩

/-- A string is decoded in one way. -/
theorem AuthService.Decodes.unique {b : Bool} {tokenString tokenString' : String}
    {claims claims' : RefreshTokenClaims} (h : svc.Decodes b refreshToken now tokenString claims)
    (h' : svc.Decodes b refreshToken now tokenString' claims') :
    tokenString = tokenString' ∧ claims = claims' := by
  obtain ⟨jwt, hcut, hdecoded⟩ := h
  obtain ⟨jwt', hcut', hdecoded'⟩ := h'
  obtain ⟨rfl, rfl⟩ : tokenString = tokenString' ∧ jwt = jwt' := by simpa using hcut.symm.trans hcut'
  exact ⟨rfl, Option.some.inj (hdecoded.symm.trans hdecoded')⟩

/-- Every run of `logout` alone in which no statement fails refuses a string that is not decoded at the time, and
revokes the row that is named otherwise. -/
theorem logout_ending (h : svc.smooth.Exec (svc.logout refreshToken) w tr res w') :
    ∃ now : ℕ, w.During w' now ∧
      (((∀ tokenString claims, ¬ svc.Decodes false refreshToken now tokenString claims) ∧
          res = .error (.err .invalidToken) ∧ w'.db = w.db) ∨
        ∃ tokenString claims, ∃ t : ℕ, svc.Decodes false refreshToken now tokenString claims ∧ res = .ok () ∧
          w'.db = w.db.endSession claims.tid t) := by
  have hend := (alone_precedes h).clock
  simp only [AuthService.logout] at h
  rcases alone_splitToken h with ⟨hother, hres, hdb, -⟩ | ⟨tokenString, jwt, hcut, hnow⟩
  · refine ⟨w.clock, ⟨Nat.le_refl _, hend⟩, Or.inl ⟨?_, hres, hdb⟩⟩
    rintro tokenString claims ⟨jwt, hcut, -⟩
    exact hother tokenString jwt hcut
  obtain ⟨now, tr₁, hbegin, -, hdecode⟩ := alone_now hnow
  refine ⟨now, ⟨hbegin, (alone_precedes hdecode).clock⟩, ?_⟩
  rcases alone_okOr hdecode with ⟨hnone, hres, hdb, -⟩ | ⟨claims, hclaims, hrevoke⟩
  · refine Or.inl ⟨?_, hres, hdb⟩
    rintro tokenString' claims ⟨jwt', hcut', hdecoded⟩
    obtain ⟨-, rfl⟩ : tokenString = tokenString' ∧ jwt = jwt' := by simpa using hcut.symm.trans hcut'
    rw [hnone] at hdecoded
    cases hdecoded
  · obtain ⟨t, fresh, n, db, tr₂, -, hrun, -, hreturn⟩ := smooth_query hrevoke
    obtain ⟨hres, hdb, -⟩ := alone_ok hreturn
    obtain rfl : w.db.endSession claims.tid t = db := (Prod.mk.inj (Except.ok.inj hrun)).2
    exact Or.inr ⟨tokenString, claims, t, ⟨jwt, hcut, hclaims⟩, hres, hdb⟩

/-- Ending a session leaves the rows with other ids. -/
theorem mem_endSession_of_ne {db : Db} {id : Uuid} {t : Instant} {row : RefreshToken}
    (hrow : row ∈ db.refreshTokens) (hid : row.id ≠ id) : row ∈ (db.endSession id t).refreshTokens :=
  Db.mem_revoke.mpr ⟨row, hrow, by simp [hid]⟩

/-- A logout acts on genuine tokens only if and only if its string is refused as it stands, or is genuine. -/
theorem logout_acts_on_genuine (svc : AuthService) (refreshToken : String) (w w' : World) (tr : Trace)
    (res : Except Failure Unit) (h : svc.smooth.Exec (svc.logout refreshToken) w tr res w') :
    ∃ now : ℕ, w.During w' now ∧ (ActsOnGenuine svc refreshToken w now res w' ↔
      (∀ tokenString claims, ¬ svc.Decodes false refreshToken now tokenString claims) ∨
        ∃ row, svc.Genuine w.db now refreshToken row) := by
  obtain ⟨now, hduring, ⟨hundecoded, hres, hdb⟩ | ⟨tokenString, claims, t, hdecodes, hres, hdb⟩⟩ := logout_ending h
  · refine ⟨now, hduring, iff_of_true ⟨fun row hrow hchanged => ?_, fun _ => ⟨hdb, hres⟩⟩ (Or.inl hundecoded)⟩
    rw [hdb] at hchanged
    exact absurd hrow hchanged
  · refine ⟨now, hduring, fun hacts => Or.inr ?_, fun hcondition => ?_⟩
    · by_contra hforged
      have hrefused := (hacts.refused (not_exists.mp hforged)).2
      rw [hres] at hrefused
      cases hrefused
    · obtain ⟨row, tokenString', claims', hsigned, hrow⟩ :=
        hcondition.resolve_left fun hundecoded => hundecoded tokenString claims hdecodes
      obtain ⟨rfl, rfl⟩ := hdecodes.unique hsigned.unsigned
      obtain ⟨hmem, hid, hhash⟩ := Db.refreshRow?_some hrow
      constructor
      · intro row' hrow' hchanged
        rw [hdb] at hchanged
        have hid' : row'.id = claims.tid := by
          by_contra hne
          exact hchanged (mem_endSession_of_ne hrow' hne)
        obtain rfl := Table.eq_of_pk hrow' hmem (hid'.trans hid.symm)
        obtain ⟨jwt, hcut, hdecoded⟩ := hsigned
        refine ⟨⟨tokenString, jwt, hcut, (decodeRefresh_signed hdecoded).2, hhash.symm⟩, ?_⟩
        intro other hother hne
        rw [hdb]
        exact mem_endSession_of_ne hother fun hsame => hne (Table.eq_of_pk hother hrow' (hsame.trans hid.symm))
      · intro hnone
        exact absurd ⟨tokenString, claims, hsigned, hrow⟩ (hnone row)

end Logout

section Runs

open Reference

/-- A user registers and logs in, which stores the refresh token with id 2. -/
def loginRequests : ℕ → Request
  | 0 => .register ⟨"a@b.c", "Abcdefg1", "Abcdefg1", "A"⟩
  | _ => .login ⟨"a@b.c", "Abcdefg1"⟩ none none

/-- The world after the login. -/
def openSessionWorld : World :=
  (service.executor.play (moves 0 5 1 ++ moves 1 12 2) (service.start world loginRequests)).shared

/-- A JWT that names the row, signed with another secret. -/
def forgedJwt : String := jwtEncode "" (service.refreshClaims 0 2 0).toPayload

/-- The row with id 2 is revoked. -/
def revokesTwo (res : Except Failure Unit) (w : World) : Bool :=
  res.toBool && w.db.refreshTokens.rows.all fun row => row.id = 2 && row.revokedAt.isSome

/-- The genuine token of the login is logged out as it should be. -/
theorem logout_acts_on_genuine_login : ∃ tr res w', service.smooth.Exec
    (service.logout (refreshToken 1 2 0)) openSessionWorld tr res w' ∧ revokesTwo res w' = true ∧
    ∃ now : ℕ, (ActsOnGenuine service (refreshToken 1 2 0) openSessionWorld now res w' ↔
      (∀ tokenString claims, ¬ service.Decodes false (refreshToken 1 2 0) now tokenString claims) ∨
        ∃ row, service.Genuine openSessionWorld.db now (refreshToken 1 2 0) row) := by
  have hpasses : ((service.executor.solo (AuthService.admits false) (List.replicate 2 (choice 3))
      (logoutIssued 1 2 0) openSessionWorld).any fun out => revokesTwo out.2.1 out.2.2) = true := by decide +kernel
  obtain ⟨tr, res, w', hrun, htest⟩ := Executor.exists_exec service.alone_perform revokesTwo hpasses
  rw [← logout_refreshToken] at hrun
  obtain ⟨now, -, hiff⟩ := logout_acts_on_genuine service _ _ _ _ _ hrun
  exact ⟨tr, res, w', hrun, htest, now, hiff⟩

/-- A logout with the forged token goes on as one with a token of the service. -/
theorem logout_forgedJwt : service.logout (forgedJwt ++ "." ++ "f") = logoutIssued 0 2 0 := by
  have hcut : rsplitDot (forgedJwt ++ "." ++ "f") = ["f", forgedJwt] := rsplitDot_append _ _ (by decide)
  have hdecode (now : Instant) := service.decodeRefresh_signedWith jwtRoundTrip false "" (by simp) now
    (service.refreshClaims 0 2 0) rfl
  simp only [AuthService.logout, AuthService.splitToken, hcut, logoutIssued]
  exact congrArg (fun f => utcNow >>= f) (funext fun now => congrArg (fun o => okOr o _ >>= _) (hdecode now))

/-- A logout with a forged token revokes the row. -/
theorem forged_logout_revokes : jwtVerify config.jwtSecret forgedJwt = false ∧
    ∃ tr res w', service.smooth.Exec (service.logout (forgedJwt ++ "." ++ "f")) openSessionWorld tr res w' ∧
      ∀ now, ¬ ActsOnGenuine service (forgedJwt ++ "." ++ "f") openSessionWorld now res w' := by
  have hfacts : jwtVerify config.jwtSecret forgedJwt = false ∧
      (∃ row ∈ openSessionWorld.db.refreshTokens.rows, row.revokedAt = none) ∧
      ((service.executor.solo (AuthService.admits false) (List.replicate 2 (choice 3)) (logoutIssued 0 2 0)
        openSessionWorld).any fun out => revokesTwo out.2.1 out.2.2) = true := by decide +kernel
  obtain ⟨hforged, ⟨row, hrow, hlive⟩, hpasses⟩ := hfacts
  obtain ⟨tr, res, w', hrun, htest⟩ := Executor.exists_exec service.alone_perform revokesTwo hpasses
  rw [← logout_forgedJwt] at hrun
  refine ⟨hforged, tr, res, w', hrun, fun now hacts => ?_⟩
  have hchanged : row ∉ w'.db.refreshTokens := by
    intro hkept
    have hrevoked := List.all_eq_true.mp (Bool.and_eq_true_iff.mp htest).2 row hkept
    simp [hlive] at hrevoked
  obtain ⟨⟨tokenString, jwt, hcut, hverify, -⟩, -⟩ := hacts.changed row hrow hchanged
  rw [rsplitDot_append _ _ (by decide)] at hcut
  cases hcut
  have hverify' : jwtVerify config.jwtSecret forgedJwt = true := hverify
  rw [hforged] at hverify'
  cases hverify'

end Runs

end RustPressAuth
