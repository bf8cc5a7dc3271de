import RustPressAuth.IssuerVerifier
import RustPressAuth.SessionOutcomes

/-!
# How long an access token is accepted

An access token names the second in which it expires. The token library admits a leeway of
a minute, which the service leaves as it is, so a token is accepted for one minute longer
than it was issued for. Up to its expiry, and after the minute, it lives as configured.
-/

namespace RustPressAuth

open Atomic Program Machine

variable {svc : AuthService} {faults : Bool} {user : User} {w w' : World} {tr : Trace}

/-- The second in which a token that is issued at an instant expires. -/
def AuthConfig.accessExpiry (config : AuthConfig) (issued : Instant) : ℤ :=
  timestamp issued + config.accessTokenExpiration.toInt

/-- The claims describe the user, and name the issuer and the audience of the configuration. -/
structure AccessTokenClaims.Describes (claims : AccessTokenClaims) (config : AuthConfig) (user : User) : Prop where
  sub : claims.sub = user.id
  email : claims.email = user.email
  name : claims.name = user.name
  role : claims.role = user.role.asStr
  iss : claims.iss = config.jwtIssuer
  aud : claims.aud = config.jwtAudience

/-- At this instant the token is treated as its configured lifetime says: it is accepted for the user until its
expiry, and refused from then on. -/
structure AuthService.LivesAsConfigured (svc : AuthService) (user : User) (issued : Instant) (token : String)
    (now : Instant) : Prop where
  accepted : now ≤ svc.config.accessExpiry issued * 1000000 →
    ∃ claims, svc.validateAccessToken now token = .ok claims ∧ claims.Describes svc.config user
  refused : svc.config.accessExpiry issued * 1000000 < now →
    svc.validateAccessToken now token = .error .invalidToken

/-- The expiry that is signed is the configured one. -/
theorem accessClaims_exp (svc : AuthService) (user : User) (issued : Instant) (jti : Uuid) :
    (svc.accessClaims user issued jti).exp = svc.config.accessExpiry issued := by
  simp only [AuthService.accessClaims, AuthConfig.accessExpiry, timestamp, seconds]
  exact Int.add_mul_ediv_right _ _ (by decide)

/-- The claims of an access token are those of the user and the configuration. -/
theorem accessClaims_describes (svc : AuthService) (user : User) (issued : Instant) (jti : Uuid) :
    (svc.accessClaims user issued jti).Describes svc.config user := ⟨rfl, rfl, rfl, rfl, rfl, rfl⟩

/-- A run of `generateAccessToken` that returns a token signed it for the user, with the expiry of some instant of
the call. -/
theorem generateAccessToken_ending {token : String}
    (h : (svc.alone faults).Exec (svc.generateAccessToken user) w tr (.ok token) w') :
    ∃ (issued : ℕ) (jti : Uuid), w.During w' issued ∧
      token = svc.prims.jwtEncode svc.config.jwtSecret (svc.accessClaims user issued jti).toPayload := by
  rw [← bind_eq_self (svc.generateAccessToken user)] at h
  simp only [AuthService.generateAccessToken, Program.bind_assoc] at h
  rcases alone_expiry h with ⟨⟨fault, hpanic⟩, -⟩ | ⟨issued, tr₁, hissued, -, rfl, hdraw⟩
  · cases hpanic
  obtain ⟨t₁, jti, tr₂, ht₁, rfl, hsign⟩ := alone_uuid hdraw
  obtain ⟨t₂, tr₃, ht₂, rfl, hreturn⟩ := alone_sign hsign
  exact ⟨issued, jti, ⟨hissued, (alone_precedes hdraw).clock⟩, Except.ok.inj (alone_ok hreturn).1⟩

/-- A token of the service is accepted until a minute after its expiry. -/
theorem validateAccessToken_issued (hjwt : svc.prims.JwtRoundTrip) (now : Instant) {claims : AccessTokenClaims}
    (hiss : claims.iss = svc.config.jwtIssuer) (haud : claims.aud = svc.config.jwtAudience)
    (hexp : 0 ≤ claims.exp) :
    svc.validateAccessToken now (svc.prims.jwtEncode svc.config.jwtSecret claims.toPayload) =
      if timestamp now ≤ claims.exp + 60 then .ok claims else .error .invalidToken := by
  have hcarried : svc.prims.carried (svc.prims.jwtEncode svc.config.jwtSecret claims.toPayload) = some claims := by
    simp [Primitives.carried, hjwt.parts_encode]
  by_cases hearly : timestamp now ≤ claims.exp + 60
  · rw [if_pos hearly]
    exact validateAccessToken_eq_ok.mpr (Primitives.decodeAccess_eq_some.mpr
      ⟨hcarried, hjwt.verify_encode _ _, hiss, haud, hexp, hearly⟩)
  · rw [if_neg hearly, AuthService.validateAccessToken]
    split
    · rename_i claims' hdecoded
      obtain ⟨hcarried', -, haccepted⟩ := Primitives.decodeAccess_eq_some.mp hdecoded
      obtain rfl := Option.some.inj (hcarried.symm.trans hcarried')
      exact absurd haccepted.exp hearly
    · rfl

/-- A token lives as configured at every instant but those of the minute after its expiry. -/
theorem livesAsConfigured_iff (hjwt : svc.prims.JwtRoundTrip) (hvalid : svc.config.validate = .ok ()) (user : User)
    (issued : ℕ) (jti : Uuid) (now : Instant) :
    svc.LivesAsConfigured user issued
        (svc.prims.jwtEncode svc.config.jwtSecret (svc.accessClaims user issued jti).toPayload) now ↔
      now ≤ svc.config.accessExpiry issued * 1000000 ∨ svc.config.accessExpiry issued + 60 < timestamp now := by
  have hpos := AuthConfig.accessTokenExpiration_pos hvalid
  have hexp := accessClaims_exp svc user issued jti
  have hissued : 0 ≤ timestamp (issued : ℤ) := Int.ediv_nonneg (Int.natCast_nonneg issued) (by decide)
  have hnonneg : 0 ≤ (svc.accessClaims user issued jti).exp := by
    rw [hexp, AuthConfig.accessExpiry]
    omega
  have hvalidated := validateAccessToken_issued hjwt now
    (rfl : (svc.accessClaims user issued jti).iss = svc.config.jwtIssuer) rfl hnonneg
  rw [hexp] at hvalidated
  constructor
  · intro hlives
    by_contra hbetween
    obtain ⟨hlate, hleeway⟩ := not_or.mp hbetween
    have hrefused := hlives.refused (Int.not_le.mp hlate)
    rw [hvalidated, if_pos (Int.not_lt.mp hleeway)] at hrefused
    cases hrefused
  · intro houtside
    constructor
    · intro hearly
      have hsecond : timestamp now ≤ svc.config.accessExpiry issued + 60 := by
        have hdown := Int.ediv_le_ediv (c := 1000000) (by decide) hearly
        rw [Int.mul_ediv_cancel _ (by decide)] at hdown
        exact Int.le_trans hdown (by omega)
      rw [if_pos hsecond] at hvalidated
      exact ⟨_, hvalidated, accessClaims_describes svc user issued jti⟩
    · intro hlate
      have hafter : svc.config.accessExpiry issued + 60 < timestamp now :=
        houtside.resolve_left (Int.not_le.mpr hlate)
      rw [hvalidated, if_neg (Int.not_le.mpr hafter)]

/-- A token that was issued lives as configured at an instant if and only if the instant is not in the minute
after its expiry. -/
theorem access_token_lifetime (svc : AuthService) (hjwt : svc.prims.JwtRoundTrip)
    (hvalid : svc.config.validate = .ok ()) (faults : Bool) (user : User) (w w' : World) (tr : Trace)
    (token : String) (hissued : (svc.alone faults).Exec (svc.generateAccessToken user) w tr (.ok token) w') :
    ∃ issued : ℕ, w.During w' issued ∧ ∀ now : Instant, svc.LivesAsConfigured user issued token now ↔
      now ≤ svc.config.accessExpiry issued * 1000000 ∨ svc.config.accessExpiry issued + 60 < timestamp now := by
  obtain ⟨issued, jti, hduring, rfl⟩ := generateAccessToken_ending hissued
  exact ⟨issued, hduring, livesAsConfigured_iff hjwt hvalid user issued jti⟩

section Runs

open Reference

/-- With the default lifetimes a token can be issued, and lives as configured outside the minute after its
expiry. -/
theorem access_token_lifetime_default : ∃ token, ∃ issued : ℕ, ∀ now : Instant,
    service.LivesAsConfigured someUser issued token now ↔
      now ≤ config.accessExpiry issued * 1000000 ∨ config.accessExpiry issued + 60 < timestamp now := by
  obtain ⟨tr, hissued⟩ := generateAccessToken_exec service someUser world 0 (by decide)
  obtain ⟨issued, -, hlives⟩ :=
    access_token_lifetime service jwtRoundTrip rfl false someUser world world tr _ hissued
  exact ⟨_, issued, hlives⟩

/-- A token that was issued for a quarter of an hour at the epoch is accepted half a minute later than that. -/
theorem expired_token_accepted : config.accessExpiry 0 = 900 ∧ ¬ service.LivesAsConfigured someUser 0
    (jwtEncode config.jwtSecret (service.accessClaims someUser 0 0).toPayload) 930000000 := by
  refine ⟨by decide, fun hlives => ?_⟩
  have houtside := (livesAsConfigured_iff jwtRoundTrip rfl someUser 0 0 930000000).mp hlives
  revert houtside
  decide

end Runs

end RustPressAuth
