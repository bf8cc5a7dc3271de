import RustPressAuth.CallProtocol
import RustPressAuth.Effects
import RustPressAuth.Reference

/-!
# Password-reset tokens under concurrency

A reset finds its token, hashes the new password, replaces the old one and only then
marks the token used, by its id alone. Two resets that both find the token before either
marks it both succeed. The token is single-use in every run in which no reset finds it
while another one that found it is under way, or has replaced the password and failed to
mark the token used.
-/

namespace RustPressAuth

open Atomic Program Relational

/-- The request presents this token for a password reset. -/
def Request.resets (t : String) : Request → Bool
  | .resetPassword r => r.token == t
  | _ => false

/-- A request resets with a token exactly if it is a reset that presents it. -/
theorem Request.resets_iff {t : String} {req : Request} :
    req.resets t = true ↔ ∃ r, req = .resetPassword r ∧ r.token = t := by
  cases req with
  | resetPassword r => simp [resets]
  | _ => simp [resets]

/-- A reset token was found. -/
def findsToken : Entry → Bool
  | ⟨.sql (.selectValidToken .passwordReset _), .ok (some _)⟩ => true
  | _ => false

/-- A password was replaced. -/
def replacesPassword : Entry → Bool
  | ⟨.sql (.updatePassword ..), .ok _⟩ => true
  | _ => false

/-- A reset token was marked used. -/
def consumesToken : Entry → Bool
  | ⟨.sql (.markTokenUsed .passwordReset _), .ok _⟩ => true
  | _ => false

/-- At most one of the resets that present `t` returns `Ok`, and at most one replaces a password. -/
structure ResetOnce (req : ℕ → Request) (t : String) (d : System) : Prop where
  success : ∀ i j, (req i).resets t = true → (req j).resets t = true →
    (d.calls i).succeeded = true → (d.calls j).succeeded = true → i = j
  change : ∀ e ∈ d.log, ∀ f ∈ d.log, (req e.caller).resets t = true → (req f.caller).resets t = true →
    replacesPassword e.entry = true → replacesPassword f.entry = true → e.caller = f.caller

/-- When a reset finds `t`, no other reset that found `t` is running, and none has replaced the
password without marking the token used. -/
def resetsApart (req : ℕ → Request) (t : String) : Rule ℕ Action Action.Reply Failure Response World :=
  .ofEvent fun c e => (req e.caller).resets t = true → findsToken e.entry = true →
    ∀ f ∈ c.log, (req f.caller).resets t = true → findsToken f.entry = true → f.caller ≠ e.caller →
      ¬ c.Running f.caller ∧ ((ownHistory f.caller c.log).any replacesPassword = true →
        (ownHistory f.caller c.log).any consumesToken = true)

variable {svc : AuthService} {t : String}

/-- An entry finds a token exactly if it is the lookup with a row. -/
theorem findsToken_iff {x : Entry} : findsToken x = true ↔ ∃ tokenHash tokenId userId,
    x = executed (.selectValidToken .passwordReset tokenHash) (some (tokenId, userId)) := by
  constructor
  · intro h
    unfold findsToken at h
    split at h
    · rename_i tokenHash found
      exact ⟨tokenHash, found.1, found.2, rfl⟩
    · cases h
  · rintro ⟨tokenHash, tokenId, userId, rfl⟩
    rfl

/-- An entry replaces a password exactly if it is the statement that does. -/
theorem replacesPassword_iff {x : Entry} : replacesPassword x = true ↔ ∃ passwordHash id, ∃ n : ℕ,
    x = executed (.updatePassword passwordHash id) n := by
  constructor
  · intro h
    unfold replacesPassword at h
    split at h
    · rename_i passwordHash id n
      exact ⟨passwordHash, id, n, rfl⟩
    · cases h
  · rintro ⟨passwordHash, id, n, rfl⟩
    rfl

/-- An entry consumes a token exactly if it is the statement that marks it used. -/
theorem consumesToken_iff {x : Entry} : consumesToken x = true ↔ ∃ id, ∃ n : ℕ,
    x = executed (.markTokenUsed .passwordReset id) n := by
  constructor
  · intro h
    unfold consumesToken at h
    split at h
    · rename_i id n
      exact ⟨id, n, rfl⟩
    · cases h
  · rintro ⟨id, n, rfl⟩
    rfl

section Run

variable {req : ℕ → Request} {w : World} {ok : System → System → Prop} {d : System}

/-- A reset that replaces the password has found its token before. -/
theorem lookup_of_replaces (hrun : svc.machine.Reaches ok (svc.start w req) d) {e : LogEvent}
    {older : List LogEvent} (he : (e :: older) <:+ d.log) (hresets : (req e.caller).resets t = true)
    (hreplaces : replacesPassword e.entry = true) : ∃ lookup older' tokenId userId,
      (lookup :: older') <:+ older ∧ lookup.caller = e.caller ∧
      lookup.entry = executed (.selectValidToken .passwordReset (svc.hashToken t)) (some (tokenId, userId)) := by
  obtain ⟨passwordHash, id, n, hentry⟩ := replacesPassword_iff.mp hreplaces
  obtain ⟨r, hreq, rfl⟩ := Request.resets_iff.mp hresets
  have hguard := guard_of_run hrun he
  obtain ⟨i, s, a, reply⟩ := e
  cases hentry
  rcases hguard with ⟨r', tokenId, hreq', h', hfound, salt, -, -, htrace⟩ | ⟨r', hreq', -⟩
  · obtain rfl : r = r' := Request.resetPassword.inj (hreq.symm.trans hreq')
    have hbottom :
      (executed (.selectValidToken .passwordReset (svc.hashToken r.token)) (some (tokenId, id)) :: []) <:+
        ownHistory i older := by
      rw [htrace, hfound]
      exact ⟨[_], rfl⟩
    obtain ⟨lookup, older', hsuffix, hcaller, hlookup, -⟩ := exists_event_of_suffix hbottom
    exact ⟨lookup, older', tokenId, id, hsuffix, hcaller, hlookup⟩
  · exact absurd (hreq.symm.trans hreq') (by simp)

/-- A reset that marks a token used has found that very token before. -/
theorem lookup_of_consumes (hrun : svc.machine.Reaches ok (svc.start w req) d) {e : LogEvent}
    {older : List LogEvent} (he : (e :: older) <:+ d.log) (hresets : (req e.caller).resets t = true) {id : Uuid}
    {n : ℕ} (hentry : e.entry = executed (.markTokenUsed .passwordReset id) n) : ∃ lookup ∈ older, ∃ userId,
      lookup.entry = executed (.selectValidToken .passwordReset (svc.hashToken t)) (some (id, userId)) := by
  obtain ⟨r, hreq, rfl⟩ := Request.resets_iff.mp hresets
  have hguard := guard_of_run hrun he
  obtain ⟨i, s, a, reply⟩ := e
  cases hentry
  rcases hguard with ⟨r', userId, hreq', -, hash, h', m, ⟨h'', hfound, salt, -, -, rfl⟩, htrace⟩ |
    ⟨tk, _, _, _, hreq', -⟩
  · obtain rfl : r = r' := Request.resetPassword.inj (hreq.symm.trans hreq')
    have hmem : executed (.selectValidToken .passwordReset (svc.hashToken r.token)) (some (id, userId)) ∈
        ownHistory i older := by
      rw [htrace, hfound]
      simp
    obtain ⟨lookup, hlookup, -, hentry⟩ := mem_ownHistory.mp hmem
    exact ⟨lookup, hlookup, userId, hentry⟩
  · exact absurd (hreq.symm.trans hreq') (by simp)

/-- A token that was consumed is not found again. -/
theorem consumed_not_found (hrun : svc.machine.Reaches ok (svc.start w req) d) {e f : LogEvent}
    {older : List LogEvent} (he : (e :: older) <:+ d.log) (hf : f ∈ older)
    (hresets : (req f.caller).resets t = true) {id id' userId' : Uuid} {n : ℕ}
    (hmark : f.entry = executed (.markTokenUsed .passwordReset id) n)
    (hfound : e.entry = executed (.selectValidToken .passwordReset (svc.hashToken t)) (some (id', userId'))) :
    False := by
  obtain ⟨before, hbefore⟩ := exists_suffix_of_mem hf
  have hf' : (f :: before) <:+ d.log := (hbefore.trans (List.suffix_cons e older)).trans he
  obtain ⟨lookup, hlookup, userId, hentry⟩ := lookup_of_consumes hrun hf' hresets hmark
  obtain ⟨s, hperform, -⟩ := hrun.effect_le svc.machine_monotone rfl hf' hlookup
  obtain ⟨row, hrow, hid, -, hhash, -⟩ := selectValidToken_row (Machine.perform_of_entry hentry hperform)
  obtain ⟨marked, hmarked, hlater⟩ :=
    (hrun.before_le svc.machine_monotone rfl hf' hlookup).db.oneTimeTokens .passwordReset row hrow
  obtain ⟨s', hperform', hle⟩ := hrun.effect_le svc.machine_monotone rfl he hf
  obtain ⟨used, hused, hlater', hisUsed⟩ :=
    markTokenUsed_row (Machine.perform_of_entry hmark hperform') hmarked (hlater.id.trans hid)
  obtain ⟨last, hlast, hlater''⟩ := hle.db.oneTimeTokens .passwordReset used hused
  obtain ⟨mid, next, s'', hat, -⟩ := hrun.performedAt rfl he
  obtain ⟨again, hagain, -, -, hhash', -, hunused⟩ :=
    selectValidToken_row (Machine.perform_of_entry hfound hat.perform)
  have hsame : last.tokenHash = again.tokenHash := by
    rw [hlater''.tokenHash, hlater'.tokenHash, hlater.tokenHash, hhash, hhash']
  obtain rfl := Table.eq_of_unique hlast hagain hsame
  have hstill := hlater''.used hisUsed
  rw [hunused] at hstill
  cases hstill

/-- Under the rule, no reset finds the token after another reset did that replaces the password. -/
theorem no_later_reset (hrun : svc.machine.Reaches (resetsApart req t).Keeps (svc.start w req) d)
    {e f : LogEvent} {older : List LogEvent} (he : (e :: older) <:+ d.log) (hf : f ∈ older)
    (hne : f.caller ≠ e.caller) (hresets : (req e.caller).resets t = true)
    (hresets' : (req f.caller).resets t = true) {tokenId userId : Uuid}
    (hfound : e.entry = executed (.selectValidToken .passwordReset (svc.hashToken t)) (some (tokenId, userId)))
    (hfound' : findsToken f.entry = true) {change : LogEvent} (hchange : change ∈ d.log)
    (hcaller : change.caller = f.caller) (hreplaces : replacesPassword change.entry = true) : False := by
  obtain ⟨mid, next, s, hat, rfl⟩ := hrun.performedAt rfl he
  have hfinds : findsToken e.entry = true := findsToken_iff.mpr ⟨_, tokenId, userId, hfound⟩
  obtain ⟨hidle, hmarks⟩ := hat.event_ok hresets hfinds f hf hresets' hfound' hne
  have hended := Config.ended_of_not_running hf hidle
  have hreplaced : (ownHistory f.caller mid.log).any replacesPassword = true := by
    rw [← hat.toLast.ownHistory_of_ended hended]
    exact List.any_eq_true.mpr ⟨change.entry, mem_ownHistory.mpr ⟨change, hchange, hcaller, rfl⟩, hreplaces⟩
  obtain ⟨x, hx, hconsumes⟩ := List.any_eq_true.mp (hmarks hreplaced)
  obtain ⟨id, n, rfl⟩ := consumesToken_iff.mp hconsumes
  obtain ⟨mark, hmark, hmarkCaller, hentry⟩ := mem_ownHistory.mp hx
  exact consumed_not_found hrun he hmark (hmarkCaller ▸ hresets') hentry hfound

/-- A reset that succeeded has replaced the password. -/
theorem replaces_of_succeeded (hrun : svc.machine.Reaches ok (svc.start w req) d) {i : ℕ}
    (hresets : (req i).resets t = true) (hsuccess : (d.calls i).succeeded = true) :
    ∃ e ∈ d.log, e.caller = i ∧ replacesPassword e.entry = true := by
  obtain ⟨v, hv⟩ := succeeded_iff.mp hsuccess
  obtain ⟨r, hreq, rfl⟩ := Request.resets_iff.mp hresets
  have hdone := succeeded_of_run hrun hv
  rw [hreq] at hdone
  obtain ⟨-, userId, h₁, n₁, ⟨tokenId, h₂, n₂, ⟨hash, h₃, n₃, hready, rfl⟩, rfl⟩, htrace⟩ := hdone
  have hmem : executed (.updatePassword hash userId) n₃ ∈ ownHistory i d.log := by
    rw [htrace]
    simp
  obtain ⟨e, he, hcaller, hentry⟩ := mem_ownHistory.mp hmem
  exact ⟨e, he, hcaller, replacesPassword_iff.mpr ⟨hash, userId, n₃, hentry⟩⟩

/-- Under the rule, at most one reset that presents `t` replaces the password. -/
theorem replaces_once (hrun : svc.machine.Reaches (resetsApart req t).Keeps (svc.start w req) d)
    {e f : LogEvent} (he : e ∈ d.log) (hf : f ∈ d.log) (hresets : (req e.caller).resets t = true)
    (hresets' : (req f.caller).resets t = true) (hreplaces : replacesPassword e.entry = true)
    (hreplaces' : replacesPassword f.entry = true) : e.caller = f.caller := by
  by_contra hne
  obtain ⟨olderE, hsuffixE⟩ := exists_suffix_of_mem he
  obtain ⟨olderF, hsuffixF⟩ := exists_suffix_of_mem hf
  obtain ⟨look, before, id, user, hlook, hcaller, hentry⟩ := lookup_of_replaces hrun hsuffixE hresets hreplaces
  obtain ⟨look', before', id', user', hlook', hcaller', hentry'⟩ :=
    lookup_of_replaces hrun hsuffixF hresets' hreplaces'
  have hfinds : findsToken look.entry = true := findsToken_iff.mpr ⟨_, id, user, hentry⟩
  have hfinds' : findsToken look'.entry = true := findsToken_iff.mpr ⟨_, id', user', hentry'⟩
  have hlog := (hlook.trans (List.suffix_cons _ _)).trans hsuffixE
  have hlog' := (hlook'.trans (List.suffix_cons _ _)).trans hsuffixF
  have hcallers : look.caller ≠ look'.caller := by
    rw [hcaller, hcaller']
    exact hne
  rw [← hcaller] at hresets
  rw [← hcaller'] at hresets'
  rcases suffix_trichotomy hlog hlog' with hfirst | hsecond | ⟨hsame, -⟩
  · exact no_later_reset hrun hlog' (hfirst.subset List.mem_cons_self) hcallers hresets' hresets hentry' hfinds he
      hcaller.symm hreplaces
  · exact no_later_reset hrun hlog (hsecond.subset List.mem_cons_self) (Ne.symm hcallers) hresets hresets' hentry
      hfinds' hf hcaller'.symm hreplaces'
  · exact hcallers (congrArg Event.caller hsame)

end Run

/-- In every run in which no reset finds `t` while another one that found it is running or has
left it unused, `t` is good for one reset. -/
theorem resetPassword_single_use (svc : AuthService) (w : World) (req : ℕ → Request) (t : String) (d : System)
    (hrun : svc.machine.Reaches (resetsApart req t).Keeps (svc.start w req) d) : ResetOnce req t d := by
  refine ⟨fun i j hi hj hdi hdj => ?_, fun e he f hf hre hrf hce hcf => replaces_once hrun he hf hre hrf hce hcf⟩
  obtain ⟨e, he, rfl, hreplaces⟩ := replaces_of_succeeded hrun hi hdi
  obtain ⟨f, hf, rfl, hreplaces'⟩ := replaces_of_succeeded hrun hj hdj
  exact replaces_once hrun he hf hi hj hreplaces hreplaces'

section Runs

open Reference

/-- The token the reset request below is answered with. -/
def resetToken : String := base64UrlEncode (choice 2).bytes.toList

/-- A user registers and asks for a reset, and two resets present the token. -/
def resetRequests : ℕ → Request
  | 0 => .register ⟨"a@b.c", "Abcdefg1", "Abcdefg1", "A"⟩
  | 1 => .forgotPassword "a@b.c"
  | 2 => .resetPassword ⟨resetToken, "Hijklmn2", "Hijklmn2"⟩
  | 3 => .resetPassword ⟨resetToken, "Opqrstu3", "Opqrstu3"⟩
  | _ => .verifyEmail ""

/-- The two resets one after the other. -/
def resetsInOrder : List (Machine.Move ℕ Choice EnvMove) :=
  moves 0 3 1 ++ moves 1 5 2 ++ moves 2 5 3 ++ moves 3 1 4

/-- The two resets, each finding the token before the other marks it used. -/
def resetsRacing : List (Machine.Move ℕ Choice EnvMove) :=
  moves 0 3 1 ++ moves 1 5 2 ++ moves 2 1 3 ++ moves 3 1 4 ++ moves 2 4 3 ++ moves 3 4 4

instance (req : ℕ → Request) (t : String) (c : System) (e : LogEvent) :
    Decidable ((resetsApart req t).event c e) :=
  inferInstanceAs (Decidable (_ → _ → ∀ f ∈ c.log, _ → _ → f.caller ≠ e.caller → ¬ c.Running f.caller ∧ (_ → _)))

/-- Two resets with one token come one after the other, and the token is used once. -/
theorem resetPassword_single_use_in_order : ResetOnce resetRequests resetToken
    (service.executor.play resetsInOrder (service.start world resetRequests)) := by
  have hallows : service.executor.Allows (resetsApart resetRequests resetToken) (fun _ => True)
      resetsInOrder (service.start world resetRequests) := by decide +kernel
  exact resetPassword_single_use service world resetRequests resetToken _ (hallows.reaches fun _ _ _ => trivial)

/-- Two resets that race both use the token that was returned. -/
theorem resetPassword_used_twice : ∃ d, service.machine.Reaches (fun _ _ => True)
    (service.start world resetRequests) d ∧ d.calls 1 = .done (.ok (.token resetToken)) ∧
    ¬ ResetOnce resetRequests resetToken d := by
  have hfacts : ((service.executor.play resetsRacing (service.start world resetRequests)).calls 1).result? =
        some (.ok (.token resetToken)) ∧
      ((service.executor.play resetsRacing (service.start world resetRequests)).calls 2).succeeded = true ∧
      ((service.executor.play resetsRacing (service.start world resetRequests)).calls 3).succeeded = true := by
    decide +kernel
  obtain ⟨hissued, hfirst, hsecond⟩ := hfacts
  refine ⟨_, service.executor.play_reaches resetsRacing _, result?_eq_some.mp hissued, fun honce => ?_⟩
  have hresets : (resetRequests 2).resets resetToken = true ∧ (resetRequests 3).resets resetToken = true := by
    simp [resetRequests, Request.resets]
  exact absurd (honce.success 2 3 hresets.1 hresets.2 hfirst hsecond) (by decide)

end Runs

end RustPressAuth
