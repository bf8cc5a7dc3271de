import RustPressAuth.EmailVerification
import RustPressAuth.Responses

/-!
# Who is registered

The handler that starts a password reset always answers with the same message and the
same status. The reply also carries the reset token, which is null for an email nobody
is registered with. So whoever asks learns whether there is an account.
-/

namespace RustPressAuth

open Atomic Program Machine Relational

/-- The two states differ in that a user with the email is registered in the second one only. -/
structure RegisteredBesides (email : String) (db db' : Db) : Prop where
  unknown : ∀ row ∈ db.users, row.email ≠ email
  registered : ∃ user, user.email = email ∧ ∀ row, row ∈ db'.users ↔ row ∈ db.users ∨ row = user
  refreshTokens : db'.refreshTokens = db.refreshTokens
  oneTimeTokens : db'.oneTimeTokens = db.oneTimeTokens

/-- Up to the values of random bytes, the response to `forgot_password` is the same from both states, where no
statement fails. -/
def Http.HidesEmail (http : Http) (svc : AuthService) (texts : Texts) (email : String) (w w' : World) : Prop :=
  ∀ tr res v tr' res' v', svc.smooth.Exec (http.forgotPassword svc email) w tr res v →
    svc.smooth.Exec (http.forgotPassword svc email) w' tr' res' v' →
    texts.observe res tr = texts.observe res' tr'

section Response

variable {http : Http} {svc : AuthService} {texts : Texts} {email : String} {w w' : World} {tr : Trace}
  {res : Except Failure HttpReply}

/-- The message of the reply. -/
def resetMessage : String := "If an account with that email exists, a password reset link has been sent."

/-- A response to `forgot_password` carries no token for an unknown email, and one for a known one, unless the call
panics. -/
theorem forgotPassword_response (hvalid : http.validEmail email = true)
    (h : svc.smooth.Exec (http.forgotPassword svc email) w tr res w') :
    (w.db.userByEmail? email = none ∧ res = .ok (.resetLink resetMessage none)) ∨
      w.db.userByEmail? email ≠ none ∧
        ((∃ fault, res = .error (.panic fault)) ∨ ∃ token, res = .ok (.resetLink resetMessage (some token))) := by
  simp only [Http.forgotPassword, Http.validate] at h
  rcases alone_check h with ⟨hrefused, -⟩ | ⟨-, hforgot⟩
  · simp [Http.checkEmail, hvalid] at hrefused
  rcases exec_bind.mp hforgot with ⟨e, herror, hres⟩ | ⟨token, w₁, tr₁, tr₂, hcall, hreply, -⟩
  · rcases forgotPassword_outcome herror with ⟨-, hok, -⟩ | ⟨user, hsome, ⟨⟨fault, hpanic⟩, -⟩ | ⟨_, _, hok, -⟩⟩
    · cases hok
    · obtain rfl := Except.error.inj hpanic
      exact Or.inr ⟨by simp [hsome], Or.inl ⟨fault, hres⟩⟩
    · cases hok
  · obtain ⟨hres, -, -⟩ := alone_ok hreply
    rcases forgotPassword_outcome hcall with
      ⟨hnone, htoken, -⟩ | ⟨user, hsome, ⟨⟨fault, hpanic⟩, -⟩ | ⟨token', issuedAt, htoken, -, hstores⟩⟩
    · obtain rfl := Except.ok.inj htoken
      exact Or.inl ⟨hnone, hres⟩
    · cases hpanic
    · obtain rfl := Except.ok.inj htoken
      refine Or.inr ⟨by simp [hsome], Or.inr ⟨token, ?_⟩⟩
      obtain ⟨bytes, fresh, t, now, rfl, -⟩ := hstores
      have hsent : (base64UrlEncode bytes.toList).isEmpty = false := by
        rw [← Bool.not_eq_true, String.isEmpty_iff]
        exact base64UrlEncode_ne_empty bytes
      rw [hres, hsent]
      rfl

/-- The responses with and without a token differ, whatever the token is. -/
theorem observe_ne {tr tr' : Trace} {token : String} :
    texts.observe (.ok (.resetLink resetMessage none)) tr ≠
      texts.observe (.ok (.resetLink resetMessage (some token))) tr' := by
  intro heq
  have hbody := congrArg (Option.map HttpResponse.body) heq
  simp [Texts.observe, Texts.respond, Texts.response, HttpResponse.observed, Json.ofOption, Json.erase,
    eraseFields] at hbody

/-- In the first state nobody has the email. -/
theorem RegisteredBesides.unknown_email (h : RegisteredBesides email w.db w'.db) :
    w.db.userByEmail? email = none := by
  cases hfound : w.db.userByEmail? email with
  | none => rfl
  | some row =>
    obtain ⟨hrow, hemail⟩ := Table.find?_some hfound
    exact absurd (of_decide_eq_true hemail) (h.unknown row hrow)

/-- In the second state somebody has the email. -/
theorem RegisteredBesides.known_email (h : RegisteredBesides email w.db w'.db) :
    ∃ user ∈ w'.db.users, user.email = email ∧ w'.db.userByEmail? email = some user := by
  obtain ⟨user, rfl, hrows⟩ := h.registered
  have huser := (hrows user).mpr (Or.inr rfl)
  exact ⟨user, huser, rfl, Db.userByEmail?_of_mem huser⟩

/-- Two responses from states that differ in the email differ. -/
theorem responses_differ {tr' : Trace} {res' : Except Failure HttpReply} {v v' : World}
    (hvalid : http.validEmail email = true) (hdiffer : RegisteredBesides email w.db w'.db)
    (hrun : svc.smooth.Exec (http.forgotPassword svc email) w tr res v)
    (hrun' : svc.smooth.Exec (http.forgotPassword svc email) w' tr' res' v') :
    texts.observe res tr ≠ texts.observe res' tr' := by
  obtain ⟨user, -, -, hknown⟩ := hdiffer.known_email
  rcases forgotPassword_response hvalid hrun with ⟨-, rfl⟩ | ⟨hsome, -⟩
  · rcases forgotPassword_response hvalid hrun' with ⟨hnone, -⟩ | ⟨-, ⟨fault, rfl⟩ | ⟨token, rfl⟩⟩
    · rw [hknown] at hnone
      cases hnone
    · simp [Texts.observe, Texts.respond]
    · exact observe_ne
  · exact absurd hdiffer.unknown_email hsome

/-- The server refuses to look for an email with the character U+0000. -/
theorem refusal?_selectUserByEmail : (Statement.selectUserByEmail email).refusal? = none ↔
    '\x00' ∉ email.toList := by
  simp [Statement.refusal?, Statement.bound, Parameter.refusal?_text]

/-- For an unknown email a run without a failing statement exists. -/
theorem canRun_forgotPassword_unknown (hplain : '\x00' ∉ email.toList) (hnone : w.db.userByEmail? email = none) :
    svc.CanRun (svc.forgotPassword email) w (.ok "") w := by
  simp only [AuthService.forgotPassword, selectUserByEmail]
  have hfind : (Statement.selectUserByEmail email).run 0 w.now w.db = .ok (none, w.db) :=
    congrArg (fun found => Except.ok (found, w.db)) hnone
  apply canRun_query 0 (refusal?_selectUserByEmail.mpr hplain) hfind
  exact canRun_done _ _

/-- For a known email one exists as well: where no token can be stored, one that waits until no expiry can be
computed. -/
theorem canRun_forgotPassword_known {user : User} (hplain : '\x00' ∉ user.email.toList)
    (huser : user ∈ w.db.users) :
    ∃ res w', svc.CanRun (svc.forgotPassword user.email) w res w' := by
  obtain ⟨t, ht, hearly⟩ := exists_not_expires w.clock svc.config.passwordResetExpiration
  obtain ⟨fault, hpanic⟩ := expiresAfter_of_not (t : ℤ) svc.config.passwordResetExpiration hearly
  have hfind : (Statement.selectUserByEmail user.email).run 0 t w.db = .ok (some user, w.db) :=
    congrArg (fun found => Except.ok (found, w.db)) (Db.userByEmail?_of_mem huser)
  refine ⟨.error (.panic fault), ⟨w.db, t⟩, canRun_later ht ?_⟩
  simp only [AuthService.forgotPassword, AuthService.issueOneTimeToken, selectUserByEmail]
  apply canRun_query (w := ⟨w.db, t⟩) 0 (refusal?_selectUserByEmail.mpr hplain) hfind
  apply canRun_bytes (Vector.replicate 32 0)
  apply canRun_now
  rw [World.now, hpanic]
  exact canRun_done _ _

/-- The handler runs where the operation does. -/
theorem canRun_forgotRoute {sent : Except Failure String} (hvalid : http.validEmail email = true)
    (h : svc.CanRun (svc.forgotPassword email) w sent w') :
    ∃ res, svc.CanRun (http.forgotPassword svc email) w res w' := by
  obtain ⟨tr, hexec⟩ := h
  cases sent with
  | error e =>
    refine ⟨.error e, ?_⟩
    simp only [Http.forgotPassword, Http.validate]
    apply canRun_check (by simp [Http.checkEmail, hvalid])
    exact ⟨tr, exec_bind.mpr (Or.inl ⟨e, hexec, rfl⟩)⟩
  | ok token =>
    refine ⟨.ok (.resetLink resetMessage (if token.isEmpty then none else some token)), ?_⟩
    simp only [Http.forgotPassword, Http.validate]
    apply canRun_check (by simp [Http.checkEmail, hvalid])
    apply canRun_bind ⟨tr, hexec⟩
    exact canRun_done _ _

/-- Where no statement fails, the server accepts the email. -/
theorem plain_of_forgotRoute (hvalid : http.validEmail email = true)
    (h : svc.smooth.Exec (http.forgotPassword svc email) w tr res w') : '\x00' ∉ email.toList := by
  simp only [Http.forgotPassword, Http.validate] at h
  rcases alone_check h with ⟨hrefused, -⟩ | ⟨-, hforgot⟩
  · simp [Http.checkEmail, hvalid] at hrefused
  rcases exec_bind.mp hforgot with ⟨e, hcall, -⟩ | ⟨token, w₁, tr₁, tr₂, hcall, -⟩
  · exact refusal?_selectUserByEmail.mp (smooth_accepted hcall)
  · exact refusal?_selectUserByEmail.mp (smooth_accepted hcall)

end Response

/-- From any two states that differ only in whether a user with the email is registered, every two responses differ.
So the email is hidden only where the server refuses it, and no run without a failing statement exists. -/
theorem forgot_password_reveals_email (http : Http) (svc : AuthService) (texts : Texts) (email : String)
    (hvalid : http.validEmail email = true) (w w' : World) (hdiffer : RegisteredBesides email w.db w'.db) :
    (∀ tr res v tr' res' v', svc.smooth.Exec (http.forgotPassword svc email) w tr res v →
      svc.smooth.Exec (http.forgotPassword svc email) w' tr' res' v' →
      texts.observe res tr ≠ texts.observe res' tr') ∧
    (http.HidesEmail svc texts email w w' ↔ '\x00' ∈ email.toList) := by
  constructor
  · intro tr res v tr' res' v' hrun hrun'
    exact responses_differ hvalid hdiffer hrun hrun'
  · constructor
    · intro hhides
      by_contra hplain
      obtain ⟨user, huser, rfl, -⟩ := hdiffer.known_email
      obtain ⟨sent, v', hcall⟩ := canRun_forgotPassword_known hplain huser
      obtain ⟨res', tr', hrun'⟩ := canRun_forgotRoute hvalid hcall
      obtain ⟨res, tr, hrun⟩ :=
        canRun_forgotRoute hvalid (canRun_forgotPassword_unknown hplain hdiffer.unknown_email)
      exact responses_differ hvalid hdiffer hrun hrun' (hhides _ _ _ _ _ _ hrun hrun')
    · intro hrefused tr res v tr' res' v' hrun _
      exact absurd hrefused (plain_of_forgotRoute hvalid hrun)

section Runs

open Reference

/-- The database with one user. -/
def memberDb : Db := (Db.empty.insertUser? registeredUser).getD Db.empty

/-- The two databases differ in the one user. -/
theorem registeredBesides_memberDb : RegisteredBesides "a@b.c" Db.empty memberDb := by
  have hinsert : Db.empty.insertUser? registeredUser = some memberDb := rfl
  obtain ⟨husers, hrefresh, honeTime⟩ := Db.insertUser?_spec hinsert
  exact ⟨fun row hrow => absurd hrow (Table.not_mem_empty row), ⟨registeredUser, rfl, fun row =>
    Table.mem_insert? husers⟩, hrefresh, honeTime⟩

/-- How the nil id and the epoch are written. -/
def epochTexts : Texts := ⟨fun _ => "00000000-0000-0000-0000-000000000000", fun _ => "1970-01-01T00:00:00Z"⟩

/-- The responses to a registered and to an unknown email differ. -/
theorem forgot_password_reveals_email_member :
    ¬ verifyingHttp.HidesEmail service epochTexts "a@b.c" world ⟨memberDb, 0⟩ := by
  intro hhides
  have hrefused :=
    (forgot_password_reveals_email verifyingHttp service epochTexts "a@b.c" (by decide) world ⟨memberDb, 0⟩
    registeredBesides_memberDb).2.mp hhides
  exact absurd hrefused (by decide)

/-- The call ended with the reply. -/
def repliesWith (reply : HttpReply) (res : Except Failure HttpReply) (_ : World) : Bool := res.toOption = some reply

/-- A call with a reply has succeeded with it. -/
theorem ok_of_repliesWith {reply : HttpReply} {res : Except Failure HttpReply} {w : World}
    (h : repliesWith reply res w = true) : res = .ok reply := by
  cases res with
  | error e => cases of_decide_eq_true h
  | ok other => rw [Option.some.inj (of_decide_eq_true h)]

/-- The reply for an unknown email carries no token, and the one for a known email does. -/
theorem reset_reply_tells : RegisteredBesides "a@b.c" Db.empty memberDb ∧ ∃ tr v tr' v' token,
    service.smooth.Exec (verifyingHttp.forgotPassword service "a@b.c") ⟨Db.empty, 0⟩ tr
      (.ok (.resetLink resetMessage none)) v ∧
    service.smooth.Exec (verifyingHttp.forgotPassword service "a@b.c") ⟨memberDb, 0⟩ tr'
      (.ok (.resetLink resetMessage (some token))) v' ∧
    ∀ texts : Texts, texts.observe (.ok (.resetLink resetMessage none)) tr ≠
      texts.observe (.ok (.resetLink resetMessage (some token))) tr' := by
  have hunknown : ((service.executor.solo (AuthService.admits false) [choice 1]
      (verifyingHttp.forgotPassword service "a@b.c") ⟨Db.empty, 0⟩).any fun out =>
      repliesWith (.resetLink resetMessage none) out.2.1 out.2.2) = true := by decide +kernel
  have hknown : ((service.executor.solo (AuthService.admits false) (List.replicate 5 (choice 1))
      (verifyingHttp.forgotPassword service "a@b.c") ⟨memberDb, 0⟩).any fun out =>
      repliesWith (.resetLink resetMessage (some mailedToken)) out.2.1 out.2.2) = true := by decide +kernel
  obtain ⟨tr, res, v, hrun, hres⟩ := Executor.exists_exec service.alone_perform (repliesWith _) hunknown
  obtain ⟨tr', res', v', hrun', hres'⟩ := Executor.exists_exec service.alone_perform (repliesWith _) hknown
  rw [ok_of_repliesWith hres] at hrun
  rw [ok_of_repliesWith hres'] at hrun'
  exact ⟨registeredBesides_memberDb, tr, v, tr', v', mailedToken, hrun, hrun', fun texts => observe_ne⟩

end Runs

end RustPressAuth
