import RustPressAuth.Handlers
import RustPressAuth.Reference

/-!
# The password policy

A password is long enough and has an uppercase letter, a lowercase letter and a digit. The
validation of requests counts the characters of a password; the service counts its bytes,
of which there may be more. So the service accepts some passwords that have too few
characters, and what it accepts is the policy exactly for the other passwords.
-/

namespace RustPressAuth

open Atomic

/-- A text has at least as many bytes as characters. -/
theorem length_le_utf8ByteSize (text : String) : text.length ≤ text.utf8ByteSize := by
  have hchars : ∀ chars : List Char, chars.length ≤ (String.ofList chars).utf8ByteSize := by
    intro chars
    induction chars with
    | nil => exact Nat.zero_le _
    | cons c rest ih =>
      have hpos := c.utf8Size_pos
      have hsplit : String.ofList (c :: rest) = String.singleton c ++ String.ofList rest := by
        rw [String.singleton_eq_ofList, ← String.ofList_append, List.singleton_append]
      rw [hsplit, String.utf8ByteSize_append, String.utf8ByteSize_singleton, List.length_cons]
      omega
  have htext := hchars text.toList
  rwa [String.ofList_toList, String.length_toList] at htext

namespace AuthService

variable {svc : AuthService} {password : String}

/-- An uppercase letter, a lowercase letter and a digit occur. -/
def HasClasses (svc : AuthService) (password : String) : Prop :=
  (∃ c ∈ password.toList, svc.prims.isUppercase c = true) ∧
    (∃ c ∈ password.toList, svc.prims.isLowercase c = true) ∧ ∃ c ∈ password.toList, c.isDigit = true

/-- The policy: enough characters, and all three classes. -/
def MeetsPolicy (svc : AuthService) (password : String) : Prop :=
  svc.config.minPasswordLength ≤ password.length ∧ svc.HasClasses password

/-- The check passes exactly the passwords that meet the policy, and the others fail as weak. -/
def PolicyExact (svc : AuthService) (password : String) : Prop :=
  (svc.validatePassword password = pure () ↔ svc.MeetsPolicy password) ∧
    (¬svc.MeetsPolicy password → svc.validatePassword password = Program.fail (.err .weakPassword))

/-- A password is accepted exactly if it has the configured number of bytes and the required classes of
characters. -/
theorem passwordAccepted_iff : svc.passwordAccepted password = true ↔
    svc.config.minPasswordLength ≤ password.utf8ByteSize ∧ svc.HasClasses password := by
  simp only [passwordAccepted, HasClasses, Bool.and_eq_true, Bool.not_eq_true', decide_eq_false_iff_not, Nat.not_lt,
    List.any_eq_true, and_assoc]

/-- Accepted passwords pass the check. -/
theorem validatePassword_of_accepted (h : svc.passwordAccepted password = true) :
    svc.validatePassword password = pure () := by
  rw [validatePassword, h]
  rfl

/-- Other passwords are weak. -/
theorem validatePassword_of_refused (h : svc.passwordAccepted password = false) :
    svc.validatePassword password = Program.fail (.err .weakPassword) := by
  rw [validatePassword, h]
  rfl

/-- The check passes exactly the accepted passwords. -/
theorem validatePassword_eq_pure : svc.validatePassword password = pure () ↔
    svc.passwordAccepted password = true := by
  refine ⟨fun h => ?_, validatePassword_of_accepted⟩
  cases haccepted : svc.passwordAccepted password with
  | true => rfl
  | false =>
    rw [validatePassword_of_refused haccepted] at h
    cases h

/-- The policy is exact where acceptance and the policy agree. -/
theorem policyExact_iff_agree :
    svc.PolicyExact password ↔ (svc.passwordAccepted password = true ↔ svc.MeetsPolicy password) := by
  rw [PolicyExact, validatePassword_eq_pure]
  refine ⟨fun h => h.1, fun hagree => ⟨hagree, fun hweak => ?_⟩⟩
  apply validatePassword_of_refused
  rw [← Bool.not_eq_true]
  exact fun haccepted => hweak (hagree.mp haccepted)

/-- A password that meets the policy is never refused. -/
theorem MeetsPolicy.accepted (h : svc.MeetsPolicy password) : svc.passwordAccepted password = true :=
  passwordAccepted_iff.mpr ⟨Nat.le_trans h.1 (length_le_utf8ByteSize password), h.2⟩

/-- A password with enough characters is accepted exactly if it meets the policy. -/
theorem policyExact_of_long (hlong : svc.config.minPasswordLength ≤ password.length) :
    svc.PolicyExact password := by
  rw [policyExact_iff_agree]
  refine ⟨fun haccepted => ?_, MeetsPolicy.accepted⟩
  exact ⟨hlong, (passwordAccepted_iff.mp haccepted).2⟩

/-- Under the smallest minimum the policy is exact for every registration that passes its validation. -/
theorem policyExact_of_registerErrors (http : Http) (req : RegisterRequest)
    (hmin : svc.config.minPasswordLength = 8) (hvalid : http.registerErrors req = []) :
    svc.PolicyExact req.password := by
  apply policyExact_of_long
  rw [hmin]
  simp only [Http.registerErrors, List.append_eq_nil_iff] at hvalid
  have hlength := hvalid.1.1.2
  simp only [checkLength, Option.all_none, Bool.and_true, decide_eq_true_eq, ite_eq_left_iff, List.cons_ne_self,
    imp_false, Decidable.not_not] at hlength
  exact hlength

/-- The policy is exact except for the passwords that have the three classes, too few characters, and enough
bytes. -/
theorem policyExact_iff (svc : AuthService) (password : String) :
    svc.PolicyExact password ↔
      ¬(svc.HasClasses password ∧ password.length < svc.config.minPasswordLength ∧
        svc.config.minPasswordLength ≤ password.utf8ByteSize) := by
  rw [policyExact_iff_agree]
  constructor
  · intro hagree hshort
    obtain ⟨hclasses, hfew, hbytes⟩ := hshort
    have hpolicy := hagree.mp (passwordAccepted_iff.mpr ⟨hbytes, hclasses⟩)
    exact absurd hpolicy.1 (Nat.not_le.mpr hfew)
  · intro hexact
    refine ⟨fun haccepted => ?_, MeetsPolicy.accepted⟩
    obtain ⟨hbytes, hclasses⟩ := passwordAccepted_iff.mp haccepted
    refine ⟨Nat.not_lt.mp fun hfew => ?_, hclasses⟩
    exact hexact ⟨hclasses, hfew, hbytes⟩

/-- The reference service with a minimum of twelve. -/
def twelveService : AuthService where
  config := { Reference.config with minPasswordLength := 12 }
  prims := Reference.primitives

/-- Three letters and digits and five signs of three bytes each pass a minimum of twelve, with eight characters. -/
theorem shortPassword_accepted :
    twelveService.config.validate = .ok () ∧ twelveService.validatePassword "Aa1€€€€€" = pure () ∧
      "Aa1€€€€€".length < twelveService.config.minPasswordLength ∧ ¬twelveService.PolicyExact "Aa1€€€€€" := by
  have haccepted : twelveService.passwordAccepted "Aa1€€€€€" = true := by decide +kernel
  have hfew : "Aa1€€€€€".length < twelveService.config.minPasswordLength := by decide +kernel
  refine ⟨by decide +kernel, validatePassword_of_accepted haccepted, hfew, ?_⟩
  rw [policyExact_iff_agree]
  exact fun hagree => absurd (hagree.mp haccepted).1 (Nat.not_le.mpr hfew)

end AuthService

end RustPressAuth
