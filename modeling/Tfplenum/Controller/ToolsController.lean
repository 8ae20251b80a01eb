/-
  Tfplenum.Controller.ToolsController

  `ChangeKitPassword` of `controller/tools_controller.py`: the request that gives
  the root and the assessor account of every node a new password and then stores
  it with the kit settings.  It runs on the backend and, over SSH, on the nodes,
  so its programs have operations of both kinds.
-/

import Tfplenum.Controller.SettingsController
import Tfplenum.Models.NodeOperations

namespace Tfplenum

open Lib

/-! ## Storing the password -/

/-- `update_password` -/
def updatePassword (config : KitSettingsForm) (password : String) : Prog Unit := do
  let (_, outcome) ← KitSettingsForm.saveToDb { config with password := password }
  Program.ofExcept outcome

namespace KitSettingsForm

variable {env : Environment} {w : World}

/-- What is loaded has the `_id` it is stored under, and loading changes nothing. -/
theorem loadFromDb_spec (env : Environment) (w : World) :
    (loadFromDb.run (handle env) w).2 = w ∧
      ∀ form, (loadFromDb.run (handle env) w).1 = .ok (some form) → form.id = kitSettingsId := by
  rw [loadFromDb, Program.bind_eq, Prog.findById, Program.perform_bind, Program.run_call]
  simp only [handle_db, DocOp.apply_findById]
  cases (w.db .kitSettings).get? kitSettingsId with
  | none =>
      refine ⟨rfl, ?_⟩
      intro form h
      cases h
  | some doc =>
      dsimp only
      cases hload : KitSettingsSchema.load (.obj (doc.fields kitSettingsId)) with
      | error e =>
          refine ⟨rfl, ?_⟩
          intro form h
          cases h
      | ok loaded =>
          have hid := KitSettingsSchema.id_of_load hload
          cases hdecode : base64ToString loaded.password with
          | error e =>
              simp only [Program.ofExcept, Program.bind_eq, Program.done_bind, hdecode]
              refine ⟨rfl, ?_⟩
              intro form h
              cases h
          | ok password =>
              simp only [Program.ofExcept, Program.bind_eq, Program.done_bind, hdecode]
              refine ⟨rfl, ?_⟩
              intro form h
              cases h
              exact hid

/-- The new password is stored, whether or not what follows the write goes through. -/
theorem stored_updatePassword {config : KitSettingsForm} (hid : config.id = kitSettingsId)
    (password : String) (env : Environment) (w : World) :
    stored ((updatePassword config password).run (handle env) w).2 =
      some { config with password := password : KitSettingsForm }.encoded.dump := by
  have hnew : { config with password := password : KitSettingsForm }.id = kitSettingsId := hid
  obtain ⟨outcome, hrun, hstored, -⟩ := outcome_saveToDb env w hnew
  rw [updatePassword, Program.bind_eq, Program.run_bind_ok (handle env) (Prod.ext hrun rfl),
    Program.run_ofExcept]
  exact hstored

end KitSettingsForm

/-! ## The two password policies -/

/-- The password is accepted by the settings schema, in plain form and in the form it is
    stored in, and whoever loads the kit settings after a change request stored it gets
    them with that password. -/
structure PoliciesAgree (password : String) : Prop where
  plain : validatePasswordStigs password = .ok []
  stored : validatePasswordStigs (stringToBase64 password) = .ok []
  loads : ∀ env₀ w₀ config env w env' w',
    (KitSettingsForm.loadFromDb.run (handle env₀) w₀).1 = .ok (some config) →
    KitSettingsForm.stored w' =
      KitSettingsForm.stored ((updatePassword config password).run (handle env) w).2 →
    (KitSettingsForm.loadFromDb.run (handle env') w').1 =
      .ok (some { config with password := password })

/-- What a changed password has to have besides: a digit of ASCII, no run of three newlines
    within it, and no base64 reading of it other than one that keeps the rules. -/
structure PoliciesMeet (password : String) : Prop where
  digit : ∃ c ∈ password.toList, isAsciiDigit c = true
  newlines : ∀ b, b ≠ '\n' → ¬ ['\n', '\n', '\n', b] <:+: password.toList
  sniffed : base64ToString password = .error binasciiError ∨
    ∃ text, base64ToString password = .ok text ∧ KeepsStigs text.toList

theorem validatePasswordStigs_eq_ok_nil_iff {value : String} :
    validatePasswordStigs value = .ok [] ↔
      (base64ToString value = .error binasciiError ∧ KeepsStigs value.toList) ∨
        ∃ text, base64ToString value = .ok text ∧ KeepsStigs text.toList := by
  unfold validatePasswordStigs isBase64
  cases hdecode : base64ToString value with
  | error e =>
      by_cases he : e = binasciiError
      · subst he
        simp [Except.map, stigErrors_eq_nil_iff]
      · simp [Except.map, he]
  | ok text => simp [Except.map, stigErrors_eq_nil_iff]

/-- Of the passwords that a change request accepts, the settings schema agrees about
    exactly these. -/
theorem policiesAgree_iff (classes : CharClasses) (password : String)
    (haccepted : PasswordValidator.validate classes password = []) :
    PoliciesAgree password ↔ PoliciesMeet password := by
  have hvalidator : KeepsValidator classes password.toList :=
    PasswordValidator.validate_eq_nil_iff.mp haccepted
  have hstigs := keepsStigs_iff_of_keepsValidator hvalidator
  constructor
  · intro hagree
    have hstored := hagree.stored
    rw [validatePasswordStigs_stringToBase64, Except.ok.injEq, stigErrors_eq_nil_iff, hstigs]
      at hstored
    refine ⟨hstored.1, hstored.2, ?_⟩
    rcases validatePasswordStigs_eq_ok_nil_iff.mp hagree.plain with ⟨hrefused, -⟩ | hsniffed
    · exact .inl hrefused
    · exact .inr hsniffed
  · intro hmeet
    have hkeeps : KeepsStigs password.toList := hstigs.mpr ⟨hmeet.digit, hmeet.newlines⟩
    have herrors : stigErrors password.toList = [] := stigErrors_eq_nil_iff.mpr hkeeps
    refine ⟨?_, ?_, ?_⟩
    · rw [validatePasswordStigs_eq_ok_nil_iff]
      rcases hmeet.sniffed with hrefused | hsniffed
      · exact .inl ⟨hrefused, hkeeps⟩
      · exact .inr hsniffed
    · rw [validatePasswordStigs_stringToBase64, herrors]
    · intro env₀ w₀ config env w env' w' hconfig hw'
      have hid : config.id = kitSettingsId :=
        (KitSettingsForm.loadFromDb_spec env₀ w₀).2 config hconfig
      rw [KitSettingsForm.stored_updatePassword hid] at hw'
      rw [KitSettingsForm.run_loadFromDb env' _ hw', if_pos herrors, ← hid]

/-- The classes of characters of an interpreter that knows ASCII only. -/
def CharClasses.ascii : CharClasses where
  isDecimal := isAsciiDigit
  isAlnum := isAsciiAlnum
  isDecimal_ascii := fun _ _ => rfl
  isAlnum_ascii := fun _ _ => rfl

theorem validate_goodPassword : PasswordValidator.validate .ascii goodPassword = [] := by
  decide +kernel

theorem policiesAgree_goodPassword : PoliciesAgree goodPassword := by
  have hmeet : PoliciesMeet goodPassword := by
    have hrefused : base64ToString goodPassword = .error binasciiError := by decide +kernel
    exact ⟨keepsStigs_goodPassword.digit, keepsStigs_goodPassword.runs '\n', .inl hrefused⟩
  exact (policiesAgree_iff .ascii goodPassword validate_goodPassword).mpr hmeet

/-- The settings schema accepts what a change request accepts. -/
def PoliciesAlwaysAgree : Prop :=
  ∀ (classes : CharClasses) (password : String),
    PasswordValidator.validate classes password = [] → PoliciesAgree password

theorem not_policiesAlwaysAgree : ¬ PoliciesAlwaysAgree := by
  intro hclaim
  have haccepted : PasswordValidator.validate .ascii "Abcdefgh12345678!" = [] := by decide +kernel
  have hplain := (hclaim .ascii "Abcdefgh12345678!" haccepted).plain
  have hsniffed : base64ToString "Abcdefgh12345678!" = .error .unicodeError := by decide +kernel
  rw [validatePasswordStigs, isBase64, hsniffed] at hplain
  cases hplain

end Tfplenum
