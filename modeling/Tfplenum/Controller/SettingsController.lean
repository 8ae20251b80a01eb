/-
  Tfplenum.Controller.SettingsController

  Saving the settings, as the requests of `controller/settings_controller.py` do
  with the form their payload loads to: which forms make the round trip through
  the database, and which saves of the kit settings either complete or leave the
  stored document alone.
-/

import Tfplenum.Controller.NodeCreation
import Tfplenum.Models.SettingsSaves

namespace Tfplenum

open Lib

/-! ## Round trips -/

/-- Which of the forms that a payload loads to make the round trip. -/
theorem settings_roundTrips_iff (env : Environment) (w : World) :
    (∀ form, (∃ payload, KitSettingsSchema.load payload = .ok form) →
      (KitSettingsForm.kind.RoundTrips env w form ↔
        form.id = kitSettingsId ∧ KeepsStigs form.password.toList)) ∧
    (∀ form, (∃ payload, EsxiSettingsSchema.load payload = .ok form) →
      (EsxiSettingsForm.kind.RoundTrips env w form ↔ form.id = esxiSettingsId)) ∧
    ∀ form, (∃ payload, MipSettingsSchema.load payload = .ok form) →
      ¬ MipSettingsForm.kind.RoundTrips env w form := by
  refine ⟨?_, ?_, ?_⟩
  · intro form hvalid
    exact KitSettingsForm.roundTrips_iff env form hvalid
  · intro form _
    exact EsxiSettingsForm.roundTrips_iff env form
  · intro form hvalid
    exact MipSettingsForm.not_roundTrips env w form hvalid

def goodPassword := "Foobar--12345678!?."

def kitPayload (cidr : String) : Json :=
  .obj [("kubernetes_services_cidr", .str cidr), ("password", .str goodPassword)]

def kitForm (lastOctet : Fin 256) : KitSettingsForm :=
  ⟨kitSettingsId, ⟨10, 40, 12, lastOctet⟩, goodPassword, some ⟨0, 0, 0, 0⟩, some ⟨0, 0, 0, 0⟩,
    false, "",
    some false⟩

def esxiPayload : Json :=
  .obj [("ip_address", .str "10.40.12.145"), ("username", .str "root"), ("password", .str "esxi")]

def esxiForm : EsxiSettingsForm :=
  ⟨esxiSettingsId, ⟨10, 40, 12, 145⟩, "root", "esxi", some "datastore1", none, none,
    some "Internal",
    none, some false⟩

def mipPayload : Json :=
  .obj [("password", .str goodPassword), ("user_password", .str goodPassword),
    ("luks_password", .str goodPassword)]

def mipForm : MipSettingsForm := ⟨mipSettingsId, goodPassword, goodPassword, goodPassword⟩

theorem load_kitPayload : KitSettingsSchema.load (kitPayload "10.40.12.64") = .ok (kitForm 64) := by
  decide +kernel

theorem load_esxiPayload : EsxiSettingsSchema.load esxiPayload = .ok esxiForm := by
  decide +kernel

theorem load_mipPayload : MipSettingsSchema.load mipPayload = .ok mipForm := by
  decide +kernel

theorem keepsStigs_goodPassword : KeepsStigs goodPassword.toList := by
  rw [← stigErrors_eq_nil_iff]
  decide +kernel

theorem settings_roundTrips_kitForm :
    KitSettingsForm.kind.RoundTrips steadyEnv lanWorld (kitForm 64) ∧
      EsxiSettingsForm.kind.RoundTrips steadyEnv lanWorld esxiForm ∧
      ¬ MipSettingsForm.kind.RoundTrips steadyEnv lanWorld mipForm := by
  obtain ⟨hkit, hesxi, hmip⟩ := settings_roundTrips_iff steadyEnv lanWorld
  refine ⟨?_, ?_, ?_⟩
  · exact (hkit (kitForm 64) ⟨_, load_kitPayload⟩).mpr ⟨rfl, keepsStigs_goodPassword⟩
  · exact (hesxi esxiForm ⟨_, load_esxiPayload⟩).mpr rfl
  · exact hmip mipForm ⟨_, load_mipPayload⟩

/-- The round trip of all three forms, whatever the passwords. -/
def SettingsRoundTrip : Prop :=
  ∀ (env : Environment) (w : World),
    (∀ form, (∃ payload, KitSettingsSchema.load payload = .ok form) →
      KitSettingsForm.kind.RoundTrips env w form) ∧
    (∀ form, (∃ payload, EsxiSettingsSchema.load payload = .ok form) →
      EsxiSettingsForm.kind.RoundTrips env w form) ∧
    ∀ form, (∃ payload, MipSettingsSchema.load payload = .ok form) →
      MipSettingsForm.kind.RoundTrips env w form

theorem not_settingsRoundTrip : ¬ SettingsRoundTrip := by
  intro hclaim
  have hmip := (hclaim steadyEnv lanWorld).2.2 mipForm ⟨_, load_mipPayload⟩
  exact MipSettingsForm.not_roundTrips steadyEnv lanWorld mipForm ⟨_, load_mipPayload⟩ hmip

/-! ## Atomic saves -/

namespace KitSettingsForm

/-- The save stores the document, derives the block of its addresses and writes the
    inventory from it. -/
structure Completes (env : Environment) (w : World) (form : KitSettingsForm) : Prop where
  returns : ∃ left, ((saveToDb form).run (handle env) w).1 = .ok (left, .ok ())
  stores : stored ((saveToDb form).run (handle env) w).2 = some form.encoded.dump
  writes : ∃ ctx, form.templateCtx = .ok ctx ∧
    env (.renderInventory "kit_settings.yml" ctx) w.calls = .ok ()

/-- The save raises and leaves the stored document as it was. -/
structure Fails (env : Environment) (w : World) (form : KitSettingsForm) : Prop where
  raises : ∃ left e, ((saveToDb form).run (handle env) w).1 = .ok (left, .error e)
  stores : stored ((saveToDb form).run (handle env) w).2 = stored w

/-- Everything after the write goes through: the stored password is loaded again, the
    address starts a block of 32, and the inventory file can be written. -/
structure Generates (env : Environment) (w : World) (form : KitSettingsForm) : Prop where
  password : KeepsStigs form.password.toList
  aligned : form.kubernetesServicesCidr.d.val % 32 = 0
  file : ∀ ctx, form.templateCtx = .ok ctx →
    env (.renderInventory "kit_settings.yml" ctx) w.calls = .ok ()

variable {env : Environment} {w : World} {form : KitSettingsForm}

theorem generates_iff : Generates env w form ↔
    KeepsStigs form.password.toList ∧ ∃ ctx, form.templateCtx = .ok ctx ∧
      env (.renderInventory "kit_settings.yml" ctx) w.calls = .ok () := by
  constructor
  · rintro ⟨hpassword, haligned, hfile⟩
    obtain ⟨ctx, hctx⟩ := (templateCtx_eq_ok_iff form).mpr haligned
    exact ⟨hpassword, ctx, hctx, hfile ctx hctx⟩
  · rintro ⟨hpassword, ctx, hctx, hfile⟩
    refine ⟨hpassword, (templateCtx_eq_ok_iff form).mp ⟨ctx, hctx⟩, ?_⟩
    intro ctx' hctx'
    rw [hctx] at hctx'
    cases hctx'
    exact hfile

/-- How a save ends that is not refused. -/
theorem outcome_saveToDb (env : Environment) (w : World) (hid : form.id = kitSettingsId) :
    ∃ outcome, ((saveToDb form).run (handle env) w).1 = .ok (form, outcome) ∧
      stored ((saveToDb form).run (handle env) w).2 = some form.encoded.dump ∧
      (outcome = .ok () ↔ Generates env w form) := by
  have hgenerate := run_generateInventory env form hid (stored_written env form (w := w))
  have hcalls : (form.written env w).calls = w.calls := rfl
  rw [hcalls] at hgenerate
  refine ⟨(generateInventory.run (handle env) (form.written env w)).1, ?_, ?_, ?_⟩
  · rw [run_saveToDb env form hid]
  · exact afterSave_eq env form hid
  · exact hgenerate.trans generates_iff.symm

end KitSettingsForm

open KitSettingsForm in
/-- A save of the kit settings is atomic exactly if it is refused before the write, or the
    document to be written is there already, or everything after the write goes through. -/
theorem saveToDb_atomic_iff (env : Environment) (w : World) (form : KitSettingsForm) :
    form.Completes env w ∨ form.Fails env w ↔
      form.id ≠ kitSettingsId ∨ stored w = some form.encoded.dump ∨ Generates env w form := by
  by_cases hid : form.id = kitSettingsId
  · obtain ⟨outcome, hrun, hstored, houtcome⟩ := outcome_saveToDb env w hid
    constructor
    · rintro (hcompletes | hfails)
      · obtain ⟨left, hreturns⟩ := hcompletes.returns
        rw [hrun] at hreturns
        cases hreturns
        exact .inr (.inr (houtcome.mp rfl))
      · exact .inr (.inl (hfails.stores.symm.trans hstored))
    · rintro (hne | hsame | hgenerates)
      · exact absurd hid hne
      · cases hok : outcome with
        | ok u =>
            have hgenerates : Generates env w form := houtcome.mp hok
            rw [hok] at hrun
            exact .inl ⟨⟨form, hrun⟩, hstored, (generates_iff.mp hgenerates).2⟩
        | error e =>
            rw [hok] at hrun
            exact .inr ⟨⟨form, e, hrun⟩, hstored.trans hsame.symm⟩
      · rw [houtcome.mpr hgenerates] at hrun
        exact .inl ⟨⟨form, hrun⟩, hstored, (generates_iff.mp hgenerates).2⟩
  · have hrefused := run_saveToDb_of_ne env (w := w) form hid
    have hfails : form.Fails env w := by
      refine ⟨⟨form.encoded, .other "WriteError", ?_⟩, ?_⟩
      · rw [hrefused]
      · rw [hrefused]
    exact iff_of_true (.inr hfails) (.inl hid)

/-- Every save of an accepted form is atomic. -/
def SavesAreAtomic : Prop :=
  ∀ (env : Environment) (w : World) (form : KitSettingsForm),
    (∃ payload, KitSettingsSchema.load payload = .ok form) →
      form.Completes env w ∨ form.Fails env w

theorem load_kitPayload_unaligned :
    KitSettingsSchema.load (kitPayload "10.40.12.65") = .ok (kitForm 65) := by
  decide +kernel

open KitSettingsForm in
theorem not_savesAreAtomic : ¬ SavesAreAtomic := by
  intro hclaim
  have hatomic := hclaim steadyEnv lanWorld (kitForm 65) ⟨_, load_kitPayload_unaligned⟩
  obtain ⟨outcome, hrun, hstored, houtcome⟩ :=
    outcome_saveToDb steadyEnv lanWorld (rfl : (kitForm 65).id = kitSettingsId)
  have hbits : ¬ (kitForm 65).kubernetesServicesCidr.d.val % 32 = 0 := by decide
  rcases hatomic with hcompletes | hfails
  · obtain ⟨left, hreturns⟩ := hcompletes.returns
    rw [hrun] at hreturns
    cases hreturns
    exact hbits (houtcome.mp rfl).aligned
  · -- nothing was stored before
    have hnone : stored lanWorld = none := rfl
    rw [hfails.stores, hnone] at hstored
    cases hstored

end Tfplenum
