/-
  Tfplenum.Models.SettingsSaves

  What a save of a settings form leaves: in the form, in the stored document and
  for the loads and saves that follow.  The Kit and the ESXi form decode their
  password after the save, the MIP form does not.  A kit settings document is
  written before the block of its addresses is derived, and stays written when
  that fails.
-/

import Tfplenum.Models.SettingsForms

namespace Tfplenum

open Lib

/-! ## Round trips -/

/-- How one kind of settings is saved and loaded, and where its document is. -/
structure SettingsKind (Form Document : Type) where
  saveToDb : Form → Prog (Form × Except PyError Unit)
  loadFromDb : Prog (Option Form)
  stored : World → Option Document

namespace SettingsKind

variable {Form Document : Type} (kind : SettingsKind Form Document)

/-- Save a form so many times, each time as the save before left it. -/
def saves : Nat → Form → Prog Form
  | 0, form => .done form
  | n + 1, form => (kind.saveToDb form).bind fun saved => saves n saved.1

/-- The stored document once the form is saved. -/
def afterSave (env : Environment) (w : World) (form : Form) : Option Document :=
  kind.stored ((kind.saveToDb form).run (handle env) w).2

/-- The save leaves the form as it was; whoever loads what it stored gets the form; and
    saving the form, or a loaded one, again and again changes nothing more. -/
structure RoundTrips (env : Environment) (w : World) (form : Form) : Prop where
  unchanged : ∃ outcome, ((kind.saveToDb form).run (handle env) w).1 = .ok (form, outcome)
  loads : ∀ env' w', kind.stored w' = kind.afterSave env w form →
    (kind.loadFromDb.run (handle env') w').1 = .ok (some form)
  settles : ∀ env' w' n next, kind.stored w' = kind.afterSave env w form →
    (∃ outcome, ((kind.saveToDb form).run (handle env) w).1 = .ok (next, outcome)) ∨
        (kind.loadFromDb.run (handle env') w').1 = .ok (some next) →
      kind.stored ((kind.saves n next).run (handle env') w').2 = kind.afterSave env w form

variable {kind} {form : Form} {doc : Document}

/-- A form that every save leaves unchanged and stores as `doc` stays stored as `doc`. -/
theorem stored_saves
    (hsave : ∀ env w, ∃ outcome, ((kind.saveToDb form).run (handle env) w).1 = .ok (form, outcome) ∧
      kind.afterSave env w form = some doc) (env : Environment) (n : Nat) :
    ∀ w, kind.stored w = some doc →
      kind.stored ((kind.saves n form).run (handle env) w).2 = some doc := by
  induction n with
  | zero =>
      intro w hw
      exact hw
  | succ n ih =>
      intro w _
      obtain ⟨outcome, hrun, hstored⟩ := hsave env w
      rw [saves, Program.run_bind_ok (handle env) (Prod.ext hrun rfl)]
      exact ih _ hstored

theorem roundTrips_of_save
    (hsave : ∀ env w, ∃ outcome, ((kind.saveToDb form).run (handle env) w).1 = .ok (form, outcome) ∧
      kind.afterSave env w form = some doc)
    (hload : ∀ env w, kind.stored w = some doc →
      (kind.loadFromDb.run (handle env) w).1 = .ok (some form))
    (env : Environment) (w : World) : kind.RoundTrips env w form := by
  obtain ⟨outcome, hrun, hafter⟩ := hsave env w
  refine ⟨⟨outcome, hrun⟩, ?_, ?_⟩
  · intro env' w' hw'
    exact hload env' w' (hw'.trans hafter)
  · intro env' w' n next hw' hnext
    have hnext : next = form := by
      rcases hnext with ⟨outcome', hsaved⟩ | hloaded
      · rw [hrun] at hsaved
        cases hsaved
        rfl
      · rw [hload env' w' (hw'.trans hafter)] at hloaded
        cases hloaded
        rfl
    subst hnext
    rw [hafter]
    exact stored_saves hsave env' n w' (hw'.trans hafter)

end SettingsKind

/-! ## Kit settings -/

namespace KitSettingsForm

def stored (w : World) : Option KitSettingsDoc := (w.db .kitSettings).get? kitSettingsId

def kind : SettingsKind KitSettingsForm KitSettingsDoc := ⟨saveToDb, loadFromDb, stored⟩

theorem readsOnly_loadFromDb : loadFromDb.Uses Op.readsOnly := by
  refine (Prog.readsOnly_findById _).bind fun found => ?_
  split
  · exact .done _
  · refine (Program.uses_ofExcept _).bind fun form => ?_
    exact (Program.uses_ofExcept _).bind fun password => .done _

theorem readsOnly_generateInventory : generateInventory.Uses Op.readsOnly := by
  refine readsOnly_loadFromDb.bind fun found => ?_
  split
  · exact .raise _
  · refine (Program.uses_ofExcept _).bind fun ctx => ?_
    exact Prog.uses_orRaise (Prog.readsOnly_ask _)

variable (env : Environment) {w : World} (form : KitSettingsForm)

/-- Who loads a saved form. -/
theorem run_loadFromDb (h : stored w = some form.encoded.dump) :
    loadFromDb.run (handle env) w =
      (if stigErrors form.password.toList = [] then .ok (some { form with id := kitSettingsId })
        else .error (.validationError [("password", stigErrors form.password.toList)]), w) := by
  have hfind : (Prog.findById .kitSettings kitSettingsId).run (handle env) w =
      (.ok (some form.encoded.dump), w) := by
    rw [← h]
    rfl
  rw [loadFromDb, Program.bind_eq, Program.run_bind_ok (handle env) hfind]
  dsimp only
  rw [load_encoded]
  by_cases hstigs : stigErrors form.password.toList = []
  · rw [if_pos hstigs, if_pos hstigs, Program.bind_eq,
      Program.run_bind_ok (handle env) (Program.run_ofExcept (handle env) _ w)]
    have hdecode : base64ToString form.encoded.password = .ok form.password :=
      base64ToString_stringToBase64 form.password
    rw [Program.bind_eq, hdecode,
      Program.run_bind_ok (handle env) (Program.run_ofExcept (handle env) _ w)]
    rfl
  · rw [if_neg hstigs, if_neg hstigs, Program.bind_eq,
      Program.run_bind_error (handle env) (Program.run_ofExcept (handle env) _ w)]

/-- A save under another `_id` is refused, with the password encoded already. -/
theorem run_saveToDb_of_ne (h : form.id ≠ kitSettingsId) : (saveToDb form).run (handle env) w =
    (.ok (form.encoded, .error (.other "WriteError")), w) := by
  have hid : form.encoded.id ≠ kitSettingsId := h
  rw [saveToDb, if_pos hid]
  rfl

/-- The world once the document is written. -/
def written (w : World) : World := (handle env (.db (.replaceOne .kitSettings kitSettingsId
  form.encoded.dump)) w).2

theorem stored_written : stored (form.written env w) = some form.encoded.dump := by
  rw [stored, written, db_replaceOne, Table.get?_upsert, if_pos rfl]

/-- A save writes the document, decodes the password and then generates the inventory. -/
theorem run_saveToDb (h : form.id = kitSettingsId) : (saveToDb form).run (handle env) w =
    (.ok (form, (generateInventory.run (handle env) (form.written env w)).1),
      (generateInventory.run (handle env) (form.written env w)).2) := by
  have hid : ¬ form.encoded.id ≠ kitSettingsId := not_not_intro h
  have hdecode : base64ToString form.encoded.password = .ok form.password :=
    base64ToString_stringToBase64 form.password
  rw [saveToDb, if_neg hid, hdecode, Program.bind_eq, Prog.replaceOne, Program.perform_bind,
    Program.run_call]
  dsimp only
  rw [Program.bind_eq, Program.run_bind_ok (handle env) (Program.run_attempt (handle env) _ _)]
  rfl

theorem stored_afterGenerate (w : World) :
    stored (generateInventory.run (handle env) w).2 = stored w := by
  have hdb : (generateInventory.run (handle env) w).2.db = w.db :=
    db_run_of_readsOnly readsOnly_generateInventory w
  rw [stored, hdb, stored]

theorem afterSave_eq (h : form.id = kitSettingsId) :
    kind.afterSave env w form = some form.encoded.dump := by
  have hstored := stored_afterGenerate env (form.written env w)
  rw [SettingsKind.afterSave]
  show stored ((saveToDb form).run (handle env) w).2 = _
  rw [run_saveToDb env form h, hstored, stored_written]

/-- The Kit form makes the round trip if it is stored under its own `_id` and its password
    keeps the rules as it stands, not only once it is decoded. -/
theorem roundTrips_iff (hvalid : ∃ payload, KitSettingsSchema.load payload = .ok form) :
    kind.RoundTrips env w form ↔ form.id = kitSettingsId ∧ KeepsStigs form.password.toList := by
  constructor
  · intro htrip
    obtain ⟨payload, hpayload⟩ := hvalid
    have hne : form.password ≠ "" := ne_of_accepted (KitSettingsSchema.accepted_of_load hpayload)
    have hid : form.id = kitSettingsId := by
      by_contra hid
      obtain ⟨outcome, hrun⟩ := htrip.unchanged
      have hrefused : (saveToDb form).run (handle env) w =
          (.ok (form.encoded, .error (.other "WriteError")), w) := run_saveToDb_of_ne env form hid
      have hsaved : ((saveToDb form).run (handle env) w).1 = .ok (form, outcome) := hrun
      rw [hrefused] at hsaved
      have hform : form.encoded = form := (Prod.mk.inj (Except.ok.inj hsaved)).1
      exact stringToBase64_ne hne (congrArg KitSettingsForm.password hform)
    have hafter := afterSave_eq env (w := w) form hid
    have hload := htrip.loads env (form.written env w) ((stored_written env form).trans hafter.symm)
    have hloaded : (loadFromDb.run (handle env) (form.written env w)).1 = .ok (some form) := hload
    rw [run_loadFromDb env form (stored_written env form)] at hloaded
    refine ⟨hid, stigErrors_eq_nil_iff.mp ?_⟩
    by_contra hstigs
    rw [if_neg hstigs] at hloaded
    cases hloaded
  · rintro ⟨hid, hkeeps⟩
    have hstigs : stigErrors form.password.toList = [] := stigErrors_eq_nil_iff.mpr hkeeps
    have hsave : ∀ env w, ∃ outcome, ((kind.saveToDb form).run (handle env) w).1 =
        .ok (form, outcome) ∧ kind.afterSave env w form = some form.encoded.dump := by
      intro env' w'
      refine ⟨(generateInventory.run (handle env') (form.written env' w')).1, ?_,
        afterSave_eq env' form hid⟩
      show ((saveToDb form).run (handle env') w').1 = _
      rw [run_saveToDb env' form hid]
    refine SettingsKind.roundTrips_of_save hsave ?_ env w
    · intro env' w' hstored
      show (loadFromDb.run (handle env') w').1 = _
      rw [run_loadFromDb env' form hstored, if_pos hstigs, ← hid]

/-! The inventory is generated from what was just stored. -/

theorem templateCtx_eq_ok_iff : (∃ ctx, form.templateCtx = .ok ctx) ↔
    form.kubernetesServicesCidr.d.val % 32 = 0 := by
  unfold templateCtx ipNetwork27
  constructor
  · rintro ⟨ctx, hctx⟩
    by_contra hbits
    rw [if_neg hbits] at hctx
    cases hctx
  · intro hbits
    rw [if_pos hbits]
    exact ⟨_, rfl⟩

theorem run_generateInventory (hid : form.id = kitSettingsId)
    (h : stored w = some form.encoded.dump) :
    (generateInventory.run (handle env) w).1 = .ok () ↔
      KeepsStigs form.password.toList ∧ ∃ ctx, form.templateCtx = .ok ctx ∧
        env (.renderInventory "kit_settings.yml" ctx) w.calls = .ok () := by
  have hload := run_loadFromDb env form h
  rw [generateInventory, Program.bind_eq]
  by_cases hstigs : stigErrors form.password.toList = []
  · rw [if_pos hstigs, ← hid] at hload
    rw [Program.run_bind_ok (handle env) hload]
    dsimp only
    have hkeeps : KeepsStigs form.password.toList := stigErrors_eq_nil_iff.mp hstigs
    cases hctx : form.templateCtx with
    | error e =>
        rw [Program.bind_eq, Program.run_bind_error (handle env)
          (Program.run_ofExcept (handle env) _ w)]
        constructor
        · intro hok
          cases hok
        · rintro ⟨-, ctx, hok, -⟩
          cases hok
    | ok ctx =>
        rw [Program.bind_eq, Program.run_bind_ok (handle env)
          (Program.run_ofExcept (handle env) _ w), Prog.orRaise, Prog.ask, Program.perform_bind,
          Program.run_call, Program.run_ofExcept]
        constructor
        · intro hok
          exact ⟨hkeeps, ctx, rfl, hok⟩
        · rintro ⟨-, ctx', hctx', hok⟩
          cases hctx'
          exact hok
  · rw [if_neg hstigs] at hload
    rw [Program.run_bind_error (handle env) hload]
    constructor
    · intro hok
      cases hok
    · rintro ⟨hkeeps, -⟩
      exact absurd (stigErrors_eq_nil_iff.mpr hkeeps) hstigs

end KitSettingsForm

/-! ## ESXi settings -/

namespace EsxiSettingsForm

def stored (w : World) : Option EsxiSettingsDoc := (w.db .esxiSettings).get? esxiSettingsId

def kind : SettingsKind EsxiSettingsForm EsxiSettingsDoc := ⟨saveToDb, loadFromDb, stored⟩

theorem readsOnly_loadFromDb : loadFromDb.Uses Op.readsOnly := by
  refine (Prog.readsOnly_findById _).bind fun found => ?_
  split
  · exact .done _
  · refine (Program.uses_ofExcept _).bind fun form => ?_
    exact (Program.uses_ofExcept _).bind fun password => .done _

theorem readsOnly_generateInventory : generateInventory.Uses Op.readsOnly := by
  refine readsOnly_loadFromDb.bind fun found => ?_
  split
  · exact .raise _
  · exact Prog.uses_orRaise (Prog.readsOnly_ask _)

variable (env : Environment) {w : World} (form : EsxiSettingsForm)

theorem run_loadFromDb (h : stored w = some form.encoded.dump) :
    loadFromDb.run (handle env) w = (.ok (some { form with id := esxiSettingsId }), w) := by
  have hfind : (Prog.findById .esxiSettings esxiSettingsId).run (handle env) w =
      (.ok (some form.encoded.dump), w) := by
    rw [← h]
    rfl
  have hdecode : base64ToString form.encoded.password = .ok form.password :=
    base64ToString_stringToBase64 form.password
  rw [loadFromDb, Program.bind_eq, Program.run_bind_ok (handle env) hfind]
  dsimp only
  rw [load_encoded, Program.bind_eq,
    Program.run_bind_ok (handle env) (Program.run_ofExcept (handle env) _ w), Program.bind_eq,
    hdecode, Program.run_bind_ok (handle env) (Program.run_ofExcept (handle env) _ w)]
  rfl

theorem run_saveToDb_of_ne (h : form.id ≠ esxiSettingsId) : (saveToDb form).run (handle env) w =
    (.ok (form.encoded, .error (.other "WriteError")), w) := by
  have hid : form.encoded.id ≠ esxiSettingsId := h
  rw [saveToDb, if_pos hid]
  rfl

def written (w : World) : World := (handle env (.db (.replaceOne .esxiSettings esxiSettingsId
  form.encoded.dump)) w).2

theorem stored_written : stored (form.written env w) = some form.encoded.dump := by
  rw [stored, written, db_replaceOne, Table.get?_upsert, if_pos rfl]

theorem run_saveToDb (h : form.id = esxiSettingsId) : (saveToDb form).run (handle env) w =
    (.ok (form, (generateInventory.run (handle env) (form.written env w)).1),
      (generateInventory.run (handle env) (form.written env w)).2) := by
  have hid : ¬ form.encoded.id ≠ esxiSettingsId := not_not_intro h
  have hdecode : base64ToString form.encoded.password = .ok form.password :=
    base64ToString_stringToBase64 form.password
  rw [saveToDb, if_neg hid, hdecode, Program.bind_eq, Prog.replaceOne, Program.perform_bind,
    Program.run_call]
  dsimp only
  rw [Program.bind_eq, Program.run_bind_ok (handle env) (Program.run_attempt (handle env) _ _)]
  rfl

theorem stored_afterGenerate (w : World) :
    stored (generateInventory.run (handle env) w).2 = stored w := by
  have hdb : (generateInventory.run (handle env) w).2.db = w.db :=
    db_run_of_readsOnly readsOnly_generateInventory w
  rw [stored, hdb, stored]

theorem afterSave_eq (h : form.id = esxiSettingsId) :
    kind.afterSave env w form = some form.encoded.dump := by
  have hstored := stored_afterGenerate env (form.written env w)
  rw [SettingsKind.afterSave]
  show stored ((saveToDb form).run (handle env) w).2 = _
  rw [run_saveToDb env form h, hstored, stored_written]

/-- What is loaded has the `_id` it is stored under. -/
theorem id_of_loadFromDb (h : (loadFromDb.run (handle env) w).1 = .ok (some form)) :
    form.id = esxiSettingsId := by
  rw [loadFromDb, Program.bind_eq, Prog.findById, Program.perform_bind, Program.run_call] at h
  cases hget : (w.db .esxiSettings).get? esxiSettingsId with
  | none =>
      simp only [handle_db, DocOp.apply_findById, hget] at h
      cases h
  | some doc =>
      simp only [handle_db, DocOp.apply_findById, hget] at h
      cases hload : EsxiSettingsSchema.load (.obj (doc.fields esxiSettingsId)) with
      | error e =>
          rw [hload] at h
          cases h
      | ok loaded =>
          rw [hload] at h
          have hid := EsxiSettingsSchema.id_of_load hload
          cases hdecode : base64ToString loaded.password with
          | error e =>
              simp only [Program.ofExcept, Program.bind_eq, Program.done_bind, hdecode] at h
              cases h
          | ok password =>
              simp only [Program.ofExcept, Program.bind_eq, Program.done_bind, hdecode] at h
              cases h
              exact hid

/-- The ESXi form makes the round trip if it is stored under its own `_id`. -/
theorem roundTrips_iff : kind.RoundTrips env w form ↔ form.id = esxiSettingsId := by
  constructor
  · intro htrip
    have hload := htrip.loads env ((saveToDb form).run (handle env) w).2 rfl
    exact id_of_loadFromDb env form hload
  · intro hid
    have hsave : ∀ env w, ∃ outcome, ((kind.saveToDb form).run (handle env) w).1 =
        .ok (form, outcome) ∧ kind.afterSave env w form = some form.encoded.dump := by
      intro env' w'
      refine ⟨(generateInventory.run (handle env') (form.written env' w')).1, ?_,
        afterSave_eq env' form hid⟩
      show ((saveToDb form).run (handle env') w').1 = _
      rw [run_saveToDb env' form hid]
    refine SettingsKind.roundTrips_of_save hsave ?_ env w
    · intro env' w' hstored
      show (loadFromDb.run (handle env') w').1 = _
      rw [run_loadFromDb env' form hstored, ← hid]

end EsxiSettingsForm

/-! ## MIP settings -/

namespace MipSettingsForm

def stored (w : World) : Option MipSettingsDoc := (w.db .mipSettings).get? mipSettingsId

def kind : SettingsKind MipSettingsForm MipSettingsDoc := ⟨saveToDb, loadFromDb, stored⟩

/-- A save leaves the form encoded, however it ends. -/
theorem run_saveToDb (env : Environment) (w : World) (form : MipSettingsForm) :
    ∃ outcome, ((saveToDb form).run (handle env) w).1 = .ok (form.encoded, outcome) := by
  by_cases hid : form.encoded.id ≠ mipSettingsId
  · rw [saveToDb, if_pos hid]
    exact ⟨_, rfl⟩
  · rw [saveToDb, if_neg hid, Program.bind_eq, Prog.replaceOne, Program.perform_bind,
      Program.run_call, Program.bind_eq,
      Program.run_bind_ok (handle env) (Program.run_attempt (handle env) _ _)]
    exact ⟨_, rfl⟩

/-- The MIP form never makes the round trip. -/
theorem not_roundTrips (env : Environment) (w : World) (form : MipSettingsForm)
    (hvalid : ∃ payload, MipSettingsSchema.load payload = .ok form) :
    ¬ kind.RoundTrips env w form := by
  intro htrip
  obtain ⟨payload, hpayload⟩ := hvalid
  have hne : form.password ≠ "" := ne_of_accepted (MipSettingsSchema.accepted_of_load hpayload)
  obtain ⟨outcome, hunchanged⟩ := htrip.unchanged
  obtain ⟨outcome', hencoded⟩ := run_saveToDb env w form
  have heq : Except.ok (form, outcome) = Except.ok (ε := PyError) (form.encoded, outcome') :=
    hunchanged.symm.trans hencoded
  have hform : form = form.encoded := (Prod.mk.inj (Except.ok.inj heq)).1
  exact stringToBase64_ne hne (congrArg MipSettingsForm.password hform).symm

end MipSettingsForm

end Tfplenum
