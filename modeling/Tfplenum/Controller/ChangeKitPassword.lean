/-
  Tfplenum.Controller.ChangeKitPassword

  `ChangeKitPassword.post` on the backend and on the nodes: one account after the
  other gets the new password over SSH, root before assessor, in the order of the
  nodes, and the first failure ends the request.  Nothing is undone, so what a
  request leaves is an initial part of its changes (`changeKitPassword_leavesPrefix`);
  the stored password is changed last.
-/

import Tfplenum.Controller.ToolsController

namespace Tfplenum

open Lib

/-! ## The site -/

inductive Account where
  | root | assessor
deriving DecidableEq, Repr

/-- What becomes of a `passwd --stdin` on a node. -/
inductive PasswdOutcome where
  | changed
  | refused (returnCode : Int) (h : returnCode ≠ 0)
  /-- no reply: the connection failed, before or after the command took effect -/
  | lost (e : PyError) (applied : Bool)

namespace PasswdOutcome

def reply : PasswdOutcome → Except PyError Int
  | changed => .ok 0
  | refused returnCode _ => .ok returnCode
  | lost e _ => .error e

def applied : PasswdOutcome → Bool
  | changed => true
  | refused _ _ => false
  | lost _ applied => applied

theorem applied_of_zero {outcome : PasswdOutcome} (h : outcome.reply = .ok 0) :
    outcome.applied = true := by
  cases outcome with
  | changed => rfl
  | refused returnCode hne => exact absurd (Except.ok.inj h) hne
  | lost e applied => cases h

theorem applied_of_ne_zero {outcome : PasswdOutcome} {returnCode : Int}
    (h : outcome.reply = .ok returnCode) (hne : returnCode ≠ 0) : outcome.applied = false := by
  cases outcome with
  | changed => exact absurd (Except.ok.inj h).symm hne
  | refused returnCode' hne' => rfl
  | lost e applied => cases h

end PasswdOutcome

/-- What the commands on the nodes do, by the number of commands run before. -/
structure Fleet where
  passwd : String → Account → Nat → PasswdOutcome
  /-- the number of lines the password history helper has logged -/
  journalctl : String → Nat → Except PyError Nat

/-- The backend, and what the accounts of each machine were last given for a password. -/
structure Site where
  world : World
  passwords : String → Account → String
  commands : Nat

/-- The accounts in a list have the password, the others what they had. -/
def withPassword (password : String) (accounts : List (String × Account))
    (passwords : String → Account → String) : String → Account → String :=
  fun address account =>
    if (address, account) ∈ accounts then password else passwords address account

@[simp] theorem withPassword_nil (password : String) (passwords : String → Account → String) :
    withPassword password [] passwords = passwords := by
  funext address account
  simp [withPassword]

theorem withPassword_append (password : String) (accounts more : List (String × Account))
    (passwords : String → Account → String) :
    withPassword password (accounts ++ more) passwords =
      withPassword password more (withPassword password accounts passwords) := by
  funext address account
  unfold withPassword
  by_cases hmore : (address, account) ∈ more
  · rw [if_pos (List.mem_append_right _ hmore), if_pos hmore]
  · have hiff : (address, account) ∈ accounts ++ more ↔ (address, account) ∈ accounts := by
      simp [hmore]
    rw [if_neg hmore]
    simp only [hiff]

/-- What the request can do. -/
inductive ToolOp where
  | backend (op : Op)
  /-- `echo ... | base64 --decode | passwd --stdin account` -/
  | passwd (address : String) (account : Account) (password : String)
  /-- `journalctl SYSLOG_IDENTIFIER=pwhistory_helper --since '10s ago'` -/
  | journalctl (address : String)

abbrev ToolOp.Res : ToolOp → Type
  | .backend op => op.Res
  | .passwd _ _ _ => Except PyError Int
  | .journalctl _ => Except PyError Nat

abbrev Tool := Program ToolOp ToolOp.Res PyError

def toolHandle (env : Environment) (fleet : Fleet) : Handler ToolOp ToolOp.Res Site
  | .backend op, s => ((handle env op s.world).1, { s with world := (handle env op s.world).2 })
  | .passwd address account password, s =>
      let outcome := fleet.passwd address account s.commands
      (outcome.reply, {
        s with
        passwords :=
          if outcome.applied then withPassword password [(address, account)] s.passwords
          else s.passwords
        commands := s.commands + 1 })
  | .journalctl address, s =>
      (fleet.journalctl address s.commands, { s with commands := s.commands + 1 })

/-- A program of the backend, run within the request. -/
def lift {α : Type} : Prog α → Tool α
  | .done a => .done a
  | .raise e => .raise e
  | .call op k => .call (.backend op) fun r => lift (k r)

theorem run_lift {α : Type} (env : Environment) (fleet : Fleet) (p : Prog α) (s : Site) :
    (lift p).run (toolHandle env fleet) s =
      ((p.run (handle env) s.world).1, { s with world := (p.run (handle env) s.world).2 }) := by
  induction p generalizing s with
  | done a => rfl
  | raise e => rfl
  | call op k ih =>
      rw [lift, Program.run_call, ih]
      rfl

/-! ## The request -/

/-- A response body of one entry, and its status. -/
structure ToolsResponse where
  key : String
  message : String
  status : Nat
deriving DecidableEq, Repr

def errorMessage (message : String) (status : Nat) : ToolsResponse :=
  ⟨"error_message", message, status⟩

def authenticationException : PyError := .other "AuthenticationException"

/-- `_set_root_password`, on entering the connection -/
def setRootPassword : Prog Unit := do
  match ← Prog.findById .kitSettings kitSettingsId with
  | none => Program.raise (.typeError "'NoneType' object is not subscriptable")
  | some doc => discard (Program.ofExcept (base64ToString doc.password))

def runPasswd (address : String) (account : Account) (password : String) : Tool Int :=
  Program.bind (Program.perform (ToolOp.passwd address account password)) Program.ofExcept

/-- The response to a `passwd` that failed. -/
def passwdFailed (address : String) : Tool ToolsResponse := do
  let lines ← Program.bind (Program.perform (ToolOp.journalctl address)) Program.ofExcept
  pure (
    if lines = 2 then
      errorMessage "Password has already been used. You must try another password." 409
    else errorMessage "Internal Server Error" 500)

namespace ChangeKitPassword

/-- One node; the response, where the request ends with it. -/
def changeNode (password address : String) : Tool (Option ToolsResponse) :=
  Program.tryExcept
    (do
      lift setRootPassword
      let returnCode ← runPasswd address .root password
      if returnCode ≠ 0 then some <$> passwdFailed address
      else
        let returnCode ← runPasswd address .assessor password
        if returnCode ≠ 0 then some <$> passwdFailed address else pure none)
    fun e =>
      if e = authenticationException then
        pure (some (errorMessage
          "Authentication failure. Check the ssh key on the controller." 403))
      else Program.raise e

/-- The loop over the nodes, which a response ends. -/
def changeNodes (password : String) : List String → Tool (Option ToolsResponse)
  | [] => pure none
  | address :: addresses => do
      match ← changeNode password address with
      | some response => pure (some response)
      | none => changeNodes password addresses

def statefulDipNodes : List String :=
  [NodeTypes.server, NodeTypes.sensor, NodeTypes.serviceNode, NodeTypes.controlPlane,
    NodeTypes.minio]

def success : ToolsResponse :=
  ⟨"success_message", "Successfully changed the password of your Kit!", 200⟩

def validationMessage (errors : List String) : String :=
  "The password failed " ++ toString errors.length ++ " validation rules: " ++
    ", ".intercalate errors

/-- The part of `post` that changes passwords, with the settings loaded before. -/
def changeAll (currentConfig : KitSettingsForm) (rawPassword : String) : Tool ToolsResponse := do
  let nodes ← lift (Node.loadNodeTypesFromDb statefulDipNodes)
  match ← changeNodes rawPassword (nodes.map fun node => node.ipAddress.print) with
  | some response => pure response
  | none => do
      lift (updatePassword currentConfig rawPassword)
      pure success

/-- `ChangeKitPassword.post` -/
def post (classes : CharClasses) (rawPassword : String) : Tool ToolsResponse := do
  let errors := PasswordValidator.validate classes rawPassword
  if errors ≠ [] then
    pure (errorMessage (validationMessage errors) 400)
  else
    match ← lift KitSettingsForm.loadFromDb with
    | none => pure (errorMessage "Couldn't find kit configuration." 404)
    | some currentConfig => changeAll currentConfig rawPassword

/-! ## What a request leaves -/

/-- The accounts of a node, in the order they are changed in. -/
def accountsOf (address : String) : List (String × Account) :=
  [(address, .root), (address, .assessor)]

/-- The accounts a request is to change, in that order. -/
def accounts (env : Environment) (w : World) : List (String × Account) :=
  match ((Node.loadNodeTypesFromDb statefulDipNodes).run (handle env) w).1 with
  | .ok nodes => nodes.flatMap fun node => accountsOf node.ipAddress.print
  | .error _ => []

/-- The kit settings that were stored before are stored with the new password. -/
def Stores (env : Environment) (password : String) (s s' : Site) : Prop :=
  ∃ config, (KitSettingsForm.loadFromDb.run (handle env) s.world).1 = .ok (some config) ∧
    KitSettingsForm.stored s'.world =
      some { config with password := password : KitSettingsForm }.encoded.dump

/-- An initial part of the accounts is changed.  On success it is all of them, and the
    password is stored; otherwise the stored settings are as they were, or everything is
    changed and what came after the write of the settings failed. -/
structure LeavesPrefix (env : Environment) (password : String) (s s' : Site)
    (result : Except PyError ToolsResponse) : Prop where
  changed : ∃ n, s'.passwords =
    withPassword password ((accounts env s.world).take n) s.passwords
  success : result = .ok success →
    s'.passwords = withPassword password (accounts env s.world) s.passwords ∧
      Stores env password s s'
  failure : result ≠ .ok ChangeKitPassword.success →
    KitSettingsForm.stored s'.world = KitSettingsForm.stored s.world ∨
      s'.passwords = withPassword password (accounts env s.world) s.passwords ∧
        Stores env password s s'

/-! ## One step after the other -/

section Steps

variable {env : Environment} {fleet : Fleet} {password : String}
variable {passwords : String → Account → String} {db : Db} {done : List (String × Account)}

/-- The accounts in `done` are changed, and nothing else, since a state with these
    passwords and this database. -/
def Changed (password : String) (passwords : String → Account → String) (db : Db)
    (done : List (String × Account)) (s : Site) : Prop :=
  s.passwords = withPassword password done passwords ∧ s.world.db = db

/-- An initial part of the accounts in `rest` is changed too. -/
def PartlyChanged (password : String) (passwords : String → Account → String) (db : Db)
    (done rest : List (String × Account)) (s : Site) : Prop :=
  ∃ n, Changed password passwords db (done ++ rest.take n) s

theorem PartlyChanged.of_changed {rest : List (String × Account)} {s : Site}
    (h : Changed password passwords db done s) :
    PartlyChanged password passwords db done rest s := by
  refine ⟨0, ?_⟩
  rw [List.take_zero, List.append_nil]
  exact h

theorem PartlyChanged.of_all {rest : List (String × Account)} {s : Site}
    (h : Changed password passwords db (done ++ rest) s) :
    PartlyChanged password passwords db done rest s := by
  refine ⟨rest.length, ?_⟩
  rw [List.take_length]
  exact h

/-- An initial part of the first accounts is one of all of them. -/
theorem PartlyChanged.append {first rest : List (String × Account)} {s : Site}
    (h : PartlyChanged password passwords db done first s) :
    PartlyChanged password passwords db done (first ++ rest) s := by
  obtain ⟨n, hn⟩ := h
  by_cases hlength : n ≤ first.length
  · refine ⟨n, ?_⟩
    rw [List.take_append_of_le_length hlength]
    exact hn
  · refine ⟨first.length, ?_⟩
    rw [List.take_of_length_le (by omega)] at hn
    rw [List.take_left' rfl]
    exact hn

/-- What is partly changed after the first accounts is partly changed before them. -/
theorem PartlyChanged.after {first rest : List (String × Account)} {s : Site}
    (h : PartlyChanged password passwords db (done ++ first) rest s) :
    PartlyChanged password passwords db done (first ++ rest) s := by
  obtain ⟨n, hn⟩ := h
  refine ⟨first.length + n, ?_⟩
  have htake : (first ++ rest).take (first.length + n) = first ++ rest.take n := by
    rw [List.take_length_add_append]
  rw [htake, ← List.append_assoc]
  exact hn

/-- What only reads in the backend changes nothing. -/
theorem triple_lift {α : Type} {p : Prog α} (hp : p.Uses Op.readsOnly) :
    Triple (toolHandle env fleet) (Changed password passwords db done) (lift p)
      (fun _ => Changed password passwords db done)
      fun _ => Changed password passwords db done := by
  constructor
  rintro s ⟨hpasswords, hdb⟩
  have hkeep : (p.run (handle env) s.world).2.db = s.world.db :=
    hp.run_invariant (handle env) (fun op s hop hs => (db_of_readsOnly hop s).trans hs) rfl
  rw [run_lift]
  generalize p.run (handle env) s.world = r at hkeep
  rcases r with ⟨e | a, w⟩ <;> exact ⟨hpasswords, hkeep.trans hdb⟩

/-- A `passwd` changes its account if it returns zero, and otherwise it does not, unless
    the connection was lost. -/
theorem triple_runPasswd (address : String) (account : Account) :
    Triple (toolHandle env fleet) (Changed password passwords db done)
      (runPasswd address account password)
      (fun returnCode s =>
        (returnCode = 0 → Changed password passwords db (done ++ [(address, account)]) s) ∧
        (returnCode ≠ 0 → Changed password passwords db done s))
      fun _ s => Changed password passwords db done s ∨
        Changed password passwords db (done ++ [(address, account)]) s := by
  constructor
  rintro s ⟨hpasswords, hdb⟩
  rw [runPasswd, Program.perform_bind, Program.run_call, Program.run_ofExcept]
  have hnew : withPassword password [(address, account)] s.passwords =
      withPassword password (done ++ [(address, account)]) passwords := by
    rw [withPassword_append, hpasswords]
  simp only [toolHandle]
  generalize houtcome : fleet.passwd address account s.commands = outcome
  cases hreply : outcome.reply with
  | error e =>
      cases happlied : outcome.applied with
      | true => exact .inr ⟨by rw [if_pos rfl]; exact hnew, hdb⟩
      | false => exact .inl ⟨by rw [if_neg Bool.false_ne_true]; exact hpasswords, hdb⟩
  | ok returnCode =>
      refine ⟨?_, ?_⟩
      · intro hzero
        subst hzero
        refine ⟨?_, hdb⟩
        rw [PasswdOutcome.applied_of_zero hreply, if_pos rfl]
        exact hnew
      · intro hne
        refine ⟨?_, hdb⟩
        rw [PasswdOutcome.applied_of_ne_zero hreply hne, if_neg Bool.false_ne_true]
        exact hpasswords

/-- The journal is only read. -/
theorem triple_passwdFailed (address : String) :
    Triple (toolHandle env fleet) (Changed password passwords db done) (passwdFailed address)
      (fun response s => response ≠ success ∧ Changed password passwords db done s)
      fun _ => Changed password passwords db done := by
  have hjournal : Triple (toolHandle env fleet) (Changed password passwords db done)
      (Program.bind (Program.perform (ToolOp.journalctl address)) Program.ofExcept : Tool Nat)
      (fun _ => Changed password passwords db done)
      fun _ => Changed password passwords db done := by
    constructor
    intro s hs
    rw [Program.perform_bind, Program.run_call, Program.run_ofExcept]
    simp only [toolHandle]
    cases fleet.journalctl address s.commands with
    | error e => exact hs
    | ok lines => exact hs
  refine hjournal.bind fun lines => Triple.done fun s hs => ⟨?_, hs⟩
  split <;> decide

theorem readsOnly_setRootPassword : setRootPassword.Uses Op.readsOnly := by
  refine (Prog.readsOnly_findById _).bind fun found => ?_
  split
  · exact .raise _
  · exact (Program.uses_ofExcept _).bind fun _ => .done _

/-- All of `rest` is changed, or a response other than success has been found and an
    initial part of it is. -/
structure Left (password : String) (passwords : String → Account → String) (db : Db)
    (done rest : List (String × Account)) (response : Option ToolsResponse) (s : Site) : Prop where
  goesOn : response = none → Changed password passwords db (done ++ rest) s
  ends : response ≠ none → response ≠ some success ∧ PartlyChanged password passwords db done rest s

/-- A failed `passwd` ends the request with what is changed by then. -/
theorem triple_refuse {done' rest : List (String × Account)} (address : String)
    (hpart : ∀ s, Changed password passwords db done' s →
      PartlyChanged password passwords db done rest s) :
    Triple (toolHandle env fleet) (Changed password passwords db done')
      (some <$> passwdFailed address) (Left password passwords db done rest)
      fun _ => PartlyChanged password passwords db done rest := by
  have hfailed : Triple (toolHandle env fleet) (Changed password passwords db done')
      (passwdFailed address)
      (fun response s => response ≠ success ∧ Changed password passwords db done' s)
      fun _ => Changed password passwords db done' := triple_passwdFailed address
  refine (hfailed.conseq (fun _ hs => hs) (fun _ _ hq => hq) fun _ s he => hpart s he).bind ?_
  intro response
  refine Triple.done fun s hs => ⟨?_, ?_⟩
  · intro hnone
    cases hnone
  · intro _
    exact ⟨fun heq => hs.1 (Option.some.inj heq), hpart s hs.2⟩

/-- A node is changed, or the request ends with one of its accounts. -/
theorem triple_changeNode (address : String) :
    Triple (toolHandle env fleet) (Changed password passwords db done)
      (changeNode password address) (Left password passwords db done (accountsOf address))
      fun _ => PartlyChanged password passwords db done (accountsOf address) := by
  have hroot : ∀ s, Changed password passwords db (done ++ [(address, .root)]) s →
      PartlyChanged password passwords db done (accountsOf address) s := fun s hs => ⟨1, hs⟩
  have hboth : ∀ s, Changed password passwords db
      ((done ++ [(address, .root)]) ++ [(address, .assessor)]) s →
      Changed password passwords db (done ++ accountsOf address) s := by
    intro s hs
    rw [List.append_assoc] at hs
    exact hs
  have hassessor : Triple (toolHandle env fleet)
      (Changed password passwords db (done ++ [(address, .root)]))
      (do
        let returnCode ← runPasswd address .assessor password
        if returnCode ≠ 0 then some <$> passwdFailed address else pure none)
      (Left password passwords db done (accountsOf address))
      fun _ => PartlyChanged password passwords db done (accountsOf address) := by
    refine ((triple_runPasswd address .assessor).conseq (fun _ hs => hs)
      (fun _ _ hq => hq) ?_).bind ?_
    · rintro e s (hbefore | hafter)
      · exact hroot s hbefore
      · exact PartlyChanged.of_all (hboth s hafter)
    · intro returnCode
      split
      · rename_i hne
        exact (triple_refuse address hroot).pre fun s hs => hs.2 hne
      · rename_i hzero
        refine Triple.done fun s hs => ⟨?_, ?_⟩
        · intro _
          exact hboth s (hs.1 (not_not.mp hzero))
        · intro hnone
          exact absurd rfl hnone
  have hbody : Triple (toolHandle env fleet) (Changed password passwords db done)
      (do
        lift setRootPassword
        let returnCode ← runPasswd address .root password
        if returnCode ≠ 0 then some <$> passwdFailed address
        else
          let returnCode ← runPasswd address .assessor password
          if returnCode ≠ 0 then some <$> passwdFailed address else pure none)
      (Left password passwords db done (accountsOf address))
      fun _ => PartlyChanged password passwords db done (accountsOf address) := by
    refine ((triple_lift readsOnly_setRootPassword).conseq (fun _ hs => hs) (fun _ _ hq => hq)
      fun _ s he => PartlyChanged.of_changed he).bind fun _ => ?_
    refine ((triple_runPasswd address .root).conseq (fun _ hs => hs) (fun _ _ hq => hq) ?_).bind ?_
    · rintro e s (hbefore | hafter)
      · exact PartlyChanged.of_changed hbefore
      · exact hroot s hafter
    · intro returnCode
      split
      · rename_i hne
        exact (triple_refuse address fun s hs => PartlyChanged.of_changed hs).pre
          fun s hs => hs.2 hne
      · rename_i hzero
        exact hassessor.pre fun s hs => hs.1 (not_not.mp hzero)
  refine hbody.tryExcept fun e => ?_
  split
  · refine Triple.done fun s hs => ⟨?_, ?_⟩
    · intro hnone
      cases hnone
    · intro _
      exact ⟨by decide, hs⟩
  · exact Triple.raise fun s hs => hs

/-- The loop changes all nodes, or the request ends with an initial part of their accounts. -/
theorem triple_changeNodes (addresses : List String) :
    Triple (toolHandle env fleet) (Changed password passwords db done)
      (changeNodes password addresses)
      (Left password passwords db done (addresses.flatMap accountsOf))
      fun _ => PartlyChanged password passwords db done (addresses.flatMap accountsOf) := by
  induction addresses generalizing done with
  | nil =>
      refine Triple.done fun s hs => ⟨?_, ?_⟩
      · intro _
        rw [List.flatMap_nil, List.append_nil]
        exact hs
      · intro hnone
        exact absurd rfl hnone
  | cons address addresses ih =>
      rw [List.flatMap_cons]
      have hnode : Triple (toolHandle env fleet) (Changed password passwords db done)
          (changeNode password address) (Left password passwords db done (accountsOf address))
          fun _ => PartlyChanged password passwords db done (accountsOf address) :=
        triple_changeNode address
      have hrest : Triple (toolHandle env fleet)
          (Changed password passwords db (done ++ accountsOf address))
          (changeNodes password addresses)
          (Left password passwords db (done ++ accountsOf address) (addresses.flatMap accountsOf))
          fun _ => PartlyChanged password passwords db (done ++ accountsOf address)
            (addresses.flatMap accountsOf) := ih
      refine (hnode.conseq (fun _ hs => hs) (fun _ _ hq => hq) fun _ s he => he.append).bind ?_
      intro response
      cases response with
      | some response =>
          refine Triple.done fun s hs => ⟨?_, ?_⟩
          · intro hnone
            cases hnone
          · intro hsome
            obtain ⟨hfailed, hpart⟩ := hs.ends hsome
            exact ⟨hfailed, hpart.append⟩
      | none =>
          refine hrest.conseq (fun s hs => hs.goesOn rfl) ?_ ?_
          · intro response s hs
            refine ⟨?_, ?_⟩
            · intro hnone
              have hchanged := hs.goesOn hnone
              rw [List.append_assoc] at hchanged
              exact hchanged
            · intro hsome
              exact ⟨(hs.ends hsome).1, (hs.ends hsome).2.after⟩
          · intro _ s he
            exact he.after

end Steps

/-- A request that ends before the loop leaves everything as it was. -/
theorem LeavesPrefix.of_unchanged {env : Environment} {password : String} {s s' : Site}
    {result : Except PyError ToolsResponse} (hpasswords : s'.passwords = s.passwords)
    (hdb : s'.world.db = s.world.db) (hresult : result ≠ .ok ChangeKitPassword.success) :
    LeavesPrefix env password s s' result := by
  refine ⟨⟨0, ?_⟩, fun h => absurd h hresult, fun _ => .inl ?_⟩
  · rw [List.take_zero, withPassword_nil]
    exact hpasswords
  · rw [KitSettingsForm.stored, hdb, KitSettingsForm.stored]

/-- A request that ends in the loop leaves an initial part of its changes. -/
theorem LeavesPrefix.of_partlyChanged {env : Environment} {password : String} {s s' : Site}
    {result : Except PyError ToolsResponse}
    (h : PartlyChanged password s.passwords s.world.db [] (accounts env s.world) s')
    (hresult : result ≠ .ok ChangeKitPassword.success) : LeavesPrefix env password s s' result := by
  obtain ⟨n, hpasswords, hdb⟩ := h
  refine ⟨⟨n, hpasswords⟩, fun h => absurd h hresult, fun _ => .inl ?_⟩
  rw [KitSettingsForm.stored, hdb, KitSettingsForm.stored]

/-- Once all accounts are changed the settings are stored, whether or not the save goes
    through. -/
theorem leavesPrefix_update {env : Environment} {fleet : Fleet} {s s₁ : Site} {password : String}
    {config : KitSettingsForm}
    (hconfig : (KitSettingsForm.loadFromDb.run (handle env) s.world).1 = .ok (some config))
    (hid : config.id = kitSettingsId)
    (hpasswords : s₁.passwords = withPassword password ([] ++ accounts env s.world) s.passwords) :
    let p : Tool ToolsResponse := do
      lift (updatePassword config password)
      pure success
    LeavesPrefix env password s (p.run (toolHandle env fleet) s₁).2
      (p.run (toolHandle env fleet) s₁).1 := by
  dsimp only
  have hupdate := run_lift env fleet (updatePassword config password) s₁
  have hstored := KitSettingsForm.stored_updatePassword hid password env s₁.world
  rw [List.nil_append] at hpasswords
  have hchanged : ∃ n, s₁.passwords =
      withPassword password ((accounts env s.world).take n) s.passwords := by
    refine ⟨(accounts env s.world).length, ?_⟩
    rw [List.take_length]
    exact hpasswords
  rw [Program.bind_eq]
  generalize (updatePassword config password).run (handle env) s₁.world = r at hupdate hstored
  rcases r with ⟨e | _, w⟩
  · rw [Program.run_bind_error _ hupdate]
    refine ⟨hchanged, ?_, fun _ => .inr ⟨hpasswords, config, hconfig, hstored⟩⟩
    intro h
    cases h
  · rw [Program.run_bind_ok _ hupdate]
    exact ⟨hchanged, fun _ => ⟨hpasswords, config, hconfig, hstored⟩, fun h => absurd rfl h⟩

/-- What `changeAll` leaves, from a state where the settings are those it was given. -/
theorem leavesPrefix_changeAll (env : Environment) (fleet : Fleet) (s : Site) (password : String)
    {config : KitSettingsForm}
    (hconfig : (KitSettingsForm.loadFromDb.run (handle env) s.world).1 = .ok (some config)) :
    LeavesPrefix env password s ((changeAll config password).run (toolHandle env fleet) s).2
      ((changeAll config password).run (toolHandle env fleet) s).1 := by
  have hkeep : ((Node.loadNodeTypesFromDb statefulDipNodes).run (handle env) s.world).2.db =
      s.world.db :=
    (Node.readsOnly_loadNodeTypesFromDb _).run_invariant (handle env)
      (fun op s' hop hs => (db_of_readsOnly hop s').trans hs) rfl
  have hnodes := run_lift env fleet (Node.loadNodeTypesFromDb statefulDipNodes) s
  have haccounts : accounts env s.world =
      match ((Node.loadNodeTypesFromDb statefulDipNodes).run (handle env) s.world).1 with
      | .ok nodes => nodes.flatMap fun node => accountsOf node.ipAddress.print
      | .error _ => [] := rfl
  rw [changeAll, Program.bind_eq]
  generalize (Node.loadNodeTypesFromDb statefulDipNodes).run (handle env) s.world = r
    at hkeep hnodes haccounts
  rcases r with ⟨e | nodes, w⟩
  · rw [Program.run_bind_error _ hnodes]
    exact .of_unchanged rfl hkeep (by simp)
  rw [Program.run_bind_ok _ hnodes, Program.bind_eq]
  have hflat : accounts env s.world =
      (nodes.map fun node => node.ipAddress.print).flatMap accountsOf := by
    rw [haccounts, List.flatMap_map]
  have hstart : Changed password s.passwords s.world.db [] { s with world := w } :=
    ⟨(withPassword_nil password s.passwords).symm, hkeep⟩
  have hloop : Triple (toolHandle env fleet) (Changed password s.passwords s.world.db [])
      (changeNodes password (nodes.map fun node => node.ipAddress.print))
      (Left password s.passwords s.world.db [] (accounts env s.world))
      fun _ => PartlyChanged password s.passwords s.world.db [] (accounts env s.world) := by
    rw [hflat]
    exact triple_changeNodes _
  cases hrun : (changeNodes password (nodes.map fun node => node.ipAddress.print)).run
      (toolHandle env fleet) { s with world := w } with
  | mk result s₁ =>
      cases result with
      | error e =>
          rw [Program.run_bind_error _ hrun]
          exact .of_partlyChanged (hloop.error hstart hrun) (by simp)
      | ok response =>
          rw [Program.run_bind_ok _ hrun]
          have hleft := hloop.ok hstart hrun
          cases response with
          | some response =>
              obtain ⟨hfailed, hpart⟩ := hleft.ends (by simp)
              have hne : Except.ok (ε := PyError) response ≠ .ok success :=
                fun heq => hfailed (congrArg some (Except.ok.inj heq))
              exact .of_partlyChanged hpart hne
          | none =>
              obtain ⟨hpasswords, -⟩ := hleft.goesOn rfl
              have hid := (KitSettingsForm.loadFromDb_spec env s.world).2 config hconfig
              exact leavesPrefix_update hconfig hid hpasswords

end ChangeKitPassword

open ChangeKitPassword in
/-- Whatever the nodes do, a request leaves an initial part of its changes; on success all
    of them, the stored password included. -/
theorem changeKitPassword_leavesPrefix (classes : CharClasses) (env : Environment) (fleet : Fleet)
    (s : Site) (password : String) :
    LeavesPrefix env password s ((post classes password).run (toolHandle env fleet) s).2
      ((post classes password).run (toolHandle env fleet) s).1 := by
  unfold post
  by_cases herrors : PasswordValidator.validate classes password ≠ []
  · rw [if_pos herrors]
    exact .of_unchanged rfl rfl (by simp [errorMessage, success])
  rw [if_neg herrors, Program.bind_eq]
  have hload := run_lift env fleet KitSettingsForm.loadFromDb s
  rw [(KitSettingsForm.loadFromDb_spec env s.world).1] at hload
  cases hconfig : (KitSettingsForm.loadFromDb.run (handle env) s.world).1 with
  | error e =>
      rw [hconfig] at hload
      rw [Program.run_bind_error _ hload]
      exact .of_unchanged rfl rfl (by simp)
  | ok found =>
      rw [hconfig] at hload
      rw [Program.run_bind_ok _ hload]
      cases found with
      | none => exact .of_unchanged rfl rfl (by simp [errorMessage, success])
      | some config => exact leavesPrefix_changeAll env fleet s password hconfig

/-! ## All or nothing -/

open ChangeKitPassword in
/-- On an error every password is what it was, on success all are the new one, and nodes
    that agreed before agree afterwards. -/
def AllOrNothing : Prop :=
  ∀ (classes : CharClasses) (env : Environment) (fleet : Fleet) (s : Site) (password : String),
    let out := (post classes password).run (toolHandle env fleet) s
    (out.1 ≠ .ok success →
      (∀ a ∈ accounts env s.world, out.2.passwords a.1 a.2 = s.passwords a.1 a.2) ∧
        KitSettingsForm.stored out.2.world = KitSettingsForm.stored s.world) ∧
    (out.1 = .ok success →
      (∀ a ∈ accounts env s.world, out.2.passwords a.1 a.2 = password) ∧
        Stores env password s out.2) ∧
    ((∀ a ∈ accounts env s.world, ∀ b ∈ accounts env s.world,
        s.passwords a.1 a.2 = s.passwords b.1 b.2) →
      ∀ a ∈ accounts env s.world, ∀ b ∈ accounts env s.world,
        out.2.passwords a.1 a.2 = out.2.passwords b.1 b.2)

/-- The settings, and two nodes. -/
def twoNodesSite : Site where
  world := {
    db
      | .settings => Table.empty.upsert generalSettingsId lanForm.dump
      | .kitSettings => Table.empty.upsert kitSettingsId (kitForm 64).encoded.dump
      | .nodes => (Table.empty.upsert "n1" server1Doc).upsert "n2"
          { server1Doc with hostname := "server2.lan", ipAddress := "10.40.12.147" }
      | _ => Table.empty
    calls := 0 }
  passwords := fun _ _ => goodPassword
  commands := 0

/-- The second node refuses the password, which it has had before. -/
def secondRefuses : Fleet where
  passwd := fun address _ _ =>
    if address = "10.40.12.147" then .refused 1 (by decide) else .changed
  journalctl := fun _ _ => .ok 2

open ChangeKitPassword in
theorem not_allOrNothing : ¬ AllOrNothing := by
  intro hclaim
  have hout := (hclaim .ascii steadyEnv secondRefuses twoNodesSite "Foobar--87654321!?.").1
  have hrun : ((post .ascii "Foobar--87654321!?.").run (toolHandle steadyEnv secondRefuses)
      twoNodesSite).1 ≠ .ok success ∧
    ((post .ascii "Foobar--87654321!?.").run (toolHandle steadyEnv secondRefuses)
      twoNodesSite).2.passwords "10.40.12.146" .root = "Foobar--87654321!?." := by decide +kernel
  have hfirst : ("10.40.12.146", Account.root) ∈ accounts steadyEnv twoNodesSite.world := by
    decide +kernel
  have hsame := (hout hrun.1).1 _ hfirst
  have hne : "Foobar--87654321!?." ≠ goodPassword := by decide
  exact hne (hrun.2.symm.trans hsame)

end Tfplenum
