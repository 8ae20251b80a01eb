/-
  Tfplenum.Middleware

  `middleware.py`: the WSGI middleware that identifies the user of a request,
  the class-level `Auth` record it writes, and the role decorators that read it.

  Requests are served concurrently by the threads of one process, so the record
  is shared: a request is a program of two operations on it, "set the current
  user" and "check the required roles", between which other requests run.
-/

import Mathlib.Tactic.ByContra
import Tfplenum.Common
import Tfplenum.Lib.Interleave

namespace Tfplenum

open Lib

/-! ## Users and requests -/

/-- The user dictionary of a request; an absent entry is `none`. -/
structure User where
  uid : Option String := none
  givenName : Option String := none
  surname : Option String := none
  displayName : Option String := none
  email : Option String := none
  roles : Option (List String) := none
  memberOf : Option (List String) := none
  clientRoles : Option (List String) := none
  usingApiKey : Bool := false
deriving DecidableEq, Repr

/-- The decorator of the handler a request is routed to. -/
inductive Decorator where
  | undecorated
  | loginRequiredRoles (roles : List String) (allRolesReq : Bool)
  | controllerAdminRequired
  | controllerMaintainerRequired
  | operatorRequired
deriving DecidableEq, Repr

/-- A request.  The router sends the webhook URL to the webhook's own handler,
    which carries no decorator. -/
structure Request where
  urlRoot : String
  url : String
  headers : String → Option String
  decorator : Decorator
  webhook_undecorated : urlRoot ++ "api/hive/webhook" = url → decorator = .undecorated

/-- The ways `create_user_data_from_bearer` fails. -/
inductive BearerError where
  | expiredSignature
  | keyNotFound
  | other
deriving DecidableEq, Repr

/-- What the middleware takes from the process: the debug switch, the user in
    the debug file (absent when the file is, or is no YAML), and the decoding of
    a bearer token with the public keys on disk. -/
structure AuthEnv where
  isDebugServer : Option String
  debugUser : Option User
  decodeToken : String → Except BearerError User

/-- What a request is answered with, as far as the middleware decides it. -/
inductive HttpResponse where
  /-- 401, with its text -/
  | unauthorized (text : String)
  /-- `FORBIDDEN_RESPONSE`, 403 -/
  | forbidden
  /-- the answer of the handler, which was called -/
  | handled
deriving DecidableEq, Repr

/-! ## The `Auth` record -/

/-- The class attributes of `Auth` that are read or written. -/
structure Auth where
  user : Option User := none
  roles : Option (List String) := none
  currentuser : Option String := none
  controllerAdmin : Bool := false
deriving DecidableEq, Repr

namespace Auth

/-- `role in Auth.roles`. -/
def roleIn (a : Auth) (role : String) : Except PyError Bool :=
  match a.roles with
  | none => .error (.typeError "argument of type 'NoneType' is not iterable")
  | some roles => .ok (decide (role ∈ roles))

/-- `Auth.user != None and role in Auth.roles`. -/
def hasRole (a : Auth) (role : String) : Except PyError Bool :=
  if a.user = none then .ok false else a.roleIn role

/-- Also records a positive answer in the `controller_admin` flag. -/
def isControllerAdmin (a : Auth) : Except PyError Bool × Auth :=
  match a.hasRole controllerAdminRole with
  | .ok true => (.ok true, { a with controllerAdmin := true })
  | r => (r, a)

def isControllerMaintainer (a : Auth) : Except PyError Bool :=
  a.hasRole controllerMaintainerRole

def isRealmAdmin (a : Auth) : Except PyError Bool :=
  a.hasRole realmAdminRole

def isOperator (a : Auth) : Except PyError Bool :=
  a.hasRole operatorRole

/-- Fills the record attribute by attribute.  A user without a `roles` entry
    raises after `Auth.user` is written and before `Auth.roles` is. -/
def setCurrentUser (user : User) (a : Auth) : Except PyError Unit × Auth :=
  let a := { a with user := some user }
  match user.roles with
  | none => (.error (.keyError "roles"), a)
  | some roles =>
      let a := { a with roles := some roles }
      match user.uid with
      | none => (.error (.keyError "uid"), a)
      | some uid =>
          let a := { a with currentuser := some uid }
          match a.isControllerAdmin with
          | (.error e, a) => (.error e, a)
          | (.ok _, a) =>
              (do
                let _ ← a.isControllerMaintainer
                let _ ← a.isOperator
                let _ ← a.isRealmAdmin
                return ()
              , a)

/-- The test of a decorator: whether the handler is called. -/
def check : Decorator → Auth → Except PyError Bool × Auth
  | .undecorated, a => (.ok true, a)
  | .loginRequiredRoles roles true, a => (roles.allM a.roleIn, a)
  | .loginRequiredRoles roles false, a => (roles.anyM a.roleIn, a)
  | .controllerAdminRequired, a => a.isControllerAdmin
  | .controllerMaintainerRequired, a => (a.isControllerMaintainer, a)
  | .operatorRequired, a => (a.isOperator, a)

end Auth

/-- The two accesses of a request to the record. -/
inductive AuthOp where
  | setCurrentUser (user : User)
  | check (d : Decorator)

namespace AuthOp

abbrev Res : AuthOp → Type
  | .setCurrentUser _ => Except PyError Unit
  | .check _ => Except PyError Bool

def apply : Handler AuthOp Res Auth
  | .setCurrentUser user, a => Auth.setCurrentUser user a
  | .check d, a => Auth.check d a

end AuthOp

/-! ## The middleware -/

/-- `create_user_data`: the user in the headers the identity proxy sets. -/
def createUserData (headers : String → Option String) : User :=
  let multi (attr : String) : Option (List String) :=
    (headers attr).map fun v => (v.toList.splitOn ';').map String.ofList
  { uid := headers "uid"
    givenName := headers "givenName"
    surname := headers "surname"
    displayName := headers "displayName"
    email := headers "email"
    roles := multi "roles"
    memberOf := multi "memberOf"
    clientRoles := multi "clientRoles" }

/-- The token of an `Authorization` header of the type `Bearer`. -/
def bearerToken (headers : String → Option String) : Option String :=
  match (headers "Authorization").map fun v => (v.toList.splitOn ' ').map String.ofList with
  | some ["Bearer", token] => some token
  | _ => none

/-- What the middleware makes of a request before it touches `Auth`. -/
inductive Identified where
  | bypassed
  | refused (text : String)
  | as (user : User)

/-- The user a request presents, or the text it is refused with. -/
def presentedUser (env : AuthEnv) (headers : String → Option String) :
    Except PyError (Except String User) :=
  if env.isDebugServer = some "yes" then
    match env.debugUser with
    | some user => .ok (.ok user)
    | none => .error (.unboundLocalError "user")
  else
    match bearerToken headers with
    | none => .ok (.ok (createUserData headers))
    | some token =>
        match env.decodeToken token with
        | .ok user => .ok (.ok { user with usingApiKey := true })
        | .error .expiredSignature => .ok (.error "Authorization failed. API key is expired.")
        | .error .keyNotFound =>
            .ok (.error "Authorization failed. No public key to validate API key")
        | .error .other => .ok (.error "Authorization failed. See logs")

/-- `"uid" in user and user["uid"] != ""`. -/
def User.hasUid (user : User) : Bool :=
  match user.uid with
  | some uid => uid ≠ ""
  | none => false

/-- The part of `AuthMiddleware.__call__` before `Auth` is touched: which user
    the request is of. -/
def identify (env : AuthEnv) (request : Request) : Except PyError Identified :=
  if request.urlRoot ++ "api/hive/webhook" = request.url then
    .ok .bypassed
  else
    match presentedUser env request.headers with
    | .error e => .error e
    | .ok (.error text) => .ok (.refused text)
    | .ok (.ok user) => .ok (if user.hasUid then .as user else .refused "Authorization failed")

/-- The wrapped application: the decorator of the handler, then the handler. -/
def application (d : Decorator) : Program AuthOp AuthOp.Res PyError HttpResponse :=
  match d with
  | .undecorated => .done .handled
  | d =>
      .call (.check d) fun
        | .ok true => .done .handled
        | .ok false => .done .forbidden
        | .error e => .raise e

/-- `AuthMiddleware.__call__`. -/
def authMiddleware (env : AuthEnv) (request : Request) :
    Program AuthOp AuthOp.Res PyError HttpResponse :=
  match identify env request with
  | .error e => .raise e
  | .ok .bypassed => application request.decorator
  | .ok (.refused text) => .done (.unauthorized text)
  | .ok (.as user) =>
      .call (.setCurrentUser user) fun
        | .ok () => application request.decorator
        | .error e => .raise e

/-! ## The decision that is a request's own -/

/-- Whether a user with these roles passes a decorator. -/
def permitted (roles : List String) : Decorator → Bool
  | .undecorated => true
  | .loginRequiredRoles required true => required.all (· ∈ roles)
  | .loginRequiredRoles required false => required.any (· ∈ roles)
  | .controllerAdminRequired => decide (controllerAdminRole ∈ roles)
  | .controllerMaintainerRequired => decide (controllerMaintainerRole ∈ roles)
  | .operatorRequired => decide (operatorRole ∈ roles)

/-- What the roles of a user and a decorator decide.  A user without a `roles`
    entry never reaches the decorator. -/
def ownDecision (roles : Option (List String)) (d : Decorator) : Except PyError HttpResponse :=
  match roles with
  | none => .error (.keyError "roles")
  | some roles => .ok (if permitted roles d then .handled else .forbidden)

/-- What a request is answered with when no other request is served. -/
def ownResponse (env : AuthEnv) (request : Request) : Except PyError HttpResponse :=
  match identify env request with
  | .error e => .error e
  | .ok .bypassed => .ok .handled
  | .ok (.refused text) => .ok (.unauthorized text)
  | .ok (.as user) => ownDecision user.roles request.decorator

/-! ## What the two accesses do -/

section Specs

variable {a : Auth} {user : User} {roles : List String} {d : Decorator}

theorem Auth.hasRole_of_roles (ha : a.user ≠ none) (hr : a.roles = some roles) (role : String) :
    a.hasRole role = .ok (decide (role ∈ roles)) := by
  rw [Auth.hasRole, if_neg ha, Auth.roleIn, hr]

theorem Auth.roleIn_of_roles (hr : a.roles = some roles) :
    a.roleIn = fun role => .ok (decide (role ∈ roles)) := by
  funext role
  rw [Auth.roleIn, hr]

/-- Only the flag of a record changes in an admin check. -/
theorem Auth.isControllerAdmin_snd (a : Auth) :
    a.isControllerAdmin.2.user = a.user ∧ a.isControllerAdmin.2.roles = a.roles := by
  unfold Auth.isControllerAdmin
  split <;> exact ⟨rfl, rfl⟩

theorem Auth.isControllerAdmin_fst (a : Auth) :
    a.isControllerAdmin.1 = a.hasRole controllerAdminRole := by
  unfold Auth.isControllerAdmin
  split
  · rename_i h
    exact h.symm
  · rfl

theorem allM_ok {α : Type} (p : α → Bool) (l : List α) :
    l.allM (fun x => (.ok (p x) : Except PyError Bool)) = .ok (l.all p) := by
  induction l with
  | nil => rfl
  | cons x l ih =>
      rw [List.all_cons, List.allM]
      cases hx : p x
      · rfl
      · exact ih

theorem anyM_ok {α : Type} (p : α → Bool) (l : List α) :
    l.anyM (fun x => (.ok (p x) : Except PyError Bool)) = .ok (l.any p) := by
  induction l with
  | nil => rfl
  | cons x l ih =>
      rw [List.any_cons, List.anyM]
      cases hx : p x
      · exact ih
      · rfl

/-- A check keeps the user and the roles on record. -/
theorem Auth.check_snd (d : Decorator) (a : Auth) :
    (Auth.check d a).2.user = a.user ∧ (Auth.check d a).2.roles = a.roles := by
  cases d with
  | loginRequiredRoles required all => cases all <;> exact ⟨rfl, rfl⟩
  | controllerAdminRequired => exact a.isControllerAdmin_snd
  | undecorated => exact ⟨rfl, rfl⟩
  | controllerMaintainerRequired => exact ⟨rfl, rfl⟩
  | operatorRequired => exact ⟨rfl, rfl⟩

/-- With a user and roles on record, a check answers for those roles. -/
theorem Auth.check_fst (ha : a.user ≠ none) (hr : a.roles = some roles) (d : Decorator) :
    (Auth.check d a).1 = .ok (permitted roles d) := by
  cases d with
  | undecorated => rfl
  | loginRequiredRoles required all =>
      have hin := Auth.roleIn_of_roles hr
      cases all with
      | true =>
          change required.allM a.roleIn = _
          rw [hin, allM_ok]
          rfl
      | false =>
          change required.anyM a.roleIn = _
          rw [hin, anyM_ok]
          rfl
  | controllerAdminRequired =>
      change a.isControllerAdmin.1 = _
      rw [Auth.isControllerAdmin_fst, Auth.hasRole_of_roles ha hr]
      rfl
  | controllerMaintainerRequired => exact Auth.hasRole_of_roles ha hr _
  | operatorRequired => exact Auth.hasRole_of_roles ha hr _

/-- A user without a `roles` entry raises, and leaves the roles of the previous
    user on record. -/
theorem Auth.setCurrentUser_of_roles_none (hroles : user.roles = none) (a : Auth) :
    Auth.setCurrentUser user a = (.error (.keyError "roles"), { a with user := some user }) := by
  simp only [Auth.setCurrentUser, hroles]

/-- Any other user the middleware lets through is put on record. -/
theorem Auth.setCurrentUser_of_roles (hroles : user.roles = some roles) {uid : String}
    (huid : user.uid = some uid) (a : Auth) :
    ∃ a', Auth.setCurrentUser user a = (.ok (), a') ∧
      a'.user ≠ none ∧ a'.roles = some roles := by
  -- the record before the four predicates are evaluated
  let b : Auth := { a with user := some user, roles := some roles, currentuser := some uid }
  have hb : b.user ≠ none := by simp [b]
  have hbr : b.roles = some roles := rfl
  obtain ⟨hu, hr⟩ := b.isControllerAdmin_snd
  have hfst : b.isControllerAdmin.1 = .ok (decide (controllerAdminRole ∈ roles)) := by
    rw [Auth.isControllerAdmin_fst, Auth.hasRole_of_roles hb hbr]
  have ha' : b.isControllerAdmin.2.user ≠ none := hu ▸ hb
  have har' : b.isControllerAdmin.2.roles = some roles := hr.trans hbr
  refine ⟨b.isControllerAdmin.2, ?_, ha', har'⟩
  have hpair : b.isControllerAdmin = (.ok (decide (controllerAdminRole ∈ roles)),
      b.isControllerAdmin.2) := by rw [← hfst]
  have hset : Auth.setCurrentUser user a =
      match b.isControllerAdmin with
      | (.error e, a) => (.error e, a)
      | (.ok _, a) =>
          (do
            let _ ← a.isControllerMaintainer
            let _ ← a.isOperator
            let _ ← a.isRealmAdmin
            return ()
          , a) := by
    simp only [Auth.setCurrentUser, hroles, huid]
    rfl
  rw [hset, hpair]
  simp only [Auth.isControllerMaintainer, Auth.isOperator, Auth.isRealmAdmin,
    Auth.hasRole_of_roles ha' har']
  rfl

end Specs

/-- A user the middleware lets through has a user id. -/
theorem uid_of_identify {env : AuthEnv} {request : Request} {user : User}
    (h : identify env request = .ok (.as user)) : ∃ uid, user.uid = some uid := by
  have hhas : user.hasUid = true := by
    unfold identify at h
    split at h
    · cases h
    · split at h
      · cases h
      · cases h
      · rename_i u _
        by_cases hu : u.hasUid = true
        · rw [if_pos hu] at h
          cases h
          exact hu
        · rw [if_neg hu] at h
          cases h
  unfold User.hasUid at hhas
  split at hhas
  · exact ⟨_, ‹_›⟩
  · cases hhas

/-- Only the webhook's own handler is reached without a user. -/
theorem decorator_of_bypassed {env : AuthEnv} {request : Request}
    (h : identify env request = .ok .bypassed) : request.decorator = .undecorated := by
  by_cases hurl : request.urlRoot ++ "api/hive/webhook" = request.url
  · exact request.webhook_undecorated hurl
  · rw [identify, if_neg hurl] at h
    split at h
    · cases h
    · cases h
    · split at h <;> cases h

/-! ## Isolation of the decisions -/

/-- The scheduling condition: a request puts a user with a `roles` entry on
    record only while no other request waits at its check. -/
def NoSetDuringCheck (c : Config AuthOp AuthOp.Res PyError HttpResponse Auth)
    (e : Event AuthOp) : Prop :=
  ∀ user, e.op = .setCurrentUser user → user.roles.isSome →
    ∀ j ≠ e.thread, ∀ d k, c.threads[j]? ≠ some (.call (.check d) k)

/-- Where a request stands: not started, waiting at its check with its own roles
    on record, or finished with the response that is its own. -/
inductive Stands (env : AuthEnv) (request : Request) (a : Auth) :
    Program AuthOp AuthOp.Res PyError HttpResponse → Prop
  | start : Stands env request a (authMiddleware env request)
  | atCheck {user : User} {roles : List String} (hid : identify env request = .ok (.as user))
      (hroles : user.roles = some roles) (hd : request.decorator ≠ .undecorated)
      (ha : a.user ≠ none) (har : a.roles = some roles) :
      Stands env request a (application request.decorator)
  | finished {r : Except PyError HttpResponse} (hr : r = ownResponse env request) :
      Stands env request a (.ofExcept r)

section Isolation

variable {env : AuthEnv} {request : Request} {a : Auth}

theorem application_of_decorated {d : Decorator} (hd : d ≠ .undecorated) :
    application d = .call (.check d) fun
      | .ok true => .done .handled
      | .ok false => .done .forbidden
      | .error e => .raise e := by
  cases d with
  | undecorated => exact absurd rfl hd
  | _ => rfl

/-- What a request does at its own next step. -/
theorem Stands.step {op : AuthOp}
    {k : AuthOp.Res op → Program AuthOp AuthOp.Res PyError HttpResponse}
    (h : Stands env request a (.call op k)) :
    Stands env request (AuthOp.apply op a).2 (k (AuthOp.apply op a).1) := by
  generalize hp : Program.call op k = p at h
  cases h with
  | start =>
      unfold authMiddleware at hp
      split at hp
      · cases hp
      · -- the webhook's handler has no decorator, so the request never waits
        rename_i hby
        rw [decorator_of_bypassed hby] at hp
        cases hp
      · cases hp
      · rename_i user hid
        obtain ⟨uid, huid⟩ := uid_of_identify hid
        cases hp
        cases hroles : user.roles with
        | none =>
            have hown : ownResponse env request = .error (.keyError "roles") := by
              simp only [ownResponse, hid, ownDecision, hroles]
            simp only [AuthOp.apply, Auth.setCurrentUser_of_roles_none hroles]
            exact .finished (r := .error (.keyError "roles")) hown.symm
        | some roles =>
            obtain ⟨a', hset, hau, har⟩ := Auth.setCurrentUser_of_roles hroles huid a
            simp only [AuthOp.apply, hset]
            by_cases hd : request.decorator = .undecorated
            · have hown : ownResponse env request = .ok .handled := by
                simp only [ownResponse, hid, ownDecision, hroles, hd, permitted, if_true]
              rw [hd]
              exact .finished (r := .ok .handled) hown.symm
            · exact .atCheck hid hroles hd hau har
  | @atCheck user roles hid hroles hd hau har =>
      rw [application_of_decorated hd] at hp
      cases hp
      have hfst := Auth.check_fst hau har request.decorator
      have hown : ownResponse env request =
          .ok (if permitted roles request.decorator then .handled else .forbidden) := by
        simp only [ownResponse, hid, ownDecision, hroles]
      simp only [AuthOp.apply, hfst]
      cases hperm : permitted roles request.decorator with
      | true =>
          rw [hperm] at hown
          exact .finished (r := .ok .handled) hown.symm
      | false =>
          rw [hperm] at hown
          exact .finished (r := .ok .forbidden) hown.symm
  | @finished r hr => cases r <;> cases hp

/-- A request keeps its place when the record keeps its roles. -/
theorem Stands.mono {a' : Auth} {p : Program AuthOp AuthOp.Res PyError HttpResponse}
    (h : Stands env request a p)
    (hkeep : (a.user ≠ none → a'.user ≠ none ∧ a'.roles = a.roles) ∨
      ∀ d k, p ≠ .call (.check d) k) : Stands env request a' p := by
  cases h with
  | start => exact .start
  | finished hr => exact .finished hr
  | atCheck hid hroles hd hau har =>
      rcases hkeep with hkeep | hne
      · obtain ⟨hau', har'⟩ := hkeep hau
        exact .atCheck hid hroles hd hau' (har'.trans har)
      · exact absurd (application_of_decorated hd) (hne _ _)

/-- Only the finished request has a response. -/
theorem Stands.response_eq {r : Except PyError HttpResponse}
    (h : Stands env request a (.ofExcept r)) : r = ownResponse env request := by
  generalize hp : Program.ofExcept r = p at h
  cases h with
  | start =>
      unfold authMiddleware at hp
      unfold ownResponse
      split at hp <;> rename_i hid
      · cases r <;> cases hp <;> rfl
      · rw [decorator_of_bypassed hid] at hp
        cases r <;> cases hp <;> rfl
      · cases r <;> cases hp <;> rfl
      · cases r <;> cases hp
  | @atCheck user roles hid hroles hd hau har =>
      rw [application_of_decorated hd] at hp
      cases r <;> cases hp
  | @finished r' hr =>
      cases r <;> cases r' <;> cases hp <;> exact hr

/-- What an access leaves on record, unless it puts a user with a `roles` entry
    there. -/
theorem AuthOp.apply_keeps {op : AuthOp} (ha : a.user ≠ none)
    (hop : ∀ user, op = .setCurrentUser user → user.roles = none) :
    (AuthOp.apply op a).2.user ≠ none ∧ (AuthOp.apply op a).2.roles = a.roles := by
  cases op with
  | setCurrentUser user =>
      rw [AuthOp.apply, Auth.setCurrentUser_of_roles_none (hop user rfl)]
      exact ⟨by simp, rfl⟩
  | check d =>
      obtain ⟨hu, hr⟩ := Auth.check_snd d a
      exact ⟨by rw [AuthOp.apply, hu]; exact ha, hr⟩

/-- Every thread stands where its request can. -/
def AllStand (env : AuthEnv) (requests : List Request)
    (c : Config AuthOp AuthOp.Res PyError HttpResponse Auth) : Prop :=
  ∀ (i : Nat) p, c.threads[i]? = some p →
    ∃ request, requests[i]? = some request ∧ Stands env request c.state p

/-- The step lemma: a step that meets the scheduling condition moves its own
    request on and leaves every other request where it stands. -/
theorem AllStand.advance {requests : List Request}
    {c : Config AuthOp AuthOp.Res PyError HttpResponse Auth} {i : Nat} {op : AuthOp}
    {k : AuthOp.Res op → Program AuthOp AuthOp.Res PyError HttpResponse}
    (h : AllStand env requests c) (hi : c.threads[i]? = some (.call op k))
    (hG : NoSetDuringCheck c ⟨i, op⟩) : AllStand env requests (c.advance AuthOp.apply i op k) := by
  intro j p hj
  rw [Config.getElem?_advance hi] at hj
  split at hj
  · rename_i hij
    cases hj
    obtain ⟨request, hreq, hst⟩ := h i _ hi
    exact ⟨request, hij ▸ hreq, hst.step⟩
  · rename_i hij
    obtain ⟨request, hreq, hst⟩ := h j p hj
    refine ⟨request, hreq, hst.mono ?_⟩
    -- the record only changes hands when nobody waits at a check
    by_cases hop : ∀ user, op = .setCurrentUser user → user.roles = none
    · exact Or.inl fun ha => AuthOp.apply_keeps ha hop
    · right
      intro d k' hp
      apply hop
      intro user huser
      by_contra hroles
      have hsome : user.roles.isSome := Option.isSome_iff_ne_none.mpr hroles
      exact hG user huser hsome j (Ne.symm hij) d k' (hp ▸ hj)

theorem allStand_start (env : AuthEnv) (requests : List Request) (a : Auth) :
    AllStand env requests ⟨a, requests.map (authMiddleware env)⟩ := by
  intro i p hi
  rw [List.getElem?_map] at hi
  obtain ⟨request, hreq, rfl⟩ := Option.map_eq_some_iff.mp hi
  exact ⟨request, hreq, .start⟩

end Isolation

/-- The decisions on concurrent requests depend on nothing but each request: a
    function of the roles of its own user and of the decorator it meets. -/
def RequestIsolation : Prop :=
  ∃ decision : Option (List String) → Decorator → Except PyError HttpResponse,
    ∀ (env : AuthEnv) (requests : List Request) (a : Auth) (es : List (Event AuthOp))
      (c' : Config AuthOp AuthOp.Res PyError HttpResponse Auth),
      Run AuthOp.apply ⟨a, requests.map (authMiddleware env)⟩ es c' →
      ∀ (i : Nat) request user r, requests[i]? = some request →
        identify env request = .ok (.as user) →
        c'.threads[i]? = some (.ofExcept r) → r = decision user.roles request.decorator

section Leak

/-- The production server, with no API keys on disk. -/
def productionEnv : AuthEnv :=
  { isDebugServer := none, debugUser := none, decodeToken := fun _ => .error .keyNotFound }

/-- A request of a user with one role for the rule-set page, which operators may
    use. -/
def rulesetRequest (uid role : String) : Request where
  urlRoot := "https://controller.lan/"
  url := "https://controller.lan/api/policy/ruleset"
  headers := fun attr =>
    if attr = "uid" then some uid else if attr = "roles" then some role else none
  decorator := .operatorRequired
  webhook_undecorated := by decide

/-- A metrics user passes the operator check when an operator's request is
    identified in between, and does not when served alone. -/
theorem not_requestIsolation : ¬ RequestIsolation := by
  rintro ⟨decision, hdec⟩
  let viewer := rulesetRequest "viewer" "metrics"
  let operator := rulesetRequest "operator" "operator"
  let start : Config AuthOp AuthOp.Res PyError HttpResponse Auth :=
    ⟨{}, [viewer, operator].map (authMiddleware productionEnv)⟩
  have hid : identify productionEnv viewer =
      .ok (.as { uid := some "viewer", roles := some ["metrics"] }) := by rfl
  have hmixed := hdec productionEnv [viewer, operator] {} _ _
    (run_schedule AuthOp.apply [0, 1, 0] start) 0 viewer _ (.ok .handled) rfl hid (by rfl)
  have halone := hdec productionEnv [viewer, operator] {} _ _
    (run_schedule AuthOp.apply [0, 0] start) 0 viewer _ (.ok .forbidden) rfl hid (by rfl)
  have : (.ok .handled : Except PyError HttpResponse) = .ok .forbidden := hmixed.trans halone.symm
  cases this

end Leak

/-- In every run in which a user with a `roles` entry is put on record only while
    no other request waits at its check, every request that finishes was answered
    with its own response. -/
theorem response_isolated_of_noSetDuringCheck (env : AuthEnv) (requests : List Request) (a : Auth)
    {es : List (Event AuthOp)} {c' : Config AuthOp AuthOp.Res PyError HttpResponse Auth}
    (hrun : GuardedRun AuthOp.apply NoSetDuringCheck ⟨a, requests.map (authMiddleware env)⟩ es c')
    (i : Nat) (request : Request) (hreq : requests[i]? = some request)
    (r : Except PyError HttpResponse) (hr : c'.threads[i]? = some (.ofExcept r)) :
    r = ownResponse env request := by
  have hall : AllStand env requests c' :=
    hrun.invariant (fun c i op k hi hG hc => hc.advance hi hG) (allStand_start env requests a)
  obtain ⟨request', hreq', hst⟩ := hall i _ hr
  cases Option.some.inj (hreq.symm.trans hreq')
  exact hst.response_eq

/-- The metrics user and the operator served one after the other. -/
theorem response_isolated_of_viewer_then_operator :
    (.ok .forbidden : Except PyError HttpResponse) =
      ownResponse productionEnv (rulesetRequest "viewer" "metrics") := by
  refine response_isolated_of_noSetDuringCheck productionEnv
    [rulesetRequest "viewer" "metrics", rulesetRequest "operator" "operator"] {}
    (.cons (i := 0) rfl ?_ (.cons (i := 0) rfl ?_ (.cons (i := 1) rfl ?_ (.nil _))))
    0 _ rfl _ rfl
  · intro user _ _ j hj d k
    match j with
    | 0 => exact absurd rfl hj
    | 1 => exact fun h => by cases h
    | j + 2 => exact fun h => by cases h
  · intro user h
    cases h
  · intro user _ _ j hj d k
    match j with
    | 0 => exact fun h => by cases h
    | 1 => exact absurd rfl hj
    | j + 2 => exact fun h => by cases h

end Tfplenum
