/-
  Tfplenum.Service.RulesyncNotifications

  The notifications of a rule synchronization: `NotificationMessage` of
  `service/socket_service.py` and `_send_notification` of `RuleSynchronization`.

  One message object serves all notifications of a run.  `set_exception(None)` leaves the
  text that is there, so that a notification without an exception shows the last one that
  was given (`posts_carry_iff`).
-/

import Tfplenum.Common
import Tfplenum.Json

namespace Tfplenum

namespace RulesyncNotifications

/-! ## The message -/

inductive NotificationCode where
  | unknown | deployed | superseded | failed | pendingInstall | pendingUpgrade | pendingRollback
  | uninstalling | uninstalled | green | red | started | inProgress | completed | error
  | installing | cancelled

namespace NotificationCode

def name : NotificationCode → String
  | unknown => "UNKNOWN"
  | deployed => "DEPLOYED"
  | superseded => "SUPERSEDED"
  | failed => "FAILED"
  | pendingInstall => "PENDING_INSTALL"
  | pendingUpgrade => "PENDING_UPGRADE"
  | pendingRollback => "PENDING_ROLLBACK"
  | uninstalling => "UNINSTALLING"
  | uninstalled => "UNINSTALLED"
  | green => "GREEN"
  | red => "RED"
  | started => "STARTED"
  | inProgress => "IN_PROGRESS"
  | completed => "COMPLETED"
  | error => "ERROR"
  | installing => "INSTALLING"
  | cancelled => "CANCELLED"

/-- The members in the order of the class -/
def members : List NotificationCode :=
  [unknown, deployed, superseded, failed, pendingInstall, pendingUpgrade, pendingRollback,
    uninstalling, uninstalled, green, red, started, inProgress, completed, error, installing,
    cancelled]

def validNames : List String := members.map name

end NotificationCode

/-- `NotificationMessage` -/
structure NotificationMessage where
  role : String
  messageType : String
  action : Option String
  application : Option String
  timestamp : String
  exception : String
  message : String
  status : String
  data : List Json

/-- The dictionary of `to_json`, with the `_id` that it has once it is stored -/
structure Notification where
  id : Option String
  timestamp : String
  role : String
  message : String
  action : Option String
  application : Option String
  status : String
  exception : String
  data : List Json

/-- What leaves the process -/
inductive Posted where
  /-- `mongo_notifications().insert_one` -/
  | stored (notification : Notification)
  /-- `socketio.emit` -/
  | emitted (messageType : String) (notification : Notification)

def Posted.notification : Posted → Notification
  | .stored notification => notification
  | .emitted _ notification => notification

/-- What `insert_one` and `emit` come to: the id of the document, if there is one, and whether
    the second raises. -/
structure Delivery where
  insertedId : Option String
  emits : Bool

namespace NotificationMessage

/-- A new object -/
def init (role : String) (action application : Option String) (messageType now : String) :
    NotificationMessage :=
  { role, messageType, action, application
    timestamp := now
    exception := "", message := "", status := "", data := [] }

def setMessage (m : NotificationMessage) (message : String) : NotificationMessage :=
  { m with message }

/-- The text of the `ValueError`, with the list of names as `str` shows it -/
def invalidStatus (status : String) : String :=
  "The " ++ status ++ " passed is does not match on of [" ++
    ", ".intercalate (NotificationCode.validNames.map fun name => "'" ++ name ++ "'") ++ "]."

def setStatus (m : NotificationMessage) (status : String) : Except PyError NotificationMessage :=
  if status ∈ NotificationCode.validNames then .ok { m with status }
  else .error (.valueError (invalidStatus status))

/-- An exception is given by its text. -/
def setException (m : NotificationMessage) : Option String → NotificationMessage
  | some exception => { m with exception }
  -- nothing is set
  | none => m

/-- `to_json`, which renews the timestamp -/
def toJson (m : NotificationMessage) (now : String) : Notification × NotificationMessage :=
  ({ id := none, timestamp := now, role := m.role, message := m.message, action := m.action
     application := m.application, status := m.status, exception := m.exception
     data := m.data },
    { m with timestamp := now })

/-- `post_to_websocket_api`; an exception is only logged. -/
def postToWebsocketApi (m : NotificationMessage) (now : String) (delivery : Delivery) :
    List Posted × NotificationMessage :=
  let (notification, m') := m.toJson now
  match delivery.insertedId with
  | none => ([], m')
  | some id =>
      let notification := { notification with id := some id }
      if delivery.emits then
        ([.stored notification, .emitted m.messageType notification], m')
      else ([.stored notification], m')

end NotificationMessage

/-! ## The service -/

/-- A call of `_send_notification`, with the time and the fate of what it posts -/
structure SendCall where
  msg : String
  status : String
  exception : Option String
  now : String
  delivery : Delivery

/-- `RuleSynchronization` -/
structure RuleSynchronization where
  notification : NotificationMessage

namespace RuleSynchronization

def init (now : String) : RuleSynchronization :=
  ⟨.init "rulesync" none none "broadcast" now⟩

/-- `_send_notification`: what it returns or raises, what it posts, and the object after it -/
def sendNotification (service : RuleSynchronization) (call : SendCall) :
    Except PyError Unit × List Posted × RuleSynchronization :=
  match service.notification.setStatus call.status with
  | .error e => (.error e, [], service)
  | .ok notification =>
      let (posted, notification) :=
        ((notification.setMessage call.msg).setException call.exception).postToWebsocketApi
          call.now call.delivery
      (.ok (), posted, ⟨notification⟩)

/-- What the calls post, each with the call that posts it; a call that raises is caught. -/
def posts (service : RuleSynchronization) : List SendCall → List (SendCall × Posted)
  | [] => []
  | call :: calls =>
      let (_, posted, service') := service.sendNotification call
      posted.map (fun p => (call, p)) ++ service'.posts calls

/-- The object after the calls -/
def afterCalls (service : RuleSynchronization) : List SendCall → RuleSynchronization
  | [] => service
  | call :: calls => (service.sendNotification call).2.2.afterCalls calls

end RuleSynchronization

/-! ## What a call shows -/

namespace SendCall

/-- The status is the name of a member. -/
def Valid (call : SendCall) : Prop := call.status ∈ NotificationCode.validNames

instance (call : SendCall) : Decidable call.Valid :=
  inferInstanceAs (Decidable (_ ∈ NotificationCode.validNames))

/-- The call gets as far as a stored notification. -/
def Posts (call : SendCall) : Prop := call.Valid ∧ call.delivery.insertedId.isSome

/-- The notification shows what the call was given. -/
structure Carries (call : SendCall) (notification : Notification) : Prop where
  message : notification.message = call.msg
  status : notification.status = call.status
  exception : notification.exception = call.exception.getD ""

/-- The exception that the message has after the call, where it had another before -/
def leaves (exception : String) (call : SendCall) : String :=
  if call.Valid then call.exception.getD exception else exception

end SendCall

/-- The text of the last exception that the calls set, if there is one -/
def lastException (calls : List SendCall) : String := calls.foldl SendCall.leaves ""

/-- A notification without an exception is posted only where none was set before. -/
def Unmixed (calls : List SendCall) : Prop :=
  ∀ before call after, calls = before ++ call :: after → call.Posts → call.exception = none →
    lastException before = ""

theorem setStatus_eq_ok_iff {m m' : NotificationMessage} {status : String} :
    m.setStatus status = .ok m' ↔
      status ∈ NotificationCode.validNames ∧ { m with status } = m' := by
  rw [NotificationMessage.setStatus]
  split
  case isTrue h => simp [h]
  case isFalse h => simp [h]

@[simp] theorem exception_setException (m : NotificationMessage) (exception : Option String) :
    (m.setException exception).exception = exception.getD m.exception := by
  cases exception <;> rfl

@[simp] theorem message_setException (m : NotificationMessage) (exception : Option String) :
    (m.setException exception).message = m.message := by
  cases exception <;> rfl

@[simp] theorem status_setException (m : NotificationMessage) (exception : Option String) :
    (m.setException exception).status = m.status := by
  cases exception <;> rfl

/-- What is posted has the texts of the message, and something is posted if the document is
    stored. -/
theorem postToWebsocketApi_spec (m : NotificationMessage) (now : String) (delivery : Delivery) :
    (∀ p ∈ (m.postToWebsocketApi now delivery).1, p.notification.message = m.message ∧
        p.notification.status = m.status ∧ p.notification.exception = m.exception) ∧
      ((m.postToWebsocketApi now delivery).1 ≠ [] ↔ delivery.insertedId.isSome) ∧
      (m.postToWebsocketApi now delivery).2.exception = m.exception := by
  obtain ⟨_ | id, emits⟩ := delivery
  · simp [NotificationMessage.postToWebsocketApi, NotificationMessage.toJson]
  · cases emits <;>
      simp [NotificationMessage.postToWebsocketApi, NotificationMessage.toJson,
        Posted.notification]

/-- A call shows its own message and status; without an exception of its own it shows the one
    that the object has. -/
theorem sendNotification_spec (service : RuleSynchronization) (call : SendCall) :
    (∀ p ∈ (service.sendNotification call).2.1,
        p.notification.message = call.msg ∧ p.notification.status = call.status ∧
          p.notification.exception = call.exception.getD service.notification.exception) ∧
      ((service.sendNotification call).2.1 ≠ [] ↔ call.Posts) ∧
      (service.sendNotification call).2.2.notification.exception =
        call.leaves service.notification.exception := by
  by_cases hvalid : call.Valid
  · have hstatus : service.notification.setStatus call.status =
        .ok { service.notification with status := call.status } :=
      setStatus_eq_ok_iff.mpr ⟨hvalid, rfl⟩
    let m : NotificationMessage :=
      ({ service.notification with status := call.status }.setMessage call.msg).setException
        call.exception
    obtain ⟨hposted, hsome, hexception⟩ := postToWebsocketApi_spec m call.now call.delivery
    have hm : m.message = call.msg ∧ m.status = call.status ∧
        m.exception = call.exception.getD service.notification.exception :=
      ⟨message_setException .., status_setException .., exception_setException ..⟩
    simp only [RuleSynchronization.sendNotification, hstatus]
    refine ⟨fun p hp => ?_, hsome.trans (and_iff_right hvalid).symm, ?_⟩
    · obtain ⟨hmessage, hstatus', hexc⟩ := hposted p hp
      exact ⟨hmessage.trans hm.1, hstatus'.trans hm.2.1, hexc.trans hm.2.2⟩
    · rw [SendCall.leaves, if_pos hvalid]
      exact hexception.trans hm.2.2
  · -- `set_status` raises, and nothing else happens
    have hstatus : service.notification.setStatus call.status =
        .error (.valueError (NotificationMessage.invalidStatus call.status)) := if_neg hvalid
    simp only [RuleSynchronization.sendNotification, hstatus]
    refine ⟨fun p hp => absurd hp (List.not_mem_nil), ?_, ?_⟩
    · exact iff_of_false (fun h => h rfl) (fun h => hvalid h.1)
    · rw [SendCall.leaves, if_neg hvalid]

/-! ## Sequences of calls -/

theorem exception_afterCalls (service : RuleSynchronization) (calls : List SendCall) :
    (service.afterCalls calls).notification.exception =
      calls.foldl SendCall.leaves service.notification.exception := by
  induction calls generalizing service with
  | nil => rfl
  | cons call calls ih =>
      rw [RuleSynchronization.afterCalls, ih, (sendNotification_spec service call).2.2,
        List.foldl_cons]

/-- What is posted is posted by one of the calls, in the state that the calls before it left. -/
theorem mem_posts_iff {service : RuleSynchronization} {calls : List SendCall}
    {p : SendCall × Posted} :
    p ∈ service.posts calls ↔ ∃ before after, calls = before ++ p.1 :: after ∧
      p.2 ∈ ((service.afterCalls before).sendNotification p.1).2.1 := by
  induction calls generalizing service with
  | nil => simp [RuleSynchronization.posts]
  | cons call calls ih =>
      rw [RuleSynchronization.posts, List.mem_append, ih]
      constructor
      · rintro (hnow | ⟨before, after, rfl, hlater⟩)
        · obtain ⟨posted, hposted, rfl⟩ := List.mem_map.mp hnow
          exact ⟨[], calls, rfl, hposted⟩
        · exact ⟨call :: before, after, rfl, hlater⟩
      · rintro ⟨before, after, hcalls, hmem⟩
        cases before with
        | nil =>
            obtain ⟨rfl, rfl⟩ := List.cons.inj hcalls
            exact .inl (List.mem_map.mpr ⟨p.2, hmem, rfl⟩)
        | cons first before =>
            obtain ⟨rfl, rfl⟩ := List.cons.inj hcalls
            exact .inr ⟨before, after, rfl, hmem⟩

theorem exception_afterCalls_init (now : String) (calls : List SendCall) :
    ((RuleSynchronization.init now).afterCalls calls).notification.exception =
      lastException calls :=
  exception_afterCalls _ calls

/-- A call that posts and has no exception shows the last one of the calls before it. -/
theorem unmixed_of_posts_carry {now : String} {calls : List SendCall}
    (h : ∀ p ∈ (RuleSynchronization.init now).posts calls, p.1.Carries p.2.notification) :
    Unmixed calls := by
  intro before call after hcalls hposts hnone
  obtain ⟨hshown, hsome, -⟩ :=
    sendNotification_spec ((RuleSynchronization.init now).afterCalls before) call
  obtain ⟨posted, hmem⟩ := List.exists_mem_of_ne_nil _ (hsome.mpr hposts)
  have hcarries := h (call, posted) (mem_posts_iff.mpr ⟨before, after, hcalls, hmem⟩)
  have hexception := hcarries.exception
  rw [(hshown posted hmem).2.2, hnone, exception_afterCalls_init] at hexception
  exact hexception

theorem Unmixed.posts_carry {calls : List SendCall} (h : Unmixed calls) (now : String) :
    ∀ p ∈ (RuleSynchronization.init now).posts calls, p.1.Carries p.2.notification := by
  intro p hp
  obtain ⟨before, after, hcalls, hmem⟩ := mem_posts_iff.mp hp
  obtain ⟨hshown, hsome, -⟩ :=
    sendNotification_spec ((RuleSynchronization.init now).afterCalls before) p.1
  obtain ⟨hmessage, hstatus, hexception⟩ := hshown p.2 hmem
  refine ⟨hmessage, hstatus, hexception.trans ?_⟩
  cases hgiven : p.1.exception with
  | some exception => rfl
  | none =>
      rw [exception_afterCalls_init]
      exact h before p.1 after hcalls (hsome.mp (List.ne_nil_of_mem hmem)) hgiven

/-- For every sequence of calls on a new object, each notification shows what its own call was
    given exactly if none without an exception comes after one with an exception. -/
theorem posts_carry_iff (now : String) (calls : List SendCall) :
    (∀ p ∈ (RuleSynchronization.init now).posts calls, p.1.Carries p.2.notification) ↔
      Unmixed calls :=
  ⟨unmixed_of_posts_carry, fun h => h.posts_carry now⟩

/-- A rule without its text, and then the success of the synchronization. -/
theorem not_posts_carry : ¬ ∀ now calls,
    ∀ p ∈ (RuleSynchronization.init now).posts calls, p.1.Carries p.2.notification := by
  intro h
  let failure : SendCall :=
    ⟨"Failed to write suricata rule.", "ERROR", some "'rule'", "10:00", ⟨some "1", true⟩⟩
  let success : SendCall :=
    ⟨"Successfully synchronized Suricata signatures for sensor1.", "DEPLOYED", none, "10:01",
      ⟨some "2", true⟩⟩
  have hshown := unmixed_of_posts_carry (h "09:59" [failure, success]) [failure] success [] rfl
    ⟨by decide, rfl⟩ rfl
  exact absurd hshown (by decide)

end RulesyncNotifications

end Tfplenum
