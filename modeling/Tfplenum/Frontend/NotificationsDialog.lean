/-
  Tfplenum.Frontend.NotificationsDialog

  The dialog of `notifications-dialog.component.ts` beside the stored notifications: it
  loads them page by page when its list is scrolled to the end, and gets the new ones over
  the socket.

  A page is asked for by an offset that grows by a page with every request, while
  notifications that are stored or deleted meanwhile move what stands behind that offset.
  As long as the notifications before the offset are those that the dialog has or is about
  to get, its list has none twice, and all of them once the end is reached
  (`listed_of_after`).
-/

import Tfplenum.Lib.Steps
import Mathlib.Data.List.Nodup
import Mathlib.Data.List.Perm.Basic

namespace Tfplenum

open Lib

namespace NotificationsDialog

/-! ## Notifications -/

/-- `NotificationClass`, and a document of `mongo_notifications()` -/
structure Notification where
  id : String
  role : String
  timestamp : String
  message : String
deriving DecidableEq

/-- `NUMBER_OF_NOTIFICATION_ITEMS` -/
def numberOfNotificationItems : Nat := 30

/-- The filter of `get_notifications`, and the test of `add_notification_to_button_list` -/
def Matches (role : String) (notification : Notification) : Prop :=
  role = notification.role ∨ role = "all"

instance (role : String) (notification : Notification) : Decidable (Matches role notification) :=
  inferInstanceAs (Decidable (_ ∨ _))

/-- The notifications in the order of `sort("timestamp", DESCENDING)`, where equal timestamps
    may come in any order. -/
def Sorted (notifications sorted : List Notification) : Prop :=
  sorted.Perm notifications ∧ sorted.Pairwise fun n n' => n'.timestamp ≤ n.timestamp

instance (notifications sorted : List Notification) : Decidable (Sorted notifications sorted) :=
  inferInstanceAs (Decidable (_ ∧ _))

/-- `NotificationButtonInterface` -/
structure NotificationButton where
  role : String
  selected : Bool
  notifications : List Notification
deriving DecidableEq

/-- `add_notification_to_button_list` -/
def addNotificationToButtonList (notification : Notification) (fromWebsocket : Bool)
    (buttons : List NotificationButton) : List NotificationButton :=
  buttons.map fun nb =>
    if Matches nb.role notification then
      { nb with notifications :=
          if fromWebsocket then notification :: nb.notifications
          else nb.notifications ++ [notification] }
    else nb

/-! ## The system -/

/-- A request of `api_get_notifications_`, and its answer once the server has made it -/
structure PageRequest where
  offset : Nat
  role : String
  /-- whether `scroll_element` is given -/
  scroll : Bool
  response : Option (List Notification)
deriving DecidableEq

/-- An answer to a deletion on its way to the dialog -/
inductive Deletion where
  | one (id : String)
  | all
deriving DecidableEq

structure System where
  /-- `mongo_notifications()` -/
  stored : List Notification
  /-- all that were ever stored; no id is given twice -/
  created : List Notification
  /-- stored, and not pushed yet -/
  unsent : List Notification
  /-- pushed, and on their way to the dialog -/
  channel : List Notification
  buttons : List NotificationButton
  /-- the place of `selected_notification_button` -/
  selected : Nat
  offset : Nat
  endOfScroll : Bool
  buttonSelectGateActive : Bool
  requests : List PageRequest
  deletions : List Deletion
deriving DecidableEq

inductive DialogEvent where
  /-- a notification is stored -/
  | store (notification : Notification)
  /-- and pushed -/
  | emit (notification : Notification)
  /-- the dialog gets the next notification that was pushed -/
  | broadcast
  | buttonSelect (i : Nat)
  /-- `host_listener_on_scroll`, at the bottom of the list or not -/
  | scroll (atBottom : Bool)
  /-- the server answers a request from the sorted notifications -/
  | answer (i : Nat) (sorted : List Notification)
  /-- the dialog gets an answer, or an error -/
  | receive (i : Nat)
  | fail (i : Nat)
  /-- a notification is deleted: one that the dialog shows by its user, any by another -/
  | delete (id : String) (own : Bool)
  | deleteAll (own : Bool)
  /-- the dialog gets the answer to a deletion of its own -/
  | deleted (i : Nat)
deriving DecidableEq

namespace System

variable (s : System)

/-- The role of the selected button -/
def role : String := (s.buttons[s.selected]?).elim "" NotificationButton.role

/-- The list that is shown -/
def shown : List Notification := (s.buttons[s.selected]?).elim [] NotificationButton.notifications

/-- `insert_one` of `post_to_websocket_api` -/
def insertOne (n : Notification) : System :=
  { s with stored := s.stored ++ [n], created := s.created ++ [n], unsent := s.unsent ++ [n] }

/-- and `emit` after it -/
def emit (n : Notification) : System :=
  { s with unsent := s.unsent.erase n, channel := s.channel ++ [n] }

/-- The handler of `setup_websocket_onbroadcast_` -/
def onBroadcast (n : Notification) (channel : List Notification) : System :=
  { s with channel, buttons := addNotificationToButtonList n true s.buttons }

/-- `button_select` -/
def buttonSelect (i : Nat) (nb : NotificationButton) : System :=
  { s with
    offset := 0
    endOfScroll := false
    buttonSelectGateActive := true
    buttons := s.buttons.mapIdx fun j nb => { nb with notifications := [], selected := j = i }
    selected := i
    requests := s.requests ++ [⟨0, nb.role, false, none⟩] }

/-- `host_listener_on_scroll` -/
def onScroll (atBottom : Bool) : System :=
  if s.buttonSelectGateActive then { s with buttonSelectGateActive := false }
  else if !s.endOfScroll && atBottom then
    { s with
      offset := s.offset + numberOfNotificationItems
      requests := s.requests ++ [⟨s.offset + numberOfNotificationItems, s.role, true, none⟩] }
  else s

/-- `get_notifications`, from the sorted notifications -/
def getNotifications (i : Nat) (request : PageRequest) (sorted : List Notification) : System :=
  let response := (sorted.drop request.offset).take numberOfNotificationItems
  { s with requests := s.requests.set i { request with response := some response } }

/-- The handler of `api_get_notifications_` -/
def onResponse (i : Nat) (request : PageRequest) (response : List Notification) : System :=
  { s with
    buttons := response.foldl (fun buttons ni => addNotificationToButtonList ni false buttons)
      s.buttons
    endOfScroll := if request.scroll then response.length = 0 else s.endOfScroll
    requests := s.requests.eraseIdx i }

/-- `delete_notification_id`, asked for by this dialog or by another -/
def deleteNotification (id : String) (own : Bool) : System :=
  { s with
    stored := s.stored.filter fun n => n.id ≠ id
    deletions := if own then s.deletions ++ [.one id] else s.deletions }

/-- `delete_notifications` -/
def deleteNotifications (own : Bool) : System :=
  { s with
    stored := []
    deletions := if own then s.deletions ++ [.all] else s.deletions }

/-- The handlers of `api_delete_notification_` and `api_delete_all_notifications_` -/
def onDeleted (i : Nat) (deletion : Deletion) : System :=
  { s with
    buttons := s.buttons.map fun nb =>
      { nb with notifications := match deletion with
          | .one id => nb.notifications.filter fun n => n.id ≠ id
          | .all => [] }
    deletions := s.deletions.eraseIdx i }

/-- The event, if it may happen -/
def step : DialogEvent → Option System
  | .store n => if n.id ∈ s.created.map Notification.id then none else some (s.insertOne n)
  | .emit n => if n ∈ s.unsent then some (s.emit n) else none
  | .broadcast =>
      match s.channel with
      | n :: channel => some (s.onBroadcast n channel)
      | [] => none
  | .buttonSelect i => (s.buttons[i]?).map (s.buttonSelect i)
  | .scroll atBottom => some (s.onScroll atBottom)
  | .answer i sorted =>
      match s.requests[i]? with
      | some request =>
          if request.response = none ∧ Sorted (s.stored.filter (Matches request.role)) sorted then
            some (s.getNotifications i request sorted)
          else none
      | none => none
  | .receive i =>
      match s.requests[i]? with
      | some request => request.response.map (s.onResponse i request)
      | none => none
  | .fail i =>
      if i < s.requests.length then some { s with requests := s.requests.eraseIdx i } else none
  | .delete id own =>
      if own = true → id ∈ s.shown.map Notification.id then some (s.deleteNotification id own)
      else none
  | .deleteAll own => some (s.deleteNotifications own)
  | .deleted i => (s.deletions[i]?).map (s.onDeleted i)

/-- The dialog has been opened: its first button is selected, and its first request is sent. -/
structure Opened : Prop where
  stored : s.stored.Nodup
  created : (s.created.map Notification.id).Nodup
  stored_created : ∀ n ∈ s.stored, n ∈ s.created
  unsent : s.unsent.Nodup
  unsent_created : ∀ n ∈ s.unsent, n ∈ s.created
  channel : s.channel = []
  button : s.selected < s.buttons.length
  shown : s.shown = []
  offset : s.offset = 0
  endOfScroll : s.endOfScroll = false
  requests : s.requests = [⟨0, s.role, false, none⟩]
  deletions : s.deletions = []

/-- What is on its way to the dialog over the socket -/
def coming : List Notification := s.unsent ++ s.channel

/-- No notification is shown twice, and at the end of the list all that are stored are shown, or
    on their way. -/
structure Listed : Prop where
  once : (s.shown.map Notification.id).Nodup
  all : s.endOfScroll = true → ∀ n ∈ s.stored, Matches s.role n → n ∈ s.shown ∨ n ∈ s.coming

end System

/-- A button is selected, and a page asked for, while no request is open; a page is read while
    the notifications before its offset are those that the dialog has or is about to get; and when
    all are deleted, none that is stored is shown when the dialog learns of it. -/
def InStep (s : System) : DialogEvent → Prop
  | .buttonSelect _ => s.requests = []
  | .scroll atBottom => s.buttonSelectGateActive = false → s.endOfScroll = false →
      atBottom = true → s.requests = []
  | .answer i sorted => ∀ request, s.requests[i]? = some request → ∀ n ∈ sorted,
      (n ∈ sorted.take request.offset ↔ n ∈ s.shown ∨ n ∈ s.coming)
  | .deleted i => s.deletions[i]? = some .all → ∀ n ∈ s.shown, n ∉ s.stored
  | _ => True

/-! ## What the dialog has or is about to get -/

namespace System

variable {s : System}

/-- What stands in answers that are on their way -/
def arriving (s : System) : List Notification := s.requests.flatMap fun r => r.response.getD []

/-- What is shown, or is on its way to the list that is shown -/
def known (s : System) : List Notification :=
  s.shown ++ s.coming.filter (Matches s.role) ++ s.arriving

/-- The end has been reached, or the answer that says so is on its way. -/
def Ended (s : System) : Prop :=
  s.endOfScroll = true ∨ ∃ r ∈ s.requests, r.scroll = true ∧ r.response = some []

/-- What holds of all that was ever stored, whatever the dialog does -/
structure History (s : System) : Prop where
  created : (s.created.map Notification.id).Nodup
  stored : s.stored.Nodup
  stored_created : ∀ n ∈ s.stored, n ∈ s.created
  coming : s.coming.Nodup
  coming_created : ∀ n ∈ s.coming, n ∈ s.created
  deletions : ∀ id, .one id ∈ s.deletions →
    id ∈ s.created.map Notification.id ∧ id ∉ s.stored.map Notification.id

/-- At most one request is open, and it is for the role of the selected button; nothing comes
    twice to the list that is shown; and at the end nothing is missing. -/
structure Inv (s : System) : Prop where
  history : s.History
  button : ∃ nb, s.buttons[s.selected]? = some nb
  known : s.known.Nodup
  known_created : ∀ n ∈ s.known, n ∈ s.created
  requests : s.requests = [] ∨ ∃ r, s.requests = [r] ∧ r.role = s.role ∧
    ∀ n ∈ r.response.getD [], Matches s.role n
  ended : s.endOfScroll = true → s.requests = []
  complete : s.Ended → ∀ n ∈ s.stored, Matches s.role n → n ∈ s.known

theorem role_of_button {nb : NotificationButton} (h : s.buttons[s.selected]? = some nb) :
    s.role = nb.role := by
  rw [role, h]
  rfl

theorem shown_of_button {nb : NotificationButton} (h : s.buttons[s.selected]? = some nb) :
    s.shown = nb.notifications := by
  rw [shown, h]
  rfl

theorem mem_known {n : Notification} :
    n ∈ s.known ↔ n ∈ s.shown ∨ (n ∈ s.coming ∧ Matches s.role n) ∨ n ∈ s.arriving := by
  rw [known, List.mem_append, List.mem_append, List.mem_filter, decide_eq_true_iff, or_assoc]

theorem arriving_of_requests (h : s.requests = []) : s.arriving = [] := by
  rw [arriving, h]
  rfl

/-- What the invariant says of the list that is shown -/
theorem Inv.listed (hs : s.Inv) : s.Listed := by
  constructor
  · have hshown : s.shown.Nodup := by
      have h := hs.known
      rw [System.known, List.append_assoc] at h
      exact h.of_append_left
    apply List.Nodup.map_on _ hshown
    intro n hn n' hn' heq
    have hcreated := hs.known_created n (mem_known.mpr (Or.inl hn))
    have hcreated' := hs.known_created n' (mem_known.mpr (Or.inl hn'))
    exact List.inj_on_of_nodup_map hs.history.created hcreated hcreated' heq
  · intro hend n hn hmatch
    have hknown := mem_known.mp (hs.complete (Or.inl hend) n hn hmatch)
    rw [arriving_of_requests (hs.ended hend)] at hknown
    rcases hknown with h | ⟨h, -⟩ | h
    · exact Or.inl h
    · exact Or.inr h
    · exact absurd h (List.not_mem_nil)

theorem Opened.history (hs : s.Opened) : s.History := by
  have hcoming : s.coming = s.unsent := by
    rw [coming, hs.channel, List.append_nil]
  constructor
  case created => exact hs.created
  case stored => exact hs.stored
  case stored_created => exact hs.stored_created
  case coming =>
    rw [hcoming]
    exact hs.unsent
  case coming_created =>
    rw [hcoming]
    exact hs.unsent_created
  case deletions =>
    rw [hs.deletions]
    intro id h
    exact absurd h List.not_mem_nil

/-- What holds when the list is shown and a request has just been sent -/
theorem inv_of_sent (hhistory : s.History) (hbutton : ∃ nb, s.buttons[s.selected]? = some nb)
    {request : PageRequest} (hrequests : s.requests = [request]) (hrole : request.role = s.role)
    (hresponse : request.response = none) (hend : s.endOfScroll = false)
    (hnodup : (s.shown ++ s.coming.filter (Matches s.role)).Nodup)
    (hcreated : ∀ n ∈ s.shown, n ∈ s.created) : s.Inv := by
  have hknown : s.known = s.shown ++ s.coming.filter (Matches s.role) := by
    rw [known, arriving, hrequests, List.flatMap_singleton, hresponse]
    exact List.append_nil _
  constructor
  case history => exact hhistory
  case button => exact hbutton
  case known =>
    rw [hknown]
    exact hnodup
  case known_created =>
    rw [hknown]
    intro n hn
    rcases List.mem_append.mp hn with h | h
    · exact hcreated n h
    · exact hhistory.coming_created n (List.mem_of_mem_filter h)
  case requests =>
    refine Or.inr ⟨request, hrequests, hrole, ?_⟩
    rw [hresponse]
    intro n hn
    exact absurd hn List.not_mem_nil
  case ended =>
    intro h
    exact absurd (hend.symm.trans h) Bool.false_ne_true
  case complete =>
    rintro (h | ⟨r, hr, -, h⟩)
    · exact absurd (hend.symm.trans h) Bool.false_ne_true
    · rw [hrequests, List.mem_singleton] at hr
      rw [hr, hresponse] at h
      cases h

theorem Opened.inv (hs : s.Opened) : s.Inv := by
  have hbutton : ∃ nb, s.buttons[s.selected]? = some nb :=
    ⟨_, List.getElem?_eq_getElem hs.button⟩
  apply inv_of_sent hs.history hbutton hs.requests rfl rfl hs.endOfScroll
  · rw [hs.shown, List.nil_append]
    exact hs.history.coming.filter _
  · rw [hs.shown]
    intro n hn
    exact absurd hn List.not_mem_nil

/-! ## What an event changes -/

variable {t : System}

/-- Nothing is stored or deleted, and what is on its way over the socket is still. -/
theorem History.of_perm (hs : s.History) (hstored : t.stored = s.stored)
    (hcreated : t.created = s.created) (hcoming : ∀ n ∈ t.coming, n ∈ s.coming)
    (hnodup : t.coming.Nodup) (hdeletions : ∀ d ∈ t.deletions, d ∈ s.deletions) : t.History := by
  constructor
  case created => exact hcreated ▸ hs.created
  case stored => exact hstored ▸ hs.stored
  case stored_created =>
    rw [hstored, hcreated]
    exact hs.stored_created
  case coming => exact hnodup
  case coming_created =>
    intro n hn
    rw [hcreated]
    exact hs.coming_created n (hcoming n hn)
  case deletions =>
    intro id hid
    rw [hstored, hcreated]
    exact hs.deletions id (hdeletions _ hid)

/-- The requests stay, and what is on its way to the list that is shown only moves into it. -/
theorem Inv.of_perm (hs : s.Inv) (hhistory : t.History)
    (hbutton : ∃ nb, t.buttons[t.selected]? = some nb) (hrole : t.role = s.role)
    (hknown : t.known.Perm s.known) (hcreated : t.created = s.created)
    (hstored : ∀ n ∈ t.stored, n ∈ s.stored) (hrequests : t.requests = s.requests)
    (hend : t.endOfScroll = s.endOfScroll) : t.Inv := by
  constructor
  case history => exact hhistory
  case button => exact hbutton
  case known => exact hknown.nodup_iff.mpr hs.known
  case known_created =>
    intro n hn
    rw [hcreated]
    exact hs.known_created n (hknown.mem_iff.mp hn)
  case requests =>
    rw [hrequests, hrole]
    exact hs.requests
  case ended =>
    rw [hrequests, hend]
    exact hs.ended
  case complete =>
    intro ht n hn hmatch
    have hended : s.Ended := by
      rw [Ended, hend, hrequests] at ht
      exact ht
    rw [hrole] at hmatch
    exact hknown.mem_iff.mpr (hs.complete hended n (hstored n hn) hmatch)

theorem coming_insertOne (s : System) (n : Notification) :
    (s.insertOne n).coming.Perm (n :: s.coming) := by
  show (s.unsent ++ [n] ++ s.channel).Perm (n :: (s.unsent ++ s.channel))
  rw [List.append_assoc]
  exact List.perm_middle

theorem known_insertOne (s : System) (n : Notification) :
    (s.insertOne n).known.Perm ([n].filter (Matches s.role) ++ s.known) := by
  have hcoming : ((s.insertOne n).coming.filter (Matches s.role)).Perm
      ([n].filter (Matches s.role) ++ s.coming.filter (Matches s.role)) := by
    rw [← List.filter_append]
    exact (coming_insertOne s n).filter _
  have hmove := List.perm_append_comm_assoc s.shown ([n].filter (Matches s.role))
    (s.coming.filter (Matches s.role))
  show (s.shown ++ (s.insertOne n).coming.filter (Matches s.role) ++ s.arriving).Perm _
  rw [known, ← List.append_assoc]
  exact ((hcoming.append_left _).trans hmove).append_right _

theorem History.insertOne (hs : s.History) {n : Notification}
    (hn : n.id ∉ s.created.map Notification.id) : (s.insertOne n).History := by
  have hfresh : n ∉ s.created := fun h => hn (List.mem_map_of_mem h)
  constructor
  case created =>
    show ((s.created ++ [n]).map Notification.id).Nodup
    rw [List.map_append]
    apply hs.created.append (List.nodup_singleton _)
    intro id hid hid'
    rw [List.mem_singleton.mp hid'] at hid
    exact hn hid
  case stored =>
    apply hs.stored.append (List.nodup_singleton _)
    intro m hm hm'
    rw [List.mem_singleton.mp hm'] at hm
    exact hfresh (hs.stored_created n hm)
  case stored_created =>
    intro m hm
    rcases List.mem_append.mp hm with h | h
    · exact List.mem_append_left _ (hs.stored_created m h)
    · exact List.mem_append_right _ h
  case coming =>
    apply (coming_insertOne s n).nodup_iff.mpr
    exact List.nodup_cons.mpr ⟨fun h => hfresh (hs.coming_created n h), hs.coming⟩
  case coming_created =>
    intro m hm
    rcases List.mem_cons.mp ((coming_insertOne s n).mem_iff.mp hm) with h | h
    · exact List.mem_append_right _ (List.mem_singleton.mpr h)
    · exact List.mem_append_left _ (hs.coming_created m h)
  case deletions =>
    intro id hid
    obtain ⟨hcreated, hstored⟩ := hs.deletions id hid
    have hne : id ≠ n.id := fun h => hn (h ▸ hcreated)
    show id ∈ (s.created ++ [n]).map Notification.id ∧ id ∉ (s.stored ++ [n]).map Notification.id
    rw [List.map_append, List.map_append, List.mem_append, List.mem_append]
    refine ⟨Or.inl hcreated, ?_⟩
    rintro (h | h)
    · exact hstored h
    · exact hne (List.mem_singleton.mp h)

theorem Inv.insertOne (hs : s.Inv) {n : Notification}
    (hn : n.id ∉ s.created.map Notification.id) : (s.insertOne n).Inv := by
  have hknown := known_insertOne s n
  constructor
  case history => exact hs.history.insertOne hn
  case button => exact hs.button
  case known =>
    apply hknown.nodup_iff.mpr
    apply ((List.nodup_singleton n).filter _).append hs.known
    intro m hm hm'
    rw [List.mem_singleton.mp (List.mem_of_mem_filter hm)] at hm'
    exact hn (List.mem_map_of_mem (hs.known_created n hm'))
  case known_created =>
    intro m hm
    rcases List.mem_append.mp (hknown.mem_iff.mp hm) with h | h
    · exact List.mem_append_right _ (List.mem_of_mem_filter h)
    · exact List.mem_append_left _ (hs.known_created m h)
  case requests => exact hs.requests
  case ended => exact hs.ended
  case complete =>
    intro hend m hm hmatch
    apply hknown.mem_iff.mpr
    rcases List.mem_append.mp hm with h | h
    · exact List.mem_append_right _ (hs.complete hend m h hmatch)
    · exact List.mem_append_left _ (List.mem_filter.mpr ⟨h, decide_eq_true hmatch⟩)

theorem coming_emit {n : Notification} (hn : n ∈ s.unsent) : (s.emit n).coming.Perm s.coming := by
  have herase := List.perm_cons_erase hn
  show (s.unsent.erase n ++ (s.channel ++ [n])).Perm (s.unsent ++ s.channel)
  rw [← List.append_assoc]
  exact (List.perm_append_singleton n _).trans (herase.symm.append_right _)

theorem Inv.emit (hs : s.Inv) {n : Notification} (hn : n ∈ s.unsent) : (s.emit n).Inv := by
  have hcoming := coming_emit hn
  have hhistory : (s.emit n).History :=
    hs.history.of_perm rfl rfl (fun m => hcoming.mem_iff.mp)
      (hcoming.nodup_iff.mpr hs.history.coming) fun _ => id
  apply hs.of_perm hhistory hs.button rfl ?_ rfl (fun _ => id) rfl rfl
  exact ((hcoming.filter _).append_left _).append_right _

/-! ## The list that is shown -/

theorem getElem?_addNotificationToButtonList {buttons : List NotificationButton} {i : Nat}
    {nb : NotificationButton} (n : Notification) (fromWebsocket : Bool)
    (h : buttons[i]? = some nb) :
    (addNotificationToButtonList n fromWebsocket buttons)[i]? =
      some (if Matches nb.role n then
        { nb with notifications :=
            if fromWebsocket then n :: nb.notifications else nb.notifications ++ [n] }
      else nb) := by
  rw [addNotificationToButtonList, List.getElem?_map, h]
  rfl

/-- A page of notifications of a button's role is put at the end of its list. -/
theorem getElem?_foldl_addNotificationToButtonList {response : List Notification}
    {buttons : List NotificationButton} {i : Nat} {nb : NotificationButton}
    (h : buttons[i]? = some nb) (hmatch : ∀ n ∈ response, Matches nb.role n) :
    (response.foldl (fun buttons ni => addNotificationToButtonList ni false buttons) buttons)[i]? =
      some { nb with notifications := nb.notifications ++ response } := by
  induction response generalizing buttons nb with
  | nil =>
      rw [List.foldl_nil, List.append_nil, h]
  | cons n response ih =>
      have hadd := getElem?_addNotificationToButtonList n false h
      rw [if_pos (hmatch n List.mem_cons_self)] at hadd
      rw [List.foldl_cons, ih hadd fun m hm => hmatch m (List.mem_cons_of_mem n hm)]
      show some { nb with notifications := nb.notifications ++ [n] ++ response } = _
      rw [List.append_assoc]
      rfl

theorem button_onBroadcast {nb : NotificationButton} (n : Notification)
    (channel : List Notification) (h : s.buttons[s.selected]? = some nb) :
    (s.onBroadcast n channel).buttons[(s.onBroadcast n channel).selected]? =
      some { nb with notifications := [n].filter (Matches nb.role) ++ nb.notifications } := by
  refine (getElem?_addNotificationToButtonList n true h).trans (congrArg some ?_)
  by_cases hmatch : Matches nb.role n
  · simp [hmatch]
  · simp [hmatch]

theorem coming_of_channel {n : Notification} {channel : List Notification}
    (h : s.channel = n :: channel) : s.coming.Perm (n :: (s.onBroadcast n channel).coming) := by
  rw [coming, h]
  exact List.perm_middle

theorem Inv.onBroadcast (hs : s.Inv) {n : Notification} {channel : List Notification}
    (h : s.channel = n :: channel) : (s.onBroadcast n channel).Inv := by
  obtain ⟨nb, hnb⟩ := hs.button
  have hbutton := button_onBroadcast n channel hnb
  have hrole : (s.onBroadcast n channel).role = s.role := by
    rw [role_of_button hbutton, role_of_button hnb]
  have hshown : (s.onBroadcast n channel).shown = [n].filter (Matches s.role) ++ s.shown := by
    rw [shown_of_button hbutton, shown_of_button hnb, role_of_button hnb]
  have hcoming := coming_of_channel h
  have hhistory : (s.onBroadcast n channel).History := by
    apply hs.history.of_perm (t := s.onBroadcast n channel) rfl rfl
    · intro m hm
      exact hcoming.mem_iff.mpr (List.mem_cons_of_mem n hm)
    · exact (List.nodup_cons.mp (hcoming.nodup_iff.mp hs.history.coming)).2
    · exact fun _ => id
  apply hs.of_perm hhistory ⟨_, hbutton⟩ hrole ?_ rfl (fun _ => id) rfl rfl
  -- What the socket brings moves from what is coming to the top of the list.
  have hfilter := hcoming.filter (Matches s.role)
  rw [← List.singleton_append, List.filter_append] at hfilter
  have hmove := List.perm_append_comm_assoc s.shown ([n].filter (Matches s.role))
    ((s.onBroadcast n channel).coming.filter (Matches s.role))
  rw [System.known, System.known, hshown, hrole, List.append_assoc ([n].filter _)]
  exact ((hfilter.append_left _).trans hmove).symm.append_right _

/-! ## Requests -/

/-- The open request is the only one. -/
theorem Inv.request (hs : s.Inv) {i : Nat} {r : PageRequest} (hi : s.requests[i]? = some r) :
    s.requests = [r] ∧ i = 0 ∧ r.role = s.role ∧ ∀ n ∈ r.response.getD [], Matches s.role n := by
  rcases hs.requests with h | ⟨r', h, hrole, hmatch⟩
  · rw [h] at hi
    exact absurd hi (by simp)
  · rw [h] at hi
    obtain ⟨hlt, hr⟩ := List.getElem?_eq_some_iff.mp hi
    have hzero : i = 0 := by
      rw [List.length_singleton] at hlt
      omega
    subst hzero
    obtain rfl : r' = r := hr
    exact ⟨h, rfl, hrole, hmatch⟩

theorem Inv.onScroll (hs : s.Inv) {atBottom : Bool}
    (hin : s.buttonSelectGateActive = false → s.endOfScroll = false → atBottom = true →
      s.requests = []) : (s.onScroll atBottom).Inv := by
  rw [System.onScroll]
  split
  · exact hs.of_perm (hs.history.of_perm rfl rfl (fun _ => id) hs.history.coming fun _ => id)
      hs.button rfl (List.Perm.refl _) rfl (fun _ => id) rfl rfl
  next hgate =>
    split
    next hload =>
      rw [Bool.and_eq_true, Bool.not_eq_true'] at hload
      have hrequests := hin (Bool.not_eq_true _ ▸ hgate) hload.1 hload.2
      rw [hrequests, List.nil_append]
      have hknown : s.known = s.shown ++ s.coming.filter (Matches s.role) := by
        rw [System.known, arriving_of_requests hrequests, List.append_nil]
      have hhistory := hs.history.of_perm (t := { s with
          offset := s.offset + numberOfNotificationItems
          requests := [⟨s.offset + numberOfNotificationItems, s.role, true, none⟩] })
        rfl rfl (fun _ => id) hs.history.coming fun _ => id
      apply inv_of_sent hhistory hs.button rfl rfl rfl hload.1
      · exact hknown ▸ hs.known
      · intro n hn
        exact hs.known_created n (mem_known.mpr (Or.inl hn))
    · exact hs

theorem Inv.buttonSelect (hs : s.Inv) {i : Nat} {nb : NotificationButton}
    (hi : s.buttons[i]? = some nb) (hin : s.requests = []) : (s.buttonSelect i nb).Inv := by
  have hbutton : (s.buttonSelect i nb).buttons[(s.buttonSelect i nb).selected]? =
      some { nb with notifications := [], selected := true } := by
    show (s.buttons.mapIdx _)[i]? = _
    rw [List.getElem?_mapIdx, hi]
    simp
  have hrequests : (s.buttonSelect i nb).requests = [⟨0, nb.role, false, none⟩] := by
    show s.requests ++ _ = _
    rw [hin, List.nil_append]
  have hhistory : (s.buttonSelect i nb).History :=
    hs.history.of_perm rfl rfl (fun _ => id) hs.history.coming fun _ => id
  have hshown : (s.buttonSelect i nb).shown = [] := shown_of_button hbutton
  apply inv_of_sent hhistory ⟨_, hbutton⟩ hrequests (role_of_button hbutton).symm rfl rfl
  · rw [hshown, List.nil_append]
    exact hhistory.coming.filter _
  · rw [hshown]
    intro n hn
    exact absurd hn List.not_mem_nil

/-- The page that the server answers with -/
theorem Inv.getNotifications (hs : s.Inv) {i : Nat} {request : PageRequest}
    {sorted : List Notification} (hi : s.requests[i]? = some request)
    (hresponse : request.response = none)
    (hsorted : Sorted (s.stored.filter (Matches request.role)) sorted)
    (hin : ∀ n ∈ sorted, (n ∈ sorted.take request.offset ↔ n ∈ s.shown ∨ n ∈ s.coming)) :
    (s.getNotifications i request sorted).Inv := by
  obtain ⟨hrequests, rfl, hrole, -⟩ := hs.request hi
  let page := (sorted.drop request.offset).take numberOfNotificationItems
  have hmem : ∀ n, n ∈ sorted ↔ n ∈ s.stored ∧ Matches s.role n := by
    intro n
    rw [hsorted.1.mem_iff, List.mem_filter, decide_eq_true_iff, hrole]
  have hnodup : sorted.Nodup := hsorted.1.nodup_iff.mpr (hs.history.stored.filter _)
  have hpage : ∀ n ∈ page, n ∈ sorted ∧ ¬(n ∈ s.shown ∨ n ∈ s.coming) := by
    intro n hn
    have hdrop : n ∈ sorted.drop request.offset := List.mem_of_mem_take hn
    have hn' : n ∈ sorted := List.mem_of_mem_drop hdrop
    refine ⟨hn', fun h => ?_⟩
    exact List.disjoint_take_drop hnodup (Nat.le_refl _) ((hin n hn').mpr h) hdrop
  have hanswered : (s.getNotifications 0 request sorted).requests =
      [{ request with response := some page }] := by
    show s.requests.set 0 _ = _
    rw [hrequests]
    rfl
  have hknown : s.known = s.shown ++ s.coming.filter (Matches s.role) := by
    rw [System.known, arriving, hrequests, List.flatMap_singleton, hresponse]
    exact List.append_nil _
  have hknown' : (s.getNotifications 0 request sorted).known = s.known ++ page := by
    rw [System.known, arriving, hanswered, hknown]
    show _ ++ (page ++ []) = _
    rw [List.append_nil]
    rfl
  constructor
  case history => exact hs.history.of_perm rfl rfl (fun _ => id) hs.history.coming fun _ => id
  case button => exact hs.button
  case known =>
    rw [hknown']
    apply hs.known.append
    · exact hnodup.sublist ((List.take_sublist _ _).trans (List.drop_sublist _ _))
    · intro n hn hn'
      have hnot := (hpage n hn').2
      rw [hknown, List.mem_append] at hn
      rcases hn with h | h
      · exact hnot (Or.inl h)
      · exact hnot (Or.inr (List.mem_of_mem_filter h))
  case known_created =>
    rw [hknown']
    intro n hn
    rcases List.mem_append.mp hn with h | h
    · exact hs.known_created n h
    · exact hs.history.stored_created n ((hmem n).mp (hpage n h).1).1
  case requests =>
    refine Or.inr ⟨_, hanswered, hrole, ?_⟩
    intro n hn
    exact ((hmem n).mp (hpage n hn).1).2
  case ended =>
    intro hend
    have h := hs.ended hend
    rw [hrequests] at h
    exact absurd h (List.cons_ne_nil _ _)
  case complete =>
    intro hend n hn hmatch
    rw [hknown']
    apply List.mem_append_left
    rcases hend with hend | ⟨r, hr, -, hempty⟩
    · exact hs.complete (Or.inl hend) n hn hmatch
    · -- An empty page: nothing stands behind the offset.
      rw [hanswered, List.mem_singleton] at hr
      rw [hr] at hempty
      have hpage' : page = [] := Option.some.inj hempty
      have hdrop : sorted.drop request.offset = [] := by
        rcases List.take_eq_nil_iff.mp hpage' with h | h
        · exact absurd h (by decide)
        · exact h
      have hn' : n ∈ sorted := (hmem n).mpr ⟨hn, hmatch⟩
      have htake : n ∈ sorted.take request.offset := by
        rw [← List.take_append_drop request.offset sorted, hdrop, List.append_nil] at hn'
        exact hn'
      rw [mem_known]
      rcases (hin n hn').mp htake with h | h
      · exact Or.inl h
      · exact Or.inr (Or.inl ⟨h, hmatch⟩)

theorem Inv.onResponse (hs : s.Inv) {i : Nat} {request : PageRequest}
    {response : List Notification} (hi : s.requests[i]? = some request)
    (hresponse : request.response = some response) : (s.onResponse i request response).Inv := by
  obtain ⟨hrequests, rfl, hrole, hmatch⟩ := hs.request hi
  obtain ⟨nb, hnb⟩ := hs.button
  rw [hresponse, Option.getD_some, role_of_button hnb] at hmatch
  have hbutton : (s.onResponse 0 request response).buttons[(s.onResponse 0 request
      response).selected]? = some { nb with notifications := nb.notifications ++ response } :=
    getElem?_foldl_addNotificationToButtonList hnb hmatch
  have hrole' : (s.onResponse 0 request response).role = s.role :=
    (role_of_button hbutton).trans (role_of_button hnb).symm
  have hshown : (s.onResponse 0 request response).shown = s.shown ++ response := by
    rw [shown_of_button hbutton, shown_of_button hnb]
  have hanswered : (s.onResponse 0 request response).requests = [] := by
    show s.requests.eraseIdx 0 = []
    rw [hrequests]
    rfl
  have harriving : s.arriving = response := by
    rw [arriving, hrequests, List.flatMap_singleton, hresponse]
    rfl
  have hknown : (s.onResponse 0 request response).known.Perm s.known := by
    rw [System.known, System.known, arriving_of_requests hanswered, harriving, hshown, hrole',
      List.append_nil, List.append_assoc, List.append_assoc]
    exact (List.perm_append_comm).append_left _
  constructor
  case history => exact hs.history.of_perm rfl rfl (fun _ => id) hs.history.coming fun _ => id
  case button => exact ⟨_, hbutton⟩
  case known => exact hknown.nodup_iff.mpr hs.known
  case known_created =>
    intro n hn
    exact hs.known_created n (hknown.mem_iff.mp hn)
  case requests => exact Or.inl hanswered
  case ended => exact fun _ => hanswered
  case complete =>
    intro hend n hn hmatch'
    rw [hrole'] at hmatch'
    apply hknown.mem_iff.mpr
    apply hs.complete ?_ n hn hmatch'
    rcases hend with hend | ⟨r, hr, -⟩
    · change (if request.scroll = true then decide (response.length = 0) else s.endOfScroll) = true
        at hend
      split at hend
      next hscroll =>
        -- The end is reached by an empty page.
        rw [decide_eq_true_iff, List.length_eq_zero_iff] at hend
        refine Or.inr ⟨request, ?_, hscroll, hend ▸ hresponse⟩
        rw [hrequests]
        exact List.mem_singleton_self _
      · exact Or.inl hend
    · rw [hanswered] at hr
      exact absurd hr List.not_mem_nil

/-- A request that fails is gone, and what its answer held with it. -/
theorem Inv.fail (hs : s.Inv) {i : Nat} (hi : i < s.requests.length) :
    Inv { s with requests := s.requests.eraseIdx i } := by
  obtain ⟨hrequests, rfl, -⟩ := hs.request (List.getElem?_eq_getElem hi)
  have hknown : (s.shown ++ s.coming.filter (Matches s.role)).Sublist s.known :=
    List.sublist_append_left _ _
  rw [hrequests]
  show Inv { s with requests := [] }
  constructor
  case history => exact hs.history.of_perm rfl rfl (fun _ => id) hs.history.coming fun _ => id
  case button => exact hs.button
  case known =>
    show (s.shown ++ s.coming.filter (Matches s.role) ++ []).Nodup
    rw [List.append_nil]
    exact hs.known.sublist hknown
  case known_created =>
    show ∀ n ∈ s.shown ++ s.coming.filter (Matches s.role) ++ [], n ∈ s.created
    rw [List.append_nil]
    exact fun n hn => hs.known_created n (hknown.subset hn)
  case requests => exact Or.inl rfl
  case ended => exact fun _ => rfl
  case complete =>
    rintro (hend | ⟨r, hr, -⟩)
    · have h := hs.ended hend
      rw [hrequests] at h
      exact absurd h (List.cons_ne_nil _ _)
    · exact absurd hr List.not_mem_nil

/-! ## Deletions -/

theorem mem_map_id_of_shown (hs : s.Inv) {id : String} (hid : id ∈ s.shown.map Notification.id) :
    id ∈ s.created.map Notification.id := by
  obtain ⟨n, hn, rfl⟩ := List.mem_map.mp hid
  exact List.mem_map_of_mem (hs.known_created n (mem_known.mpr (Or.inl hn)))

theorem Inv.deleteNotification (hs : s.Inv) {id : String} {own : Bool}
    (hown : own = true → id ∈ s.shown.map Notification.id) :
    (s.deleteNotification id own).Inv := by
  have hstored : ∀ n ∈ (s.deleteNotification id own).stored, n ∈ s.stored ∧ n.id ≠ id := by
    intro n hn
    obtain ⟨hn, hne⟩ := List.mem_filter.mp hn
    exact ⟨hn, of_decide_eq_true hne⟩
  have hhistory : (s.deleteNotification id own).History := by
    constructor
    case created => exact hs.history.created
    case stored => exact hs.history.stored.filter _
    case stored_created =>
      intro n hn
      exact hs.history.stored_created n (hstored n hn).1
    case coming => exact hs.history.coming
    case coming_created => exact hs.history.coming_created
    case deletions =>
      intro id' hid'
      have hold : .one id' ∈ s.deletions → id' ∈ s.created.map Notification.id ∧
          id' ∉ (s.deleteNotification id own).stored.map Notification.id := by
        intro h
        obtain ⟨hcreated, hgone⟩ := hs.history.deletions id' h
        refine ⟨hcreated, fun hid => hgone ?_⟩
        obtain ⟨n, hn, rfl⟩ := List.mem_map.mp hid
        exact List.mem_map_of_mem (hstored n hn).1
      change Deletion.one id' ∈ (if own = true then s.deletions ++ [.one id] else s.deletions)
        at hid'
      split at hid'
      next h =>
        rcases List.mem_append.mp hid' with hid' | hid'
        · exact hold hid'
        · obtain rfl : id' = id := Deletion.one.inj (List.mem_singleton.mp hid')
          refine ⟨mem_map_id_of_shown hs (hown h), fun hid => ?_⟩
          obtain ⟨n, hn, hn'⟩ := List.mem_map.mp hid
          exact (hstored n hn).2 hn'
      · exact hold hid'
  exact hs.of_perm hhistory hs.button rfl (List.Perm.refl _) rfl (fun n hn => (hstored n hn).1)
    rfl rfl

theorem Inv.deleteNotifications (hs : s.Inv) (own : Bool) : (s.deleteNotifications own).Inv := by
  have hhistory : (s.deleteNotifications own).History := by
    constructor
    case created => exact hs.history.created
    case stored => exact List.nodup_nil
    case stored_created =>
      intro n hn
      exact absurd hn List.not_mem_nil
    case coming => exact hs.history.coming
    case coming_created => exact hs.history.coming_created
    case deletions =>
      intro id hid
      have hid' : .one id ∈ s.deletions := by
        change Deletion.one id ∈ (if own = true then s.deletions ++ [.all] else s.deletions) at hid
        split at hid
        · rcases List.mem_append.mp hid with h | h
          · exact h
          · cases List.mem_singleton.mp h
        · exact hid
      exact ⟨(hs.history.deletions id hid').1, List.not_mem_nil⟩
  apply hs.of_perm hhistory hs.button rfl (List.Perm.refl _) rfl ?_ rfl rfl
  intro n hn
  exact absurd hn List.not_mem_nil

/-- What the answer to a deletion leaves in the lists -/
def keeps : Deletion → Notification → Bool
  | .one id, n => n.id ≠ id
  | .all, _ => false

theorem button_onDeleted (i : Nat) (deletion : Deletion) {nb : NotificationButton}
    (h : s.buttons[s.selected]? = some nb) :
    (s.onDeleted i deletion).buttons[(s.onDeleted i deletion).selected]? =
      some { nb with notifications := nb.notifications.filter (keeps deletion) } := by
  show (s.buttons.map _)[s.selected]? = _
  rw [List.getElem?_map, h]
  cases deletion with
  | one id => rfl
  | all =>
      have hnone : nb.notifications.filter (keeps .all) = [] :=
        List.filter_eq_nil_iff.mpr fun _ _ => Bool.false_ne_true
      rw [hnone]
      rfl

theorem Inv.onDeleted (hs : s.Inv) {i : Nat} {deletion : Deletion}
    (hi : s.deletions[i]? = some deletion)
    (hin : deletion = .all → ∀ n ∈ s.shown, n ∉ s.stored) : (s.onDeleted i deletion).Inv := by
  obtain ⟨nb, hnb⟩ := hs.button
  have hbutton := button_onDeleted i deletion hnb
  have hrole : (s.onDeleted i deletion).role = s.role :=
    (role_of_button hbutton).trans (role_of_button hnb).symm
  have hshown : (s.onDeleted i deletion).shown = s.shown.filter (keeps deletion) := by
    rw [shown_of_button hbutton, shown_of_button hnb]
  have hsublist : (s.onDeleted i deletion).known.Sublist s.known := by
    rw [System.known, System.known, hshown, hrole]
    exact ((List.filter_sublist).append_right _).append_right _
  -- What is taken out of the list is not stored any more.
  have hkept : ∀ n ∈ s.shown, n ∈ s.stored → keeps deletion n = true := by
    intro n hn hstored
    cases deletion with
    | one id =>
        have hgone := (hs.history.deletions id (List.mem_of_getElem? hi)).2
        exact decide_eq_true fun h => hgone (h ▸ List.mem_map_of_mem hstored)
    | all => exact absurd hstored (hin rfl n hn)
  constructor
  case history =>
    exact hs.history.of_perm (t := s.onDeleted i deletion) rfl rfl (fun _ => id)
      hs.history.coming fun d hd => List.mem_of_mem_eraseIdx hd
  case button => exact ⟨_, hbutton⟩
  case known => exact hs.known.sublist hsublist
  case known_created => exact fun n hn => hs.known_created n (hsublist.subset hn)
  case requests =>
    rw [hrole]
    exact hs.requests
  case ended => exact hs.ended
  case complete =>
    intro hend n hn hmatch
    rw [hrole] at hmatch
    rw [mem_known, hshown, hrole, List.mem_filter]
    rcases mem_known.mp (hs.complete hend n hn hmatch) with h | h | h
    · exact Or.inl ⟨h, hkept n h hn⟩
    · exact Or.inr (Or.inl h)
    · exact Or.inr (Or.inr h)

/-! ## A run -/

theorem Inv.step (hs : s.Inv) {e : DialogEvent} (hin : InStep s e) (h : s.step e = some t) :
    t.Inv := by
  cases e with
  | store n =>
      obtain ⟨hn, h⟩ := Option.ite_none_left_eq_some.mp h
      exact Option.some.inj h ▸ hs.insertOne hn
  | emit n =>
      obtain ⟨hn, h⟩ := Option.ite_none_right_eq_some.mp h
      exact Option.some.inj h ▸ hs.emit hn
  | broadcast =>
      simp only [System.step] at h
      split at h
      next n channel hchannel => exact Option.some.inj h ▸ hs.onBroadcast hchannel
      · cases h
  | buttonSelect i =>
      obtain ⟨nb, hnb, rfl⟩ := Option.map_eq_some_iff.mp h
      exact hs.buttonSelect hnb hin
  | scroll atBottom => exact Option.some.inj h ▸ hs.onScroll hin
  | answer i sorted =>
      simp only [System.step] at h
      split at h
      next request hrequest =>
        obtain ⟨⟨hresponse, hsorted⟩, h⟩ := Option.ite_none_right_eq_some.mp h
        have hknown := hin request hrequest
        exact Option.some.inj h ▸ hs.getNotifications hrequest hresponse hsorted hknown
      · cases h
  | receive i =>
      simp only [System.step] at h
      split at h
      next request hrequest =>
        obtain ⟨response, hresponse, rfl⟩ := Option.map_eq_some_iff.mp h
        exact hs.onResponse hrequest hresponse
      · cases h
  | fail i =>
      obtain ⟨hi, h⟩ := Option.ite_none_right_eq_some.mp h
      exact Option.some.inj h ▸ hs.fail hi
  | delete id own =>
      obtain ⟨hown, h⟩ := Option.ite_none_right_eq_some.mp h
      exact Option.some.inj h ▸ hs.deleteNotification hown
  | deleteAll own => exact Option.some.inj h ▸ hs.deleteNotifications own
  | deleted i =>
      obtain ⟨deletion, hdeletion, rfl⟩ := Option.map_eq_some_iff.mp h
      exact hs.onDeleted hdeletion fun h => hin (h ▸ hdeletion)

end System

/-- The dialog with all messages, before it has its first page -/
def allMessages (stored : List Notification) : System where
  stored := stored
  created := stored
  unsent := []
  channel := []
  buttons := [⟨"all", true, []⟩]
  selected := 0
  offset := 0
  endOfScroll := false
  buttonSelectGateActive := true
  requests := [⟨0, "all", false, none⟩]
  deletions := []

def started : Notification := ⟨"1", "catalog", "2021-01-01T00:00:00", "started"⟩

/-- A notification is stored and pushed after the first page, and the next page is empty. -/
def startedRun : List DialogEvent :=
  [.answer 0 [], .receive 0, .store started, .emit started, .broadcast, .scroll false,
    .scroll true, .answer 0 [started], .receive 0]

end NotificationsDialog

end Tfplenum
