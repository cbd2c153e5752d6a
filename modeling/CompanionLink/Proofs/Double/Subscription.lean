import CompanionLink.Double.Manager
import CompanionLink.Proofs.Lifecycle.Frame

/-! The subscription of the prepared manager: how it begins, what it hands over, how it ends. -/

namespace CompanionLink

namespace ManagerDouble

/-- How often a call was written down. -/
def written (manager : ManagerDouble) (call : ManagerCall) : Nat := manager.calls.count call

/-- Writing down a call counts one more of it, and leaves the count of any other. -/
@[simp] theorem written_record (manager : ManagerDouble) (call other : ManagerCall) :
    (manager.record call).written other =
      manager.written other + if call = other then 1 else 0 := by
  -- The call is appended, so the counts of the two parts add up.
  simp [written, record, List.count_singleton]

/-- A subscription is granted to a manager without one, and begins with nothing queued. -/
theorem subscribe_ok {manager later : ManagerDouble} (granted : manager.subscribe = .ok later) :
    manager.subscribed = false ∧
      later = { manager with subscribed := true, queue := some [] }.record .subscribe := by
  -- Both refusals answer an error, so what is granted came by the last way out.
  unfold subscribe at granted
  split at granted
  · cases granted
  · split at granted
    · cases granted
    · rename_i free
      cases granted
      exact ⟨by simpa using free, rfl⟩

/-- Ending a subscription that is there leaves none, and writes that down. -/
theorem unsubscribe_of_subscribed {manager : ManagerDouble} (live : manager.subscribed = true) :
    manager.unsubscribe = { manager with subscribed := false }.record .unsubscribe := by
  -- The guard is what was assumed.
  rw [unsubscribe, if_pos live]

/-- After an unsubscription there is no subscription, whether or not there was one before. -/
@[simp] theorem subscribed_unsubscribe (manager : ManagerDouble) :
    manager.unsubscribe.subscribed = false := by
  -- With no subscription nothing happens, and then there is none either.
  unfold unsubscribe
  split
  · rfl
  · rename_i free
    simpa using free

/-- A manager that serves a live subscription never refuses a notification. -/
theorem emit_ok {manager : ManagerDouble} {waiting : List Notification}
    (live : manager.subscribed = true) (queued : manager.queue = some waiting)
    (notification : Notification) :
    manager.emit notification =
      .ok { manager with queue := some (waiting ++ [notification]) } := by
  -- Neither of the two refusals applies: someone is subscribed, and the queue is served.
  rw [emit, live, queued]
  rfl

/-- Handing a notification in concerns neither the subscription nor the calls. -/
theorem emit_keeps {manager later : ManagerDouble} {notification : Notification}
    (handed : manager.emit notification = .ok later) :
    later.subscribed = manager.subscribed ∧ later.calls = manager.calls := by
  -- Only the way out that hands in remains, and it changes the queue.
  unfold emit at handed
  split at handed
  · cases handed
  · split at handed
    · cases handed
    · cases handed
      exact ⟨rfl, rfl⟩

/-- Taking what is queued changes nothing but the queue. -/
theorem takeNotifications_eq (manager : ManagerDouble) :
    ∃ queue, manager.takeNotifications.2 = { manager with queue } := by
  -- With no queue nothing is taken, and otherwise an empty one is left behind.
  unfold takeNotifications
  split
  · exact ⟨manager.queue, rfl⟩
  · exact ⟨some [], rfl⟩

/-- A request is written down and touches neither the subscription nor what is queued. -/
theorem asked_eq {manager later : ManagerDouble} (asked : Asked manager later) :
    ∃ calls, later = { manager with calls } ∧
      ∀ call, (∀ request, call ≠ .request request) → later.written call = manager.written call := by
  cases asked with
  | nothing => exact ⟨manager.calls, rfl, fun _ _ => rfl⟩
  | request request =>
    refine ⟨manager.calls ++ [.request request], rfl, fun call other => ?_⟩
    -- The one call that was added is a request, so it is not the one counted.
    have counted := manager.written_record (.request request) call
    rw [if_neg (other request).symm] at counted
    exact counted

end ManagerDouble

end CompanionLink
