import CompanionLink.Proofs.Double.Subscription
import CompanionLink.Proofs.Technologies.Power

/-!
The searches that the prepared manager has written down. Of all that a link asks of its manager,
only the request for a search adds to them.
-/

namespace CompanionLink

/-- The radio that a call asks to search with, if it asks for a search. -/
def ManagerCall.search? : ManagerCall → Option String
  | .request (.scan path) => some path
  | _ => none

/-- Whether a request about a listed access point is for anything but a search. -/
def AsksNoSearch (wanted : Except DirectoryError (Option Request)) : Prop :=
  ∀ path, wanted ≠ .ok (some (.scan path))

/-- Nothing that is asked about the access point at an index is a search. -/
theorem Directory.asksNoSearch (directory : Directory) (index : Nat)
    {wanted : Except DirectoryError (Option Request)}
    (asked : wanted ∈ [directory.joinRequest index, directory.forgetRequest index,
      directory.moveUpRequest index, directory.moveDownRequest index]) : AsksNoSearch wanted := by
  -- No request about a listed access point is a search.
  intro path
  simp only [List.mem_cons, List.not_mem_nil, or_false] at asked
  -- Each of the four is an error, asks for nothing, or names what it asks for.
  rcases asked with rfl | rfl | rfl | rfl
  · unfold joinRequest
    split <;> simp
  · unfold forgetRequest
    split <;> simp
  · unfold moveUpRequest
    split
    · simp
    · split <;> simp
  · unfold moveDownRequest
    split <;> simp

namespace ManagerDouble

/-- The radios that the manager was asked to search with, oldest first. -/
def searches (manager : ManagerDouble) : List String := manager.calls.filterMap ManagerCall.search?

/-- The searches are a matter of the calls alone. -/
theorem searches_congr {manager later : ManagerDouble} (calls : later.calls = manager.calls) :
    later.searches = manager.searches := by
  -- The list of searches is filtered out of the calls and out of nothing else.
  rw [searches, searches, calls]

/-- A request for a search is written down whether or not it is taken. -/
theorem searches_scan (manager : ManagerDouble) (path : String) :
    (NetworkManager.submit manager (.scan path)).2.searches = manager.searches ++ [path] := by
  -- The call is written down before it is decided, so that both answers leave the same trace.
  show (manager.record _).searches = _
  simp [searches, record, ManagerCall.search?]

/-- A request about a listed access point is no search. -/
theorem searches_submit (manager : ManagerDouble)
    {wanted : Except DirectoryError (Option Request)} (other : AsksNoSearch wanted) :
    (Directory.submit manager wanted).2.searches = manager.searches := by
  -- Only a request that is made is written down, with what it asks for.
  match wanted, other with
  | .error _, _ => rfl
  | .ok none, _ => rfl
  | .ok (some request), other =>
    -- A request that is no search is not counted among them.
    have unsearched : ManagerCall.search? (.request request) = none := by
      cases request with
      | scan path => exact absurd rfl (other path)
      | _ => rfl
    have recorded : (manager.record (.request request)).searches = manager.searches := by
      simp [searches, record, unsearched]
    -- The manager's answer does not matter, since the request is written down first.
    simp only [Directory.submit]
    split
    · next taken => exact (congrArg (fun answer => answer.2.searches) taken).symm.trans recorded
    · next refused => exact (congrArg (fun answer => answer.2.searches) refused).symm.trans recorded

/-- Switching the radio is no search. -/
theorem searches_setWifiPower (technologies : Technologies) (manager : ManagerDouble) (on : Bool) :
    (technologies.setWifiPower manager on).2.2.searches = manager.searches := by
  -- The switch writes down one request for each radio, none of which is for a search.
  rw [searches, Technologies.calls_setWifiPower, List.filterMap_append, List.filterMap_map]
  have switches : (ManagerCall.search? ∘ fun wifi : Technology =>
      ManagerCall.request (.setPowered wifi.path on)) = fun _ => none := rfl
  rw [switches]
  simp [searches]

/-- What is waiting for the subscriber can be taken without a search. -/
theorem searches_takeNotifications (manager : ManagerDouble) :
    manager.takeNotifications.2.searches = manager.searches := by
  -- Taking them changes the queue, which is no part of the calls.
  obtain ⟨queue, taken⟩ := manager.takeNotifications_eq
  rw [taken]
  rfl

/-- The end of the subscription is no search. -/
theorem searches_unsubscribe (manager : ManagerDouble) :
    manager.unsubscribe.searches = manager.searches := by
  -- The end is written down as one call, which the filter does not take for a search.
  unfold unsubscribe
  split
  · simp [searches, record, ManagerCall.search?]
  · rfl

end ManagerDouble

end CompanionLink
