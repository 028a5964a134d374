import NetworkManager.Foundation.Traces
import NetworkManager.InventoryStore.Retirement

/-!
# The review gate

A device that was discovered, or that was retired, is to be reviewed before it
comes into service.  The life cycle table is read one step at a time, and lets
a discovered device be put aside as unmanaged, and an unmanaged device be
managed.  The gate holds through a whole run exactly if no call takes that way
around a review that has never been made.
-/

namespace NetworkManager.InventoryStore

open NetworkManager.Foundation
open NetworkManager.Domain.Inventory
open NetworkManager.Security
open NetworkManager.Transaction

/-- The states that a device has entered, in the order of the commits. -/
def InventoryDb.statesOf (db : InventoryDb) (deviceId : Uuid) :
    List DeviceLifecycle :=
  (db.eventsOf deviceId).map LifecycleEvent.toState

/-- The history begins with the discovery of the device. -/
def Discovers (earlier : List DeviceLifecycle) (state : DeviceLifecycle) :
    Prop :=
  earlier = [] ∧ state = .discovered

def Retires (_ : List DeviceLifecycle) (state : DeviceLifecycle) : Prop :=
  state = .retired

def IsReview (state : DeviceLifecycle) : Prop := state = .pendingReview

def InService (state : DeviceLifecycle) : Prop :=
  state = .managed ∨ state = .maintenance

/-- After a discovery at the beginning, and after each retirement, the device
is reviewed before it comes into service. -/
def ReviewGated (states : List DeviceLifecycle) : Prop :=
  Gated (fun earlier state => Discovers earlier state ∨ Retires earlier state)
    IsReview InService states

/-- The call does not take an unmanaged device into service that was discovered
and has never been reviewed. -/
def Reviewed (before : InventoryDb) : InventoryCall → Prop
  | .transitionLifecycle _ _ deviceId _ next _ =>
      ∀ device, before.devices.lookup deviceId = some device →
        device.lifecycle = .unmanaged → next = .managed →
        (before.statesOf deviceId).head? = some .discovered →
        DeviceLifecycle.pendingReview ∈ before.statesOf deviceId
  | _ => True

section Paths

variable {events : List LifecycleEvent} {current : DeviceLifecycle}

/-- Without a review, a retired device can only be archived. -/
theorem Leads.of_open_retires (leads : Leads events current)
    (isOpen : Open Retires IsReview (events.map LifecycleEvent.toState)) :
    current = .retired ∨ current = .archived := by
  induction leads with
  | @created event fromNothing =>
      rw [List.map_singleton, ← List.nil_append [event.toState],
        open_append_singleton] at isOpen
      rcases isOpen with isRetired | ⟨never, _⟩
      · exact Or.inl isRetired
      · exact absurd never not_open_nil
  | @moved events current event _ _ different allowed inductionHypothesis =>
      rw [List.map_append, List.map_singleton, open_append_singleton] at isOpen
      rcases isOpen with isRetired | ⟨stillOpen, noReview⟩
      · exact Or.inl isRetired
      · rcases inductionHypothesis stillOpen with wasRetired | wasArchived
        · rw [wasRetired] at different allowed
          rcases DeviceLifecycle.of_retired different allowed with
            toReview | toArchive
          · exact absurd toReview noReview
          · exact Or.inr toArchive
        · exact absurd wasArchived
            (DeviceLifecycle.ne_archived_of_canTransitionTo different allowed)

/-- The states of a discovered device that has come past no gate. -/
def OutOfReview (state : DeviceLifecycle) : Prop :=
  state = .discovered ∨ state = .unmanaged ∨ state = .retired ∨
    state = .archived

/-- Without a review, such a device comes into service only by being put
aside. -/
theorem OutOfReview.next {next : DeviceLifecycle}
    (outOfReview : OutOfReview current) (different : current ≠ next)
    (allowed : current.canTransitionTo next = true) (noReview : ¬IsReview next) :
    OutOfReview next ∨ (current = .unmanaged ∧ next = .managed) := by
  rcases outOfReview with rfl | rfl | rfl | rfl <;> cases next <;>
    simp_all [OutOfReview, IsReview, DeviceLifecycle.canTransitionTo]

private theorem Leads.ne_nil (leads : Leads events current) : events ≠ [] := by
  cases leads with
  | created fromNothing => simp
  | moved earlier fromCurrent different allowed => simp

/-- A discovered device on a gated path has not come into service. -/
theorem Leads.of_open_discovers (leads : Leads events current)
    (gated : ReviewGated (events.map LifecycleEvent.toState))
    (isOpen : Open Discovers IsReview (events.map LifecycleEvent.toState)) :
    OutOfReview current := by
  induction leads with
  | @created event fromNothing =>
      rw [List.map_singleton, ← List.nil_append [event.toState],
        open_append_singleton] at isOpen
      rcases isOpen with ⟨_, isDiscovered⟩ | ⟨never, _⟩
      · exact Or.inl isDiscovered
      · exact absurd never not_open_nil
  | @moved events current event earlier _ different allowed
      inductionHypothesis =>
      rw [List.map_append, List.map_singleton] at gated isOpen
      rcases gated_append_singleton.mp gated with ⟨gatedBefore, guarded⟩
      rcases open_append_singleton.mp isOpen with
        ⟨isFirst, _⟩ | ⟨stillOpen, noReview⟩
      · exact absurd (List.map_eq_nil_iff.mp isFirst) earlier.ne_nil
      · rcases (inductionHypothesis gatedBefore stillOpen).next different
          allowed noReview with outOfReview | ⟨_, toManaged⟩
        · exact outOfReview
        · exact absurd (open_or.mpr (Or.inl stillOpen))
            (guarded (Or.inl toManaged))

/-- An open gate at the beginning is a discovery without a review since. -/
theorem open_discovers_iff {states : List DeviceLifecycle} :
    Open Discovers IsReview states ↔
      states.head? = some .discovered ∧ DeviceLifecycle.pendingReview ∉ states := by
  constructor
  · rintro ⟨earlier, gate, later, rfl, ⟨rfl, rfl⟩, noReview⟩
    refine ⟨rfl, ?_⟩
    intro member
    rcases List.mem_cons.mp member with same | isLater
    · cases same
    · exact noReview _ isLater rfl
  · rintro ⟨isFirst, noReview⟩
    rcases List.head?_eq_some_iff.mp isFirst with ⟨rest, rfl⟩
    refine ⟨[], .discovered, rest, rfl, ⟨rfl, rfl⟩, ?_⟩
    rintro event member rfl
    exact noReview (List.mem_cons_of_mem _ member)

/-- On a gated path, the gate is open at an entry into service only for a
discovered device that was put aside and never reviewed. -/
theorem Leads.enters_iff {next : DeviceLifecycle} (leads : Leads events current)
    (gated : ReviewGated (events.map LifecycleEvent.toState))
    (different : current ≠ next)
    (allowed : current.canTransitionTo next = true) :
    (InService next → ¬Open (fun earlier state =>
        Discovers earlier state ∨ Retires earlier state) IsReview
          (events.map LifecycleEvent.toState)) ↔
      (current = .unmanaged → next = .managed →
        (events.map LifecycleEvent.toState).head? = some .discovered →
        DeviceLifecycle.pendingReview ∈
          events.map LifecycleEvent.toState) := by
  constructor
  · intro guarded _ toManaged isDiscovered
    by_contra noReview
    exact guarded (Or.inl toManaged) (open_or.mpr (Or.inl
      (open_discovers_iff.mpr ⟨isDiscovered, noReview⟩)))
  · intro reviewed inService isOpen
    have noReview : ¬IsReview next := by
      rcases inService with rfl | rfl
      · exact nofun
      · exact nofun
    rcases open_or.mp isOpen with discovered | retired
    · rcases (leads.of_open_discovers gated discovered).next different allowed
        noReview with outOfReview | ⟨wasUnmanaged, toManaged⟩
      · rcases inService with rfl | rfl
        · simp [OutOfReview] at outOfReview
        · simp [OutOfReview] at outOfReview
      · rcases open_discovers_iff.mp discovered with ⟨isDiscovered, missing⟩
        exact missing (reviewed wasUnmanaged toManaged isDiscovered)
    · rcases leads.of_open_retires retired with wasRetired | wasArchived
      · rw [wasRetired] at different allowed
        rcases DeviceLifecycle.of_retired different allowed with rfl | rfl
        · exact noReview rfl
        · rcases inService with impossible | impossible
          · cases impossible
          · cases impossible
      · exact absurd wasArchived
          (DeviceLifecycle.ne_archived_of_canTransitionTo different allowed)

end Paths

section Runs

variable {before after : InventoryDb} {call : InventoryCall} {row : DeviceView}
  {events : List LifecycleEvent}

private theorem gated_singleton
    (state : DeviceLifecycle) : ReviewGated [state] :=
  gated_append_singleton.mpr ⟨gated_nil, fun _ => not_open_nil⟩

/-- A call keeps the gate of its device exactly if it goes by the review. -/
theorem Revises.gated_iff (revises : Revises before call row events)
    (lives : (before.record row.id).Lives) :
    ReviewGated (before.statesOf row.id ++ events.map LifecycleEvent.toState) ↔
      ReviewGated (before.statesOf row.id) ∧ Reviewed before call := by
  cases revises with
  | metadata found allowed => simp [Reviewed]
  | observed declared found inService => simp [Reviewed]
  | @manual context generated input approvalRequired absent =>
      have noStates : before.statesOf generated.deviceId = [] :=
        congrArg (List.map LifecycleEvent.toState) (lives.absent absent)
      have isRow : (manualRow context generated input approvalRequired).id =
        generated.deviceId := rfl
      rw [isRow, noStates]
      exact ⟨fun _ => ⟨gated_nil, trivial⟩, fun _ => gated_singleton _⟩
  | @discovered context generated observation absent =>
      have noStates : before.statesOf generated.deviceId = [] :=
        congrArg (List.map LifecycleEvent.toState) (lives.absent absent)
      have isRow : (discoveredChange context generated observation).device.id =
        generated.deviceId := rfl
      rw [isRow, noStates]
      exact ⟨fun _ => ⟨gated_nil, trivial⟩, fun _ => gated_singleton _⟩
  | @lifecycle context generated next reason current found different allowed
      given =>
      have leads : Leads (before.eventsOf current.id) current.lifecycle :=
        lives.path current found
      have isRow : (lifecycleChange context generated next reason
        current).device.id = current.id := rfl
      have appended : (lifecycleChange context generated next reason
        current).events.map LifecycleEvent.toState = [next] := rfl
      rw [isRow, appended, ReviewGated, gated_append_singleton]
      apply and_congr_right
      intro gated
      rw [InventoryDb.statesOf, leads.enters_iff gated different allowed]
      simp only [Reviewed, found, Option.some.injEq]
      exact ⟨fun reviewed device isDevice => isDevice ▸ reviewed,
        fun reviewed => reviewed current rfl⟩

private theorem Recorded.statesOf_eq
    (recorded : Recorded row events before after)
    (subject : ∀ event ∈ events, event.deviceId = row.id) :
    after.statesOf row.id =
      before.statesOf row.id ++ events.map LifecycleEvent.toState := by
  have isEvents : after.eventsOf row.id = before.eventsOf row.id ++ events :=
    recorded.events_eq subject
  rw [InventoryDb.statesOf, isEvents, List.map_append]
  rfl

/-- A call keeps the gates of all devices exactly if it goes by the review. -/
theorem Revised.gated_iff (revised : Revised call before after)
    (lives : ∀ deviceId, (before.record deviceId).Lives) :
    (∀ deviceId, ReviewGated (after.statesOf deviceId)) ↔
      (∀ deviceId, ReviewGated (before.statesOf deviceId)) ∧
        Reviewed before call := by
  rcases revised with ⟨row, events, revises, recorded⟩
  have own := revises.gated_iff (lives row.id)
  rw [← recorded.statesOf_eq revises.subject] at own
  have others : ∀ deviceId, deviceId ≠ row.id →
      after.statesOf deviceId = before.statesOf deviceId := by
    intro deviceId different
    have sameEvents := congrArg DeviceRecord.events
      (recorded.others deviceId different)
    exact congrArg (List.map LifecycleEvent.toState) sameEvents
  constructor
  · intro gated
    rcases own.mp (gated row.id) with ⟨gatedOwn, reviewed⟩
    refine ⟨?_, reviewed⟩
    intro deviceId
    by_cases same : deviceId = row.id
    · exact same ▸ gatedOwn
    · rw [← others deviceId same]
      exact gated deviceId
  · rintro ⟨gated, reviewed⟩ deviceId
    by_cases same : deviceId = row.id
    · rw [same]
      exact own.mpr ⟨gated row.id, reviewed⟩
    · rw [others deviceId same]
      exact gated deviceId

private theorem gated_iff_of_history {library : InventoryLibrary}
    {first last : InventoryDb}
    {commits : List (Commit (inventoryClient library))}
    (history : RecordHistory first commits last) (isEmpty : first.IsEmpty) :
    (∀ deviceId, ReviewGated (last.statesOf deviceId)) ↔
      ∀ commit ∈ commits, Reviewed commit.before commit.call := by
  induction history with
  | nil =>
      have noStates (deviceId : Uuid) : first.statesOf deviceId = [] := by
        simp [InventoryDb.statesOf, InventoryDb.eventsOf,
          isEmpty.lifecycleEvents]
      simp [noStates, ReviewGated, gated_nil]
  | cons past revised inductionHypothesis =>
      rw [revised.gated_iff (lives_of_history past isEmpty),
        inductionHypothesis, List.forall_mem_cons, and_comm]

end Runs

/-- Through any interleaving of calls, every device is reviewed as it should be
exactly if no call has gone around the review. -/
theorem reviewGated_iff {library : InventoryLibrary}
    {system : System (inventoryClient library) deviceLocking}
    (reachable : System.Reachable InventoryDb.IsEmpty system) :
    (∀ deviceId, ReviewGated (InventoryDb.statesOf system.committed deviceId)) ↔
      ∀ commit ∈ system.commits, Reviewed commit.before commit.call := by
  rcases recordHistory_of_reachable reachable with ⟨first, isEmpty, history⟩
  exact gated_iff_of_history history isEmpty

theorem reviewGated_iff_lived :
    (∀ deviceId, ReviewGated (Sample.lived.statesOf deviceId)) ↔
      ∀ commit ∈ Sample.living, Reviewed commit.before commit.call :=
  reviewGated_iff Sample.system_lived

namespace Sample

/-- What is generated for the third call. -/
def third : Generated := ⟨⟨48⟩, ⟨49⟩, ⟨50⟩, 0, 0, 0⟩

/-- The rows of a device that is discovered, put aside and taken into
service. -/
def seen : DeviceView := discovered first strong

def putAside : DeviceView :=
  (lifecycleChange context second .unmanaged none seen).device

def inService : DeviceView :=
  (lifecycleChange context third .managed none putAside).device

/-- The audit event of a transition. -/
def transitionDraft (generated : Generated) (before after : DeviceView) :
    AuditEventDraft :=
  mutationDraft context generated "inventory.device.lifecycle.transition"
    after (some (before.toValue formatTime)) (some (after.toValue formatTime))

def puttingAsideDigest : FixedBytes 32 :=
  ⟨[251, 118, 15, 16, 132, 65, 22, 223, 19, 167, 183, 53, 164, 99, 56, 46,
    187, 222, 114, 209, 42, 192, 69, 147, 244, 203, 181, 202, 166, 76, 19,
    166], by decide⟩

def takingOnDigest : FixedBytes 32 :=
  ⟨[8, 82, 252, 176, 26, 154, 234, 114, 28, 253, 210, 147, 11, 22, 68, 223,
    142, 123, 219, 250, 108, 46, 42, 234, 178, 124, 214, 114, 79, 217, 65,
    122], by decide⟩

def transitionLinks : List Link :=
  [⟨firstStrong.bytes, transitionDraft second seen putAside,
      puttingAsideDigest⟩,
    ⟨puttingAsideDigest.bytes, transitionDraft third putAside inService,
      takingOnDigest⟩]

/-- The library of the run, where the hash function knows its drafts. -/
def transitionLibrary : InventoryLibrary where
  audit :=
    { library.audit with
      sha256 := fun message =>
        ((transitionLinks.find? fun link => link.message = message).map
          Link.digest).getD (library.audit.sha256 message) }
  formatTime := formatTime

def discovery : InventoryCall := .reconcileObservation context first strong

def puttingAside : InventoryCall :=
  .transitionLifecycle context second seen.id 1 .unmanaged none

def takingOn : InventoryCall :=
  .transitionLifecycle context third seen.id 2 .managed none

/-- The state that a call leaves when it runs alone. -/
def left (call : InventoryCall) (db : InventoryDb) : InventoryDb :=
  (((inventoryClient transitionLibrary).program call).call db).2

def seenDb : InventoryDb := left discovery start

def putAsideDb : InventoryDb := left puttingAside seenDb

def inServiceDb : InventoryDb := left takingOn putAsideDb

/-- The commit of a call that ran alone. -/
def committed (call : InventoryCall) (before : InventoryDb)
    (result : call.Result) : Commit (inventoryClient transitionLibrary) :=
  ⟨call, before, left call before, .done (.ok result)⟩

private theorem reachable_left {db : InventoryDb} (call : InventoryCall)
    {commits : List (Commit (inventoryClient transitionLibrary))}
    {result : call.Result}
    (reachable : System.Reachable InventoryDb.IsEmpty
      (System.idle db commits :
        System (inventoryClient transitionLibrary) deviceLocking))
    (ended : (((inventoryClient transitionLibrary).program call).call db).1 =
      .ok result)
    (moved : (left call db).statesOf seen.id ≠ db.statesOf seen.id) :
    System.Reachable InventoryDb.IsEmpty
      (System.idle (left call db) (committed call db result :: commits) :
        System (inventoryClient transitionLibrary) deviceLocking) := by
  have outcome : ((inventoryClient transitionLibrary).program call).call db =
      (.ok result, left call db) := Program.call_of_outcome ended
  rcases reachable.alone (commitsLast_inventoryClient call) outcome with
    unchanged | reached
  · rw [unchanged] at moved
    exact absurd rfl moved
  · exact reached

/-- The calls of the run end well, and the device goes through its states. -/
theorem life_ended :
    ((reconcileObservation transitionLibrary context first strong).call
        start).1 = .ok (.created seen) ∧
      ((transitionLifecycle transitionLibrary context second seen.id 1
        .unmanaged none).call seenDb).1 = .ok putAside ∧
      ((transitionLifecycle transitionLibrary context third seen.id 2
        .managed none).call putAsideDb).1 = .ok inService ∧
      seenDb.statesOf seen.id = [.discovered] ∧
      putAsideDb.statesOf seen.id = [.discovered, .unmanaged] ∧
      inServiceDb.statesOf seen.id = [.discovered, .unmanaged, .managed] := by
  decide +kernel

end Sample

/-- A device that is discovered, put aside and taken on has come into service
without a review. -/
theorem putAside_not_reviewGated :
    System.Reachable InventoryDb.IsEmpty
        (System.idle Sample.inServiceDb
          [Sample.committed Sample.takingOn Sample.putAsideDb Sample.inService,
            Sample.committed Sample.puttingAside Sample.seenDb Sample.putAside,
            Sample.committed Sample.discovery Sample.start
              (.created Sample.seen)] :
          System (inventoryClient Sample.transitionLibrary) deviceLocking) ∧
      ¬ReviewGated (Sample.inServiceDb.statesOf Sample.seen.id) := by
  obtain ⟨seenEnded, putAsideEnded, inServiceEnded, seenStates,
    putAsideStates, inServiceStates⟩ := Sample.life_ended
  constructor
  · have begun : System.Reachable InventoryDb.IsEmpty
        (System.idle Sample.start [] :
          System (inventoryClient Sample.transitionLibrary) deviceLocking) :=
      .initial Sample.isEmpty_start
    have discovered : Sample.seenDb.statesOf Sample.seen.id ≠
        Sample.start.statesOf Sample.seen.id := by
      rw [seenStates]
      exact List.cons_ne_nil _ _
    have movedAside : Sample.putAsideDb.statesOf Sample.seen.id ≠
        Sample.seenDb.statesOf Sample.seen.id := by
      rw [putAsideStates, seenStates]
      decide
    have takenOn : Sample.inServiceDb.statesOf Sample.seen.id ≠
        Sample.putAsideDb.statesOf Sample.seen.id := by
      rw [inServiceStates, putAsideStates]
      decide
    have afterDiscovery := Sample.reachable_left Sample.discovery
      begun seenEnded discovered
    have afterPuttingAside := Sample.reachable_left Sample.puttingAside
      afterDiscovery putAsideEnded movedAside
    exact Sample.reachable_left Sample.takingOn afterPuttingAside
      inServiceEnded takenOn
  · rw [inServiceStates]
    intro gated
    rcases gated [] .discovered [.unmanaged] .managed [] rfl
      (Or.inl ⟨rfl, rfl⟩) (Or.inl rfl) with ⟨state, member, isReview⟩
    rw [List.mem_singleton.mp member] at isReview
    cases isReview

end NetworkManager.InventoryStore
