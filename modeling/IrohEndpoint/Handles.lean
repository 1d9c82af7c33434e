import IrohEndpoint.Connections

/-! # Handles and their holders

Resources, pending calls and the accept queue find their connection by its handle.
The table may replace the entry under a handle while one of them still holds it. -/

namespace IrohEndpoint

open Relation

variable {P : Platform}

/-- The entry under the target's handle is the one the target was made for. -/
def State.Denotes (state : State P) (target : Target) : Prop :=
  ∃ entry, state.conns.get? target.handle = some entry ∧
    entry.trace.serial = target.serial

/-! ## The accept queue -/

/-- The item's connection is in the table, connected, and was accepted. -/
def State.Surfaced (state : State P) (item : AcceptItem) : Prop :=
  ∃ entry, state.conns.get? item.handle = some entry ∧ entry.trace.serial = item.serial ∧
    entry.connected = true ∧ entry.acceptedSide = true

theorem State.Surfaced.denotes {state : State P} {item : AcceptItem}
    (surfaced : state.Surfaced item) : state.Denotes item.target := by
  rcases surfaced with ⟨entry, found, serial, _⟩
  exact ⟨entry, found, serial⟩

/-- The queue grows by connections a drain has just surfaced, and only then. -/
theorem StateStep.queue {task : Task} {state next : State P}
    (step : StateStep task state next) :
    (next.acceptQueue ⊆ state.acceptQueue ∧ next.history.queued = state.history.queued) ∨
    (task = .drain ∧ ∃ handle entry after items,
      state.conns.get? handle = some entry ∧ next.conns.get? handle = some after ∧
      next.acceptQueue = state.acceptQueue ++ items ∧
      next.history.queued = state.history.queued ++ items ∧
      (∀ item ∈ items, item.handle = handle ∧ next.Surfaced item) ∧
      items.length + entry.trace.authenticated.length ≤
        after.trace.authenticated.length) := by
  have unchanged := List.Subset.refl state.acceptQueue
  cases step with
  | entry handle entry after io found moved _ surfaced quiet _ counted =>
      by_cases drains : task = .drain
      · refine .inr ⟨drains, handle, entry, after, io.accepted, found, by simp, rfl, rfl, ?_,
          counted⟩
        intro item member
        rcases surfaced item member with ⟨rfl, connected, accepted⟩
        exact ⟨rfl, after, by simp, moved.evolves.serial, connected, accepted⟩
      · left
        simp [State.after, quiet drains]
  | accepted item rest _ queue =>
      left
      dsimp only
      rw [queue]
      exact ⟨List.subset_cons_self item rest, rfl⟩
  | closed now reason _ =>
      rcases state.close_frame now reason with ⟨_, _, frame⟩
      rw [frame]
      exact .inl ⟨unchanged, rfl⟩
  | responded addr source payload =>
      rcases state.pushResponse_frame addr source payload with ⟨_, _, _, frame⟩
      rw [frame]
      exact .inl ⟨unchanged, rfl⟩
  | sighted peer via =>
      rcases state.addrForPeer_frame peer via with ⟨_, _, _, _, frame⟩
      rw [frame]
      exact .inl ⟨unchanged, rfl⟩
  | dialed peer key =>
      rcases state.dialStandin_frame peer key with ⟨_, _, _, _, frame⟩
      rw [frame]
      exact .inl ⟨unchanged, rfl⟩
  | channelRegistered peer wire _ =>
      rcases state.registerChannel_frame peer wire with ⟨_, _, _, _, _, _, _, _, _, frame⟩
      rw [frame]
      exact .inl ⟨unchanged, rfl⟩
  | channelDied id wire _ =>
      rcases state.channelDied_frame id wire with ⟨_, _, frame⟩
      rw [frame]
      exact .inl ⟨unchanged, rfl⟩
  | _ => exact .inl ⟨unchanged, rfl⟩

theorem StateSteps.acceptQueue {task : Task} {state next : State P}
    (steps : StateSteps task state next) (other : task ≠ .drain) :
    next.acceptQueue ⊆ state.acceptQueue ∧ next.history.queued = state.history.queued := by
  induction steps with
  | refl => exact ⟨List.Subset.refl _, rfl⟩
  | tail _ step induction =>
      rcases step.queue with ⟨subset, same⟩ | ⟨drains, _⟩
      · exact ⟨List.Subset.trans subset induction.1, same.trans induction.2⟩
      · exact absurd drains other

private theorem StateStep.drain_surfaced {state next : State P} (step : StateStep .drain state next)
    {item : AcceptItem} (surfaced : state.Surfaced item) : next.Surfaced item := by
  rcases surfaced with ⟨entry, found, serial, connected, accepted⟩
  cases step.conns with
  | moved related _ =>
      rcases rel_some_left (found ▸ related item.handle) with ⟨after, lookup, steps⟩
      exact ⟨after, lookup, steps.evolves.serial.trans serial,
        steps.evolves.connected connected, steps.evolves.acceptedSide.trans accepted⟩
  | inserted handle conn expectedPeer acceptedSide origin admits _ _ =>
      cases admits with
      | dialed peer caller _ => cases caller
      | relay via source pump => cases pump
      | channel id entry pump _ => cases pump
      | udp remote pump => cases pump

theorem StateSteps.drain_queued {state next : State P} (steps : StateSteps .drain state next) :
    (∀ item ∈ next.acceptQueue, item ∈ state.acceptQueue ∨ next.Surfaced item) ∧
    ∀ item ∈ next.history.queued, item ∈ state.history.queued ∨ next.Surfaced item := by
  induction steps with
  | refl => exact ⟨fun item member => .inl member, fun item member => .inl member⟩
  | tail _ step induction =>
      rcases step.queue with
        ⟨subset, same⟩ | ⟨_, _, _, _, items, _, _, queue, queued, surfaced, _⟩
      · refine ⟨?_, ?_⟩
        · intro item member
          exact (induction.1 item (subset member)).imp_right step.drain_surfaced
        · intro item member
          exact (induction.2 item (same ▸ member)).imp_right step.drain_surfaced
      · refine ⟨?_, ?_⟩
        · intro item member
          rcases List.mem_append.mp (queue ▸ member) with old | new
          · exact (induction.1 item old).imp_right step.drain_surfaced
          · exact .inr (surfaced item new).2
        · intro item member
          rcases List.mem_append.mp (queued ▸ member) with old | new
          · exact (induction.2 item old).imp_right step.drain_surfaced
          · exact .inr (surfaced item new).2

/-! ## Who holds a handle after a step -/

namespace Config

variable {config next : Config P} {target : Target}

theorem Holds.of_tables (holds : next.Holds target) (calls : next.calls = config.calls)
    (resources : next.resources = config.resources)
    (queue : next.state.acceptQueue ⊆ config.state.acceptQueue) : config.Holds target := by
  cases holds with
  | resource id resource found same => exact .resource id resource (resources ▸ found) same
  | call id call found same => exact .call id call (calls ▸ found) same
  | queued item member same => exact .queued item (queue member) same

theorem addResources_resources (resources : List Resource) (config : Config P)
    {id : Nat} {resource : Resource}
    (found : (config.addResources resources).resources.get? id = some resource) :
    config.resources.get? id = some resource ∨ resource ∈ resources := by
  induction resources generalizing config with
  | nil => exact .inl found
  | cons head rest induction =>
      rcases induction _ found with old | new
      · rw [Table.get?_set] at old
        split at old
        · cases old
          exact .inr (by simp)
        · exact .inl old
      · exact .inr (by simp [new])

private theorem Holds.of_settle {id : Nat} {outcome : Outcome} {resources : List Resource}
    (holds : (config.settle id outcome resources).Holds target) :
    config.Holds target ∨ ∃ resource ∈ resources, resource.target = target := by
  rcases settle_frame config id outcome resources with ⟨outcomes, table, fresh, frame⟩
  cases holds with
  | resource other resource found same =>
      rcases addResources_resources resources _ found with old | new
      · exact .inl (.resource other resource old same)
      · exact .inr ⟨resource, new, same⟩
  | call other call found same =>
      rw [frame] at found
      simp only [Table.get?_remove] at found
      split at found
      · cases found
      · exact .inl (.call other call found same)
  | queued item member same =>
      rw [frame] at member
      exact .inl (.queued item member same)

private theorem Holds.of_keep {id : Nat} {call : Call}
    (holds : (config.keep id call).Holds target) :
    config.Holds target ∨ call.target? = some target := by
  cases holds with
  | resource id resource found same => exact .inl (.resource id resource found same)
  | call other stored found same =>
      simp only [keep, Table.get?_set] at found
      split at found
      · cases found
        exact .inr same
      · exact .inl (.call other stored found same)
  | queued item member same => exact .inl (.queued item member same)

private theorem Holds.of_addCall {call : Call} (holds : (config.addCall call).Holds target) :
    config.Holds target ∨ call.target? = some target := by
  have kept : (config.keep config.fresh call).Holds target := by
    cases holds with
    | resource id resource found same => exact .resource id resource found same
    | call id call found same => exact .call id call found same
    | queued item member same => exact .queued item member same
  exact kept.of_keep

/-- A call on a connection hands out that connection only. -/
theorem Follows.holds {own : Target} (follows : Follows own config next)
    (held : config.Holds own) (holds : next.Holds target) : config.Holds target := by
  cases follows with
  | waits => exact holds
  | keeps id call same _ =>
      rcases holds.of_keep with old | new
      · exact old
      · rw [same] at new
        cases new
        exact held
  | starts call same _ =>
      rcases holds.of_addCall with old | new
      · exact old
      · rw [same] at new
        cases new
        exact held
  | settles id outcome resources same =>
      rcases holds.of_settle with old | ⟨resource, member, new⟩
      · exact old
      · rw [(same resource member).1] at new
        subst new
        exact held
  | takes resource stream =>
      rcases holds.of_addCall with old | new
      · cases old with
        | resource id taken found same =>
            simp only [Table.get?_set] at found
            split at found
            · cases found
              subst same
              exact held
            · exact .resource id taken found same
        | call id call found same => exact .call id call found same
        | queued item member same => exact .queued item member same
      · cases new
        exact held

end Config

theorem Dialing.handshake {peer : EndpointId} {keys : List UInt32}
    {state : State P} {result : Connecting × State P}
    (dialing : Dialing peer keys state result) {dialed : EndpointId}
    {handle : ConnectionHandle} {serial : Nat}
    (waits : result.1 = .suspended (.handshake dialed handle serial)) :
    ∃ entry, result.2.conns.get? handle = some entry ∧ entry.trace.serial = serial ∧
      entry.expectedPeer = some dialed := by
  induction dialing with
  | failed keys state error => cases waits
  | waiting keys state phase suspended _ _ _ =>
      cases waits
      cases suspended
  | claimed keys state phase url claim _ _ _ _ _ =>
      cases waits
      cases claim
  | ensured keys state url key result _ _ induction => exact induction waits
  | rejected keys state dial dialKey noq error _ => cases waits
  | dialed keys state inserted next dial dialKey noq handle conn upgrades _ _ same _ _
      insertion queueing =>
      cases waits
      subst insertion queueing
      refine ⟨.new conn (some dial.peer) false
        (state.dialRemote dial dialKey).2.history.connections (.dialed dial.peer), ?_, rfl, rfl⟩
      simp [State.insertConn]

namespace Config

variable {config next : Config P} {target : Target}

theorem CallStep.holds {opened : Bool} (step : CallStep opened config next)
    (holds : next.Holds target) : config.Holds target ∨ next.state.Denotes target := by
  cases step with
  | dialing id fresh addr peer claim keys more between progress _ resolution dialing =>
      have queue : progress.2.acceptQueue ⊆ config.state.acceptQueue :=
        (StateSteps.acceptQueue ((StateSteps.resolution resolution).trans
          (StateSteps.dialing (StateSteps.dialTask_calls opened) dialing)) (by
            cases opened <;> simp [StateSteps.dialTask])).1
      rcases progress with ⟨connecting, state⟩
      cases connecting with
      | failed error =>
          rcases Holds.of_settle holds with old | ⟨_, member, _⟩
          · exact .inl (old.of_tables rfl rfl queue)
          · cases member
      | suspended phase =>
          rcases Holds.of_keep holds with old | new
          · exact .inl (old.of_tables rfl rfl queue)
          · cases phase with
            | handshake dialed handle serial =>
                cases new
                rcases dialing.handshake rfl with ⟨entry, found, same, _⟩
                exact .inr ⟨entry, found, same⟩
            | dialRelay dial url ensure => cases new
            | upgradeRelay dial key url ensure => cases new
  | accessed own entry after next held found steps follows =>
      left
      have here : (config.withConn own.handle after).Holds own := by
        cases held with
        | resource id resource found same => exact .resource id resource found same
        | call id call found same => exact .call id call found same
        | queued item member same => exact .queued item member same
      exact (follows.holds here holds).of_tables rfl rfl (List.Subset.refl _)
  | followed own next held follows => exact .inl (follows.holds held holds)
  | connected id addr peer own entry outcome pending found _ =>
      left
      rcases Holds.of_settle holds with old | ⟨resource, member, same⟩
      · exact old.of_tables rfl rfl (List.Subset.refl _)
      · rw [List.mem_singleton] at member
        subst member same
        exact .call id _ pending rfl
  | accepted id item rest outcome queue =>
      left
      rcases Holds.of_settle holds with old | ⟨resource, member, same⟩
      · refine old.of_tables rfl rfl ?_
        rw [queue]
        exact List.subset_cons_self item rest
      · rw [List.mem_singleton] at member
        subst member same
        exact .queued item (by rw [queue]; exact List.mem_cons_self) rfl
  | settled id outcome =>
      rcases Holds.of_settle holds with old | ⟨_, member, _⟩
      · exact .inl old
      · cases member
  | refused id fresh outcome =>
      rcases Holds.of_settle holds with old | ⟨_, member, _⟩
      · exact .inl (old.of_tables rfl rfl (List.Subset.refl _))
      · cases member
  | waited => exact .inl holds
  | accepting =>
      rcases holds.of_addCall with old | new
      · exact .inl old
      · cases new
  | dropped resource =>
      left
      cases holds with
      | resource id kept found same =>
          simp only [Table.get?_remove] at found
          split at found
          · cases found
          · exact .resource id kept found same
      | call id call found same => exact .call id call found same
      | queued item member same => exact .queued item member same
  | closed endpointLive reason =>
      rcases config.state.close_frame config.clock reason with ⟨_, _, frame⟩
      refine .inl (holds.of_tables rfl rfl ?_)
      dsimp only
      rw [frame]
      exact List.Subset.refl _

theorem Move.holds {opened : Bool} (move : Move opened config next)
    (holds : next.Holds target) : config.Holds target ∨ next.state.Denotes target := by
  cases move with
  | advanced elapsed =>
      exact .inl (holds.of_tables rfl rfl (List.Subset.refl _))
  | pumped state pump spawned step =>
      rcases addSessions_frame spawned ({ config with state, pump } : Config P) with
        ⟨_, _, frame⟩
      rw [frame] at holds ⊢
      cases step.move with
      | drain steps _ =>
          cases holds with
          | resource id resource found same => exact .inl (.resource id resource found same)
          | call id call found same => exact .inl (.call id call found same)
          | queued item member same =>
              rcases (StateSteps.drain_queued steps).1 item member with old | surfaced
              · exact .inl (.queued item old same)
              · exact .inr (same ▸ surfaced.denotes)
      | pump task own steps _ =>
          exact .inl (holds.of_tables rfl rfl
            (StateSteps.acceptQueue steps (by rintro rfl; cases own)).1)
      | signal via source payload equal _ =>
          dsimp only at equal
          have queue := (StateSteps.acceptQueue
            (Config.handleSignal_steps config.state via source payload) (by simp)).1
          exact .inl (holds.of_tables rfl rfl (by rw [← equal] at queue; exact queue))
  | resumed id session after registration state _ found resumes =>
      exact .inl (holds.of_tables rfl rfl
        (StateSteps.acceptQueue (StateSteps.resumes resumes) (by simp)).1)
  | called next _ step => exact step.holds holds

end Config

/-! ## Resource stability -/

def Config.Issues (config : Config P) (action : Action) (handle : ConnectionHandle) : Prop :=
  ∃ next entry, config.step action = .ok next ∧
    next.state.conns.get? handle = some entry ∧
    config.state.history.connections ≤ entry.trace.serial

/-- noq issues no handle that a resource, a pending call or the accept queue holds. -/
def NotReissued (config : Config P) (action : Action) : Prop :=
  ∀ target, config.Holds target → ¬ config.Issues action target.handle

def Config.holders (config : Config P) : List Target :=
  config.resources.values.map Resource.target ++
    config.calls.values.filterMap Call.target? ++
    config.state.acceptQueue.map AcceptItem.target

theorem Config.holds_iff_mem (config : Config P) (target : Target) :
    config.Holds target ↔ target ∈ config.holders := by
  simp only [holders, List.mem_append, List.mem_map, List.mem_filterMap, Table.mem_values]
  constructor
  · intro holds
    cases holds with
    | resource id resource found same => exact .inl (.inl ⟨resource, ⟨id, found⟩, same⟩)
    | call id call found same => exact .inl (.inr ⟨call, ⟨id, found⟩, same⟩)
    | queued item member same => exact .inr ⟨item, member, same⟩
  · rintro ((⟨resource, ⟨id, found⟩, same⟩ | ⟨call, ⟨id, found⟩, same⟩) |
      ⟨item, member, same⟩)
    · exact .resource id resource found same
    · exact .call id call found same
    · exact .queued item member same

def Config.issues (config : Config P) (action : Action) (handle : ConnectionHandle) : Bool :=
  match config.step action with
  | .ok next => (next.state.conns.get? handle).any fun entry =>
      decide (config.state.history.connections ≤ entry.trace.serial)
  | .error _ => false

theorem Config.issues_iff (config : Config P) (action : Action) (handle : ConnectionHandle) :
    config.issues action handle = true ↔ config.Issues action handle := by
  rw [issues, Issues]
  cases config.step action with
  | error error => simp
  | ok next => simp [Option.any_eq_true]

instance (config : Config P) (action : Action) : Decidable (NotReissued config action) :=
  decidable_of_iff (∀ target ∈ config.holders, config.issues action target.handle = false)
    (by simp [NotReissued, Config.holds_iff_mem, ← Config.issues_iff])

/-- A target keeps denoting its connection through a step exactly when the step does
not put another one under its handle. -/
private theorem denotes_step_iff {config next : Config P} {action : Action}
    (reached : (endpoint P).Reachable config)
    (stepped : (endpoint P).step config action = .ok next) {target : Target}
    (denotes : config.state.Denotes target) :
    next.state.Denotes target ↔ ¬ config.Issues action target.handle := by
  rcases denotes with ⟨entry, found, serial⟩
  have old := reachable_serials reached found
  rw [serial] at old
  rcases (ConnsFrom.moves stepped).kept target.handle entry found with ⟨after, lookup, kept⟩
  constructor
  · rintro ⟨current, here, same⟩ ⟨other, issued, ran, there, newer⟩
    rw [show config.step action = .ok next from stepped] at ran
    cases ran
    rw [here] at there
    cases there
    omega
  · intro unissued
    rcases kept with steps | newer
    · exact ⟨after, lookup, steps.evolves.serial.trans serial⟩
    · exact absurd ⟨next, after, stepped, lookup, newer⟩ unissued

theorem holders_denote {config : Config P} (reached : (endpoint P).Reaches NotReissued config) :
    ∀ target, config.Holds target → config.state.Denotes target := by
  apply reached.induction (fun config : Config P =>
    ∀ target, config.Holds target → config.state.Denotes target)
  · rintro config ⟨noq, webrtc, udp, relay, clock, url, _, rfl⟩ target holds
    cases holds with
    | resource id resource found same => simp [Config.bind] at found
    | call id call found same => simp [Config.bind] at found
    | queued item member same =>
        simp [Config.bind, State.registerRelay, State.new] at member
  · intro config action next reachable denotes guard stepped target holds
    rcases (Config.step_move stepped).holds holds with held | fresh
    · exact (denotes_step_iff reachable stepped (denotes target held)).mpr
        (guard target held)
    · exact fresh

/-- While no held handle is issued again, everything that holds a handle keeps acting
on the connection it was made for: a closed connection stays closed and a known peer
stays the same. Each step that does issue one breaks this for its holder. -/
theorem resources_denote_their_connection (identity : P.KeepsIdentity)
    {config later : Config P} (reached : (endpoint P).Reaches NotReissued config)
    (run : (endpoint P).ReachesFrom NotReissued config later) :
    (∀ target, config.Holds target → later.Holds target →
      ∃ entry after, config.state.conns.get? target.handle = some entry ∧
        later.state.conns.get? target.handle = some after ∧
        entry.trace.serial = target.serial ∧ after.trace.serial = target.serial ∧
        EntrySteps entry after ∧
        (entry.connectionState = .closed → after.connectionState = .closed) ∧
        (entry.peerBytes ≠ [] → after.peerBytes = entry.peerBytes)) ∧
    ∀ action next, (endpoint P).step later action = .ok next →
      ∀ target, later.Holds target →
        (next.state.Denotes target ↔ ¬ later.Issues action target.handle) := by
  have reachedLater : (endpoint P).Reaches NotReissued later := by
    rcases reached with ⟨first, initial, path⟩
    exact ⟨first, initial, path.trans run⟩
  refine ⟨?_, ?_⟩
  · intro target holds still
    rcases holders_denote reached target holds with ⟨entry, found, serial⟩
    rcases holders_denote reachedLater target still with ⟨after, lookup, same⟩
    have old := reachable_serials reached.reachable found
    have steps : EntrySteps entry after := by
      rcases (ConnsFrom.run run).kept target.handle entry found with ⟨current, here, kept⟩
      rw [lookup] at here
      cases here
      rcases kept with steps | newer
      · exact steps
      · omega
    refine ⟨entry, after, found, lookup, serial, same, steps, ?_, ?_⟩
    · rw [ConnEntry.connectionState_closed, ConnEntry.connectionState_closed]
      exact steps.evolves.isClosed
    · intro known
      simp only [ConnEntry.peerBytes] at known ⊢
      cases peer : entry.peer with
      | none => simp [peer] at known
      | some id =>
          rw [steps.peer identity (reachable_authentic identity reached.reachable found) peer]
  · intro action next stepped target holds
    exact denotes_step_iff reachedLater.reachable stepped
      (holders_denote reachedLater target holds)

def acceptedAndClosed : List Action :=
  List.flatten [Slab.turn [] 0, [Slab.hello 0 7], Slab.turn [0] 1,
    [.invoke .accept, .resume 1 .poll, .invoke (.closeConnection 2 0 []), .pump .tick],
    Slab.turn [0] 1]

/-- The connection in the resource's hands stays closed while nothing takes its
handle. -/
theorem resources_denote_their_connection_closed :
    ∃ config later : Config Slab.platform,
      (endpoint Slab.platform).Reaches NotReissued config ∧
      config.Holds ⟨0, 0⟩ ∧ later.Holds ⟨0, 0⟩ ∧
      ∃ entry after, config.state.conns.get? 0 = some entry ∧
        later.state.conns.get? 0 = some after ∧ EntrySteps entry after ∧
        after.connectionState = .closed := by
  have passed : (endpoint Slab.platform).runs (fun config action =>
      decide (NotReissued config action)) (Slab.bound true false) acceptedAndClosed
      (fun config => decide (⟨0, 0⟩ ∈ config.holders) &&
        ((config.state.conns.get? 0).any fun entry =>
          decide (entry.connectionState = .closed)) &&
        (endpoint Slab.platform).runs (fun config action =>
          decide (NotReissued config action)) config (.pump .tick :: Slab.turn [0] 0)
          (fun later => decide (⟨0, 0⟩ ∈ later.holders))) = true := by decide +kernel
  rcases System.ReachesFrom.of_runs (fun _ _ => of_decide_eq_true) _ passed with
    ⟨config, path, tested⟩
  simp only [Bool.and_eq_true, decide_eq_true_eq, Option.any_eq_true] at tested
  rcases tested with ⟨⟨held, entry, found, closed⟩, continued⟩
  rcases System.ReachesFrom.of_runs (fun _ _ => of_decide_eq_true) _ continued with
    ⟨later, run, still⟩
  have reached : (endpoint Slab.platform).Reaches NotReissued config :=
    ⟨_, Slab.bound_initial true false, path⟩
  have holds : config.Holds ⟨0, 0⟩ := (config.holds_iff_mem _).mpr held
  have kept : later.Holds ⟨0, 0⟩ := (later.holds_iff_mem _).mpr (of_decide_eq_true still)
  rcases (resources_denote_their_connection Slab.keepsIdentity reached run).1 ⟨0, 0⟩ holds
    kept with ⟨first, after, here, there, _, _, steps, latched, _⟩
  rw [found] at here
  cases here
  exact ⟨config, later, reached, holds, kept, entry, after, found, there, steps,
    latched closed⟩

/-- A second peer's connection gets the drained handle: the resource of the first one
reports it open, under the other identity. -/
theorem resources_denote_their_connection_reissued :
    ∃ config later : Config Slab.platform, ∃ entry after,
      (endpoint Slab.platform).Reachable config ∧
      (endpoint Slab.platform).ReachesFrom (fun _ _ => True) config later ∧
      config.resources.get? 2 = some (.connection ⟨0, 0⟩ none) ∧
      later.resources.get? 2 = some (.connection ⟨0, 0⟩ none) ∧
      config.state.conns.get? 0 = some entry ∧ later.state.conns.get? 0 = some after ∧
      entry.connectionState = .closed ∧ after.connectionState = .open ∧
      entry.peerBytes = (Slab.peer 7).bytes ∧ after.peerBytes = (Slab.peer 9).bytes := by
  have passed : (endpoint Slab.platform).runs (fun _ _ => true) (Slab.bound true false)
      acceptedAndClosed (fun config =>
        decide (config.resources.get? 2 = some (.connection ⟨0, 0⟩ none)) &&
        ((config.state.conns.get? 0).any fun entry =>
          decide (entry.connectionState = .closed ∧
            entry.peerBytes = (Slab.peer 7).bytes)) &&
        (endpoint Slab.platform).runs (fun _ _ => true) config
          (Slab.hello 0 9 :: Slab.turn [0] 1) (fun later =>
            decide (later.resources.get? 2 = some (.connection ⟨0, 0⟩ none)) &&
            (later.state.conns.get? 0).any fun entry =>
              decide (entry.connectionState = .open ∧
                entry.peerBytes = (Slab.peer 9).bytes))) = true := by decide +kernel
  rcases System.Reachable.of_runs (Slab.bound_initial true false) passed with
    ⟨config, reached, tested⟩
  simp only [Bool.and_eq_true, decide_eq_true_eq, Option.any_eq_true] at tested
  rcases tested with ⟨⟨resource, entry, found, closed, first⟩, continued⟩
  rcases System.ReachesFrom.of_runs (fun _ _ _ => trivial) _ continued with
    ⟨later, run, passed⟩
  simp only [Bool.and_eq_true, decide_eq_true_eq, Option.any_eq_true] at passed
  rcases passed with ⟨still, after, lookup, opened, second⟩
  exact ⟨config, later, entry, after, reached, run, resource, still, found, lookup, closed,
    opened, first, second⟩

end IrohEndpoint
