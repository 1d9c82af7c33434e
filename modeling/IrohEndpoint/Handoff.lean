import IrohEndpoint.Authentication
import IrohEndpoint.Calls

/-! # Handing out what arrives

Connections and streams arrive in drains, each behind the ones before it, and leave their
queues one at a time for the call that is polled. Together with what was handed out, a
queue is always all that has arrived. -/

namespace IrohEndpoint

open Relation

variable {P : Platform}

/-! ## Steps that hand nothing out -/

theorem StateStep.serves {task : Task} {state next : State P}
    (step : StateStep task state next) (idle : task.calls = false) : state.Serves next := by
  cases step with
  | entry handle entry after io found _ _ _ _ serves _ =>
      refine ⟨Nat.le_refl _, ⟨io.accepted, rfl, rfl⟩, ?_⟩
      exact (State.Serves.setEntry found (serves idle).1.toServing).entries
  | inserted handle conn expectedPeer acceptedSide origin _ _ creates =>
      exact .insertConn state handle creates expectedPeer acceptedSide origin
  | markedDead reason _ => exact .markDead state reason
  | timedOut now => exact .handleTimeouts state now
  | closed now reason calls =>
      rw [idle] at calls
      cases calls
  | accepted item rest calls _ =>
      rw [idle] at calls
      cases calls
  | responded addr source payload =>
      rcases state.pushResponse_frame addr source payload with ⟨_, _, _, frame⟩
      rw [frame]
      exact .of_same rfl rfl rfl rfl
  | sighted peer via =>
      rcases state.addrForPeer_frame peer via with ⟨_, _, _, _, frame⟩
      rw [frame]
      exact .of_same rfl rfl rfl rfl
  | dialed peer key =>
      rcases state.dialStandin_frame peer key with ⟨_, _, _, _, frame⟩
      rw [frame]
      exact .of_same rfl rfl rfl rfl
  | channelRegistered peer wire _ =>
      rcases state.registerChannel_frame peer wire with ⟨_, _, _, _, _, _, _, _, _, frame⟩
      rw [frame]
      exact .of_same rfl rfl rfl rfl
  | channelDied id wire _ =>
      rcases state.channelDied_frame id wire with ⟨_, _, frame⟩
      rw [frame]
      exact .of_same rfl rfl rfl rfl
  | _ => exact .of_same rfl rfl rfl rfl

theorem StateSteps.serves {task : Task} {state next : State P}
    (steps : StateSteps task state next) (idle : task.calls = false) : state.Serves next := by
  induction steps with
  | refl => exact .refl state
  | tail _ step induction => exact induction.trans (step.serves idle)

theorem Resolution.serves {opened : Bool} {claim : Option String} {keys : List UInt32}
    {state between : State P} (resolution : Resolution opened claim state keys between) :
    state.Serves between := by
  cases resolution with
  | unclaimed _ => exact .refl state
  | failed url _ => exact .of_same rfl rfl rfl rfl
  | registered url conn _ _ _ => exact .of_same rfl rfl rfl rfl

theorem Dialing.serves {peer : EndpointId} {keys : List UInt32} {state : State P}
    {result : Connecting × State P} (dialing : Dialing peer keys state result) :
    state.Serves result.2 := by
  have remote : ∀ (state : State P) (dial : Dial) (dialKey : UInt32) (noq : P.Endpoint),
      state.Serves { (state.dialRemote dial dialKey).2 with noq } := by
    intro state dial dialKey noq
    rcases state.dialRemote_frame dial dialKey with ⟨_, _, _, _, frame⟩
    rw [frame]
    exact .of_same rfl rfl rfl rfl
  induction dialing with
  | failed keys state error => exact .refl state
  | waiting keys state phase _ _ _ _ => exact .refl state
  | claimed keys state phase url _ _ _ _ _ _ => exact .of_same rfl rfl rfl rfl
  | ensured keys state url key result _ _ induction =>
      have noted : state.Serves (state.noteEnsured url key) := .of_same rfl rfl rfl rfl
      exact noted.trans induction
  | rejected keys state dial dialKey noq error _ => exact remote state dial dialKey noq
  | dialed keys state inserted next dial dialKey noq handle conn upgrades _ _ _ _ _ insertion
      queueing _ creates =>
      subst insertion queueing
      have added := (remote state dial dialKey noq).trans
        (.insertConn _ handle creates (some dial.peer) false (.dialed dial.peer))
      exact added.trans (.of_same rfl rfl rfl rfl)

namespace Config

variable {config next : Config P}

private theorem connecting_serves {id fresh : Nat} {addr : EndpointAddr}
    {progress : Connecting × State P} (serves : config.state.Serves progress.2)
    (made : next = ({ config with fresh } : Config P).connecting id addr progress) :
    config.state.Serves next.state := by
  rcases connecting_frame ({ config with fresh } : Config P) id addr progress with
    ⟨_, _, _, _, frame⟩
  rw [made, frame]
  exact serves

private theorem invoke_serves {method : Method} (ran : config.invoke method = .ok next) :
    config.state.Serves next.state := by
  rcases invoke_cases ran with ⟨addr, alpn, rfl, made⟩ | ⟨_, _, rfl⟩ | ⟨_, touched⟩
  · refine connecting_serves ?_ made
    rcases Dialing.connect config.state config.clock config.udp addr alpn
      (List.mem_singleton_self homeRelay) with ⟨_, failed⟩ | ⟨peer, _, dialing⟩
    · rw [failed]
      exact .refl config.state
    · exact dialing.serves
  · exact .refl config.state
  · exact touched.serves rfl

theorem resumeCall_serves {id : Nat} {call : Call} {input : CallInput}
    (pending : config.calls.get? id = some call) (hands : call.hands = false)
    (ran : config.resumeCall id call input = .ok next) : config.state.Serves next.state := by
  cases dials : call.dials with
  | false => exact (resumeCall_touches pending dials ran).serves hands
  | true =>
      cases call <;> try cases dials
      rename_i addr phase
      rcases resumeConnect_cases ran with ⟨url, result, suspended, rfl, made⟩ |
        ⟨url, started, suspended, rfl, ⟨_, rfl⟩ | ⟨result, polled, made⟩⟩ | ⟨_, touched⟩
      · refine connecting_serves ?_ made
        rcases Dialing.opened config.state config.clock phase suspended result config.fresh with
          ⟨keys, between, resolution, dialing⟩
        exact resolution.serves.trans dialing.serves
      · exact .refl _
      · refine connecting_serves ?_ made
        have opens : phase.ensure?.isSome = true := by rw [suspended]; rfl
        exact (Dialing.pollEnsure config.clock started phase opens (Prod.ext polled rfl)).serves
      · exact touched.serves rfl

theorem Acts.serves {action : Action} (acts : config.Acts action next)
    (idle : ∀ id input call, action = .resume id input →
      config.calls.get? id = some call → call.hands = false) :
    config.state.Serves next.state := by
  cases acts with
  | advanced elapsed => exact .refl _
  | pumped input state pump spawned ran =>
      rcases addSessions_frame spawned ({ config with state, pump } : Config P) with
        ⟨_, _, frame⟩
      rw [frame]
      rcases pumped_steps ran with ⟨task, idle, steps⟩
      exact StateSteps.serves steps idle
  | resumed id input session after registration state _ _ ran =>
      exact StateSteps.serves (StateSteps.resumes (Session.resumes ran)) rfl
  | invoked method next _ ran => exact invoke_serves ran
  | polled id input call next _ pending ran =>
      exact resumeCall_serves pending (idle id input call rfl pending) ran

/-! ## Polls that hand out -/

/-- The call `id` has nothing to hand out: it waits, or it fails. -/
def Unserved (id : Nat) (config next : Config P) : Prop :=
  next.outcomes = config.outcomes ∨
  ∃ outcome, next.outcomes = config.outcomes ++ [(id, outcome)] ∧
    ((∃ error, outcome = .connected (.error error)) ∨ ∃ error, outcome = .stream (.error error))

private theorem resumeAccept_cases {id : Nat} (ran : config.resumeAccept id = .ok next) :
    (config.state.acceptQueue = [] ∧ next.state = config.state ∧ Unserved id config next) ∨
    ∃ item rest, config.state.acceptQueue = item :: rest ∧
      next.state = { config.state with acceptQueue := rest } ∧
      next.outcomes = config.outcomes ++
        [(id, .connected (.ok (.connection ⟨item.handle, item.serial⟩ none)))] := by
  rw [resumeAccept, State.acceptCheck] at ran
  cases queue : config.state.acceptQueue with
  | nil =>
      left
      rw [queue] at ran
      by_cases over_ : (config.state.dead.isSome || config.state.closed) = true
      · simp only [if_pos over_] at ran
        cases ran
        exact ⟨rfl, settle_state _ _ _ _, .inr ⟨_, settle_outcomes _ _ _ _, .inl ⟨_, rfl⟩⟩⟩
      · simp only [if_neg over_] at ran
        cases ran
        exact ⟨rfl, rfl, .inl rfl⟩
  | cons item rest =>
      rw [queue] at ran
      cases ran
      exact .inr ⟨item, rest, rfl, settle_state _ _ _ _, settle_outcomes _ _ _ _⟩

/-- A poll of `accept_bi` or `accept_uni` takes the oldest stream of its direction, if
there is one. -/
theorem resumeAcceptStream_cases {id : Nat} {target : Target} {dir : Dir}
    {shape : StreamShape}
    (ran : config.resumeStream id target shape (fun entry => entry.acceptStreamCheck dir) =
      .ok next) :
    ∃ entry, config.state.conns.get? target.handle = some entry ∧
      ((entry.queue dir = [] ∧ Unserved id config next ∧
        next.state = { config.state with
          conns := config.state.conns.set target.handle entry }) ∨
      ∃ stream rest, entry.queue dir = stream :: rest ∧
        next.state = { config.state with
          conns := config.state.conns.set target.handle (entry.setQueue dir rest) } ∧
        next.outcomes = config.outcomes ++
          [(id, .stream (.ok (shape.resources target stream)))]) := by
  rcases bind_eq_ok.mp ran with ⟨⟨answer, state⟩, accessed, rest⟩
  rcases withEntry_ok accessed with ⟨entry, after, found, checked, rfl⟩
  refine ⟨entry, found, ?_⟩
  have answered : entry.acceptStreamCheck dir = (answer, after) := Except.ok.inj checked
  rw [ConnEntry.acceptStreamCheck] at answered
  cases queue : entry.queue dir with
  | nil =>
      left
      rw [queue] at answered
      cases latched : entry.error with
      | none =>
          rw [latched] at answered
          cases answered
          cases rest
          exact ⟨rfl, .inl rfl, rfl⟩
      | some error =>
          rw [latched] at answered
          cases answered
          cases rest
          exact ⟨rfl, .inr ⟨_, settle_outcomes _ _ _ _, .inr ⟨_, rfl⟩⟩, settle_state _ _ _ _⟩
  | cons stream waiting =>
      rw [queue] at answered
      cases answered
      cases rest
      exact .inr ⟨stream, waiting, rfl, settle_state _ _ _ _, settle_outcomes _ _ _ _⟩

end Config

/-! ## The log -/

/-- What has been handed out so far: the connections of `accept`, and for each connection
the streams of `accept_bi` and `accept_uni`. -/
structure Handoffs where
  accepted : List AcceptItem
  streams : ConnectionHandle → Dir → List StreamId

/-- The connection a resolved `accept` gives. -/
def Outcome.accepted : Outcome → Option AcceptItem
  | .connected (.ok (.connection target _)) => some ⟨target.handle, target.serial⟩
  | _ => none

def Resource.streamId : Resource → Option StreamId
  | .sendStream _ id | .recvStream _ id _ => some id
  | .connection .. => none

/-- The stream a resolved `accept_bi` or `accept_uni` gives. -/
def Outcome.streamId : Outcome → Option StreamId
  | .stream (.ok (resource :: _)) => resource.streamId
  | _ => none

def Config.resolved (config next : Config P) : List Outcome :=
  (next.outcomes.drop config.outcomes.length).map Prod.snd

def Handoffs.add (log : Handoffs) (handle : ConnectionHandle) (dir : Dir)
    (streams : List StreamId) : Handoffs :=
  { log with streams := fun other own =>
      if other = handle ∧ own = dir then log.streams other own ++ streams
      else log.streams other own }

/-- Log what a poll of `accept`, `accept_bi` or `accept_uni` resolves to. -/
def Handoffs.note (log : Handoffs) (config : Config P) (action : Action)
    (next : Config P) : Handoffs :=
  match action with
  | .resume id _ =>
      match config.calls.get? id with
      | some .accept => { log with
          accepted := log.accepted ++ (config.resolved next).filterMap Outcome.accepted }
      | some (.acceptStream target dir _) =>
          log.add target.handle dir ((config.resolved next).filterMap Outcome.streamId)
      | _ => log
  | _ => log

/-- The runs of the endpoint beside what they have handed out. -/
def handing (P : Platform) : System (Config P × Handoffs) Action Abort :=
  (endpoint P).observed ⟨[], fun _ _ => []⟩ Handoffs.note

namespace Config

variable {config next : Config P} {id : Nat}

private theorem resolved_one {outcome : Outcome}
    (settled : next.outcomes = config.outcomes ++ [(id, outcome)]) :
    config.resolved next = [outcome] := by
  rw [resolved, settled, List.drop_left]
  rfl

private theorem resolved_stream {shape : StreamShape} {target : Target} {stream : StreamId}
    (settled : next.outcomes = config.outcomes ++
      [(id, .stream (.ok (shape.resources target stream)))]) :
    (config.resolved next).filterMap Outcome.streamId = [stream] := by
  rw [resolved_one settled]
  cases shape <;> rfl

theorem Unserved.resolved (unserved : Unserved id config next) :
    (config.resolved next).filterMap Outcome.accepted = [] ∧
    (config.resolved next).filterMap Outcome.streamId = [] := by
  rcases unserved with same | ⟨outcome, settled, ⟨error, rfl⟩ | ⟨error, rfl⟩⟩
  · rw [Config.resolved, same, List.drop_length]
    exact ⟨rfl, rfl⟩
  · rw [resolved_one settled]
    exact ⟨rfl, rfl⟩
  · rw [resolved_one settled]
    exact ⟨rfl, rfl⟩

end Config

namespace Handoffs

variable {config next : Config P}

private theorem note_idle (log : Handoffs) {action : Action} (next : Config P)
    (idle : ∀ id input call, action = .resume id input →
      config.calls.get? id = some call → call.hands = false) :
    log.note config action next = log := by
  rw [note.eq_def]
  split
  · rename_i id input
    split
    · rename_i pending
      cases idle id input _ rfl pending
    · rename_i pending
      cases idle id input _ rfl pending
    · rfl
  · rfl

private theorem add_nil (log : Handoffs) (handle : ConnectionHandle) (dir : Dir) :
    log.add handle dir [] = log := by
  simp [add]

private theorem add_own (log : Handoffs) (handle : ConnectionHandle) (dir : Dir)
    (streams : List StreamId) :
    (log.add handle dir streams).streams handle dir = log.streams handle dir ++ streams := by
  simp [add]

private theorem add_other (log : Handoffs) {handle other : ConnectionHandle} {dir own : Dir}
    (streams : List StreamId) (apart : ¬ (other = handle ∧ own = dir)) :
    (log.add handle dir streams).streams other own = log.streams other own :=
  if_neg apart

end Handoffs

/-! ## Conservation -/

/-- All that has arrived is what was handed out, followed by what waits. -/
structure HandedOff (recorder : Recorder P) (config : Config P) (log : Handoffs) : Prop where
  connections : config.state.history.queued = log.accepted ++ config.state.acceptQueue
  streams : ∀ handle entry, config.state.conns.get? handle = some entry → ∀ dir,
    recorder.surfaced entry.conn dir = log.streams handle dir ++ entry.queue dir
  absent : ∀ handle, config.state.conns.get? handle = none → ∀ dir,
    log.streams handle dir = []

namespace HandedOff

variable {recorder : Recorder P} {config next : Config P} {log : Handoffs} {action : Action}

theorem serves (handed : HandedOff recorder config log) (fresh : FreshHandles config action)
    (stepped : (endpoint P).step config action = .ok next)
    (serves : config.state.Serves next.state) : HandedOff recorder next log := by
  refine ⟨?_, ?_, ?_⟩
  · rcases serves.queue with ⟨arrived, queue, queued⟩
    rw [queued, queue, handed.connections, List.append_assoc]
  · intro handle after found dir
    rcases serves.entries handle after found with ⟨entry, lookup, served⟩ | ⟨level, newer⟩
    · rcases served.served recorder dir with ⟨arrived, queue, surfaced⟩
      rw [surfaced, queue, handed.streams handle entry lookup dir, List.append_assoc]
    · -- a new connection is under a handle that was not in the table
      have vacant := fresh handle ⟨next, after, stepped, found, newer⟩
      rw [handed.absent handle vacant dir, level recorder dir]
      rfl
  · intro handle missing dir
    refine handed.absent handle ?_ dir
    cases found : config.state.conns.get? handle with
    | none => rfl
    | some entry =>
        rcases fresh.kept stepped found with ⟨after, lookup, _⟩
        rw [missing] at lookup
        cases lookup

theorem accepts (handed : HandedOff recorder config log) {id : Nat} {input : CallInput}
    (pending : config.calls.get? id = some .accept)
    (ran : config.resumeAccept id = .ok next) :
    HandedOff recorder next (log.note config (.resume id input) next) := by
  have noted : log.note config (.resume id input) next = { log with
      accepted := log.accepted ++ (config.resolved next).filterMap Outcome.accepted } := by
    simp only [Handoffs.note, pending]
  rw [noted]
  rcases Config.resumeAccept_cases ran with
    ⟨_, same, unserved⟩ | ⟨item, rest, queue, popped, settled⟩
  · rw [unserved.resolved.1, List.append_nil]
    refine ⟨?_, ?_, ?_⟩ <;> rw [same]
    · exact handed.connections
    · exact handed.streams
    · exact handed.absent
  · rw [Config.resolved_one settled]
    refine ⟨?_, ?_, ?_⟩ <;> rw [popped]
    · have total := handed.connections
      rw [queue] at total
      simpa [Outcome.accepted] using total
    · exact handed.streams
    · exact handed.absent

private theorem acceptsStream (handed : HandedOff recorder config log) {id : Nat}
    {input : CallInput} {target : Target} {dir : Dir} {shape : StreamShape}
    (pending : config.calls.get? id = some (.acceptStream target dir shape))
    (ran : config.resumeStream id target shape (fun entry => entry.acceptStreamCheck dir) =
      .ok next) :
    HandedOff recorder next (log.note config (.resume id input) next) := by
  have noted : log.note config (.resume id input) next =
      log.add target.handle dir ((config.resolved next).filterMap Outcome.streamId) := by
    simp only [Handoffs.note, pending]
  rw [noted]
  rcases Config.resumeAcceptStream_cases ran with ⟨entry, found, ⟨_, unserved, same⟩ |
    ⟨stream, rest, queue, popped, settled⟩⟩
  · rw [unserved.resolved.2, Handoffs.add_nil]
    refine ⟨?_, ?_, ?_⟩ <;> rw [same]
    · exact handed.connections
    · intro handle after lookup own
      dsimp only at lookup
      rw [Table.get?_set] at lookup
      split at lookup
      · cases lookup
        exact handed.streams handle entry (‹handle = _› ▸ found) own
      · exact handed.streams handle after lookup own
    · intro handle missing own
      dsimp only at missing
      rw [Table.get?_set] at missing
      split at missing
      · cases missing
      · exact handed.absent handle missing own
  · rw [Config.resolved_stream settled]
    refine ⟨?_, ?_, ?_⟩ <;> rw [popped]
    · exact handed.connections
    · intro handle after lookup own
      dsimp only at lookup
      rw [Table.get?_set] at lookup
      split at lookup
      · rename_i here
        cases lookup
        have total := handed.streams handle entry (here ▸ found) own
        have conn : (entry.setQueue dir rest).conn = entry.conn := by cases dir <;> rfl
        rw [conn, total]
        by_cases same : own = dir
        · subst here same
          have shorter : (entry.setQueue own rest).queue own = rest := by cases own <;> rfl
          rw [log.add_own, shorter, queue, List.append_assoc]
          rfl
        · have other : (entry.setQueue dir rest).queue own = entry.queue own := by
            cases dir <;> cases own <;> first | rfl | exact absurd rfl same
          rw [log.add_other _ fun both => same both.2, other]
      · rename_i elsewhere
        rw [log.add_other _ fun both => elsewhere both.1]
        exact handed.streams handle after lookup own
    · intro handle missing own
      dsimp only at missing
      rw [Table.get?_set] at missing
      split at missing
      · cases missing
      · rename_i elsewhere
        rw [log.add_other _ fun both => elsewhere both.1]
        exact handed.absent handle missing own

theorem step (handed : HandedOff recorder config log) (fresh : FreshHandles config action)
    (stepped : (endpoint P).step config action = .ok next) :
    HandedOff recorder next (log.note config action next) := by
  have acts : config.Acts action next := Config.step_acts stepped
  by_cases idle : ∀ id input call, action = .resume id input →
      config.calls.get? id = some call → call.hands = false
  · rw [log.note_idle next idle]
    exact handed.serves fresh stepped (acts.serves idle)
  · push Not at idle
    rcases idle with ⟨id, input, call, rfl, pending, hands⟩
    cases acts with
    | polled _ _ own _ _ known ran =>
        rw [pending] at known
        cases known
        cases call <;> try cases hands rfl
        · cases input <;> try cases ran
          exact handed.accepts pending ran
        · cases input <;> try cases ran
          exact handed.acceptsStream pending ran

end HandedOff

/-! ## How often a connection is queued -/

private theorem StateStep.drain_counted {state next : State P} (step : StateStep .drain state next)
    {handle : ConnectionHandle} {after : ConnEntry P}
    (found : next.conns.get? handle = some after) :
    ∃ entry, state.conns.get? handle = some entry ∧
      after.trace.serial = entry.trace.serial ∧
      next.history.queued.count ⟨handle, after.trace.serial⟩ +
          entry.trace.authenticated.length ≤
        state.history.queued.count ⟨handle, after.trace.serial⟩ +
          after.trace.authenticated.length := by
  cases step.conns with
  | inserted other conn expectedPeer acceptedSide origin admits _ _ =>
      cases admits with
      | dialed peer caller _ => cases caller
      | relay via source pump => cases pump
      | channel id entry pump _ => cases pump
      | udp remote pump => cases pump
  | moved related _ =>
      rcases rel_some_right (found ▸ related handle) with ⟨entry, lookup, steps⟩
      refine ⟨entry, lookup, steps.evolves.serial, ?_⟩
      have grown := steps.evolves.authenticated.length_le
      rcases step.queue with
        ⟨_, same⟩ | ⟨_, own, before, later, items, here, there, _, queued, surfaced, counted⟩
      · rw [same]
        omega
      · rw [queued, List.count_append]
        by_cases same : own = handle
        · subst same
          rw [lookup] at here
          rw [found] at there
          cases here
          cases there
          have short := @List.count_le_length _ _ ⟨own, after.trace.serial⟩ items
          omega
        · have none_ : items.count ⟨handle, after.trace.serial⟩ = 0 := by
            rw [List.count_eq_zero]
            intro member
            exact same (surfaced _ member).1.symm
          omega

private theorem StateSteps.drain_counted {state next : State P}
    (steps : StateSteps .drain state next)
    {handle : ConnectionHandle} {after : ConnEntry P}
    (found : next.conns.get? handle = some after) :
    ∃ entry, state.conns.get? handle = some entry ∧
      after.trace.serial = entry.trace.serial ∧
      next.history.queued.count ⟨handle, after.trace.serial⟩ +
          entry.trace.authenticated.length ≤
        state.history.queued.count ⟨handle, after.trace.serial⟩ +
          after.trace.authenticated.length := by
  induction steps generalizing after with
  | refl => exact ⟨after, found, rfl, Nat.le_refl _⟩
  | tail _ step induction =>
      rcases step.drain_counted found with ⟨between, lookup, serial, late⟩
      rcases induction lookup with ⟨entry, first, same, early⟩
      rw [← serial] at early same
      exact ⟨entry, first, same, by omega⟩

def Counted (config : Config P) : Prop :=
  ∀ handle entry, config.state.conns.get? handle = some entry →
    config.state.history.queued.count ⟨handle, entry.trace.serial⟩ ≤
      entry.trace.authenticated.length

theorem Counted.step {config next : Config P} {action : Action} (counted : Counted config)
    (surfacing : Surfacing config) (fresh : FreshHandles config action)
    (stepped : (endpoint P).step config action = .ok next) : Counted next := by
  intro handle after found
  rcases (Config.step_move stepped).drains with drains | same
  · rcases StateSteps.drain_counted drains found with ⟨entry, lookup, serial, grown⟩
    have before := counted handle entry lookup
    rw [← serial] at before
    omega
  · rw [same]
    rcases (ConnsFrom.moves stepped).source handle after found with
      ⟨entry, lookup, steps⟩ | ⟨newer, _⟩
    · rw [steps.evolves.serial]
      exact Nat.le_trans (counted handle entry lookup) steps.evolves.authenticated.length_le
    · -- what is queued is in the table, and this handle was not
      have vacant := fresh handle ⟨next, after, stepped, found, newer⟩
      have none_ : config.state.history.queued.count ⟨handle, after.trace.serial⟩ = 0 := by
        rw [List.count_eq_zero]
        intro member
        rcases surfacing.queued _ member with ⟨entry, lookup, _⟩
        rw [vacant] at lookup
        cases lookup
      omega

theorem Counted.nodup {config : Config P} (counted : Counted config)
    (surfacing : Surfacing config)
    (once : ∀ handle entry, config.state.conns.get? handle = some entry →
      entry.trace.authenticated.length ≤ 1) : config.state.history.queued.Nodup := by
  rw [List.nodup_iff_count_le_one]
  intro item
  by_cases member : item ∈ config.state.history.queued
  · rcases surfacing.queued item member with ⟨entry, found, serial, _⟩
    have bounded := counted item.handle entry found
    rw [serial] at bounded
    exact Nat.le_trans bounded (once item.handle entry found)
  · rw [List.count_eq_zero_of_not_mem member]
    exact Nat.zero_le 1

/-! ## The hand-off -/

private theorem reaches_handedOff (recorder : Recorder P) {config : Config P} {log : Handoffs}
    (reached : (handing P).Reaches (fun start => FreshHandles start.1) (config, log)) :
    Surfacing config ∧ Counted config ∧ HandedOff recorder config log := by
  have both : (endpoint P).Reaches FreshHandles config ∧ Counted config ∧
      HandedOff recorder config log := by
    refine System.observed.invariant
      (fun config log => Counted config ∧ HandedOff recorder config log) ?_ ?_ reached
    · rintro config ⟨noq, webrtc, udp, relay, clock, url, _, rfl⟩
      refine ⟨?_, ?_, ?_, ?_⟩ <;>
        simp [Counted, Config.bind, State.registerRelay, State.new]
    · rintro config log action next reached ⟨counted, handed⟩ fresh stepped
      exact ⟨counted.step (reaches_surfacing reached) fresh stepped, handed.step fresh stepped⟩
  exact ⟨reaches_surfacing both.1, both.2⟩

private theorem handing_poll {config next : Config P} {log : Handoffs} {id : Nat} {call : Call}
    (awaits : config.pump.phase.awaits = true) (pending : config.calls.get? id = some call)
    (ran : config.resumeCall id call .poll = .ok next) :
    (handing P).step (config, log) (.resume id .poll) =
      .ok (next, log.note config (.resume id .poll) next) := by
  have stepped : (endpoint P).step config (.resume id .poll) = .ok next := by
    simpa [endpoint, Config.step, awaits, pending] using ran
  simp only [handing, System.observed, stepped]
  rfl

/-- In runs where noq returns handles that are not in the table: the connections that were
queued are those `accept` has handed out, in order, and those that wait, and none was
queued twice if noq reports each connected once; the streams noq has surfaced on a
connection are those that were handed out, in order, and those that wait; and a poll of
`accept`, `accept_bi` or `accept_uni` hands out the oldest that waits, whatever has
happened to the connection and the endpoint. -/
theorem exactly_once_handoff (recorder : Recorder P) {config : Config P} {log : Handoffs}
    (reached : (handing P).Reaches (fun start => FreshHandles start.1) (config, log)) :
    (config.state.history.queued = log.accepted ++ config.state.acceptQueue ∧
      ((∀ handle entry, config.state.conns.get? handle = some entry →
        entry.trace.authenticated.length ≤ 1) → config.state.history.queued.Nodup)) ∧
    (∀ handle entry, config.state.conns.get? handle = some entry → ∀ dir,
      recorder.surfaced entry.conn dir = log.streams handle dir ++ entry.queue dir) ∧
    (∀ id item rest, config.pump.phase.awaits = true →
      config.calls.get? id = some .accept → config.state.acceptQueue = item :: rest →
      ∃ next, (handing P).step (config, log) (.resume id .poll) =
          .ok (next, { log with accepted := log.accepted ++ [item] }) ∧
        next.outcomes = config.outcomes ++
          [(id, .connected (.ok (.connection ⟨item.handle, item.serial⟩ none)))]) ∧
    ∀ id target dir shape entry stream rest, config.pump.phase.awaits = true →
      config.calls.get? id = some (.acceptStream target dir shape) →
      config.state.conns.get? target.handle = some entry → entry.queue dir = stream :: rest →
      ∃ next, (handing P).step (config, log) (.resume id .poll) =
          .ok (next, log.add target.handle dir [stream]) ∧
        next.outcomes = config.outcomes ++
          [(id, .stream (.ok (shape.resources target stream)))] := by
  rcases reaches_handedOff recorder reached with ⟨surfacing, counted, handed⟩
  refine ⟨⟨handed.connections, counted.nodup surfacing⟩, handed.streams, ?_, ?_⟩
  · intro id item rest awaits pending queue
    have ran : ∃ next, config.resumeAccept id = .ok next := by
      rw [Config.resumeAccept, State.acceptCheck, queue]
      exact ⟨_, rfl⟩
    rcases ran with ⟨next, ran⟩
    rcases Config.resumeAccept_cases ran with
      ⟨empty, _⟩ | ⟨head, tail, same, _, settled⟩
    · rw [queue] at empty
      cases empty
    · rw [queue] at same
      cases same
      refine ⟨next, ?_, settled⟩
      rw [handing_poll awaits pending ran]
      simp only [Handoffs.note, pending, Config.resolved_one settled]
      rfl
  · intro id target dir shape entry stream rest awaits pending found queue
    have ran : ∃ next, config.resumeStream id target shape
        (fun entry => entry.acceptStreamCheck dir) = .ok next := by
      rw [Config.resumeStream, State.withEntry, found]
      simp only [ConnEntry.acceptStreamCheck, queue]
      exact ⟨_, rfl⟩
    rcases ran with ⟨next, ran⟩
    rcases Config.resumeAcceptStream_cases ran with
      ⟨own, lookup, ⟨empty, _⟩ | ⟨head, tail, same, _, settled⟩⟩
    · rw [found] at lookup
      cases lookup
      rw [queue] at empty
      cases empty
    · rw [found] at lookup
      cases lookup
      rw [queue] at same
      cases same
      refine ⟨next, ?_, settled⟩
      rw [handing_poll awaits pending ran]
      simp only [Handoffs.note, pending, Config.resolved_stream settled]

/-- A peer connects, opens two streams and goes away; the application closes the endpoint
and then takes the connection and one of the streams. -/
def arrivalsTakenLate : List Action :=
  List.flatten [Slab.turn [] 0, [Slab.hello 0 9], Slab.turn [0] 1,
    [.pump (.relayEvent 0 (.ok ⟨Slab.peer 9, [2, 0, 2, 5]⟩))], Slab.turn [0] 0,
    [.pump (.relayEvent 0 (.ok ⟨Slab.peer 9, [2, 0, 2, 6]⟩))], Slab.turn [0] 0,
    [.pump (.relayEvent 0 (.ok ⟨Slab.peer 9, [2, 0, 0]⟩))], Slab.turn [0] 0,
    [.invoke .accept, .invoke .closeEndpoint, .resume 1 .poll, .invoke (.acceptBi 2),
      .resume 3 .poll]]

theorem exactly_once_handoff_late :
    ∃ (config : Config Slab.platform.recorded) (log : Handoffs),
      (handing Slab.platform.recorded).Reaches (fun start => FreshHandles start.1)
        (config, log) ∧
      config.state.closed = true ∧ log.accepted = [⟨0, 0⟩] ∧
      config.state.history.queued.Nodup ∧
      ∃ entry, config.state.conns.get? 0 = some entry ∧ entry.error = some .closed ∧
        log.streams 0 .bi = [5] ∧ entry.queue .bi = [6] ∧
        (Recorder.recorded Slab.platform).surfaced entry.conn .bi =
          log.streams 0 .bi ++ entry.queue .bi := by
  have passed : (handing Slab.platform.recorded).runs
      (fun start action => decide (FreshHandles start.1 action))
      (.bind [] true false "a://home" 0, ⟨[], fun _ _ => []⟩) arrivalsTakenLate
      (fun start => decide (start.1.state.closed = true ∧ start.2.accepted = [⟨0, 0⟩]) &&
        (start.1.state.conns.values.all (fun entry =>
          decide (entry.trace.authenticated.length ≤ 1)) &&
        (start.1.state.conns.get? 0).any fun entry => decide (entry.error = some .closed ∧
          start.2.streams 0 .bi = [5] ∧ entry.queue .bi = [6]))) = true := by
    decide +kernel
  rcases System.ReachesFrom.of_runs (fun _ _ => of_decide_eq_true) _ passed with
    ⟨⟨config, log⟩, path, tested⟩
  simp only [Bool.and_eq_true, decide_eq_true_eq, List.all_eq_true, Option.any_eq_true]
    at tested
  rcases tested with ⟨⟨closed, accepted⟩, once, entry, found, lost, streams, waiting⟩
  have initial : (handing Slab.platform.recorded).Initial
      (.bind [] true false "a://home" 0, ⟨[], fun _ _ => []⟩) :=
    ⟨⟨[], true, false, "a://home", 0, "wss://home/relay", by decide, rfl⟩, rfl⟩
  have reached : (handing Slab.platform.recorded).Reaches
      (fun start => FreshHandles start.1) (config, log) := ⟨_, initial, path⟩
  rcases exactly_once_handoff (Recorder.recorded Slab.platform) reached with
    ⟨⟨_, distinct⟩, surfaced, _⟩
  refine ⟨config, log, reached, closed, accepted, distinct ?_, entry, found, lost, streams,
    waiting, surfaced 0 entry found .bi⟩
  intro handle other lookup
  exact once other ((config.state.conns.mem_values other).mpr ⟨handle, lookup⟩)

end IrohEndpoint
