import IrohEndpoint.Foundation.Attendance
import IrohEndpoint.Channels

/-! # One receive for each wire

A wire is registered by a call or a session, which leaves it for the pump to arm; the
pump re-arms it after each message and retires it when its receive fails. So every wire in
the pool or the channel table has one receive, waiting to be armed or in flight, until the
counter that issues its key wraps. -/

namespace IrohEndpoint

variable {P : Platform}

/-- The id of the channel that is registered after `index` others. -/
def issuedId (index : Nat) : UInt32 := UInt32.ofNat (index + 1)

def State.wire (state : State P) (id : UInt32) : Option ChannelWire :=
  (state.channels.get? id).map ChannelEntry.wire

def State.receivers (state : State P) :=
  (state.relayPool, state.newRelays, state.nextRelayKey, state.history.relays,
    state.channels, state.newChannels, state.nextChannelId, state.history.channels)

private theorem StateStep.receivers {task : Task} {state next : State P}
    (step : StateStep task state next) (unlost : task ≠ .lost) (unarmed : task ≠ .arm) :
    next.receivers = state.receivers ∨
    (∃ url conn, next.receivers = (state.registerRelay url conn).2.receivers) ∨
    ∃ entry, next.receivers = (state.withChannel entry).receivers := by
  cases step with
  | closed now reason _ =>
      rcases state.close_frame now reason with ⟨_, _, frame⟩
      rw [frame]
      exact .inl rfl
  | responded addr source payload =>
      rcases state.pushResponse_frame addr source payload with ⟨_, _, _, frame⟩
      rw [frame]
      exact .inl rfl
  | sighted peer via =>
      rcases state.addrForPeer_frame peer via with ⟨_, _, _, _, frame⟩
      rw [frame]
      exact .inl rfl
  | dialed peer key =>
      rcases state.dialStandin_frame peer key with ⟨_, _, _, _, frame⟩
      rw [frame]
      exact .inl rfl
  | channelRegistered peer wire _ =>
      rcases registerChannel_cases state peer wire with ⟨_, refused⟩ | ⟨entry, _, _, registered⟩
      · rw [refused]
        exact .inl rfl
      · rcases (state.withChannel entry).addrForPeer_frame peer entry.fallbackRelay with
          ⟨_, _, _, _, frame⟩
        rw [registered, frame]
        exact .inr (.inr ⟨entry, rfl⟩)
  | relayRegistered url conn _ _ => exact .inr (.inl ⟨url, conn, rfl⟩)
  | channelDied id wire lost => exact absurd lost unlost
  | markedDead reason lost => exact absurd lost unlost
  | relayRemoved key conn lost _ => exact absurd lost unlost
  | armed arms => exact absurd arms unarmed
  | _ => exact .inl rfl

/-- The receives of the pump in its loop, beside the wires that wait to be armed. -/
structure Receives (state : State P) (pump : Pump) : Prop where
  relayKey : state.nextRelayKey = UInt32.ofNat state.history.relays.length
  channelId : state.nextChannelId = UInt32.ofNat state.history.channels.length
  relays : pump.phase.leaving = false → state.history.relays.length ≤ 2 ^ 32 →
    Attended UInt32.ofNat state.history.relays.length state.relayPool.get?
      (state.newRelays ++ pump.relayRecvs)
  channels : pump.phase.leaving = false → state.history.channels.length ≤ 2 ^ 32 →
    Attended issuedId state.history.channels.length state.wire
      (state.newChannels ++ pump.channelRecvs)

private theorem ofNat_ne {low high : Nat} (apart : low ≠ high) (lowBound : low < 2 ^ 32)
    (highBound : high < 2 ^ 32) : UInt32.ofNat low ≠ UInt32.ofNat high := by
  intro same
  have equal := congrArg UInt32.toNat same
  rw [UInt32.toNat_ofNat', UInt32.toNat_ofNat', Nat.mod_eq_of_lt lowBound,
    Nat.mod_eq_of_lt highBound] at equal
  exact apart equal

private theorem issuedId_ne {count index : Nat} (low : index < count) (bound : count < 2 ^ 32) :
    issuedId count ≠ issuedId index := by
  intro same
  have equal := congrArg UInt32.toNat same
  rw [issuedId, issuedId, UInt32.toNat_ofNat', UInt32.toNat_ofNat'] at equal
  omega

namespace Receives

variable {state next : State P} {pump after : Pump}

theorem of_same (receives : Receives state pump) (same : next.receivers = state.receivers) :
    Receives next pump := by
  simp only [State.receivers, Prod.mk.injEq] at same
  rcases same with ⟨pool, newRelays, relayKey, relays, channels, newChannels, channelId,
    registered⟩
  have wire : next.wire = state.wire := by
    funext id
    rw [State.wire, State.wire, channels]
  refine ⟨?_, ?_, ?_, ?_⟩
  · rw [relayKey, relays]
    exact receives.relayKey
  · rw [channelId, registered]
    exact receives.channelId
  · rw [pool, newRelays, relays]
    exact receives.relays
  · rw [wire, newChannels, registered]
    exact receives.channels

theorem registerRelay (receives : Receives state pump) (url : String) (conn : RelayConn) :
    Receives (state.registerRelay url conn).2 pump := by
  refine ⟨?_, receives.channelId, ?_, receives.channels⟩
  · simp [State.registerRelay, receives.relayKey]
  · intro looping bound
    simp only [State.registerRelay, List.length_append, List.length_singleton] at bound ⊢
    have fresh : ∀ index < state.history.relays.length,
        UInt32.ofNat state.history.relays.length ≠ UInt32.ofNat index := by
      intro index low
      exact ofNat_ne (by omega) (by omega) (by omega)
    have start := receives.relays looping (by omega)
    refine (start.register conn fresh ?_).perm ?_
    · intro key
      rw [Table.get?_set, receives.relayKey]
    · rw [receives.relayKey, List.append_assoc, List.append_assoc]
      exact List.Perm.append_left _ List.perm_append_comm

theorem withChannel (receives : Receives state pump) (entry : ChannelEntry) :
    Receives (state.withChannel entry) pump := by
  have issue : state.nextChannelId + 1 = issuedId state.history.channels.length := by
    rw [receives.channelId, issuedId]
    simp
  refine ⟨receives.relayKey, ?_, receives.relays, ?_⟩
  · simp [State.withChannel, receives.channelId]
  · intro looping bound
    simp only [State.withChannel, List.length_append, List.length_singleton] at bound ⊢
    have start := receives.channels looping (by omega)
    have fresh : ∀ index < state.history.channels.length,
        issuedId state.history.channels.length ≠ issuedId index := by
      intro index low
      exact issuedId_ne low (by omega)
    refine (start.register entry.wire fresh ?_).perm ?_
    · intro id
      simp only [State.wire, Table.get?_set, issue]
      split <;> rfl
    · rw [issue, List.append_assoc, List.append_assoc]
      exact List.Perm.append_left _ List.perm_append_comm

theorem steps {task : Task} (steps : StateSteps task state next) (unlost : task ≠ .lost)
    (unarmed : task ≠ .arm) (receives : Receives state pump) : Receives next pump := by
  induction steps with
  | refl => exact receives
  | tail _ step induction =>
      rcases step.receivers unlost unarmed with same | ⟨url, conn, same⟩ | ⟨entry, same⟩
      · exact induction.of_same same
      · exact (induction.registerRelay url conn).of_same same
      · exact (induction.withChannel entry).of_same same

private theorem of_recvs (receives : Receives state pump) (same : next.receivers = state.receivers)
    (looping : after.phase.leaving = false → pump.phase.leaving = false)
    (relays : after.relayRecvs = pump.relayRecvs)
    (channels : after.channelRecvs = pump.channelRecvs) : Receives next after := by
  have moved := receives.of_same same
  refine ⟨moved.relayKey, moved.channelId, ?_, ?_⟩
  · rw [relays]
    exact fun still => moved.relays (looping still)
  · rw [channels]
    exact fun still => moved.channels (looping still)

theorem left (receives : Receives state pump) (same : next.receivers = state.receivers)
    (leaving : after.phase.leaving = true) : Receives next after := by
  have moved := receives.of_same same
  refine ⟨moved.relayKey, moved.channelId, ?_, ?_⟩ <;>
    intro looping <;>
    rw [leaving] at looping <;>
    cases looping

private theorem perm_eraseIdx {Wire : Type} {items : List (UInt32 × Wire)} {index : Nat}
    {item : UInt32 × Wire} (armed : items[index]? = some item) :
    (item :: items.eraseIdx index).Perm items := by
  rcases List.getElem?_eq_some_iff.mp armed with ⟨low, rfl⟩
  exact List.getElem_cons_eraseIdx_perm low

private theorem moved_perm {Wire : Type} {items pending : List (UInt32 × Wire)} {index : Nat}
    {item : UInt32 × Wire} (armed : items[index]? = some item) :
    (item :: (pending ++ items.eraseIdx index)).Perm (pending ++ items) :=
  List.perm_middle.symm.trans (.append_left _ (perm_eraseIdx armed))

private theorem rearm_perm {Wire : Type} {items pending : List (UInt32 × Wire)} {index count : Nat}
    {key : UInt32} {wire : Wire} {issue : Nat → UInt32} {found : UInt32 → Option Wire}
    (attended : Attended issue count found (pending ++ items))
    (armed : items[index]? = some (key, wire)) :
    (rearm key (items.eraseIdx index) (found key)).Perm items := by
  have entry : found key = some wire :=
    attended.found_of_mem (List.mem_append_right _ (List.mem_of_getElem? armed))
  rw [entry, rearm]
  exact List.perm_append_comm.trans (perm_eraseIdx armed)

private theorem rearmRelay (receives : Receives state pump) {index : Nat} {key : UInt32}
    {conn : RelayConn} (selecting : pump.phase = .selecting)
    (armed : pump.relayRecvs[index]? = some (key, conn)) :
    Receives state { pump with
      phase := .draining
      relayRecvs := rearm key (pump.relayRecvs.eraseIdx index) (state.relayPool.get? key) } := by
  have looping : pump.phase.leaving = false := by rw [selecting]; rfl
  refine ⟨receives.relayKey, receives.channelId, ?_, fun _ => receives.channels looping⟩
  intro _ bound
  have attended := receives.relays looping bound
  exact attended.perm (.append_left _ (rearm_perm attended armed))

private theorem rearmChannel (receives : Receives state pump) {index : Nat} {id : UInt32}
    {wire : ChannelWire} (selecting : pump.phase = .selecting)
    (armed : pump.channelRecvs[index]? = some (id, wire)) :
    Receives state { pump with
      phase := .draining
      channelRecvs := rearm id (pump.channelRecvs.eraseIdx index)
        ((state.channels.get? id).map ChannelEntry.wire) } := by
  have looping : pump.phase.leaving = false := by rw [selecting]; rfl
  refine ⟨receives.relayKey, receives.channelId, fun _ => receives.relays looping, ?_⟩
  intro _ bound
  have attended := receives.channels looping bound
  exact attended.perm (.append_left _ (rearm_perm attended armed))

theorem relayLost (receives : Receives state pump) {index : Nat} {key : UInt32}
    {conn : RelayConn} (selecting : pump.phase = .selecting)
    (armed : pump.relayRecvs[index]? = some (key, conn)) :
    Receives (state.removeRelay key conn) { pump with
      phase := .draining, relayRecvs := pump.relayRecvs.eraseIdx index } := by
  have looping : pump.phase.leaving = false := by rw [selecting]; rfl
  refine ⟨receives.relayKey, receives.channelId, ?_, fun _ => receives.channels looping⟩
  intro _ bound
  have attended := (receives.relays looping bound).perm (moved_perm armed)
  exact attended.retire (Table.get?_remove state.relayPool key)

theorem channelLost (receives : Receives state pump) {index : Nat} {id : UInt32}
    {wire : ChannelWire} (selecting : pump.phase = .selecting)
    (armed : pump.channelRecvs[index]? = some (id, wire)) :
    Receives (state.channelDied id wire) { pump with
      phase := .draining, channelRecvs := pump.channelRecvs.eraseIdx index } := by
  have looping : pump.phase.leaving = false := by rw [selecting]; rfl
  have removed : ∀ other, (state.channelDied id wire).wire other =
      if other = id then none else state.wire other := by
    intro other
    simp only [State.wire, State.channelDied]
    rcases state.retireChannel_cases id with ⟨absent, same⟩ | ⟨_, routes, _, equal, _⟩
    · rw [same]
      split
      · rename_i own
        rw [own, absent]
        rfl
      · rfl
    · rw [equal, Table.get?_remove]
      split <;> rfl
  rcases state.channelDied_frame id wire with ⟨channels, routes, frame⟩
  have retired : ∀ bound, Attended issuedId state.history.channels.length
      (state.channelDied id wire).wire
      (state.newChannels ++ pump.channelRecvs.eraseIdx index) := fun bound =>
    ((receives.channels looping bound).perm (moved_perm armed)).retire removed
  rw [frame] at retired ⊢
  exact ⟨receives.relayKey, receives.channelId, fun _ => receives.relays looping,
    fun _ => retired⟩

theorem armed (receives : Receives state pump) (arming : pump.phase = .arming) :
    Receives { state with newRelays := [], newChannels := [], pendingUpgrades := [] }
      { pump with
        phase := .checking
        relayRecvs := pump.relayRecvs ++ state.newRelays
        channelRecvs := pump.channelRecvs ++ state.newChannels } := by
  have looping : pump.phase.leaving = false := by rw [arming]; rfl
  have relays : (pump.relayRecvs ++ state.newRelays).Perm
      (state.newRelays ++ pump.relayRecvs) := List.perm_append_comm
  have channels : (pump.channelRecvs ++ state.newChannels).Perm
      (state.newChannels ++ pump.channelRecvs) := List.perm_append_comm
  refine ⟨receives.relayKey, receives.channelId, ?_, ?_⟩
  · intro _ bound
    exact (receives.relays looping bound).perm relays
  · intro _ bound
    exact (receives.channels looping bound).perm channels

theorem pumped {udp : Bool} {now : Instant} {result : Pumped P}
    (step : PumpStep pump udp now state result) (receives : Receives state pump) :
    Receives result.1 result.2.1 := by
  have selected : ∀ {phase : PumpPhase} {leaving : Bool}, pump.phase = phase →
      phase.leaving = leaving → pump.phase.leaving = leaving := by
    rintro phase leaving rfl
    exact id
  cases step with
  | drained fuel order next draining drained =>
      exact (steps (StateSteps.drain drained) (by simp) (by simp) receives).of_recvs
        rfl (fun _ => selected draining rfl) rfl rfl
  | flushed phase relay sent channel flushes _ _ _ _ =>
      refine receives.of_recvs rfl (fun _ => ?_) rfl rfl
      cases place : pump.phase <;> rw [place] at flushes <;> first | rfl | cases flushes
  | armed arming => exact receives.armed arming
  | stayed checking _ => exact receives.of_recvs rfl (fun _ => selected checking rfl) rfl rfl
  | exited checking _ => exact receives.left rfl rfl
  | relayDatagram index key conn datagram selecting armed _ =>
      exact steps (StateSteps.handleRelayDatagram _ _ _ _ _) (by simp) (by simp)
        (receives.rearmRelay selecting armed)
  | relaySignal index key conn datagram selecting armed _ =>
      exact steps (Config.handleSignal_steps _ _ _ _) (by simp) (by simp)
        (receives.rearmRelay selecting armed)
  | relayLost index key conn selecting armed _ => exact receives.relayLost selecting armed
  | died reason recvs _ _ => exact receives.left rfl rfl
  | udpDatagram payload remote selecting _ _ =>
      exact (steps (StateSteps.handleUdpDatagram _ _ _ _) (by simp) (by simp)
        receives).of_recvs rfl (fun _ => selected selecting rfl) rfl rfl
  | udpLost selecting => exact receives.of_recvs rfl (fun _ => selected selecting rfl) rfl rfl
  | channelMessage index id wire payload selecting armed =>
      have rearmed := receives.rearmChannel selecting armed
      cases payload with
      | none => exact rearmed
      | some datagram =>
          exact steps (StateSteps.handleChannelDatagram _ _ _ _) (by simp) (by simp) rearmed
  | channelLost index id wire selecting armed => exact receives.channelLost selecting armed
  | ticked selecting =>
      exact receives.of_recvs rfl (fun _ => selected selecting rfl) rfl rfl
  | closedRelays _ =>
      refine receives.left rfl ?_
      cases udp <;> rfl
  | woken _ => exact receives.left rfl rfl
  | closedChannels _ => exact receives.left rfl rfl
  | joined relays channels recv joining _ _ => exact receives.left rfl (selected joining rfl)
  | finished _ _ _ => exact receives.left rfl rfl

end Receives

private theorem dialTask_ne_arm (opened : Bool) : StateSteps.dialTask opened ≠ .arm := by
  cases opened <;> simp [StateSteps.dialTask]

private theorem reachable_receives {config : Config P} (reached : (endpoint P).Reachable config) :
    Receives config.state config.pump := by
  apply reached.invariant (fun config : Config P => Receives config.state config.pump)
  · rintro config ⟨noq, webrtc, udp, relay, clock, url, _, rfl⟩
    have new : Receives (State.new noq webrtc) ⟨.draining, [], [], udp⟩ :=
      ⟨rfl, rfl, fun _ _ => .empty, fun _ _ => .empty⟩
    exact new.registerRelay relay ⟨0, relay⟩
  · intro config action next receives _ stepped
    cases Config.step_move stepped with
    | advanced elapsed => exact receives
    | pumped state pump spawned step =>
        rcases Config.addSessions_frame spawned ({ config with state, pump } : Config P) with
          ⟨_, _, frame⟩
        rw [frame]
        exact Receives.pumped step receives
    | resumed id session after registration state _ found resumes =>
        exact Receives.steps (StateSteps.resumes resumes) (by simp) (by simp) receives
    | called next _ step =>
        have steps := step.state
        rcases step.frame with ⟨state, _, _, _, _, _, rfl⟩
        exact Receives.steps steps (dialTask_ne_lost _) (dialTask_ne_arm _) receives

/-! ## Every wire is read once -/

/-- While the pump is in its loop, every pooled relay has one receive, waiting to be armed
or in flight, and a receive in flight is of a pooled relay; the same holds of the channels.
Each holds as long as no more than 2^32 were registered. -/
theorem every_wire_received_once {config : Config P} (reached : (endpoint P).Reachable config)
    (looping : config.pump.phase.leaving = false) :
    (config.state.history.relays.length ≤ 2 ^ 32 →
      (∀ key conn, config.state.relayPool.get? key = some conn →
        (config.state.newRelays ++ config.pump.relayRecvs).filter (fun item => item.1 = key) =
          [(key, conn)]) ∧
      ∀ item ∈ config.pump.relayRecvs, config.state.relayPool.get? item.1 = some item.2) ∧
    (config.state.history.channels.length ≤ 2 ^ 32 →
      (∀ id entry, config.state.channels.get? id = some entry →
        (config.state.newChannels ++ config.pump.channelRecvs).filter
          (fun item => item.1 = id) = [(id, entry.wire)]) ∧
      ∀ item ∈ config.pump.channelRecvs, ∃ entry,
        config.state.channels.get? item.1 = some entry ∧ entry.wire = item.2) := by
  have receives := reachable_receives reached
  refine ⟨fun bound => ?_, fun bound => ?_⟩
  · have attended := receives.relays looping bound
    refine ⟨fun key conn found => attended.filter_eq found, ?_⟩
    intro item member
    exact attended.found_of_mem (List.mem_append_right _ member)
  · have attended := receives.channels looping bound
    refine ⟨?_, ?_⟩
    · intro id entry found
      apply attended.filter_eq
      rw [State.wire, found]
      rfl
    · intro item member
      exact Option.map_eq_some_iff.mp
        (attended.found_of_mem (List.mem_append_right _ member))

theorem every_wire_received_once_opened :
    ∃ (config : Config Slab.platform) (conn : RelayConn),
      (endpoint Slab.platform).Reachable config ∧ config.pump.phase = .selecting ∧
      config.state.relayPool.get? 1 = some conn ∧
      (config.state.newRelays ++ config.pump.relayRecvs).filter (fun item => item.1 = 1) =
        [(1, conn)] := by
  have passed : (endpoint Slab.platform).runs (fun _ _ => true) (Slab.bound true false) dialFar
      (fun config => decide (config.pump.phase = .selecting) &&
        decide (config.state.history.relays.length ≤ 2 ^ 32) &&
        (config.state.relayPool.get? 1).isSome) = true := by decide +kernel
  rcases System.Reachable.of_runs (Slab.bound_initial true false) passed with
    ⟨config, reached, tested⟩
  simp only [Bool.and_eq_true, decide_eq_true_eq, Option.isSome_iff_exists] at tested
  rcases tested with ⟨⟨selecting, bound⟩, conn, found⟩
  have looping : config.pump.phase.leaving = false := by rw [selecting]; rfl
  exact ⟨config, conn, reached, selecting, found,
    ((every_wire_received_once reached looping).1 bound).1 1 conn found⟩

/-! ## The counter wraps

A run that opens ever more relays reaches the key of the home relay again. -/

def numberedUrl (number : Nat) : String :=
  String.ofList ("a://".toList ++ List.replicate (number + 1) 'r')

private theorem numberedUrl_toList (number : Nat) :
    (numberedUrl number).toList = "a://".toList ++ List.replicate (number + 1) 'r' := by
  delta numberedUrl
  exact String.toList_ofList

private theorem normalize_numberedUrl (number : Nat) :
    normalizeRelayUrl (numberedUrl number) = numberedUrl number := by
  rw [normalizeRelayUrl, ← String.toList_inj, String.toList_ofList, numberedUrl_toList,
    List.replicate_succ', ← List.append_assoc, List.rdropWhile_concat_neg _ _ _ (by decide)]

private theorem numberedUrl_injective : Function.Injective numberedUrl := by
  intro first second same
  have lengths := congrArg (fun url => url.toList.length) same
  simpa [numberedUrl_toList] using lengths

private theorem numberedUrl_ne_home (number : Nat) :
    numberedUrl number ≠ normalizeRelayUrl "a://home" := by
  intro same
  have letters := congrArg (fun url => 'h' ∈ url.toList) same
  simp [numberedUrl_toList] at letters
  revert letters
  decide

theorem unknown_numberedUrl {relayKeys : Table String UInt32}
    (keys : relayKeys.keys = [normalizeRelayUrl "a://home"]) (number : Nat) :
    relayKeys.get? (numberedUrl number) = none := by
  cases found : relayKeys.get? (numberedUrl number) with
  | none => rfl
  | some key =>
      have member : numberedUrl number ∈ relayKeys.keys := by simp [found]
      rw [keys, List.mem_singleton] at member
      exact absurd member (numberedUrl_ne_home number)

private theorem relayUrl_numberedUrl (number : Nat) :
    ∃ url, relayUrl (numberedUrl number) = .ok url := by
  have scheme : splitScheme (numberedUrl number).toList =
      some (['a'], List.replicate (number + 1) 'r') := by
    simp [numberedUrl_toList, splitScheme]
  simp [relayUrl, scheme, List.replicate_succ]

/-- An endpoint at rest that has not opened the relays from `number` on. -/
structure Idle (config : Config P) (number : Nat) : Prop where
  live : config.endpointLive = true
  awaits : config.pump.phase.awaits = true
  open_ : config.state.closed = false
  alive : config.state.dead = none
  unopened : config.state.relayOpening = []
  unknown : ∀ later, number ≤ later →
    config.state.relayKeys.get? (numberedUrl later) = none

namespace Idle

def dial (number : Nat) : Dial := ⟨Slab.peer 7, [], none, some (numberedUrl number), none⟩

def addr (number : Nat) : EndpointAddr :=
  ⟨(Slab.peer 7).bytes, [.relay (numberedUrl number)]⟩

variable {config : Config P} {number : Nat}

theorem connect (idle : Idle config number) :
    config.state.connect config.clock config.udp (addr number) [] =
      (.suspended (.dialRelay (dial number) (numberedUrl number) .opening),
        { config.state with relayOpening := [numberedUrl number] }) := by
  have selected : Dial.select config.udp config.state.webrtcEnabled (Slab.peer 7) []
      [.relay (numberedUrl number)] = dial number := rfl
  have alive : config.state.isClosedOrDead = false := by
    simp [State.isClosedOrDead, idle.open_, idle.alive]
  rcases relayUrl_numberedUrl number with ⟨url, valid⟩
  have begun : config.state.beginEnsure config.clock (numberedUrl number) =
      (.suspended .opening,
        { config.state with relayOpening := [numberedUrl number] }) := by
    simp [State.beginEnsure, normalize_numberedUrl, idle.unknown number (Nat.le_refl _), alive,
      idle.unopened, valid]
  have parsed : EndpointId.ofBytes? (addr number).endpointId = some (Slab.peer 7) := by
    simp [addr, Slab.peer, EndpointId.ofBytes?]
  rw [State.connect, parsed]
  dsimp only [addr]
  rw [selected, State.resolveDial.eq_def, dial]
  dsimp only
  rw [begun]

theorem dialNow_frame (state : State P) (now : Instant) (dial : Dial) (key : UInt32) :
    ∃ noq conns nextHost peerToAddr addrToPeer routes connections,
      (state.dialNow now dial key none).2 = { state with
        noq, conns, nextHost, peerToAddr, addrToPeer, routes
        history := { state.history with connections } } := by
  rw [State.dialNow]
  split
  · exact ⟨_, _, _, _, _, _, _, rfl⟩
  · split
    · exact ⟨_, _, _, _, _, _, _, rfl⟩
    · rcases state.dialRemote_frame dial key with ⟨_, _, _, _, frame⟩
      dsimp only
      rw [frame]
      split <;> exact ⟨_, _, _, _, _, _, _, rfl⟩

def claimed (config : Config P) (number : Nat) : Config P :=
  { config with
    fresh := config.fresh + 1
    state := { config.state with relayOpening := [numberedUrl number] }
    calls := config.calls.set config.fresh
      (.connect (addr number) (.dialRelay (dial number) (numberedUrl number) .opening)) }

def registered (config : Config P) (number : Nat) : State P :=
  (((claimed config number).state.release (numberedUrl number)).registerRelay
    (numberedUrl number) ⟨config.fresh + 1, numberedUrl number⟩).2.noteEnsured
      (numberedUrl number) config.state.nextRelayKey

def opened (config : Config P) (number : Nat) : Config P :=
  ({ claimed config number with fresh := config.fresh + 2 } : Config P).connecting config.fresh
    (addr number) ((registered config number).dialNow config.clock (dial number)
      config.state.nextRelayKey none)

theorem claims (idle : Idle config number) :
    (endpoint P).step config (.invoke (.connect (addr number) [])) =
      .ok (claimed config number) := by
  have invoked : (endpoint P).step config (.invoke (.connect (addr number) [])) =
      .ok (({ config with fresh := config.fresh + 1 } : Config P).connecting config.fresh
        (addr number) (config.state.connect config.clock config.udp (addr number) [])) := by
    simp [endpoint, Config.step, idle.awaits, Config.invoke, Method.resource?, idle.live]
  rw [idle.connect] at invoked
  exact invoked

theorem claimed_call (config : Config P) (number : Nat) :
    (claimed config number).calls.get? config.fresh = some (.connect (addr number)
      (.dialRelay (dial number) (numberedUrl number) .opening)) := by
  simp [claimed]

theorem opens (idle : Idle config number) :
    (endpoint P).step (claimed config number) (.resume config.fresh (.opened (.ok ()))) =
      .ok (opened config number) := by
  have awaits : (claimed config number).pump.phase.awaits = true := idle.awaits
  simp only [endpoint, Config.step, awaits, claimed_call config number]
  rfl

private theorem opened_path (idle : Idle config number) :
    (endpoint P).ReachesFrom (fun _ _ => True) config (opened config number) :=
  .step (.step .refl trivial idle.claims) trivial idle.opens

private theorem opened_frame (config : Config P) (number : Nat) :
    (opened config number).endpointLive = config.endpointLive ∧
      (opened config number).pump = config.pump ∧
      ∃ noq conns nextHost peerToAddr addrToPeer routes connections,
        (opened config number).state = { registered config number with
          noq, conns, nextHost, peerToAddr, addrToPeer, routes
          history := { (registered config number).history with connections } } := by
  rcases dialNow_frame (registered config number) config.clock (dial number)
    config.state.nextRelayKey with ⟨_, _, _, _, _, _, _, dialed⟩
  rcases Config.connecting_frame
    ({ claimed config number with fresh := config.fresh + 2 } : Config P)
    config.fresh (addr number) ((registered config number).dialNow config.clock (dial number)
      config.state.nextRelayKey none) with ⟨_, _, _, _, frame⟩
  rw [opened, frame]
  exact ⟨rfl, rfl, _, _, _, _, _, _, _, dialed⟩

theorem another (idle : Idle config number) : Idle (opened config number) (number + 1) := by
  rcases opened_frame config number with ⟨live, pump, _, _, _, _, _, _, _, state⟩
  refine ⟨?_, ?_, ?_, ?_, ?_, ?_⟩
  · rw [live]
    exact idle.live
  · rw [pump]
    exact idle.awaits
  · rw [state]
    simp [registered, claimed, State.noteEnsured, State.registerRelay, State.release,
      idle.open_]
  · rw [state]
    simp [registered, claimed, State.noteEnsured, State.registerRelay, State.release,
      idle.alive]
  · rw [state]
    simp [registered, claimed, State.noteEnsured, State.registerRelay, State.release,
      normalize_numberedUrl]
  · rw [state]
    intro later above
    have apart : numberedUrl later ≠ numberedUrl number := by
      intro same
      have equal := numberedUrl_injective same
      omega
    simp [registered, claimed, State.noteEnsured, State.registerRelay, State.release,
      normalize_numberedUrl, apart, idle.unknown later (by omega)]

private theorem opened_key (config : Config P) (number : Nat) :
    (opened config number).state.nextRelayKey = config.state.nextRelayKey + 1 ∧
      ∃ conn, (opened config number).state.relayPool.get? config.state.nextRelayKey = some conn ∧
        (config.state.nextRelayKey, conn) ∈ (opened config number).state.newRelays := by
  rcases opened_frame config number with ⟨_, _, _, _, _, _, _, _, _, state⟩
  rw [state]
  refine ⟨?_, ⟨config.fresh + 1, numberedUrl number⟩, ?_, ?_⟩ <;>
    simp [registered, claimed, State.noteEnsured, State.registerRelay, State.release]

end Idle

/-- The endpoint has opened `number` relays beside its home relay, and the pump stayed at
its select. -/
private theorem opened_many (number : Nat) :
    ∃ (config : Config Slab.platform) (home : RelayConn),
      (endpoint Slab.platform).Reachable config ∧ Idle config number ∧
      config.pump = ⟨.selecting, [(homeRelay, home)], [], false⟩ ∧
      config.state.nextRelayKey = UInt32.ofNat (number + 1) := by
  induction number with
  | zero =>
      have passed : (endpoint Slab.platform).runs (fun _ _ => true) (Slab.bound true false)
          (Slab.turn [] 0) (fun config => config.endpointLive && decide (config.pump =
            ⟨.selecting, [(homeRelay, ⟨0, "a://home"⟩)], [], false⟩ ∧
            config.state.closed = false ∧ config.state.dead = none ∧
            config.state.relayOpening = [] ∧ config.state.nextRelayKey = 1 ∧
            config.state.relayKeys.keys = [normalizeRelayUrl "a://home"])) = true := by
        decide +kernel
      rcases System.Reachable.of_runs (Slab.bound_initial true false) passed with
        ⟨config, reached, tested⟩
      simp only [Bool.and_eq_true, decide_eq_true_eq] at tested
      rcases tested with ⟨live, pump, open_, alive, unopened, key, keys⟩
      have awaits : config.pump.phase.awaits = true := by
        rw [pump]
        rfl
      exact ⟨config, _, reached, ⟨live, awaits, open_, alive, unopened,
        fun later _ => unknown_numberedUrl keys later⟩, pump, key⟩
  | succ number induction =>
      rcases induction with ⟨config, home, ⟨first, initial, path⟩, idle, pump, key⟩
      rcases Idle.opened_frame config number with ⟨_, same, _⟩
      refine ⟨Idle.opened config number, home, ⟨first, initial, path.trans idle.opened_path⟩,
        idle.another, same.trans pump, ?_⟩
      rw [(Idle.opened_key config number).1, key]
      simp

/-- With 2^32 relays opened beside the home relay, the last has its key: the pump receives
on the one while the other waits to be armed. -/
theorem every_wire_received_once_wrapped :
    ∃ (config : Config Slab.platform) (home conn : RelayConn),
      (endpoint Slab.platform).Reachable config ∧ config.pump.phase = .selecting ∧
      config.state.relayPool.get? homeRelay = some conn ∧
      (homeRelay, conn) ∈ config.state.newRelays ∧
      (homeRelay, home) ∈ config.pump.relayRecvs := by
  rcases opened_many (2 ^ 32 - 1) with ⟨config, home, ⟨first, initial, path⟩, idle, pump, key⟩
  rcases Idle.opened_frame config (2 ^ 32 - 1) with ⟨_, same, _⟩
  rcases Idle.opened_key config (2 ^ 32 - 1) with ⟨_, conn, found, pending⟩
  have wrapped : config.state.nextRelayKey = homeRelay := by
    rw [key]
    rfl
  rw [wrapped] at found pending
  refine ⟨Idle.opened config (2 ^ 32 - 1), home, conn,
    ⟨first, initial, path.trans idle.opened_path⟩, ?_, found, pending, ?_⟩
  · rw [same, pump]
  · rw [same, pump]
    exact List.mem_singleton.mpr rfl

end IrohEndpoint
