import IrohEndpoint.Pump

/-! # What the pump does in one step

The transitions of the pump, each with the state and the receives it leaves. -/

namespace IrohEndpoint

variable {P : Platform}

def PumpPhase.flushes : PumpPhase → Bool
  | .relayOutbound | .relaySending .. | .udpOutbound | .udpSending ..
  | .channelOutbound | .channelSending .. => true
  | _ => false

def PumpPhase.leaving : PumpPhase → Bool
  | .closingRelays | .wakingUdp | .closingChannels | .joining | .terminated => true
  | _ => false

inductive PumpStep (pump : Pump) (udp : Bool) (now : Instant) (state : State P) :
    Pumped P → Prop
  | drained (fuel : Nat) (order : List ConnectionHandle) (next : State P) :
      pump.phase = .draining → state.drain fuel now order = .ok next →
      PumpStep pump udp now state (next, pump.moveTo .relayOutbound, [])
  | flushed (phase : PumpPhase) (relay : List (UInt32 × EndpointId × Bytes))
      (sent : List (SocketAddr × Bytes)) (channel : List (UInt32 × Bytes)) :
      pump.phase.flushes = true → phase.flushes = true ∨ phase = .arming →
      (relay <:+ state.relayOutbound ∧
        (pump.phase ≠ .relayOutbound → relay = state.relayOutbound)) →
      sent <:+ state.udpOutbound → channel <:+ state.channelOutbound →
      PumpStep pump udp now state ({ state with
        relayOutbound := relay, udpOutbound := sent, channelOutbound := channel },
        pump.moveTo phase, [])
  | armed : pump.phase = .arming →
      PumpStep pump udp now state
        ({ state with newRelays := [], newChannels := [], pendingUpgrades := [] },
          { pump with
            phase := .checking
            relayRecvs := pump.relayRecvs ++ state.newRelays
            channelRecvs := pump.channelRecvs ++ state.newChannels },
          state.pendingUpgrades.map fun (peer, relay) =>
            ⟨.offerer, peer, relay, 0, .spawned, []⟩)
  | stayed : pump.phase = .checking → state.pumpExits now = false →
      PumpStep pump udp now state (state, pump.moveTo .selecting, [])
  | exited : pump.phase = .checking → state.pumpExits now = true →
      PumpStep pump udp now state (state, pump.moveTo .closingRelays, [])
  | relayDatagram (index : Nat) (key : UInt32) (conn : RelayConn) (datagram : Datagram) :
      pump.phase = .selecting → pump.relayRecvs[index]? = some (key, conn) →
      datagram.payload.head? ≠ some signalPrefix →
      PumpStep pump udp now state
        (state.handleRelayDatagram now key datagram.source datagram.payload,
          { pump with
            phase := .draining
            relayRecvs := rearm key (pump.relayRecvs.eraseIdx index)
              (state.relayPool.get? key) }, [])
  | relaySignal (index : Nat) (key : UInt32) (conn : RelayConn) (datagram : Datagram) :
      pump.phase = .selecting → pump.relayRecvs[index]? = some (key, conn) →
      datagram.payload.head? = some signalPrefix →
      PumpStep pump udp now state
        ((state.handleSignal key datagram.source (datagram.payload.drop 1)).2,
          { pump with
            phase := .draining
            relayRecvs := rearm key (pump.relayRecvs.eraseIdx index)
              (state.relayPool.get? key) },
          (state.handleSignal key datagram.source (datagram.payload.drop 1)).1)
  | relayLost (index : Nat) (key : UInt32) (conn : RelayConn) :
      pump.phase = .selecting → pump.relayRecvs[index]? = some (key, conn) →
      key ≠ homeRelay →
      PumpStep pump udp now state (state.removeRelay key conn,
        { pump with
          phase := .draining
          relayRecvs := pump.relayRecvs.eraseIdx index }, [])
  | died (reason : String) (recvs : List (UInt32 × RelayConn)) :
      pump.phase.leaving = false → recvs.Sublist pump.relayRecvs →
      PumpStep pump udp now state (state.markDead reason,
        { pump with phase := .closingRelays, relayRecvs := recvs }, [])
  | udpDatagram (payload : Bytes) (remote : SocketAddr) : pump.phase = .selecting →
      udp = true → pump.udpRecv = true →
      PumpStep pump udp now state
        (state.handleUdpDatagram now remote payload, pump.moveTo .draining, [])
  | udpLost : pump.phase = .selecting →
      PumpStep pump udp now state
        (state, { pump with phase := .draining, udpRecv := false }, [])
  | channelMessage (index : Nat) (id : UInt32) (wire : ChannelWire)
      (payload : Option Bytes) :
      pump.phase = .selecting → pump.channelRecvs[index]? = some (id, wire) →
      PumpStep pump udp now state
        (match payload with
          | some datagram => state.handleChannelDatagram now id datagram
          | none => state,
          { pump with
            phase := .draining
            channelRecvs := rearm id (pump.channelRecvs.eraseIdx index)
              ((state.channels.get? id).map ChannelEntry.wire) }, [])
  | channelLost (index : Nat) (id : UInt32) (wire : ChannelWire) :
      pump.phase = .selecting → pump.channelRecvs[index]? = some (id, wire) →
      PumpStep pump udp now state (state.channelDied id wire,
        { pump with
          phase := .draining
          channelRecvs := pump.channelRecvs.eraseIdx index }, [])
  | ticked : pump.phase = .selecting →
      PumpStep pump udp now state (state.handleTimeouts now, pump.moveTo .draining, [])
  | closedRelays : pump.phase = .closingRelays →
      PumpStep pump udp now state ({ state with history := { state.history with
          closedRelays := state.history.closedRelays ++ state.relayPool.values } },
        pump.moveTo (if udp then .wakingUdp else .closingChannels), [])
  | woken : pump.phase = .wakingUdp →
      PumpStep pump udp now state (state, pump.moveTo .closingChannels, [])
  | closedChannels : pump.phase = .closingChannels →
      PumpStep pump udp now state ({ state with history := { state.history with
          closedChannels := state.history.closedChannels ++
            state.channels.values.map ChannelEntry.wire } },
        pump.moveTo .joining, [])
  | joined (relays : List (UInt32 × RelayConn)) (channels : List (UInt32 × ChannelWire))
      (recv : Bool) : pump.phase = .joining → relays.Sublist pump.relayRecvs →
      channels.Sublist pump.channelRecvs →
      PumpStep pump udp now state (state, { pump with
        relayRecvs := relays, channelRecvs := channels, udpRecv := recv }, [])
  | finished : pump.phase = .joining → pump.relayRecvs = [] → pump.channelRecvs = [] →
      PumpStep pump udp now state (state, pump.moveTo .terminated, [])

namespace Pump

variable {pump : Pump} {udp : Bool} {now : Instant} {state : State P}

private theorem run_step {fuel : Nat} {order : List ConnectionHandle} {pumped : Pumped P}
    (ran : pump.run udp now state fuel order = .ok pumped) :
    PumpStep pump udp now state pumped := by
  have suffix_tail : ∀ {α : Type} {queue rest : List α} {item : α},
      queue = item :: rest → rest <:+ queue := by
    intro α queue rest item equal
    exact ⟨[item], equal.symm⟩
  have flushing : ∀ {phase : PumpPhase}, pump.phase = phase → phase.flushes = true →
      pump.phase.flushes = true := by
    rintro phase rfl
    exact id
  rw [Pump.run.eq_def] at ran
  split at ran <;> rename_i phase
  · rcases bind_eq_ok.mp ran with ⟨next, drained, result⟩
    cases result
    exact .drained fuel order next phase drained
  · have flushes := flushing phase rfl
    split at ran <;> rename_i queue
    · cases ran
      exact .flushed .udpOutbound _ _ _ flushes (.inl rfl) ⟨List.suffix_refl _, fun _ => rfl⟩
        (List.suffix_refl _) (List.suffix_refl _)
    · have popped := suffix_tail queue
      dsimp only at ran
      split at ran <;> cases ran
      · exact .flushed _ _ _ _ flushes (.inl rfl) ⟨popped, fun away => absurd phase away⟩
          (List.suffix_refl _) (List.suffix_refl _)
      · exact .flushed pump.phase _ _ _ flushes (.inl flushes)
          ⟨popped, fun away => absurd phase away⟩ (List.suffix_refl _) (List.suffix_refl _)
  · have flushes := flushing phase rfl
    split at ran <;> rename_i queue
    · cases ran
      exact .flushed .channelOutbound _ _ _ flushes (.inl rfl) ⟨List.suffix_refl _, fun _ => rfl⟩
        (List.suffix_refl _) (List.suffix_refl _)
    · cases ran
      cases udp with
      | true =>
          exact .flushed (.udpSending _ _) _ _ _ flushes (.inl rfl)
            ⟨List.suffix_refl _, fun _ => rfl⟩
            (suffix_tail queue) (List.suffix_refl _)
      | false =>
          exact .flushed pump.phase _ _ _ flushes (.inl flushes) ⟨List.suffix_refl _, fun _ => rfl⟩
            (suffix_tail queue) (List.suffix_refl _)
  · have flushes := flushing phase rfl
    split at ran <;> rename_i queue
    · cases ran
      exact .flushed .arming _ _ _ flushes (.inr rfl) ⟨List.suffix_refl _, fun _ => rfl⟩
        (List.suffix_refl _) (List.suffix_refl _)
    · dsimp only at ran
      split at ran <;> cases ran
      · exact .flushed _ _ _ _ flushes (.inl rfl) ⟨List.suffix_refl _, fun _ => rfl⟩
          (List.suffix_refl _) (suffix_tail queue)
      · exact .flushed pump.phase _ _ _ flushes (.inl flushes) ⟨List.suffix_refl _, fun _ => rfl⟩
          (List.suffix_refl _) (suffix_tail queue)
  · cases ran
    exact .armed phase
  · split at ran <;> rename_i exits <;> cases ran
    · exact .exited phase exits
    · exact .stayed phase (by simpa using exits)
  · cases ran
    exact .closedRelays phase
  · cases ran
    exact .closedChannels phase
  · cases ran

private theorem relayEvent_step {index : Nat} {key : UInt32} {conn : RelayConn}
    (selecting : pump.phase = .selecting)
    (armed : pump.relayRecvs[index]? = some (key, conn))
    (result : Except String Datagram) :
    PumpStep pump udp now state (pump.relayEvent now state key conn
      (pump.relayRecvs.eraseIdx index) result) := by
  rw [Pump.relayEvent.eq_def]
  cases result with
  | error detail =>
      dsimp only
      split
      · exact .died detail _ (by rw [selecting]; rfl) (List.eraseIdx_sublist _ _)
      · rename_i foreign
        exact .relayLost index key conn selecting armed foreign
  | ok datagram =>
      dsimp only
      split <;> rename_i isSignal
      · exact .relaySignal index key conn datagram selecting armed isSignal
      · exact .relayDatagram index key conn datagram selecting armed isSignal

private theorem channelEvent_step {index : Nat} {id : UInt32} {wire : ChannelWire}
    (selecting : pump.phase = .selecting)
    (armed : pump.channelRecvs[index]? = some (id, wire))
    (result : Except String (Option Bytes)) :
    PumpStep pump udp now state (pump.channelEvent now state id wire
      (pump.channelRecvs.eraseIdx index) result) := by
  rw [Pump.channelEvent.eq_def]
  cases result with
  | error detail => exact .channelLost index id wire selecting armed
  | ok payload =>
      cases payload with
      | none => exact .channelMessage index id wire none selecting armed
      | some datagram => exact .channelMessage index id wire (some datagram) selecting armed

/-- What the pump can do when it resumes. -/
theorem resume_step {input : PumpInput} {pumped : Pumped P}
    (ran : pump.resume udp now state input = .ok pumped) :
    PumpStep pump udp now state pumped := by
  cases input with
  | run fuel order =>
      rw [Pump.resume] at ran
      split at ran
      · rename_i finished
        cases ran
        exact .finished finished.1 finished.2.1 finished.2.2.2
      · exact run_step ran
  | sent result =>
      rw [Pump.resume] at ran
      split at ran <;> rename_i phase
      · split at ran <;> cases ran
        · exact .died _ pump.relayRecvs (by rw [phase]; rfl) (List.Sublist.refl _)
        · exact .flushed .relayOutbound _ _ _ (by rw [phase]; rfl) (.inl rfl)
            ⟨List.suffix_refl _, fun _ => rfl⟩ (List.suffix_refl _) (List.suffix_refl _)
      · cases ran
        exact .flushed .udpOutbound _ _ _ (by rw [phase]; rfl) (.inl rfl)
          ⟨List.suffix_refl _, fun _ => rfl⟩ (List.suffix_refl _) (List.suffix_refl _)
      · cases ran
        exact .flushed .channelOutbound _ _ _ (by rw [phase]; rfl) (.inl rfl)
          ⟨List.suffix_refl _, fun _ => rfl⟩ (List.suffix_refl _) (List.suffix_refl _)
      · cases ran
        exact .woken phase
      · cases ran
  | relayEvent index result =>
      rw [Pump.resume] at ran
      split at ran
      · cases ran
      · rename_i key conn armed
        dsimp only at ran
        split at ran <;> rename_i phase <;> cases ran
        · exact relayEvent_step phase armed result
        · exact .joined _ _ _ phase (List.eraseIdx_sublist _ _) (List.Sublist.refl _)
  | udpEvent received =>
      rw [Pump.resume.eq_def] at ran
      dsimp only at ran
      split at ran
      · cases ran
      · rename_i bound
        simp only [Bool.not_eq_true', Bool.not_eq_false, Bool.and_eq_true] at bound
        split at ran <;> rename_i phase
        · cases ran
          exact .udpDatagram _ _ phase bound.1 bound.2
        · cases ran
          exact .udpLost phase
        · split at ran <;> cases ran
          exact .joined _ _ _ phase (List.Sublist.refl _) (List.Sublist.refl _)
        · cases ran
  | channelEvent index result =>
      rw [Pump.resume] at ran
      split at ran
      · cases ran
      · rename_i id wire armed
        dsimp only at ran
        split at ran <;> rename_i phase
        · cases ran
          exact channelEvent_step phase armed result
        · split at ran <;> cases ran
          exact .joined _ _ _ phase (List.Sublist.refl _) (List.eraseIdx_sublist _ _)
        · cases ran
  | tick =>
      rw [Pump.resume] at ran
      split at ran <;> rename_i phase <;> cases ran
      exact .ticked phase

end Pump

end IrohEndpoint
