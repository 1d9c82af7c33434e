import IrohEndpoint.Connections

/-! # The end of a receive stream

A read that reports the end of its stream does so on one of three branches: noq has
answered the FIN, noq has no such stream any more, or an error is latched on the
connection. The first two mean that the whole stream was read, or that it was given up;
the third is how a cleanly closed connection ends its streams. -/

namespace IrohEndpoint

variable {P : Platform}

/-! ## Reads and their records -/

namespace StreamRecord

def answered (id : StreamId) : StreamRecord → Bytes
  | .read stream _ _ (some (.ok (.ok (some chunk)))) _ => if stream = id then chunk else []
  | _ => []

def returned (id : StreamId) : StreamRecord → Bytes
  | .read stream _ _ _ (some (.ok (some chunk))) => if stream = id then chunk else []
  | _ => []

/-- What a read returns follows from the error it found latched, else from noq's
answer. -/
def Faithful : StreamRecord → Prop
  | .read _ _ (some error) answer result => answer = none ∧
      result = if error = .closed then some (.ok none) else some (.error error)
  | .read _ _ none answer result => ∃ reply, answer = some reply ∧
      result = ConnEntry.readResult reply
  | _ => True

end StreamRecord

/-- All bytes noq's answers on the stream carried, in order. -/
def answeredBytes (id : StreamId) (records : List StreamRecord) : Bytes :=
  records.flatMap (StreamRecord.answered id)

theorem EntryStep.faithful {before after : ConnEntry P} (step : EntryStep before after)
    (faithful : ∀ record ∈ before.trace.streams, record.Faithful) :
    ∀ record ∈ after.trace.streams, record.Faithful := by
  have appended : ∀ record : StreamRecord, record.Faithful →
      ∀ other ∈ before.trace.streams ++ [record], other.Faithful := by
    intro record own other member
    rcases List.mem_append.mp member with old | new
    · exact faithful other old
    · rw [List.mem_singleton] at new
      exact new ▸ own
  cases step with
  | connected now =>
      rcases before.onConnected_cases now with ⟨_, _, _, _, equal⟩ | ⟨_, _, _, _, _, equal⟩
      · rw [equal]
        exact faithful
      · rw [equal]
        exact faithful
  | read stream max reader =>
      rw [ConnEntry.readSomeCheck]
      split
      · exact appended _ ⟨rfl, rfl⟩
      · exact appended _ ⟨_, rfl, rfl⟩
  | stop stream code => exact appended _ trivial
  | sent record sends =>
      refine appended record ?_
      cases record with
      | read stream reader latched answer result => cases sends
      | _ => trivial
  | _ => exact faithful

theorem reachable_faithful {config : Config P} (reached : (endpoint P).Reachable config)
    {handle : ConnectionHandle} {entry : ConnEntry P}
    (found : config.state.conns.get? handle = some entry) :
    ∀ record ∈ entry.trace.streams, record.Faithful := by
  refine reachable_entries reached
    (fun entry => ∀ record ∈ entry.trace.streams, record.Faithful) ?_ ?_ handle entry found
  · intro conn expectedPeer acceptedSide serial origin record member
    cases member
  · intro before after step
    exact step.faithful

/-! ## What noq answers -/

namespace StreamRecord

end StreamRecord

end IrohEndpoint
