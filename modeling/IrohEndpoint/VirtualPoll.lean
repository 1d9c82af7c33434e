import IrohEndpoint.VirtualSockets
import Mathlib.Data.List.Nodup

/-! # The virtual poll

`poll` looks at the local queues and, while nothing is ready there, waits for the host. It
drains the source as it looks, and the host counts in a list without the never-ready
entries. -/

namespace IrohEndpoint

namespace Virt

variable {H : Host} {Socket : Type} [DecidableEq Socket]

/-! ## Queues only grow -/

def HostCall.arrived (socket : Socket) : HostCall H Socket → List Incoming
  | .drained own arrived => if own = socket then arrived else []
  | .polled _ _ => []

def HostCall.drains : HostCall H Socket → Bool
  | .drained _ _ => true
  | .polled _ _ => false

/-- The component after `calls`: every socket has its old queue and behind it what it
drained. -/
structure Fills (component after : Component H Socket) (calls : List (HostCall H Socket)) :
    Prop where
  src : after.src = component.src
  logged : after.calls = component.calls ++ calls
  queue : ∀ socket,
    after.queue socket = component.queue socket ++ calls.flatMap (HostCall.arrived socket)

namespace Fills

variable {component middle after : Component H Socket} {calls more : List (HostCall H Socket)}

theorem refl (component : Component H Socket) : Fills component component [] :=
  ⟨rfl, (List.append_nil _).symm, fun _ => (List.append_nil _).symm⟩

theorem trans (front : Fills component middle calls) (back : Fills middle after more) :
    Fills component after (calls ++ more) := by
  refine ⟨back.src.trans front.src, ?_, ?_⟩
  · rw [back.logged, front.logged, List.append_assoc]
  · intro socket
    rw [back.queue, front.queue, List.flatMap_append, List.append_assoc]

end Fills

/-- As `Fills`, where all the calls are drains. -/
def Checks (component after : Component H Socket) : Prop :=
  ∃ calls, Fills component after calls ∧ ∀ call ∈ calls, call.drains = true

namespace Checks

variable {component middle after : Component H Socket}

theorem refl (component : Component H Socket) : Checks component component :=
  ⟨[], .refl component, by simp⟩

theorem trans (front : Checks component middle) (back : Checks middle after) :
    Checks component after := by
  rcases front with ⟨calls, fills, drains⟩
  rcases back with ⟨more, rest, also⟩
  refine ⟨calls ++ more, fills.trans rest, ?_⟩
  intro call member
  rcases List.mem_append.mp member with old | new
  · exact drains call old
  · exact also call new

theorem src (checks : Checks component after) : after.src = component.src := by
  rcases checks with ⟨_, fills, _⟩
  exact fills.src

theorem nonempty (checks : Checks component after) {socket : Socket}
    (some_ : component.queue socket ≠ []) : after.queue socket ≠ [] := by
  rcases checks with ⟨_, fills, _⟩
  rw [fills.queue]
  exact List.append_ne_nil_of_left_ne_nil some_ _

end Checks

namespace Component

private theorem drain_fills (component : Component H Socket) (shared : Socket) :
    Fills component (component.drain shared)
      [.drained shared (H.drain component.world).1] := by
  refine ⟨rfl, rfl, ?_⟩
  intro socket
  by_cases same : socket = shared
  · subst same
    simp [drain, HostCall.arrived]
  · simp [drain, HostCall.arrived, same, Ne.symm same]

private theorem hasData_checks (component : Component H Socket) (shared : Socket) :
    Checks component (component.hasData shared).2 := by
  rw [hasData]
  split
  · exact ⟨_, component.drain_fills shared, by simp [HostCall.drains]⟩
  · exact .refl component

private theorem hasData_iff (component : Component H Socket) (shared : Socket) :
    (component.hasData shared).1 = true ↔ (component.hasData shared).2.queue shared ≠ [] := by
  simp [hasData]

private theorem hasData_unchanged {component : Component H Socket} {shared : Socket}
    (nothing : (component.hasData shared).1 = false) :
    (component.hasData shared).2.queue = component.queue ∧ component.queue shared = [] := by
  by_cases empty : component.queue shared = []
  · refine ⟨?_, empty⟩
    simp only [hasData, empty, List.isEmpty_nil, if_true, drain, List.nil_append] at nothing ⊢
    rw [Function.update_self, Bool.not_eq_false', List.isEmpty_iff] at nothing
    rw [nothing, ← empty, Function.update_eq_self]
  · simp [hasData, empty] at nothing

/-! ## Pass 1 -/

def Local (component : Component H Socket) : Inner H Socket → Prop
  | .alwaysReady => True
  | .udpIncoming shared => component.queue shared ≠ []
  | .host _ | .never => False

private theorem readyLocal_checks (component : Component H Socket) (pollable : Inner H Socket) :
    Checks component (component.readyLocal pollable).2 := by
  cases pollable with
  | udpIncoming shared => exact component.hasData_checks shared
  | host _ => exact .refl component
  | alwaysReady => exact .refl component
  | never => exact .refl component

private theorem readyLocal_local {component : Component H Socket} {pollable : Inner H Socket}
    (ready : (component.readyLocal pollable).1 = true) :
    (component.readyLocal pollable).2.Local pollable := by
  cases pollable with
  | udpIncoming shared => exact (component.hasData_iff shared).mp ready
  | alwaysReady => trivial
  | host _ => cases ready
  | never => cases ready

theorem Local.later {component after : Component H Socket} {pollable : Inner H Socket}
    (local_ : component.Local pollable) (checks : Checks component after) :
    after.Local pollable := by
  cases pollable with
  | udpIncoming shared => exact checks.nonempty local_
  | alwaysReady => trivial
  | host _ => exact local_
  | never => exact local_

private theorem pass1_checks (pollables : List (Inner H Socket)) (component : Component H Socket)
    (index : Nat) : Checks component (component.pass1 index pollables).2 := by
  induction pollables generalizing component index with
  | nil => exact .refl component
  | cons pollable rest induction =>
      exact (component.readyLocal_checks pollable).trans (induction _ _)

private theorem pass1_positions (pollables : List (Inner H Socket)) (component : Component H Socket)
    (index : Nat) : ∃ positions : List Nat,
      (component.pass1 index pollables).1 = positions.map UInt32.ofNat ∧
      positions.Sublist (List.range' index pollables.length) ∧
      ∀ position ∈ positions, ∃ pollable, pollables[position - index]? = some pollable ∧
        (component.pass1 index pollables).2.Local pollable := by
  induction pollables generalizing component index with
  | nil => exact ⟨[], rfl, by simp, by simp⟩
  | cons pollable rest induction =>
      rcases induction (component.readyLocal pollable).2 (index + 1) with
        ⟨positions, listed, sublist, ready⟩
      have later : ∀ position ∈ positions, ∃ other,
          (pollable :: rest)[position - index]? = some other ∧
            (component.pass1 index (pollable :: rest)).2.Local other := by
        intro position member
        have bounds := List.mem_range'_1.mp (sublist.subset member)
        have shifted : position - index = position - (index + 1) + 1 := by omega
        rw [shifted, List.getElem?_cons_succ]
        exact ready position member
      rw [List.length_cons, List.range'_succ]
      cases own : (component.readyLocal pollable).1 with
      | false =>
          refine ⟨positions, ?_, sublist.cons _, later⟩
          simp only [pass1, own, listed]
          rfl
      | true =>
          refine ⟨index :: positions, ?_, sublist.cons_cons _, ?_⟩
          · simp only [pass1, own, listed]
            rfl
          · intro position member
            rcases List.mem_cons.mp member with rfl | member
            · rw [Nat.sub_self]
              exact ⟨pollable, rfl, (readyLocal_local own).later (pass1_checks rest _ _)⟩
            · exact later position member

private theorem pass1_nothing {pollables : List (Inner H Socket)} {component : Component H Socket}
    {index : Nat} (nothing : (component.pass1 index pollables).1 = []) :
    (component.pass1 index pollables).2.queue = component.queue ∧
      ∀ pollable ∈ pollables, ¬ component.Local pollable := by
  induction pollables generalizing component index with
  | nil => exact ⟨rfl, by simp⟩
  | cons pollable rest induction =>
      simp only [pass1] at nothing
      cases own : (component.readyLocal pollable).1 with
      | true =>
          rw [own] at nothing
          cases nothing
      | false =>
          rw [own] at nothing
          rcases induction nothing with ⟨kept, others⟩
          have still : (component.readyLocal pollable).2.queue = component.queue ∧
              ¬ component.Local pollable := by
            cases pollable with
            | udpIncoming shared =>
                rcases hasData_unchanged own with ⟨same, empty⟩
                exact ⟨same, fun some_ => some_ empty⟩
            | host _ => exact ⟨rfl, id⟩
            | never => exact ⟨rfl, id⟩
            | alwaysReady => cases own
          have same : ∀ other, (component.readyLocal pollable).2.Local other ↔
              component.Local other := by
            intro other
            cases other <;> simp [Local, still.1]
          refine ⟨kept.trans still.1, ?_⟩
          intro other member
          rcases List.mem_cons.mp member with rfl | member
          · exact still.2
          · rw [← same]
            exact others other member

end Component

/-! ## Pass 2 -/

def Inner.counterpart (src : Socket → H.Pollable) : Inner H Socket → Option H.Pollable
  | .host pollable => some pollable
  | .udpIncoming shared => some (src shared)
  | .alwaysReady | .never => none

/-- How many of the pollables before `position` have a counterpart: where the one at
`position` is in the host's list. -/
def hostIndex (src : Socket → H.Pollable) (pollables : List (Inner H Socket))
    (position : Nat) : Nat :=
  (pollables.take position).countP fun pollable => (pollable.counterpart src).isSome

/-- Index `place` of the host's list stands for `position` of the caller's. -/
def Stands (src : Socket → H.Pollable) (pollables : List (Inner H Socket))
    (place position : Nat) : Prop :=
  ∃ pollable ref, pollables[position]? = some pollable ∧ pollable.counterpart src = some ref ∧
    (pollables.filterMap (Inner.counterpart src))[place]? = some ref ∧
    place = hostIndex src pollables position

namespace Stands

variable {src : Socket → H.Pollable} {pollable : Inner H Socket}
  {rest : List (Inner H Socket)} {place position : Nat}

omit [DecidableEq Socket] in
theorem skip (stands : Stands src rest place position) (none_ : pollable.counterpart src = none) :
    Stands src (pollable :: rest) place (position + 1) := by
  rcases stands with ⟨other, ref, at_, known, listed, counted⟩
  refine ⟨other, ref, at_, known, ?_, ?_⟩
  · rw [List.filterMap_cons_none none_]
    exact listed
  · rw [hostIndex, List.take_succ_cons, List.countP_cons_of_neg (by simp [none_])]
    exact counted

omit [DecidableEq Socket] in
theorem next {own : H.Pollable} (stands : Stands src rest place position)
    (some_ : pollable.counterpart src = some own) :
    Stands src (pollable :: rest) (place + 1) (position + 1) := by
  rcases stands with ⟨other, ref, at_, known, listed, counted⟩
  refine ⟨other, ref, at_, known, ?_, ?_⟩
  · rw [List.filterMap_cons_some some_]
    exact listed
  · rw [hostIndex, List.take_succ_cons, List.countP_cons_of_pos (by simp [some_]), counted]
    rfl

omit [DecidableEq Socket] in
theorem first {own : H.Pollable} (some_ : pollable.counterpart src = some own) :
    Stands src (pollable :: rest) 0 0 := by
  refine ⟨pollable, own, rfl, some_, ?_, rfl⟩
  rw [List.filterMap_cons_some some_]
  rfl

end Stands

namespace Component

omit [DecidableEq Socket] in
/-- The back-map: the host's list has the counterparts in order, and each of its indices
leads back to the position it stands for. -/
private theorem hostRefs_back (component : Component H Socket) (pollables : List (Inner H Socket))
    (unready : ∀ pollable ∈ pollables, pollable ≠ .alwaysReady) (index : Nat) :
    ∃ back, component.hostRefs index pollables =
        .ok (pollables.filterMap (Inner.counterpart component.src), back) ∧
      back.length = (pollables.filterMap (Inner.counterpart component.src)).length ∧
      back.Sublist (List.range' index pollables.length) ∧
      ∀ place position : Nat, back[place]? = some position →
        Stands component.src pollables place (position - index) := by
  induction pollables generalizing index with
  | nil => exact ⟨[], rfl, rfl, by simp, by simp⟩
  | cons pollable rest induction =>
      rcases induction (fun other member => unready other (List.mem_cons_of_mem _ member))
        (index + 1) with ⟨back, refs, length, sublist, leads⟩
      have own := unready pollable List.mem_cons_self
      have shift : ∀ place position : Nat, back[place]? = some position →
          position - index = position - (index + 1) + 1 := by
        intro place position found
        have bounds := List.mem_range'_1.mp (sublist.subset (List.mem_of_getElem? found))
        omega
      rw [List.length_cons, List.range'_succ]
      cases counterpart : pollable.counterpart component.src with
      | none =>
          rw [List.filterMap_cons_none counterpart]
          refine ⟨back, ?_, length, sublist.cons _, ?_⟩
          · cases pollable with
            | never => exact refs
            | alwaysReady => exact absurd rfl own
            | host _ => cases counterpart
            | udpIncoming _ => cases counterpart
          · intro place position found
            rw [shift place position found]
            exact (leads place position found).skip counterpart
      | some ref =>
          rw [List.filterMap_cons_some counterpart]
          refine ⟨index :: back, ?_, ?_, sublist.cons_cons _, ?_⟩
          · cases pollable with
            | host _ =>
                cases counterpart
                simp only [hostRefs, refs]
                rfl
            | udpIncoming _ =>
                cases counterpart
                simp only [hostRefs, refs]
                rfl
            | never => cases counterpart
            | alwaysReady => cases counterpart
          · rw [List.length_cons, List.length_cons, length]
          · intro place position found
            cases place with
            | zero =>
                cases found
                rw [Nat.sub_self]
                exact .first counterpart
            | succ place =>
                rw [List.getElem?_cons_succ] at found
                rw [shift place position found]
                exact (leads place position found).next counterpart

/-- What fired is mapped back: every position is one that fired, each host pollable that
fired is there, and each socket that is there has something. -/
private theorem collect_positions {pollables : List (Inner H Socket)} {back : List Nat}
    {src : Socket → H.Pollable} (leads : ∀ place position : Nat, back[place]? = some position →
      Stands src pollables place position)
    (fired : List UInt32) (inRange : ∀ place ∈ fired, place.toNat < back.length)
    (component : Component H Socket) :
    ∃ (positions : List Nat) (after : Component H Socket),
      component.collect pollables back fired =
        .ok (positions.map UInt32.ofNat, after) ∧ Checks component after ∧
      positions.Sublist (fired.filterMap fun place => back[place.toNat]?) ∧
      (∀ position ∈ positions, ∀ shared, pollables[position]? = some (.udpIncoming shared) →
        after.queue shared ≠ []) ∧
      ∀ place ∈ fired, ∀ (position : Nat) (pollable : H.Pollable),
        back[place.toNat]? = some position →
        pollables[position]? = some (.host pollable) → position ∈ positions := by
  induction fired generalizing component with
  | nil => exact ⟨[], component, rfl, .refl component, by simp, by simp, by simp⟩
  | cons place rest induction =>
      have within := inRange place List.mem_cons_self
      have others := fun place member => inRange place (List.mem_cons_of_mem _ member)
      rcases found : back[place.toNat]? with _ | position
      · rw [List.getElem?_eq_none_iff] at found
        omega
      · rcases leads place.toNat position found with ⟨pollable, ref, at_, stands, _, _⟩
        have spots : (place :: rest).filterMap (fun place => back[place.toNat]?) =
            position :: rest.filterMap fun place => back[place.toNat]? := by
          rw [List.filterMap_cons, found]
        rw [spots]
        cases pollable with
        | host own =>
            rcases induction others component with
              ⟨positions, after, collected, checks, sublist, filled, hosts⟩
            refine ⟨position :: positions, after, ?_, checks, sublist.cons_cons _, ?_, ?_⟩
            · simp only [collect, found, at_, collected]
              rfl
            · intro other member shared known
              rcases List.mem_cons.mp member with rfl | member
              · rw [at_] at known
                cases known
              · exact filled other member shared known
            · intro other member spot pollable led known
              rcases List.mem_cons.mp member with rfl | member
              · rw [found] at led
                cases led
                exact List.mem_cons_self
              · exact List.mem_cons_of_mem _ (hosts other member spot pollable led known)
        | udpIncoming own =>
            rcases induction others (component.hasData own).2 with
              ⟨positions, after, collected, checks, sublist, filled, hosts⟩
            have passed := (component.hasData_checks own).trans checks
            have reported : ∀ other ∈ place :: rest, ∀ (spot : Nat) (pollable : H.Pollable),
                back[other.toNat]? = some spot → pollables[spot]? = some (.host pollable) →
                spot ∈ positions := by
              intro other member spot pollable led known
              rcases List.mem_cons.mp member with rfl | member
              · rw [found] at led
                cases led
                rw [at_] at known
                cases known
              · exact hosts other member spot pollable led known
            cases data : (component.hasData own).1 with
            | false =>
                refine ⟨positions, after, ?_, passed, sublist.cons _, filled, reported⟩
                simp only [collect, found, at_, data, collected]
                rfl
            | true =>
                refine ⟨position :: positions, after, ?_, passed, sublist.cons_cons _, ?_, ?_⟩
                · simp only [collect, found, at_, data, collected]
                  rfl
                · intro other member shared known
                  rcases List.mem_cons.mp member with rfl | member
                  · rw [at_] at known
                    cases known
                    exact checks.nonempty ((component.hasData_iff own).mp data)
                  · exact filled other member shared known
                · intro other member spot pollable led known
                  exact List.mem_cons_of_mem _ (reported other member spot pollable led known)
        | alwaysReady => cases stands
        | never => cases stands

end Component

/-! ## What an answer says -/

/-- The host answers a poll with some of the indices it was asked about, each once. -/
def Host.Polls (H : Host) : Prop :=
  ∀ (refs : List H.Pollable) (world : H.World), refs ≠ [] →
    (H.poll refs world).1 ≠ [] ∧ (H.poll refs world).1.Nodup ∧
    ∀ place ∈ (H.poll refs world).1, place.toNat < refs.length

/-- In the last poll among `calls`, made for all the counterparts, the host reported the one
that stands for `position`. -/
def Reported (src : Socket → H.Pollable) (pollables : List (Inner H Socket))
    (calls : List (HostCall H Socket)) (position : Nat) : Prop :=
  ∃ before fired later, ∃ place ∈ fired,
    calls = before ++ .polled (pollables.filterMap (Inner.counterpart src)) fired :: later ∧
    (∀ call ∈ later, call.drains = true) ∧ Stands src pollables place.toNat position

/-- The pollable at `position` is ready. -/
def Component.Ready (component : Component H Socket) (pollables : List (Inner H Socket))
    (calls : List (HostCall H Socket)) (position : Nat) : Inner H Socket → Prop
  | .alwaysReady => True
  | .udpIncoming shared => component.queue shared ≠ []
  | .host _ => Reported component.src pollables calls position
  | .never => False

/-- The answer `ready` after `calls`: distinct positions of pollables that are ready, every
host pollable that was reported among them, and no drained datagram lost. -/
structure Answers (pollables : List (Inner H Socket)) (component after : Component H Socket)
    (ready : List UInt32) (calls : List (HostCall H Socket)) : Prop where
  fills : Fills component after calls
  distinct : ready.Nodup
  names : ∀ index ∈ ready, ∃ pollable, pollables[index.toNat]? = some pollable ∧
    after.Ready pollables calls index.toNat pollable
  reports : ∀ refs fired, .polled refs fired ∈ calls → ∀ place ∈ fired,
    ∀ (position : Nat) (pollable : H.Pollable),
    pollables[position]? = some (.host pollable) →
    place.toNat = hostIndex after.src pollables position → UInt32.ofNat position ∈ ready

omit [DecidableEq Socket] in
private theorem hostIndex_lt {src : Socket → H.Pollable} {pollables : List (Inner H Socket)}
    {position later : Nat} {pollable : Inner H Socket}
    (found : pollables[position]? = some pollable) (some_ : (pollable.counterpart src).isSome)
    (before : position < later) :
    hostIndex src pollables position < hostIndex src pollables later := by
  have one : hostIndex src pollables (position + 1) = hostIndex src pollables position + 1 := by
    rw [hostIndex, List.take_add_one, found, List.countP_append]
    simp [hostIndex, some_]
  have more : hostIndex src pollables (position + 1) ≤ hostIndex src pollables later :=
    (List.take_sublist_take_left before).countP_le
  omega

omit [DecidableEq Socket] in
theorem Stands.unique {src : Socket → H.Pollable} {pollables : List (Inner H Socket)}
    {place position other : Nat} {pollable : Inner H Socket}
    (stands : Stands src pollables place position)
    (found : pollables[other]? = some pollable) (some_ : (pollable.counterpart src).isSome)
    (counted : place = hostIndex src pollables other) : other = position := by
  rcases stands with ⟨own, ref, at_, known, _, own_⟩
  have also : (own.counterpart src).isSome := by rw [known]; rfl
  rcases Nat.lt_trichotomy other position with less | same | more
  · have := hostIndex_lt found some_ less
    omega
  · exact same
  · have := hostIndex_lt at_ also more
    omega

omit [DecidableEq Socket] in
theorem Reported.later {src : Socket → H.Pollable} {pollables : List (Inner H Socket)}
    {calls : List (HostCall H Socket)} {position : Nat}
    (reported : Reported src pollables calls position) (earlier : List (HostCall H Socket)) :
    Reported src pollables (earlier ++ calls) position := by
  rcases reported with ⟨before, fired, later, place, member, rfl, drains, stands⟩
  refine ⟨earlier ++ before, fired, later, place, member, ?_, drains, stands⟩
  rw [List.append_assoc]

theorem Answers.trans {pollables : List (Inner H Socket)}
    {component middle after : Component H Socket} {ready : List UInt32}
    {calls more : List (HostCall H Socket)}
    (front : Answers pollables component middle [] calls)
    (back : Answers pollables middle after ready more) :
    Answers pollables component after ready (calls ++ more) := by
  refine ⟨front.fills.trans back.fills, back.distinct, ?_, ?_⟩
  · intro index member
    rcases back.names index member with ⟨pollable, found, holds⟩
    refine ⟨pollable, found, ?_⟩
    cases pollable with
    | alwaysReady => trivial
    | udpIncoming shared => exact holds
    | host _ => exact holds.later calls
    | never => exact holds
  · intro refs fired polled place member position pollable found counted
    rcases List.mem_append.mp polled with early | late
    · rw [back.fills.src] at counted
      cases front.reports refs fired early place member position pollable found counted
    · exact back.reports refs fired late place member position pollable found counted

private theorem ofNat_positions {positions : List Nat}
    (small : ∀ position ∈ positions, position < 2 ^ 32)
    (distinct : positions.Nodup) :
    (positions.map UInt32.ofNat).Nodup ∧
      ∀ index ∈ positions.map UInt32.ofNat, index.toNat ∈ positions := by
  have exact_ : ∀ position ∈ positions, (UInt32.ofNat position).toNat = position :=
    fun position member => UInt32.toNat_ofNat_of_lt' (small position member)
  refine ⟨?_, ?_⟩
  · apply distinct.map_on
    intro left leftMember right rightMember same
    rw [← exact_ left leftMember, ← exact_ right rightMember, same]
  · intro index member
    rcases List.mem_map.mp member with ⟨position, listed, rfl⟩
    rw [exact_ position listed]
    exact listed

namespace Component

variable {component : Component H Socket} {pollables : List (Inner H Socket)}

private theorem pass1_answers (bound : pollables.length < 2 ^ 32) :
    ∃ calls, Answers pollables component (component.pass1 0 pollables).2
      (component.pass1 0 pollables).1 calls ∧ ∀ call ∈ calls, call.drains = true := by
  rcases pass1_positions pollables component 0 with ⟨positions, listed, sublist, ready⟩
  rcases pass1_checks pollables component 0 with ⟨calls, fills, drains⟩
  have small : ∀ position ∈ positions, position < 2 ^ 32 := by
    intro position member
    have bounds := List.mem_range'_1.mp (sublist.subset member)
    omega
  rcases ofNat_positions small (sublist.nodup List.nodup_range') with ⟨distinct, back⟩
  refine ⟨calls, ⟨fills, listed ▸ distinct, ?_, ?_⟩, drains⟩
  · intro index member
    rw [listed] at member
    rcases ready index.toNat (back index member) with ⟨pollable, found, local_⟩
    refine ⟨pollable, found, ?_⟩
    cases pollable with
    | udpIncoming shared => exact local_
    | alwaysReady => trivial
    | host _ => exact local_.elim
    | never => exact local_
  · intro refs fired polled
    cases drains _ polled

private theorem hostPoll_fills (component : Component H Socket) (refs : List H.Pollable) :
    Fills component (component.hostPoll refs).2
      [.polled refs (component.hostPoll refs).1] :=
  ⟨rfl, rfl, fun _ => by simp [HostCall.arrived, hostPoll]⟩

private theorem pass2_answers (polls : H.Polls) (bound : pollables.length < 2 ^ 32)
    (unready : ∀ pollable ∈ pollables, pollable ≠ .alwaysReady) {refs : List H.Pollable}
    (asked : pollables.filterMap (Inner.counterpart component.src) = refs) (some_ : refs ≠ []) :
    ∃ back ready after calls, component.hostRefs 0 pollables = .ok (refs, back) ∧
      (component.hostPoll refs).2.collect pollables back (component.hostPoll refs).1 =
        .ok (ready, after) ∧
      Answers pollables component after ready calls := by
  rcases hostRefs_back component pollables unready 0 with ⟨back, made, length, sublist, leads⟩
  rw [asked] at made length
  rcases polls refs component.world some_ with ⟨_, fresh, inRange⟩
  change (component.hostPoll refs).1.Nodup at fresh
  change ∀ place ∈ (component.hostPoll refs).1, place.toNat < refs.length at inRange
  have woken := component.hostPoll_fills refs
  rw [← length] at inRange
  generalize component.hostPoll refs = polled at fresh inRange woken ⊢
  rcases polled with ⟨fired, waked⟩
  dsimp only at fresh inRange woken ⊢
  rcases collect_positions leads fired inRange waked with
    ⟨positions, after, collected, ⟨drained, fills, drains⟩, among, filled, hosts⟩
  have src : after.src = component.src := fills.src.trans woken.src
  have led : ∀ position ∈ positions, ∃ place ∈ fired,
      Stands component.src pollables place.toNat position := by
    intro position member
    rcases List.mem_filterMap.mp (among.subset member) with ⟨place, listed, found⟩
    exact ⟨place, listed, leads place.toNat position found⟩
  have small : ∀ position ∈ positions, position < 2 ^ 32 := by
    intro position member
    rcases led position member with ⟨place, _, pollable, ref, at_, _⟩
    have within := (List.getElem?_eq_some_iff.mp at_).1
    omega
  have distinct : positions.Nodup := by
    apply among.nodup
    apply fresh.filterMap
    intro left right position leads_ also
    apply UInt32.toNat_inj.mp
    have within := (List.getElem?_eq_some_iff.mp leads_).1
    apply (List.getElem?_inj within (sublist.nodup List.nodup_range')).mp
    exact leads_.trans also.symm
  rcases ofNat_positions small distinct with ⟨nodup, listed⟩
  refine ⟨back, positions.map UInt32.ofNat, after, .polled refs fired :: drained, made, collected,
    woken.trans fills, nodup, ?_, ?_⟩
  · intro index member
    rcases led index.toNat (listed index member) with ⟨place, reported, stands⟩
    have found := stands
    rcases found with ⟨pollable, ref, at_, known, _⟩
    refine ⟨pollable, at_, ?_⟩
    cases pollable with
    | alwaysReady => trivial
    | udpIncoming shared => exact filled index.toNat (listed index member) shared at_
    | host own =>
        refine ⟨[], fired, drained, place, reported, ?_, drains, ?_⟩
        · rw [src, asked]
          rfl
        · rw [src]
          exact stands
    | never => cases known
  · intro others replied polled place member position pollable at_ counted
    rcases List.mem_cons.mp polled with same | late
    · cases same
      rw [src] at counted
      rcases found : back[place.toNat]? with _ | other
      · rw [List.getElem?_eq_none_iff] at found
        exact absurd (inRange place member) (Nat.not_lt.mpr found)
      · have same := (leads place.toNat other found).unique at_ rfl counted
        rw [Nat.sub_zero] at same
        subst same
        exact List.mem_map_of_mem (hosts place member position pollable found at_)
    · cases drains _ late

private theorem pass1_unready (nothing : (component.pass1 0 pollables).1 = []) :
    (∀ pollable ∈ pollables, pollable ≠ .alwaysReady) ∧
      (pollables.filterMap (Inner.counterpart component.src) = [] →
        ∀ pollable ∈ pollables, pollable = .never) := by
  have unready := (pass1_nothing nothing).2
  refine ⟨?_, ?_⟩
  · rintro pollable member rfl
    exact unready _ member trivial
  · intro alone pollable member
    have none_ := List.filterMap_eq_nil_iff.mp alone pollable member
    cases pollable with
    | never => rfl
    | alwaysReady => exact absurd trivial (unready _ member)
    | host _ => cases none_
    | udpIncoming _ => cases none_

private theorem pollRound_outcome (polls : H.Polls) (bound : pollables.length < 2 ^ 32)
    (component : Component H Socket) :
    (∃ ready after calls, component.pollRound pollables = .ok (ready, after) ∧
      Answers pollables component after ready calls) ∨
    (component.pollRound pollables = .error .onlyNever ∧
      ∀ pollable ∈ pollables, pollable = .never) := by
  rcases @pass1_answers _ _ _ component pollables bound with ⟨calls, answers, drains⟩
  by_cases nothing : (component.pass1 0 pollables).1 = []
  · rcases pass1_unready nothing with ⟨unready, alone⟩
    have src := answers.fills.src
    by_cases asked : pollables.filterMap (Inner.counterpart component.src) = []
    · right
      refine ⟨?_, alone asked⟩
      rcases hostRefs_back (component.pass1 0 pollables).2 pollables unready 0 with
        ⟨back, made, _⟩
      rw [src, asked] at made
      simp only [pollRound, nothing, made]
      rfl
    · left
      rw [← src] at asked
      rcases @pass2_answers _ _ _ (component.pass1 0 pollables).2 pollables polls bound unready _
        rfl asked with ⟨back, ready, after, more, made, collected, rest⟩
      refine ⟨ready, after, calls ++ more, ?_, ?_⟩
      · simp only [pollRound, nothing, made, bind, Except.bind]
        rw [if_neg (by simp), if_neg (by simpa using asked)]
        exact collected
      · rw [nothing] at answers
        exact answers.trans rest
  · left
    refine ⟨_, _, calls, ?_, answers⟩
    rw [pollRound]
    exact if_pos nothing

end Component

/-- The source's pollable is reported only while the source has something. -/
def Host.Level (H : Host) (src : Socket → H.Pollable) : Prop :=
  ∀ (refs : List H.Pollable) (world : H.World), ∀ place ∈ (H.poll refs world).1,
    ∀ shared, refs[place.toNat]? = some (src shared) → (H.drain (H.poll refs world).2).1 ≠ []

namespace Component

variable {component : Component H Socket} {pollables : List (Inner H Socket)}

private theorem collect_some {back : List Nat} {place : UInt32} {rest ready : List UInt32}
    {after : Component H Socket} {position : Nat} {pollable : Inner H Socket}
    (led : back[place.toNat]? = some position) (found : pollables[position]? = some pollable)
    (full : ∀ shared, pollable = .udpIncoming shared → (component.hasData shared).1 = true)
    (collected : component.collect pollables back (place :: rest) = .ok (ready, after)) :
    ready ≠ [] := by
  simp only [collect, led, found] at collected
  cases pollable with
  | host own =>
      rcases bind_eq_ok.mp collected with ⟨⟨more, later⟩, _, made⟩
      cases made
      simp
  | udpIncoming shared =>
      rcases bind_eq_ok.mp collected with ⟨⟨more, later⟩, _, made⟩
      rw [full shared rfl] at made
      cases made
      simp
  | alwaysReady => cases collected
  | never => cases collected

private theorem hasData_drained {shared : Socket} (empty : component.queue shared = [])
    (some_ : (H.drain component.world).1 ≠ []) : (component.hasData shared).1 = true := by
  simp [hasData, empty, drain, some_]

private theorem collect_returns (polls : H.Polls) (level : H.Level component.src) {back : List Nat}
    {ready : List UInt32} {after : Component H Socket}
    (empty : ∀ shared, .udpIncoming shared ∈ pollables → component.queue shared = [])
    (some_ : pollables.filterMap (Inner.counterpart component.src) ≠ [])
    (length : back.length = (pollables.filterMap (Inner.counterpart component.src)).length)
    (leads : ∀ place position : Nat, back[place]? = some position →
      Stands component.src pollables place position)
    (collected : (component.hostPoll
        (pollables.filterMap (Inner.counterpart component.src))).2.collect pollables back
      (component.hostPoll (pollables.filterMap (Inner.counterpart component.src))).1 =
        .ok (ready, after)) : ready ≠ [] := by
  rcases polls _ component.world some_ with ⟨fires, _, inRange⟩
  have data := level (pollables.filterMap (Inner.counterpart component.src)) component.world
  rw [hostPoll] at collected
  rcases answer : H.poll (pollables.filterMap (Inner.counterpart component.src))
    component.world with ⟨_ | ⟨place, rest⟩, world⟩
  all_goals rw [answer] at fires inRange data collected
  · exact absurd rfl fires
  · have within := inRange place List.mem_cons_self
    rcases led : back[place.toNat]? with _ | position
    · rw [List.getElem?_eq_none_iff] at led
      omega
    · rcases leads place.toNat position led with ⟨pollable, ref, found, known, listed, _⟩
      refine collect_some led found ?_ collected
      rintro shared rfl
      cases known
      exact hasData_drained (empty shared (List.mem_of_getElem? found))
        (data place List.mem_cons_self shared listed)

private theorem pollRound_returns (polls : H.Polls) (bound : pollables.length < 2 ^ 32)
    (level : H.Level component.src) (waits : ∃ pollable ∈ pollables, pollable ≠ .never) :
    ∃ ready after, component.pollRound pollables = .ok (ready, after) ∧ ready ≠ [] := by
  rcases pollRound_outcome polls bound component with
    ⟨ready, after, calls, ran, _⟩ | ⟨_, never⟩
  · refine ⟨ready, after, ran, ?_⟩
    by_cases nothing : (component.pass1 0 pollables).1 = []
    · rcases pass1_nothing nothing with ⟨unmoved, unready⟩
      have empty : ∀ shared, .udpIncoming shared ∈ pollables →
          (component.pass1 0 pollables).2.queue shared = [] := by
        intro shared member
        rw [unmoved]
        exact not_not.mp (unready _ member)
      rw [← (pass1_checks pollables component 0).src] at level
      rcases hostRefs_back (component.pass1 0 pollables).2 pollables (pass1_unready nothing).1 0
        with ⟨back, made, length, _, leads⟩
      simp only [pollRound, nothing, made, bind, Except.bind] at ran
      rw [if_neg (by simp)] at ran
      split at ran
      · cases ran
      · rename_i asked
        rw [List.isEmpty_iff] at asked
        exact collect_returns polls level empty asked length leads ran
    · rw [pollRound] at ran
      dsimp only at ran
      rw [if_pos nothing] at ran
      cases ran
      exact nothing
  · rcases waits with ⟨pollable, member, other⟩
    exact absurd (never pollable member) other

end Component

/-! ## Poll is sound -/

/-- How a `poll` that found its list non-empty ends. -/
def Polled (pollables : List (Inner H Socket)) (component : Component H Socket) :
    Except Abort (List UInt32 × Component H Socket) → Prop
  | .ok (ready, after) =>
      ready ≠ [] ∧ ∃ calls, Answers pollables component after ready calls
  | .error abort => abort = .exhausted ∨
      (abort = .onlyNever ∧ ∀ pollable ∈ pollables, pollable = .never)

namespace Component

variable {pollables : List (Inner H Socket)}

private theorem pollAgain_outcome (polls : H.Polls) (bound : pollables.length < 2 ^ 32)
    (component : Component H Socket) (fuel : Nat) :
    Polled pollables component
      (whileLoop .exhausted (pollAgain pollables) fuel ([], component)) := by
  have round : ∀ state : List UInt32 × Component H Socket,
      (∃ calls, Answers pollables component state.2 [] calls) →
      (∃ ready after calls, pollAgain pollables state = .ok ((ready, after), ready.isEmpty) ∧
        Answers pollables component after ready calls) ∨
      (pollAgain pollables state = .error .onlyNever ∧
        ∀ pollable ∈ pollables, pollable = .never) := by
    rintro ⟨_, sofar⟩ ⟨calls, front⟩
    rcases pollRound_outcome polls bound sofar with
      ⟨ready, after, more, ran, back⟩ | ⟨ran, never⟩
    · refine .inl ⟨ready, after, calls ++ more, ?_, front.trans back⟩
      rw [pollAgain, ran]
      rfl
    · refine .inr ⟨?_, never⟩
      rw [pollAgain, ran]
      rfl
  apply whileLoop.outcome (fun state => ∃ calls, Answers pollables component state.2 [] calls)
    (Polled pollables component)
  · intro state next sofar again
    rcases round state sofar with ⟨ready, after, calls, ran, answers⟩ | ⟨ran, _⟩
    · rw [again] at ran
      simp only [Except.ok.injEq, Prod.mk.injEq] at ran
      rcases ran with ⟨rfl, empty⟩
      rw [eq_comm, List.isEmpty_iff] at empty
      exact ⟨calls, empty ▸ answers⟩
    · rw [again] at ran
      cases ran
  · intro state next sofar stops
    rcases round state sofar with ⟨ready, after, calls, ran, answers⟩ | ⟨ran, _⟩
    · rw [stops] at ran
      simp only [Except.ok.injEq, Prod.mk.injEq] at ran
      rcases ran with ⟨rfl, some_⟩
      rw [eq_comm, List.isEmpty_eq_false_iff] at some_
      exact ⟨some_, calls, answers⟩
    · rw [stops] at ran
      cases ran
  · intro state abort sofar fails
    rcases round state sofar with ⟨ready, after, calls, ran, answers⟩ | ⟨ran, never⟩
    · rw [fails] at ran
      cases ran
    · rw [fails] at ran
      cases ran
      exact .inr ⟨rfl, never⟩
  · exact .inl rfl
  · exact ⟨[], .refl component, List.nodup_nil, by simp, by simp⟩

end Component

/-- What `poll` returns is a non-empty answer. It panics only on the empty list and on a list
of never-ready pollables, so no unreachable branch is reached and no index is out of range.
Where the host reports the source only while it has something, `poll` returns in its first
round. -/
theorem virtual_poll_sound (polls : H.Polls) (component : Component H Socket) (fuel : Nat)
    (pollables : Vec (Inner H Socket)) :
    (∀ ready after, component.poll fuel pollables = .ok (ready, after) →
      ready ≠ [] ∧ ∃ calls, Answers pollables.1 component after ready calls) ∧
    (∀ abort, component.poll fuel pollables = .error abort →
      abort = .exhausted ∨ (abort = .emptyList ∧ pollables.1 = []) ∨
      (abort = .onlyNever ∧ ∀ pollable ∈ pollables.1, pollable = .never)) ∧
    (H.Level component.src → 0 < fuel → (∃ pollable ∈ pollables.1, pollable ≠ .never) →
      ∃ ready after, component.poll fuel pollables = .ok (ready, after)) := by
  rcases pollables with ⟨pollables, bound⟩
  dsimp only
  by_cases empty : pollables = []
  · subst empty
    refine ⟨?_, ?_, ?_⟩
    · rintro ready after ⟨⟩
    · rintro abort ⟨⟩
      exact .inr (.inl ⟨rfl, rfl⟩)
    · rintro _ _ ⟨pollable, member, _⟩
      cases member
  · have looped := Component.pollAgain_outcome polls bound component fuel
    have entered : component.poll fuel ⟨pollables, bound⟩ =
        whileLoop .exhausted (Component.pollAgain pollables) fuel ([], component) :=
      if_neg (by simpa using empty)
    rw [← entered] at looped
    refine ⟨?_, ?_, ?_⟩
    · intro ready after ran
      rw [ran] at looped
      exact looped
    · intro abort ran
      rw [ran] at looped
      rcases looped with exhausted | never
      · exact .inl exhausted
      · exact .inr (.inr never)
    · intro level positive waits
      rcases Component.pollRound_returns polls bound level waits with ⟨ready, after, ran, some_⟩
      cases fuel with
      | zero => cases positive
      | succ fuel =>
          refine ⟨ready, after, ?_⟩
          rw [entered, whileLoop, Component.pollAgain, ran]
          simp [bind, Except.bind, some_]

def scriptedFires (count : Nat) : List UInt32 := if count < 3 then [0] else [2, 1]

private theorem scriptedFires_inRange {count : Nat} (positive : 0 < count) :
    scriptedFires count ≠ [] ∧ (scriptedFires count).Nodup ∧
      ∀ place ∈ scriptedFires count, place.toNat < count := by
  rw [scriptedFires]
  by_cases short : count < 3
  · rw [if_pos short]
    simpa using positive
  · rw [if_neg short]
    have three : 3 ≤ count := Nat.not_lt.mp short
    refine ⟨by simp, by simp, ?_⟩
    intro place member
    rcases List.mem_cons.mp member with rfl | member
    · exact Nat.lt_of_lt_of_le (by simp) three
    · rw [List.mem_singleton] at member
      subst member
      exact Nat.lt_of_lt_of_le (by simp) three

def scripted : Host where
  World := List (List Incoming)
  Pollable := Unit
  drain script := (script.headD [], script.tail)
  ready _ script := (true, script)
  block _ script := script
  poll refs script := (scriptedFires refs.length, script)

private theorem scripted_polls : scripted.Polls :=
  fun _ _ some_ => scriptedFires_inRange (List.length_pos_iff.mpr some_)

def scriptedSocket (script : List (List Incoming)) : Component scripted Unit :=
  ⟨script, fun _ => [], fun _ => (), []⟩

/-- A never-ready pollable, a host pollable and two of one socket, whose datagram arrives
while the host is asked. -/
theorem virtual_poll_sound_mixed :
    ∃ after calls, (scriptedSocket [[], [], [⟨[7], 9⟩]]).poll 1
        ⟨[.never, .udpIncoming (), .host (), .udpIncoming ()], by decide⟩ =
          .ok ([3, 2], after) ∧
      after.queue () = [⟨[7], 9⟩] ∧
      Answers [.never, .udpIncoming (), .host (), .udpIncoming ()]
        (scriptedSocket [[], [], [⟨[7], 9⟩]]) after [3, 2] calls := by
  have ran : ∃ after, (scriptedSocket [[], [], [⟨[7], 9⟩]]).poll 1
      ⟨[.never, .udpIncoming (), .host (), .udpIncoming ()], by decide⟩ =
        .ok ([3, 2], after) ∧ after.queue () = [⟨[7], 9⟩] := ⟨_, rfl, rfl⟩
  rcases ran with ⟨after, ran, queue⟩
  rcases ((virtual_poll_sound scripted_polls _ 1 _).1 _ _ ran).2 with ⟨calls, answers⟩
  exact ⟨after, calls, ran, queue, answers⟩

end Virt

end IrohEndpoint
