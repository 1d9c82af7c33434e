import IrohEndpoint.Network
import IrohEndpoint.Exchanges

/-! # Whose signals a session consumes

Signals name no session, so a session takes for its dance whatever its peer's sessions have
published. `View` is all that matters of one endpoint for its dances with the other: the
session that holds the slot, the signals not yet read, and those queued or in flight. A
dance is one offerer's, from its claim to the next claim of either side. -/

namespace IrohEndpoint

variable {P : Platform}

namespace Parcel

def json (parcel : Parcel) : Bytes := parcel.payload.drop 1

variable (P) in
def carries (test : Signal → Bool) (parcel : Parcel) : Bool :=
  (P.decodeSignal parcel.json).any test

variable (P) in
def Follows (parcel : Parcel) : Prop :=
  parcel.carries P Signal.isOffer = false ∧ parcel.carries P Signal.isAnswer = false

end Parcel

def Stage.spoke : Stage → Bool
  | .described | .exchanging | .passed => true
  | _ => false

structure View where
  -- the session that holds the slot for the other endpoint
  dancer : Option (Nat × Session)
  inbox : List Parcel
  posted : List Parcel
  read : Nat → List Parcel
  role : Nat → Option Role
  -- what arrives is ignored
  deaf : Bool

namespace View

def onWay (sender receiver : View) : List Parcel := receiver.inbox ++ sender.posted

def reads (view : View) (id : Nat) (read : List Parcel) : Nat → List Parcel :=
  fun other => if other = id then view.read id ++ read else view.read other

structure Grows (view next : View) : Prop where
  read : ∀ id parcel, parcel ∈ view.read id → parcel ∈ next.read id
  role : ∀ id role, view.role id = some role → next.role id = some role
  deaf : view.deaf = true → next.deaf = true

variable (P) in
inductive Acts (view next : View) : Prop
  | rested : next.dancer = view.dancer → next.inbox = view.inbox →
      next.posted = view.posted → next.read = view.read → Acts view next
  | moved (id : Nat) (session after : Session) : view.dancer = some (id, session) →
      next.dancer = some (id, after) → after.role = session.role →
      after.phase.stage = session.phase.stage → next.inbox = view.inbox →
      next.posted = view.posted → next.read = view.read → Acts view next
  | ended (id : Nat) (session : Session) (said : List Parcel) :
      view.dancer = some (id, session) → next.dancer = none → next.inbox = [] →
      next.posted = view.posted ++ said → next.read = view.read →
      (∀ parcel ∈ said, parcel.publisher = some id ∧ parcel.Follows P) →
      (said ≠ [] → session.phase.stage = .described) → Acts view next
  | described (id : Nat) (session after : Session) (parcel : Parcel) :
      view.dancer = some (id, session) → session.phase.stage = .silent →
      next.dancer = some (id, after) → after.role = session.role →
      after.phase.stage = .described → next.inbox = view.inbox →
      next.posted = view.posted ++ [parcel] → next.read = view.read →
      parcel.publisher = some id →
      parcel.carries P Signal.isOffer = decide (session.role = .offerer) →
      parcel.carries P Signal.isAnswer = decide (session.role = .answerer) → Acts view next
  | consumed (id : Nat) (session after : Session) (read said : List Parcel) :
      view.dancer = some (id, session) →
      session.phase.stage = .described ∨ session.phase.stage = .exchanging →
      next.dancer = some (id, after) → after.role = session.role →
      after.phase.stage = .exchanging ∨ (after.phase.stage = .passed ∧ read ≠ []) →
      view.inbox = read ++ next.inbox → next.posted = view.posted ++ said →
      next.read = view.reads id read →
      (∀ parcel ∈ read, parcel.carries P Signal.isOffer = false) →
      (∀ parcel ∈ said, parcel.publisher = some id ∧ parcel.Follows P) →
      (said ≠ [] → session.phase.stage = .described) → (read ≠ [] → view.deaf = false) →
      Acts view next
  | took (id : Nat) (session after : Session) (read : List Parcel) (offer : Parcel) :
      view.dancer = some (id, session) → session.role = .answerer →
      session.phase.stage = .starting → next.dancer = some (id, after) →
      after.role = .answerer → after.phase.stage = .silent →
      view.inbox = read ++ next.inbox → next.posted = view.posted →
      next.read = view.reads id read → offer ∈ read →
      offer.carries P Signal.isOffer = true → Acts view next
  | waited (id : Nat) (session after : Session) (read : List Parcel) :
      view.dancer = some (id, session) → session.role = .answerer →
      session.phase.stage = .starting → next.dancer = some (id, after) →
      after.role = .answerer → after.phase.stage = .starting →
      view.inbox = read ++ next.inbox → next.posted = view.posted →
      next.read = view.reads id read → Acts view next

inductive Takes (parcel : Parcel) (view next : View) : Prop
  | ignored : view.deaf = true → next.dancer = view.dancer → next.inbox = view.inbox →
      Takes parcel view next
  | lost : next.dancer = view.dancer → next.inbox = view.inbox → view.inbox ≠ [] →
      Takes parcel view next
  | filed : next.dancer = view.dancer → next.inbox = view.inbox ++ [parcel] →
      Takes parcel view next
  | started (id : Nat) (session : Session) : view.dancer = none →
      next.dancer = some (id, session) → session.role = .answerer →
      session.phase.stage = .starting → next.role id = some .answerer →
      view.read id = [] → next.inbox = view.inbox ++ [parcel] → Takes parcel view next

structure Delivers (parcel : Parcel) (sender sent receiver taken : View) : Prop where
  posted : sender.posted = parcel :: sent.posted
  dancer : sent.dancer = sender.dancer
  inbox : sent.inbox = sender.inbox
  read : sent.read = sender.read
  role : sent.role = sender.role
  deaf : sent.deaf = sender.deaf
  takes : Takes parcel receiver taken
  queued : taken.posted = receiver.posted
  reading : taken.read = receiver.read
  grows : receiver.Grows taken

end View

/-! ## A dance -/

section Dance

variable (P)

/-- A session has read an offer of `offerer`, and nothing that anyone else published. -/
def Took (read : List Parcel) (offerer : Nat) : Prop :=
  (∃ parcel ∈ read, parcel.carries P Signal.isOffer = true) ∧
    ∀ parcel ∈ read, parcel.publisher = some offerer

/-- The parcel was published by a session that answers `offerer`. -/
def View.Answering (view : View) (offerer : Nat) (parcel : Parcel) : Prop :=
  ∃ id, parcel.publisher = some id ∧ view.role id = some .answerer ∧ Took P (view.read id) offerer

/-- The offer on its way, the answer on its way and the answer read are one thing in three
places. -/
def descriptions (offering answering : View) (offerer : Nat) : Nat :=
  (View.onWay offering answering).countP (Parcel.carries P Signal.isOffer) +
    (View.onWay answering offering).countP (Parcel.carries P Signal.isAnswer) +
    (offering.read offerer).countP (Parcel.carries P Signal.isAnswer)

def Spoken (offering answering : View) : Prop :=
  View.onWay answering offering ≠ [] ∨
    ∃ id session, answering.dancer = some (id, session) ∧ session.phase.stage.spoke = true

def Answered (offering answering : View) (offerer : Nat) : Prop :=
  (∃ parcel ∈ offering.read offerer, parcel.carries P Signal.isAnswer = true) ∨
    ∃ parcel, (View.onWay answering offering).head? = some parcel ∧
      parcel.carries P Signal.isAnswer = true

structure Dance (offering answering : View) (offerer : Nat) : Prop where
  offers : ∀ parcel ∈ View.onWay offering answering, parcel.publisher = some offerer
  answers : ∀ parcel ∈ View.onWay answering offering,
    answering.Answering P offerer parcel ∧ parcel.carries P Signal.isOffer = false
  offerers : ∀ id session, offering.dancer = some (id, session) →
    session.role = .offerer → id = offerer
  waits : ∀ id session, offering.dancer = some (id, session) →
    session.role = .answerer → session.phase.stage = .starting
  answerer : ∀ id session, answering.dancer = some (id, session) →
    session.role = .answerer ∧ answering.role id = some .answerer ∧
      (∀ parcel ∈ answering.read id, parcel.publisher = some offerer) ∧
      (session.phase.stage ≠ .starting → Took P (answering.read id) offerer)
  heard : ∀ session, offering.dancer = some (offerer, session) → session.role = .offerer →
    ∀ parcel ∈ offering.read offerer, answering.Answering P offerer parcel
  single : descriptions P offering answering offerer ≤ 1
  preparing : ∀ id session, answering.dancer = some (id, session) →
    session.phase.stage = .silent → descriptions P offering answering offerer = 0
  unsaid : ∀ session, offering.dancer = some (offerer, session) → session.role = .offerer →
    session.phase.stage = .silent → View.onWay offering answering = [] ∧
      View.onWay answering offering = [] ∧ answering.dancer = none ∧
      offering.read offerer = []
  first : ∀ session, offering.dancer = some (offerer, session) → session.role = .offerer →
    offering.deaf = false → Spoken offering answering → Answered P offering answering offerer
  passed : ∀ session, offering.dancer = some (offerer, session) → session.role = .offerer →
    session.phase.stage = .passed →
    ∃ parcel ∈ offering.read offerer, parcel.carries P Signal.isAnswer = true

end Dance

namespace View

variable {view next : View}

/-- What is newly read was published by `offerer`. -/
def ReadsOf (view next : View) (offerer : Nat) : Prop :=
  ∀ id, ∀ parcel ∈ next.read id, parcel ∈ view.read id ∨ parcel.publisher = some offerer

theorem ReadsOf.refl {offerer : Nat} (read : next.read = view.read) :
    view.ReadsOf next offerer := by
  intro id parcel member
  rw [read] at member
  exact .inl member

theorem Grows.took (grows : view.Grows next) {id offerer : Nat}
    (reads : view.ReadsOf next offerer) (took : Took P (view.read id) offerer) :
    Took P (next.read id) offerer := by
  rcases took with ⟨⟨offer, among, carries⟩, own⟩
  refine ⟨⟨offer, grows.read id offer among, carries⟩, ?_⟩
  intro parcel member
  rcases reads id parcel member with old | new
  · exact own parcel old
  · exact new

theorem Grows.hearing (grows : view.Grows next) (hears : next.deaf = false) :
    view.deaf = false := by
  cases deaf : view.deaf with
  | false => rfl
  | true => exact absurd (grows.deaf deaf) (by simp [hears])

theorem Grows.answering (grows : view.Grows next) {offerer : Nat} {parcel : Parcel}
    (reads : view.ReadsOf next offerer) (answering : view.Answering P offerer parcel) :
    next.Answering P offerer parcel := by
  rcases answering with ⟨id, publisher, role, took⟩
  exact ⟨id, publisher, grows.role id _ role, grows.took reads took⟩

@[simp] theorem reads_self (view : View) (id : Nat) (read : List Parcel) :
    view.reads id read id = view.read id ++ read := if_pos rfl

private theorem mem_reads {id other : Nat} {read : List Parcel} {parcel : Parcel}
    (member : parcel ∈ view.reads id read other) :
    parcel ∈ view.read other ∨ (other = id ∧ parcel ∈ read) := by
  rw [reads] at member
  split at member
  · rename_i same
    subst same
    rcases List.mem_append.mp member with old | new
    · exact .inl old
    · exact .inr ⟨rfl, new⟩
  · exact .inl member

end View

private theorem countP_follows {said : List Parcel} {test : Parcel → Bool}
    (follows : ∀ parcel ∈ said, test parcel = false) : said.countP test = 0 := by
  rw [List.countP_eq_zero]
  intro parcel member
  simp [follows parcel member]

namespace Dance

variable {offering answering next : View} {offerer : Nat}

/-! ## The side that answers -/

private theorem descriptions_answering {read said : List Parcel}
    (inbox : answering.inbox = read ++ next.inbox)
    (posted : next.posted = answering.posted ++ said) :
    descriptions P offering next offerer + read.countP (Parcel.carries P Signal.isOffer) =
      descriptions P offering answering offerer +
        said.countP (Parcel.carries P Signal.isAnswer) := by
  simp only [descriptions, View.onWay, inbox, posted, List.countP_append]
  omega

private theorem answered_append {said : List Parcel}
    (posted : next.posted = answering.posted ++ said)
    (answered : Answered P offering answering offerer) : Answered P offering next offerer := by
  rcases answered with read | ⟨parcel, head, answer⟩
  · exact .inl read
  · refine .inr ⟨parcel, ?_, answer⟩
    rw [View.onWay, posted, ← List.append_assoc, List.head?_append]
    rw [View.onWay] at head
    rw [head]
    rfl

private theorem answering_step (dance : Dance P offering answering offerer)
    (grows : answering.Grows next) (reads : answering.ReadsOf next offerer)
    {read said : List Parcel}
    (inbox : answering.inbox = read ++ next.inbox)
    (posted : next.posted = answering.posted ++ said)
    (answers : ∀ parcel ∈ said, next.Answering P offerer parcel ∧
      parcel.carries P Signal.isOffer = false)
    (held : answering.dancer = none → next.dancer = none ∧ said = [])
    (dancer : ∀ id session, next.dancer = some (id, session) →
      session.role = .answerer ∧ next.role id = some .answerer ∧
        (∀ parcel ∈ next.read id, parcel.publisher = some offerer) ∧
        (session.phase.stage ≠ .starting → Took P (next.read id) offerer))
    (single : descriptions P offering next offerer ≤ 1)
    (preparing : ∀ id session, next.dancer = some (id, session) →
      session.phase.stage = .silent → descriptions P offering next offerer = 0)
    (spoken : Spoken offering next →
      Spoken offering answering ∨ Answered P offering next offerer) :
    Dance P offering next offerer where
  offers parcel member := by
    apply dance.offers
    rcases List.mem_append.mp member with filed | queued
    · exact List.mem_append_left _ (inbox ▸ List.mem_append_right _ filed)
    · exact List.mem_append_right _ queued
  answers parcel member := by
    rw [View.onWay, posted, ← List.append_assoc] at member
    rcases List.mem_append.mp member with old | new
    · rcases dance.answers parcel old with ⟨answers, unoffered⟩
      exact ⟨grows.answering reads answers, unoffered⟩
    · exact answers parcel new
  offerers := dance.offerers
  waits := dance.waits
  answerer := dancer
  heard session dancing role parcel member :=
    grows.answering reads (dance.heard session dancing role parcel member)
  single := single
  preparing := preparing
  unsaid session dancing role silent := by
    rcases dance.unsaid session dancing role silent with ⟨out, back, idle, unread⟩
    rcases held idle with ⟨still, nothing⟩
    refine ⟨?_, ?_, still, unread⟩
    · simp only [View.onWay, inbox, List.append_eq_nil_iff] at out ⊢
      exact ⟨out.1.2, out.2⟩
    · rw [View.onWay, posted, nothing, List.append_nil]
      exact back
  first session dancing role hearing spoke := by
    rcases spoken spoke with before | after
    · exact answered_append posted (dance.first session dancing role hearing before)
    · exact after
  passed := dance.passed

private theorem said_answering (dance : Dance P offering answering offerer)
    (grows : answering.Grows next) (reads : answering.ReadsOf next offerer) {id : Nat}
    {session : Session}
    (dancing : answering.dancer = some (id, session)) {said : List Parcel}
    (follows : ∀ parcel ∈ said, parcel.publisher = some id ∧ parcel.Follows P)
    (stage : said ≠ [] → session.phase.stage = .described) :
    ∀ parcel ∈ said, next.Answering P offerer parcel ∧
      parcel.carries P Signal.isOffer = false := by
  intro parcel member
  rcases dance.answerer id session dancing with ⟨_, known, _, took⟩
  have described := stage (List.ne_nil_of_mem member)
  have took := took (by simp [described])
  exact ⟨⟨id, (follows parcel member).1, grows.role id _ known, grows.took reads took⟩,
    (follows parcel member).2.1⟩

private theorem spoken_answering {id : Nat} {session : Session}
    (dancing : answering.dancer = some (id, session)) {said : List Parcel}
    (posted : next.posted = answering.posted ++ said)
    (stage : said ≠ [] → session.phase.stage = .described)
    (dancer : ∀ other after, next.dancer = some (other, after) →
      after.phase.stage.spoke = true → session.phase.stage.spoke = true)
    (spoken : Spoken offering next) : Spoken offering answering := by
  rcases spoken with way | ⟨other, after, later, spoke⟩
  · by_cases nothing : said = []
    · left
      simpa [View.onWay, posted, nothing] using way
    · exact .inr ⟨id, session, dancing, by rw [stage nothing]; rfl⟩
  · exact .inr ⟨id, session, dancing, dancer other after later spoke⟩

private theorem acts_reads (dance : Dance P offering answering offerer)
    (acts : answering.Acts P next) : answering.ReadsOf next offerer := by
  have front : ∀ {id : Nat} {read : List Parcel}, answering.inbox = read ++ next.inbox →
      next.read = answering.reads id read → answering.ReadsOf next offerer := by
    intro id read inbox reading other parcel member
    rw [reading] at member
    rcases View.mem_reads member with old | ⟨_, new⟩
    · exact .inl old
    · exact .inr (dance.offers parcel
        (List.mem_append_left _ (inbox ▸ List.mem_append_left _ new)))
  cases acts with
  | rested _ _ _ read => exact .refl read
  | moved _ _ _ _ _ _ _ _ _ read => exact .refl read
  | ended _ _ _ _ _ _ _ read _ _ => exact .refl read
  | described _ _ _ _ _ _ _ _ _ _ _ read _ _ _ => exact .refl read
  | consumed _ _ _ _ _ _ _ _ _ _ inbox _ reading _ _ _ _ => exact front inbox reading
  | took _ _ _ _ _ _ _ _ _ _ _ inbox _ reading _ _ => exact front inbox reading
  | waited _ _ _ _ _ _ _ _ _ _ inbox _ reading => exact front inbox reading

private theorem steady_answering (dance : Dance P offering answering offerer)
    (grows : answering.Grows next) (inbox : next.inbox = answering.inbox)
    (posted : next.posted = answering.posted) (read : next.read = answering.read)
    (dancer : ∀ id after, next.dancer = some (id, after) → ∃ session,
      answering.dancer = some (id, session) ∧ after.role = session.role ∧
        after.phase.stage = session.phase.stage) :
    Dance P offering next offerer := by
  have same : descriptions P offering next offerer = descriptions P offering answering offerer := by
    simp only [descriptions, View.onWay, inbox, posted]
  apply @answering_step P offering answering next offerer dance grows (.refl read) [] [] inbox.symm
  · rw [posted, List.append_nil]
  · simp
  · intro idle
    refine ⟨?_, rfl⟩
    cases holds : next.dancer with
    | none => rfl
    | some held =>
        rcases dancer held.1 held.2 holds with ⟨_, before, _⟩
        rw [idle] at before
        cases before
  · intro id after later
    rcases dancer id after later with ⟨session, dancing, role, stage⟩
    rcases dance.answerer id session dancing with ⟨answerer, known, reads, took⟩
    rw [read, role, stage]
    exact ⟨answerer, grows.role id _ known, reads, took⟩
  · exact same.le.trans dance.single
  · intro id after later silent
    rcases dancer id after later with ⟨session, dancing, _, stage⟩
    exact same.trans (dance.preparing id session dancing (stage ▸ silent))
  · rintro (way | ⟨id, after, later, spoke⟩)
    · rw [View.onWay, posted] at way
      exact .inl (.inl way)
    · rcases dancer id after later with ⟨session, dancing, _, stage⟩
      exact .inl (.inr ⟨id, session, dancing, stage ▸ spoke⟩)

private theorem answering_goes (dance : Dance P offering answering offerer)
    (grows : answering.Grows next) (reads : answering.ReadsOf next offerer)
    {read said : List Parcel} {id : Nat} {session after : Session}
    (dancing : answering.dancer = some (id, session)) (dancer : next.dancer = some (id, after))
    (role : after.role = .answerer) (inbox : answering.inbox = read ++ next.inbox)
    (posted : next.posted = answering.posted ++ said)
    (answers : ∀ parcel ∈ said, next.Answering P offerer parcel ∧
      parcel.carries P Signal.isOffer = false)
    (took : after.phase.stage ≠ .starting → Took P (next.read id) offerer)
    (single : descriptions P offering next offerer ≤ 1)
    (preparing : after.phase.stage = .silent → descriptions P offering next offerer = 0)
    (spoken : Spoken offering next →
      Spoken offering answering ∨ Answered P offering next offerer) :
    Dance P offering next offerer := by
  rcases dance.answerer id session dancing with ⟨_, known, old, _⟩
  apply dance.answering_step grows reads inbox posted answers
  · intro idle
    rw [dancing] at idle
    cases idle
  · intro other rival later
    rw [dancer] at later
    cases later
    refine ⟨role, grows.role id _ known, ?_, took⟩
    intro parcel member
    rcases reads id parcel member with before | own
    · exact old parcel before
    · exact own
  · exact single
  · intro other rival later silent
    rw [dancer] at later
    cases later
    exact preparing silent
  · exact spoken

theorem acts_answering (dance : Dance P offering answering offerer)
    (grows : answering.Grows next) (acts : answering.Acts P next) :
    Dance P offering next offerer := by
  have loyal := dance.acts_reads acts
  -- what is read and said changes nothing about the descriptions unless it is one
  have fewer : ∀ {read said : List Parcel}, answering.inbox = read ++ next.inbox →
      next.posted = answering.posted ++ said →
      (∀ parcel ∈ said, parcel.carries P Signal.isAnswer = false) →
      descriptions P offering next offerer ≤ descriptions P offering answering offerer := by
    intro read said inbox posted follows
    have count := @descriptions_answering P offering answering next offerer _ _ inbox posted
    rw [countP_follows follows] at count
    omega
  -- a session that has published nothing in this step had as much to say before
  have unspoken : ∀ {id : Nat} {session after : Session}, answering.dancer = some (id, session) →
      next.dancer = some (id, after) → next.posted = answering.posted →
      after.phase.stage.spoke = false → Spoken offering next →
      Spoken offering answering ∨ Answered P offering next offerer := by
    intro id session after dancing dancer posted quiet spoken
    refine .inl (@spoken_answering offering answering next id session dancing [] ?_ ?_ ?_ spoken)
    · rw [posted, List.append_nil]
    · simp
    · intro other rival later spoke
      rw [dancer] at later
      cases later
      rw [quiet] at spoke
      cases spoke
  cases acts with
  | rested dancer inbox posted read =>
      apply dance.steady_answering grows inbox posted read
      intro id after later
      exact ⟨after, dancer ▸ later, rfl, rfl⟩
  | moved id session after dancing dancer role stage inbox posted read =>
      apply dance.steady_answering grows inbox posted read
      intro other rival later
      rw [dancer] at later
      cases later
      exact ⟨session, dancing, role, stage⟩
  | ended id session said dancing dancer inbox posted read follows stage =>
      have inbox : answering.inbox = answering.inbox ++ next.inbox := by
        rw [inbox, List.append_nil]
      have fewer := fewer inbox posted fun parcel member => (follows parcel member).2.2
      apply dance.answering_step grows loyal inbox posted
        (dance.said_answering grows loyal dancing follows stage)
      · intro idle
        rw [dancing] at idle
        cases idle
      · simp [dancer]
      · exact fewer.trans dance.single
      · simp [dancer]
      · intro spoken
        refine .inl (spoken_answering dancing posted stage ?_ spoken)
        simp [dancer]
  | described id session after parcel dancing silent dancer role stage inbox posted read own
      offer answer =>
      have inbox : answering.inbox = [] ++ next.inbox := inbox.symm
      have none_ := dance.preparing id session dancing silent
      rcases dance.answerer id session dancing with ⟨answerer, known, _, took⟩
      have took := grows.took loyal (took (by simp [silent]))
      rw [answerer] at offer answer
      have count := @descriptions_answering P offering answering next offerer _ _ inbox posted
      have one : [parcel].countP (Parcel.carries P Signal.isAnswer) = 1 := by simp [answer]
      apply dance.answering_goes grows loyal dancing dancer (role.trans answerer) inbox posted
      · intro other member
        rw [List.mem_singleton] at member
        subst member
        exact ⟨⟨id, own, grows.role id _ known, took⟩, offer⟩
      · exact fun _ => took
      · rw [one, List.countP_nil] at count
        omega
      · simp [stage]
      · intro _
        by_cases empty : View.onWay answering offering = []
        · refine .inr (.inr ⟨parcel, ?_, answer⟩)
          rw [View.onWay, posted, ← List.append_assoc]
          rw [View.onWay] at empty
          rw [empty]
          rfl
        · exact .inl (.inl empty)
  | consumed id session after read said dancing stages dancer role later inbox posted reading
      unoffered follows stage _ =>
      have fewer := fewer inbox posted fun parcel member => (follows parcel member).2.2
      rcases dance.answerer id session dancing with ⟨answerer, _, _, took⟩
      have spoke : session.phase.stage.spoke = true := by
        rcases stages with described | exchanging
        · rw [described]
          rfl
        · rw [exchanging]
          rfl
      have took := grows.took loyal (took (by rintro starting; rw [starting] at spoke; cases spoke))
      apply dance.answering_goes grows loyal dancing dancer (role.trans answerer) inbox posted
        (dance.said_answering grows loyal dancing follows stage) (fun _ => took)
      · exact fewer.trans dance.single
      · intro silent
        simp [silent] at later
      · intro spoken
        exact .inl (spoken_answering dancing posted stage (fun _ _ _ _ => spoke) spoken)
  | took id session after read offer dancing role starting dancer later stage inbox posted reading
      among carries =>
      have queued : next.posted = answering.posted ++ [] := by rw [posted, List.append_nil]
      rcases dance.answerer id session dancing with ⟨_, _, reads, _⟩
      have took : Took P (next.read id) offerer := by
        refine ⟨⟨offer, ?_, carries⟩, ?_⟩
        · rw [reading, View.reads_self]
          exact List.mem_append_right _ among
        · intro parcel member
          rcases loyal id parcel member with old | own
          · exact reads parcel old
          · exact own
      have count := @descriptions_answering P offering answering next offerer _ _ inbox queued
      have offered : 0 < read.countP (Parcel.carries P Signal.isOffer) :=
        List.countP_pos_iff.mpr ⟨offer, among, carries⟩
      have single := dance.single
      rw [List.countP_nil] at count
      apply dance.answering_goes grows loyal dancing dancer later inbox queued (by simp)
        (fun _ => took)
      · omega
      · intro _
        omega
      · exact unspoken dancing dancer posted (by rw [stage]; rfl)
  | waited id session after read dancing role starting dancer later stage inbox posted reading =>
      have queued : next.posted = answering.posted ++ [] := by rw [posted, List.append_nil]
      have fewer := fewer inbox queued (by simp)
      apply dance.answering_goes grows loyal dancing dancer later inbox queued (by simp)
      · exact fun moved => absurd stage moved
      · exact fewer.trans dance.single
      · simp [stage]
      · exact unspoken dancing dancer posted (by rw [stage]; rfl)

/-! ## The side that offers -/

private theorem offering_step (dance : Dance P offering answering offerer)
    {read said : List Parcel}
    (inbox : offering.inbox = read ++ next.inbox)
    (posted : next.posted = offering.posted ++ said)
    (reading : ∀ parcel ∈ next.read offerer, parcel ∈ offering.read offerer ∨ parcel ∈ read)
    (offers : ∀ parcel ∈ said, parcel.publisher = some offerer)
    (dancer : ∀ id session, next.dancer = some (id, session) →
      (session.role = .offerer → id = offerer ∧ ∃ before,
        offering.dancer = some (id, before) ∧ before.role = .offerer) ∧
      (session.role = .answerer → session.phase.stage = .starting))
    (descriptions : descriptions P next answering offerer ≤ 1)
    (preparing : ∀ id session, answering.dancer = some (id, session) →
      session.phase.stage = .silent → IrohEndpoint.descriptions P next answering offerer = 0)
    (unsaid : ∀ session, next.dancer = some (offerer, session) → session.role = .offerer →
      session.phase.stage = .silent → View.onWay next answering = [] ∧
        View.onWay answering next = [] ∧ answering.dancer = none ∧ next.read offerer = [])
    (first : ∀ session, next.dancer = some (offerer, session) → session.role = .offerer →
      next.deaf = false → Spoken next answering → Answered P next answering offerer)
    (passed : ∀ session, next.dancer = some (offerer, session) → session.role = .offerer →
      session.phase.stage = .passed →
      ∃ parcel ∈ next.read offerer, parcel.carries P Signal.isAnswer = true) :
    Dance P next answering offerer where
  offers parcel member := by
    rw [View.onWay, posted, ← List.append_assoc] at member
    rcases List.mem_append.mp member with old | new
    · exact dance.offers parcel old
    · exact offers parcel new
  answers parcel member := by
    apply dance.answers
    rcases List.mem_append.mp member with filed | queued
    · exact List.mem_append_left _ (inbox ▸ List.mem_append_right _ filed)
    · exact List.mem_append_right _ queued
  offerers id session dancing role := ((dancer id session dancing).1 role).1
  waits id session dancing role := (dancer id session dancing).2 role
  answerer := dance.answerer
  heard session dancing role parcel member := by
    rcases (dancer offerer session dancing).1 role with ⟨_, before, held, offers⟩
    rcases reading parcel member with old | new
    · exact dance.heard before held offers parcel old
    · exact (dance.answers parcel
        (List.mem_append_left _ (inbox ▸ List.mem_append_left _ new))).1
  single := descriptions
  preparing := preparing
  unsaid := unsaid
  first := first
  passed := passed

private theorem descriptions_offering {read said : List Parcel}
    (inbox : offering.inbox = read ++ next.inbox)
    (posted : next.posted = offering.posted ++ said)
    (reading : (next.read offerer).countP (Parcel.carries P Signal.isAnswer) ≤
      (offering.read offerer).countP (Parcel.carries P Signal.isAnswer) +
        read.countP (Parcel.carries P Signal.isAnswer)) :
    descriptions P next answering offerer ≤ descriptions P offering answering offerer +
      said.countP (Parcel.carries P Signal.isOffer) := by
  simp only [descriptions, View.onWay, inbox, posted, List.countP_append]
  omega

private theorem reads_count {id : Nat} {read : List Parcel}
    (reading : next.read = offering.reads id read)
    (test : Parcel → Bool) :
    (next.read offerer).countP test ≤
      (offering.read offerer).countP test + read.countP test := by
  rw [reading, View.reads]
  split
  · rename_i same
    rw [same, List.countP_append]
  · exact Nat.le_add_right _ _

private theorem answered_reads {read : List Parcel} (inbox : offering.inbox = read ++ next.inbox)
    (reading : next.read offerer = offering.read offerer ++ read)
    (answered : Answered P offering answering offerer) :
    (∃ parcel ∈ next.read offerer, parcel.carries P Signal.isAnswer = true) ∨
      (read = [] ∧ Answered P next answering offerer) := by
  rcases answered with ⟨parcel, member, answer⟩ | ⟨parcel, head, answer⟩
  · left
    refine ⟨parcel, ?_, answer⟩
    rw [reading]
    exact List.mem_append_left _ member
  · cases read with
    | nil =>
        refine .inr ⟨rfl, .inr ⟨parcel, ?_, answer⟩⟩
        rw [View.onWay, inbox] at head
        exact head
    | cons front rest =>
        rw [View.onWay, inbox] at head
        cases head
        left
        refine ⟨parcel, ?_, answer⟩
        rw [reading]
        simp

private theorem offerer_of_stage (dance : Dance P offering answering offerer) {id : Nat}
    {session : Session} (dancing : offering.dancer = some (id, session))
    (stage : session.phase.stage ≠ .starting) : session.role = .offerer ∧ id = offerer := by
  cases role : session.role with
  | offerer => exact ⟨rfl, dance.offerers id session dancing role⟩
  | answerer => exact absurd (dance.waits id session dancing role) stage

private theorem steady_offering (dance : Dance P offering answering offerer)
    (grows : offering.Grows next) (inbox : next.inbox = offering.inbox)
    (posted : next.posted = offering.posted) (read : next.read = offering.read)
    (dancer : ∀ id after, next.dancer = some (id, after) → ∃ session,
      offering.dancer = some (id, session) ∧ after.role = session.role ∧
        after.phase.stage = session.phase.stage) :
    Dance P next answering offerer := by
  have out : View.onWay next answering = View.onWay offering answering := by
    rw [View.onWay, View.onWay, posted]
  have back : View.onWay answering next = View.onWay answering offering := by
    rw [View.onWay, View.onWay, inbox]
  have same : descriptions P next answering offerer =
      descriptions P offering answering offerer := by
    rw [descriptions, descriptions, out, back, read]
  apply @offering_step P offering answering next offerer dance [] [] inbox.symm
  · rw [posted, List.append_nil]
  · simp [read]
  · simp
  · intro id after later
    rcases dancer id after later with ⟨session, dancing, role, stage⟩
    rw [role, stage]
    exact ⟨fun role => ⟨dance.offerers id session dancing role, session, dancing, role⟩,
      dance.waits id session dancing⟩
  · exact same.le.trans dance.single
  · intro id rival dancing silent
    exact same.trans (dance.preparing id rival dancing silent)
  · intro after later offers silent
    rcases dancer offerer after later with ⟨session, dancing, role, stage⟩
    rw [out, back, read]
    exact dance.unsaid session dancing (role ▸ offers) (stage ▸ silent)
  · intro after later offers hears spoken
    rcases dancer offerer after later with ⟨session, dancing, role, _⟩
    rw [Spoken, back] at spoken
    rw [Answered, back, read]
    exact dance.first session dancing (role ▸ offers) (grows.hearing hears) spoken
  · intro after later offers passed
    rcases dancer offerer after later with ⟨session, dancing, role, stage⟩
    rw [read]
    exact dance.passed session dancing (role ▸ offers) (stage ▸ passed)

private theorem offering_goes (dance : Dance P offering answering offerer)
    {read said : List Parcel} {session after : Session}
    (dancing : offering.dancer = some (offerer, session)) (offers : session.role = .offerer)
    (dancer : next.dancer = some (offerer, after)) (role : after.role = session.role)
    (inbox : offering.inbox = read ++ next.inbox)
    (posted : next.posted = offering.posted ++ said)
    (reading : next.read offerer = offering.read offerer ++ read)
    (own : ∀ parcel ∈ said, parcel.publisher = some offerer)
    (single : descriptions P next answering offerer ≤ 1)
    (preparing : ∀ id rival, answering.dancer = some (id, rival) →
      rival.phase.stage = .silent → descriptions P next answering offerer = 0)
    (spoke : after.phase.stage ≠ .silent)
    (first : next.deaf = false → Spoken next answering → Answered P next answering offerer)
    (passed : after.phase.stage = .passed →
      ∃ parcel ∈ next.read offerer, parcel.carries P Signal.isAnswer = true) :
    Dance P next answering offerer := by
  apply dance.offering_step inbox posted
  · intro parcel member
    rw [reading] at member
    exact List.mem_append.mp member
  · exact own
  · intro id rival later
    rw [dancer] at later
    cases later
    rw [role, offers]
    exact ⟨fun _ => ⟨rfl, session, dancing, offers⟩, by simp⟩
  · exact single
  · exact preparing
  · intro rival later _ silent
    rw [dancer] at later
    cases later
    exact absurd silent spoke
  · exact fun _ _ _ => first
  · intro rival later _ ended
    rw [dancer] at later
    cases later
    exact passed ended

private theorem offering_idles (dance : Dance P offering answering offerer)
    {read said : List Parcel}
    (inbox : offering.inbox = read ++ next.inbox)
    (posted : next.posted = offering.posted ++ said)
    (reading : ∀ parcel ∈ next.read offerer, parcel ∈ offering.read offerer ∨ parcel ∈ read)
    (own : ∀ parcel ∈ said, parcel.publisher = some offerer)
    (fewer : descriptions P next answering offerer ≤ descriptions P offering answering offerer)
    (idles : ∀ id session, next.dancer = some (id, session) →
      session.role = .answerer ∧ session.phase.stage = .starting) :
    Dance P next answering offerer := by
  have away : ∀ session, next.dancer = some (offerer, session) → session.role ≠ .offerer := by
    intro session dancing offers
    rw [(idles offerer session dancing).1] at offers
    cases offers
  apply dance.offering_step inbox posted reading own
  · intro id session dancing
    rcases idles id session dancing with ⟨answerer, starting⟩
    rw [answerer]
    exact ⟨by simp, fun _ => starting⟩
  · exact fewer.trans dance.single
  · intro id rival dancing silent
    have before := dance.preparing id rival dancing silent
    omega
  · exact fun session dancing offers => absurd offers (away session dancing)
  · exact fun session dancing offers => absurd offers (away session dancing)
  · exact fun session dancing offers => absurd offers (away session dancing)

theorem acts_offering (dance : Dance P offering answering offerer)
    (grows : offering.Grows next) (acts : offering.Acts P next) :
    Dance P next answering offerer := by
  have fewer : ∀ {read said : List Parcel}, offering.inbox = read ++ next.inbox →
      next.posted = offering.posted ++ said →
      (next.read offerer).countP (Parcel.carries P Signal.isAnswer) ≤
        (offering.read offerer).countP (Parcel.carries P Signal.isAnswer) +
          read.countP (Parcel.carries P Signal.isAnswer) →
      (∀ parcel ∈ said, parcel.carries P Signal.isOffer = false) →
      descriptions P next answering offerer ≤ descriptions P offering answering offerer := by
    intro read said inbox posted reading follows
    have count := @descriptions_offering P offering answering next offerer _ _ inbox posted reading
    rw [countP_follows follows] at count
    omega
  cases acts with
  | rested dancer inbox posted read =>
      apply dance.steady_offering grows inbox posted read
      intro id after later
      exact ⟨after, dancer ▸ later, rfl, rfl⟩
  | moved id session after dancing dancer role stage inbox posted read =>
      apply dance.steady_offering grows inbox posted read
      intro other rival later
      rw [dancer] at later
      cases later
      exact ⟨session, dancing, role, stage⟩
  | ended id session said dancing dancer inbox posted read follows stage =>
      have inbox : offering.inbox = offering.inbox ++ next.inbox := by
        rw [inbox, List.append_nil]
      have fewer := fewer inbox posted (by simp [read]) fun parcel member =>
        (follows parcel member).2.1
      apply dance.offering_idles inbox posted (by simp +contextual [read])
      · intro parcel member
        have described := stage (List.ne_nil_of_mem member)
        rcases dance.offerer_of_stage dancing (by simp [described]) with ⟨_, rfl⟩
        exact (follows parcel member).1
      · exact fewer
      · simp [dancer]
  | described id session after parcel dancing silent dancer role stage inbox posted read own
      offer answer =>
      rcases dance.offerer_of_stage dancing (by simp [silent]) with ⟨offers, rfl⟩
      rcases dance.unsaid session dancing offers silent with ⟨out, back, idle, unread⟩
      have inbox : offering.inbox = [] ++ next.inbox := inbox.symm
      have still : View.onWay answering next = [] := by
        simpa [View.onWay, inbox] using back
      have one : View.onWay next answering = [parcel] := by
        rw [View.onWay, posted, ← List.append_assoc]
        rw [View.onWay] at out
        rw [out]
        rfl
      apply dance.offering_goes dancing offers dancer role inbox posted
      · rw [read, List.append_nil]
      · intro other member
        rw [List.mem_singleton] at member
        subst member
        exact own
      · rw [offers] at offer
        simp [descriptions, one, still, read, unread, offer]
      · simp [idle]
      · simp [stage]
      · rintro _ (way | ⟨_, _, found, _⟩)
        · exact absurd still way
        · rw [idle] at found
          cases found
      · simp [stage]
  | consumed id session after read said dancing stages dancer role later inbox posted reading
      unoffered follows stage hears =>
      have begun : session.phase.stage ≠ .starting := by
        intro starting
        simp [starting] at stages
      rcases dance.offerer_of_stage dancing begun with ⟨offers, rfl⟩
      have fewer := fewer inbox posted (reads_count reading _) fun parcel member =>
        (follows parcel member).2.1
      have reading : next.read id = offering.read id ++ read := by
        rw [reading, View.reads_self]
      apply dance.offering_goes dancing offers dancer role inbox posted reading
      · exact fun parcel member => (follows parcel member).1
      · exact fewer.trans dance.single
      · intro other rival found silent
        have before := dance.preparing other rival found silent
        omega
      · intro silent
        simp [silent] at later
      · intro hears spoken
        have before : Spoken offering answering := by
          rcases spoken with way | spoke
          · left
            rw [View.onWay, inbox, List.append_assoc]
            exact fun empty => way (List.append_eq_nil_iff.mp empty).2
          · exact .inr spoke
        have answered := dance.first session dancing offers (grows.hearing hears) before
        rcases answered_reads inbox reading answered with read | ⟨_, later⟩
        · exact .inl read
        · exact later
      · intro passed
        have some_ : read ≠ [] := by simpa [passed] using later
        have before : Spoken offering answering := by
          left
          rw [View.onWay, inbox, List.append_assoc]
          exact fun empty => some_ (List.append_eq_nil_iff.mp empty).1
        have answered := dance.first session dancing offers (hears some_) before
        rcases answered_reads inbox reading answered with read | ⟨none_, _⟩
        · exact read
        · exact absurd none_ some_
  | took id session after read offer dancing role starting dancer later stage inbox posted reading
      among carries =>
      have filed := List.mem_append_left answering.posted (inbox ▸ List.mem_append_left _ among)
      rw [(dance.answers offer filed).2] at carries
      cases carries
  | waited id session after read dancing role starting dancer later stage inbox posted reading =>
      have posted : next.posted = offering.posted ++ [] := by rw [posted, List.append_nil]
      have fewer := fewer inbox posted (reads_count reading _) (by simp)
      apply dance.offering_idles inbox posted ?_ (by simp) fewer
      · intro other rival found
        rw [dancer] at found
        cases found
        exact ⟨later, stage⟩
      · intro parcel member
        rw [reading] at member
        rcases View.mem_reads member with old | ⟨_, new⟩
        · exact .inl old
        · exact .inr new

/-! ## Deliveries -/

variable {sent taken : View} {parcel : Parcel}

private theorem onWay_delivered {sender receiver : View}
    (delivers : View.Delivers parcel sender sent receiver taken) :
    (View.onWay sent taken).Sublist (View.onWay sender receiver) := by
  have filed : taken.inbox = receiver.inbox ∨ taken.inbox = receiver.inbox ++ [parcel] := by
    cases delivers.takes with
    | ignored _ _ inbox => exact .inl inbox
    | lost _ inbox _ => exact .inl inbox
    | filed _ inbox => exact .inr inbox
    | started id session _ _ _ _ _ _ inbox => exact .inr inbox
  rw [View.onWay, View.onWay, delivers.posted]
  rcases filed with inbox | inbox <;> rw [inbox]
  · exact (List.Sublist.refl _).append (List.sublist_cons_self _ _)
  · rw [List.append_assoc]
    exact List.Sublist.refl _

theorem takes_answering (dance : Dance P offering answering offerer)
    (delivers : View.Delivers parcel offering sent answering taken) :
    Dance P sent taken offerer := by
  have out := onWay_delivered delivers
  have back : View.onWay taken sent = View.onWay answering offering := by
    rw [View.onWay, View.onWay, delivers.inbox, delivers.queued]
  have fewer : descriptions P sent taken offerer ≤ descriptions P offering answering offerer := by
    have count := @List.Sublist.countP_le _ (Parcel.carries P Signal.isOffer) _ _ out
    simp only [descriptions, back, delivers.read]
    omega
  -- the session at work is the one before, or has just started
  have dancer : ∀ id session, taken.dancer = some (id, session) →
      answering.dancer = some (id, session) ∨ (session.role = .answerer ∧
        session.phase.stage = .starting ∧ taken.role id = some .answerer ∧
        answering.read id = []) := by
    intro id session dancing
    cases delivers.takes with
    | ignored _ same _ => exact .inl (same ▸ dancing)
    | lost same _ _ => exact .inl (same ▸ dancing)
    | filed same _ => exact .inl (same ▸ dancing)
    | started new started _ found role stage known unread _ =>
        rw [found] at dancing
        cases dancing
        exact .inr ⟨role, stage, known, unread⟩
  refine ⟨?_, ?_, ?_, ?_, ?_, ?_, ?_, ?_, ?_, ?_, ?_⟩
  · exact fun parcel member => dance.offers parcel (out.subset member)
  · intro other member
    rw [back] at member
    rcases dance.answers other member with ⟨answers, unoffered⟩
    exact ⟨delivers.grows.answering (.refl delivers.reading) answers, unoffered⟩
  · rw [delivers.dancer]
    exact dance.offerers
  · rw [delivers.dancer]
    exact dance.waits
  · intro id session dancing
    rw [delivers.reading]
    rcases dancer id session dancing with same | ⟨role, stage, known, unread⟩
    · rcases dance.answerer id session same with ⟨role, known, reads, took⟩
      exact ⟨role, delivers.grows.role id _ known, reads, took⟩
    · exact ⟨role, known, by simp [unread], fun moved => absurd stage moved⟩
  · intro session dancing role other member
    rw [delivers.dancer] at dancing
    rw [delivers.read] at member
    exact delivers.grows.answering (.refl delivers.reading)
      (dance.heard session dancing role other member)
  · exact fewer.trans dance.single
  · intro id session dancing silent
    rcases dancer id session dancing with same | ⟨_, stage, _, _⟩
    · have before := dance.preparing id session same silent
      omega
    · rw [stage] at silent
      cases silent
  · intro session dancing role silent
    rw [delivers.dancer] at dancing
    have empty := (dance.unsaid session dancing role silent).1
    rw [View.onWay, delivers.posted] at empty
    simp at empty
  · intro session dancing role hears spoken
    rw [delivers.dancer] at dancing
    rw [delivers.deaf] at hears
    rw [Answered, back, delivers.read]
    apply dance.first session dancing role hears
    rcases spoken with way | ⟨id, rival, found, spoke⟩
    · rw [back] at way
      exact .inl way
    · rcases dancer id rival found with same | ⟨_, stage, _, _⟩
      · exact .inr ⟨id, rival, same, spoke⟩
      · rw [stage] at spoke
        cases spoke
  · rw [delivers.dancer, delivers.read]
    exact dance.passed

theorem takes_offering (dance : Dance P offering answering offerer)
    (delivers : View.Delivers parcel answering sent offering taken) :
    Dance P taken sent offerer := by
  have back := onWay_delivered delivers
  have out : View.onWay taken sent = View.onWay offering answering := by
    rw [View.onWay, View.onWay, delivers.inbox, delivers.queued]
  have fewer : descriptions P taken sent offerer ≤ descriptions P offering answering offerer := by
    have count := @List.Sublist.countP_le _ (Parcel.carries P Signal.isAnswer) _ _ back
    simp only [descriptions, out, delivers.reading]
    omega
  have some_ : View.onWay answering offering ≠ [] := by
    rw [View.onWay, delivers.posted]
    simp
  have dancer : ∀ id session, taken.dancer = some (id, session) →
      (offering.dancer = some (id, session) ∧ (offering.deaf = false →
        (View.onWay sent taken).head? = (View.onWay answering offering).head?)) ∨
      (session.role = .answerer ∧ session.phase.stage = .starting) := by
    intro id session dancing
    cases delivers.takes with
    | ignored deaf same _ => exact .inl ⟨same ▸ dancing, by simp [deaf]⟩
    | lost same inbox full =>
        refine .inl ⟨same ▸ dancing, fun _ => ?_⟩
        rw [View.onWay, View.onWay, inbox, List.head?_append_of_ne_nil _ full,
          List.head?_append_of_ne_nil _ full]
    | filed same inbox =>
        refine .inl ⟨same ▸ dancing, fun _ => ?_⟩
        rw [View.onWay, View.onWay, inbox, delivers.posted, List.append_assoc]
        rfl
    | started new started _ found role stage _ _ _ =>
        rw [found] at dancing
        cases dancing
        exact .inr ⟨role, stage⟩
  -- an offerer at work was at work before
  have offers : ∀ session, taken.dancer = some (offerer, session) → session.role = .offerer →
      offering.dancer = some (offerer, session) ∧ (offering.deaf = false →
        (View.onWay sent taken).head? = (View.onWay answering offering).head?) := by
    intro session dancing role
    rcases dancer offerer session dancing with same | ⟨answerer, _⟩
    · exact same
    · rw [role] at answerer
      cases answerer
  have answering_ : ∀ {other : Parcel}, answering.Answering P offerer other →
      sent.Answering P offerer other := by
    rintro other ⟨id, publisher, role, took⟩
    exact ⟨id, publisher, by rw [delivers.role]; exact role,
      by rw [delivers.read]; exact took⟩
  refine ⟨?_, ?_, ?_, ?_, ?_, ?_, ?_, ?_, ?_, ?_, ?_⟩
  · rw [out]
    exact dance.offers
  · intro other member
    rcases dance.answers other (back.subset member) with ⟨answers, unoffered⟩
    exact ⟨answering_ answers, unoffered⟩
  · intro id session dancing role
    rcases dancer id session dancing with ⟨same, _⟩ | ⟨answerer, _⟩
    · exact dance.offerers id session same role
    · rw [role] at answerer
      cases answerer
  · intro id session dancing role
    rcases dancer id session dancing with ⟨same, _⟩ | ⟨_, stage⟩
    · exact dance.waits id session same role
    · exact stage
  · intro id session dancing
    rw [delivers.dancer] at dancing
    rw [delivers.read, delivers.role]
    exact dance.answerer id session dancing
  · intro session dancing role other member
    rw [delivers.reading] at member
    exact answering_ (dance.heard session (offers session dancing role).1 role other member)
  · exact fewer.trans dance.single
  · intro id session dancing silent
    rw [delivers.dancer] at dancing
    have before := dance.preparing id session dancing silent
    omega
  · intro session dancing role silent
    exact absurd (dance.unsaid session (offers session dancing role).1 role silent).2.1 some_
  · intro session dancing role hears _
    rcases offers session dancing role with ⟨same, head⟩
    have hearing := delivers.grows.hearing hears
    rw [Answered, head hearing, delivers.reading]
    exact dance.first session same role hearing (.inl some_)
  · intro session dancing role passed
    rw [delivers.reading]
    exact dance.passed session (offers session dancing role).1 role passed

/-! ## A new dance -/

/-- An offerer that claims its slot while nothing is on its way and its peer is at no dance
starts one. -/
theorem starts {id : Nat} (out : View.onWay offering answering = [])
    (back : View.onWay answering offering = []) (idle : answering.dancer = none)
    (dancer : ∀ other session, offering.dancer = some (other, session) →
      other = id ∧ session.role = .offerer ∧ session.phase.stage = .silent)
    (unread : offering.read id = []) : Dance P offering answering id where
  offers := by simp [out]
  answers := by simp [back]
  offerers other session dancing _ := (dancer other session dancing).1
  waits other session dancing answerer := by
    rw [(dancer other session dancing).2.1] at answerer
    cases answerer
  answerer := by simp [idle]
  heard := by simp [unread]
  single := by simp [descriptions, out, back, unread]
  preparing := by simp [idle]
  unsaid _ _ _ _ := ⟨out, back, idle, unread⟩
  first _ _ _ _ spoken := by
    rcases spoken with way | ⟨_, _, found, _⟩
    · exact absurd back way
    · rw [idle] at found
      cases found
  passed session dancing _ passed := by
    rw [(dancer id session dancing).2.2] at passed
    cases passed

end Dance

end IrohEndpoint
