import Mathlib.Algebra.BigOperators.Fin
import Mathlib.Data.Fintype.Card
import Mathlib.Logic.Relation
import SchemaServer.Proofs.Requests

/-! # Callers that share a pipe

Any number of callers put one call each to the same pipe.  A caller takes its number, later the lock,
writes its line, and reads until it has its reply or gives up before it has read anything.  `Step`
lists what can happen next, in whatever order the lock allows.

Most facts about an interleaving follow from `Later`, which says what no step undoes.  The others are
kept one by one and collected in `Wired`: who has the lock, which lines are whose replies, who wrote
what, and that numbers are handed out in turn. -/

namespace SchemaServer.Pipe

open Analyzer (Call Outcome)

/-! ## The steps of callers and of the analyzer -/

/-- How far a caller has come. -/
inductive Phase where
  | idle
  | numbered (id : UInt64)
  /-- It has the lock and has written nothing. -/
  | holding (id : UInt64)
  /-- It has written its line and has read nothing. -/
  | waiting (id : UInt64)
  /-- It has read lines, but not its reply. -/
  | reading (id : UInt64)
  | gaveUp (id : UInt64)
  | returned (id : UInt64) (outcome : Outcome Json)

namespace Phase

def id? : Phase → Option UInt64
  | .idle => none
  | .numbered id | .holding id | .waiting id | .reading id | .gaveUp id | .returned id _ => some id

def hasLock : Phase → Bool
  | .holding _ | .waiting _ | .reading _ => true
  | .idle | .numbered _ | .gaveUp _ | .returned _ _ => false

/-- The number of the reply that is waited for. -/
def awaited? : Phase → Option UInt64
  | .waiting id | .reading id => some id
  | .idle | .numbered _ | .holding _ | .gaveUp _ | .returned _ _ => none

def isUnsent : Phase → Bool
  | .idle | .numbered _ | .holding _ => true
  | .waiting _ | .reading _ | .gaveUp _ | .returned _ _ => false

def isOver : Phase → Bool
  | .gaveUp _ | .returned _ _ => true
  | .idle | .numbered _ | .holding _ | .waiting _ | .reading _ => false

end Phase

structure Sent (n : Nat) where
  caller : Fin n
  id : UInt64

/-- A pipe that callers share, each for one call. -/
structure Shared (n : Nat) where
  pipe : Pipe := {}
  /-- Who has the lock. -/
  holder? : Option (Fin n) := none
  phase : Fin n → Phase := fun _ => .idle
  /-- The requests that the analyzer has yet to answer. -/
  inbox : List (Sent n) := []
  /-- The requests whose replies nobody has read. -/
  unread : List (Sent n) := []
  /-- What was unread when a caller wrote its line, which is what comes before its reply. -/
  ahead : Fin n → List (Sent n) := fun _ => []
  /-- The requests that were answered, with their replies. -/
  answers : List (Sent n × Reply) := []

variable {n : Nat}

namespace Shared

def move (c : Fin n) (phase : Phase) (s : Shared n) : Shared n :=
  { s with phase := Function.update s.phase c phase }

def leave (c : Fin n) (phase : Phase) (s : Shared n) : Shared n :=
  { s.move c phase with holder? := none }

/-- The first line has been read, and these are left. -/
def pop (lines : List (List UInt8)) (s : Shared n) : Shared n :=
  { s with pipe := { s.pipe with lines }, unread := s.unread.tail }

/-- The call of caller `c` is decided; `broken?` says that the pipe broke by it. -/
def finish (c : Fin n) (id : UInt64) (outcome : Outcome Json) (broken? : Option String)
    (s : Shared n) : Shared n :=
  { s.leave c (.returned id outcome) with pipe := { s.pipe with broken? } }

/-- Caller `c` has read a line while it waits for the reply to request `id`. -/
def readLine (operation : Operation) (c : Fin n) (id : UInt64) (line : List UInt8)
    (lines : List (List UInt8)) (s : Shared n) : Shared n :=
  match readReply operation id line with
  | .stale => (s.pop lines).move c (.reading id)
  | .ahead other =>
    let reason := aheadReason id other
    (s.pop lines).finish c id (.error (.failed operation reason)) (some reason)
  | .reply reply => (s.pop lines).finish c id (reply.outcome operation) none
  | .unreadable failure => (s.pop lines).finish c id (.error failure) none

end Shared

/-- One step of a caller, or of an analyzer that answers every request with one reply, in the order in
    which it got them. -/
inductive Step (calls : Fin n → Call) (s : Shared n) : Shared n → Prop where
  | number {c : Fin n} (idle : s.phase c = .idle) :
      Step calls s { s.move c (.numbered s.pipe.nextId) with
        pipe := { s.pipe with nextId := s.pipe.nextId + 1 } }
  | acquire {c : Fin n} {id : UInt64} (numbered : s.phase c = .numbered id)
      (free : s.holder? = none) :
      Step calls s { s.move c (.holding id) with holder? := some c }
  | refuse {c : Fin n} {id : UInt64} {reason : String} (holding : s.phase c = .holding id)
      (broken : s.pipe.broken? = some reason) :
      Step calls s (s.leave c (.returned id (.error (.failed (calls c).operation reason))))
  | write {c : Fin n} {id : UInt64} (holding : s.phase c = .holding id)
      (working : s.pipe.broken? = none) :
      Step calls s { s.move c (.waiting id) with
        inbox := s.inbox ++ [⟨c, id⟩]
        unread := s.unread ++ [⟨c, id⟩]
        ahead := Function.update s.ahead c s.unread }
  | answer {sent : Sent n} {rest : List (Sent n)} {line : Line} {reply : Reply}
      (next : s.inbox = sent :: rest) (told : reply? line.bytes = some reply)
      (own : reply.id? = some sent.id) :
      Step calls s { s with
        inbox := rest
        pipe := s.pipe.feed line.bytes false
        answers := s.answers ++ [(sent, reply)] }
  | giveUp {c : Fin n} {id : UInt64} (waiting : s.phase c = .waiting id) :
      Step calls s (s.leave c (.gaveUp id))
  | read {c : Fin n} {id : UInt64} {line : List UInt8} {lines : List (List UInt8)}
      (awaits : (s.phase c).awaited? = some id) (next : s.pipe.lines = line :: lines) :
      Step calls s (s.readLine (calls c).operation c id line lines)

/-- The state comes about from a fresh pipe by some interleaving of steps. -/
def Reached (calls : Fin n → Call) (s : Shared n) : Prop :=
  Relation.ReflTransGen (Step calls) {} s

variable {calls : Fin n → Call} {s s' : Shared n} {c : Fin n} {id : UInt64}

theorem Phase.of_awaited? {phase : Phase} (awaits : phase.awaited? = some id) :
    phase = .waiting id ∨ phase = .reading id := by
  cases phase with
  | waiting other =>
    cases awaits
    exact .inl rfl
  | reading other =>
    cases awaits
    exact .inr rfl
  | idle | numbered _ | holding _ | gaveUp _ | returned _ _ => cases awaits

theorem Phase.id?_of_awaited? {phase : Phase} (awaits : phase.awaited? = some id) :
    phase.id? = some id := by
  rcases Phase.of_awaited? awaits with rfl | rfl <;> rfl

theorem Phase.hasLock_of_awaited? {phase : Phase} (awaits : phase.awaited? = some id) :
    phase.hasLock = true := by
  rcases Phase.of_awaited? awaits with rfl | rfl <;> rfl

theorem Phase.isOver_of_awaited? {phase : Phase} (awaits : phase.awaited? = some id) :
    phase.isOver = false := by
  rcases Phase.of_awaited? awaits with rfl | rfl <;> rfl

theorem Shared.phase_move_of_ne {d : Fin n} (other : d ≠ c) (phase : Phase) :
    (s.move c phase).phase d = s.phase d := by
  simp [Shared.move, other]

@[simp] theorem Shared.phase_move_self (c : Fin n) (phase : Phase) :
    (s.move c phase).phase c = phase := by
  simp [Shared.move]

theorem readLine_cases (operation : Operation) (c : Fin n) (id : UInt64) (line : List UInt8)
    (lines : List (List UInt8)) (s : Shared n) :
    s.readLine operation c id line lines = (s.pop lines).move c (.reading id) ∨
    ∃ outcome broken?,
      s.readLine operation c id line lines = (s.pop lines).finish c id outcome broken? := by
  unfold Shared.readLine
  cases readReply operation id line with
  | stale => exact .inl rfl
  | ahead other => exact .inr ⟨_, _, rfl⟩
  | reply reply => exact .inr ⟨_, _, rfl⟩
  | unreadable failure => exact .inr ⟨_, _, rfl⟩

section
variable {operation : Operation} {line : List UInt8} {lines : List (List UInt8)}

@[simp] theorem Shared.inbox_readLine : (s.readLine operation c id line lines).inbox = s.inbox := by
  unfold Shared.readLine
  split <;> rfl

@[simp] theorem Shared.unread_readLine :
    (s.readLine operation c id line lines).unread = s.unread.tail := by
  unfold Shared.readLine
  split <;> rfl

@[simp] theorem Shared.ahead_readLine : (s.readLine operation c id line lines).ahead = s.ahead := by
  unfold Shared.readLine
  split <;> rfl

@[simp] theorem Shared.answers_readLine :
    (s.readLine operation c id line lines).answers = s.answers := by
  unfold Shared.readLine
  split <;> rfl

@[simp] theorem Shared.nextId_readLine :
    (s.readLine operation c id line lines).pipe.nextId = s.pipe.nextId := by
  unfold Shared.readLine
  split <;> rfl

@[simp] theorem Shared.lines_readLine :
    (s.readLine operation c id line lines).pipe.lines = lines := by
  unfold Shared.readLine
  split <;> rfl

end

theorem exists_phase_readLine (operation : Operation) (c : Fin n) (id : UInt64) (line : List UInt8)
    (lines : List (List UInt8)) (s : Shared n) :
    ∃ phase, (s.readLine operation c id line lines).phase = Function.update s.phase c phase ∧
      (phase = .reading id ∨ ∃ outcome, phase = .returned id outcome) := by
  rcases readLine_cases operation c id line lines s with skipped | ⟨outcome, _, decided⟩
  · rw [skipped]
    exact ⟨_, rfl, .inl rfl⟩
  · rw [decided]
    exact ⟨_, rfl, .inr ⟨outcome, rfl⟩⟩

/-! ## What a step leaves -/

def Shared.Wrote (s : Shared n) (e : Sent n) : Prop :=
  (s.phase e.caller).id? = some e.id ∧ (s.phase e.caller).isUnsent = false

/-- What has happened stays: numbers, lines that were written, replies, and how callers ended. -/
structure Later (s s' : Shared n) : Prop where
  ids : ∀ c id, (s.phase c).id? = some id → (s'.phase c).id? = some id
  sent : ∀ c, (s.phase c).isUnsent = false → (s'.phase c).isUnsent = false ∧ s'.ahead c = s.ahead c
  ended : ∀ c, (s.phase c).isOver = true → s'.phase c = s.phase c
  answers : ∀ a ∈ s.answers, a ∈ s'.answers

theorem Later.wrote {e : Sent n} (later : Later s s') (wrote : s.Wrote e) : s'.Wrote e :=
  ⟨later.ids _ _ wrote.1, (later.sent _ wrote.2).1⟩

/-- A caller that is not done goes on with the number that it has. -/
theorem later_of_move {phase : Phase} (moved : s'.phase = Function.update s.phase c phase)
    (ahead : ∀ d, (s.phase d).isUnsent = false → s'.ahead d = s.ahead d)
    (answers : s'.answers = s.answers) (more : (s.phase c).isOver = false)
    (ids : ∀ id, (s.phase c).id? = some id → phase.id? = some id)
    (sent : (s.phase c).isUnsent = false → phase.isUnsent = false) : Later s s' where
  ids d id taken := by
    rw [moved]
    by_cases same : d = c
    · subst same
      simpa using ids id taken
    · simpa [same] using taken
  sent d written := by
    refine ⟨?_, ahead d written⟩
    rw [moved]
    by_cases same : d = c
    · subst same
      simpa using sent written
    · simpa [same] using written
  ended d done := by
    have other : d ≠ c := by
      rintro rfl
      rw [more] at done
      cases done
    simp [moved, other]
  answers _ member := answers ▸ member

theorem Step.later (step : Step calls s s') : Later s s' := by
  cases step with
  | number idle =>
    exact later_of_move rfl (fun _ _ => rfl) rfl (by rw [idle]; rfl) (by rw [idle]; nofun)
      (by rw [idle]; nofun)
  | acquire numbered free =>
    exact later_of_move rfl (fun _ _ => rfl) rfl (by rw [numbered]; rfl)
      (by rw [numbered]; exact fun _ => id) (by rw [numbered]; nofun)
  | refuse holding broken =>
    exact later_of_move rfl (fun _ _ => rfl) rfl (by rw [holding]; rfl)
      (by rw [holding]; exact fun _ => id) (by rw [holding]; nofun)
  | @write c number holding working =>
    -- Only the writer's own entry in `ahead` changes, and it has not written before.
    have others (d : Fin n) (written : (s.phase d).isUnsent = false) : d ≠ c := by
      rintro rfl
      rw [holding] at written
      cases written
    exact later_of_move rfl (fun d written => Function.update_of_ne (others d written) _ _) rfl
      (by rw [holding]; rfl) (by rw [holding]; exact fun _ => id) (by rw [holding]; nofun)
  | answer next told own =>
    exact ⟨fun _ _ => id, fun _ written => ⟨written, rfl⟩, fun _ _ => rfl,
      fun _ member => List.mem_append_left _ member⟩
  | giveUp waiting =>
    exact later_of_move rfl (fun _ _ => rfl) rfl (by rw [waiting]; rfl)
      (by rw [waiting]; exact fun _ => id) (fun _ => rfl)
  | @read c number line lines awaits next =>
    have ids (id : UInt64) (taken : (s.phase c).id? = some id) : some number = some id :=
      (Phase.id?_of_awaited? awaits).symm.trans taken
    have more := Phase.isOver_of_awaited? awaits
    obtain ⟨phase, moved, rfl | ⟨outcome, rfl⟩⟩ :=
      exists_phase_readLine (calls c).operation c number line lines s
    · exact later_of_move moved (by simp) (by simp) more ids (fun _ => rfl)
    · exact later_of_move moved (by simp) (by simp) more ids (fun _ => rfl)

theorem Step.mem_unread {e : Sent n} (step : Step calls s s') (unread : e ∈ s'.unread) :
    e ∈ s.unread ∨ s'.Wrote e := by
  cases step with
  | @write c id holding working =>
    rcases List.mem_append.1 unread with before | new
    · exact .inl before
    · cases List.mem_singleton.1 new
      refine .inr ?_
      simp [Shared.Wrote, Phase.id?, Phase.isUnsent]
  | @read c id line lines awaits next =>
    rw [Shared.unread_readLine] at unread
    exact .inl (List.mem_of_mem_tail unread)
  | number _ | acquire _ _ | refuse _ _ | answer _ _ _ | giveUp _ => exact .inl unread

/-- What is ahead of a caller is settled when it writes its line. -/
theorem Step.ahead_eq (step : Step calls s s') (c : Fin n) : s'.ahead c = s.ahead c ∨
    s'.ahead c = s.unread ∧ (s.phase c).isUnsent = true ∧ (s'.phase c).isUnsent = false ∧
      s.pipe.broken? = none := by
  cases step with
  | @write d id holding working =>
    by_cases same : c = d
    · subst same
      refine .inr ⟨Function.update_self _ _ _, by rw [holding]; rfl, ?_, working⟩
      simp [Phase.isUnsent]
    · exact .inl (Function.update_of_ne same _ _)
  | read awaits next => exact .inl (congrFun Shared.ahead_readLine c)
  | number _ | acquire _ _ | refuse _ _ | answer _ _ _ | giveUp _ => exact .inl rfl

/-! ## The lock -/

def Locked (s : Shared n) : Prop := ∀ c, (s.phase c).hasLock = true ↔ s.holder? = some c

theorem Locked.unique {d : Fin n} (locked : Locked s) (one : (s.phase c).hasLock = true)
    (other : (s.phase d).hasLock = true) : d = c := by
  have same := ((locked d).1 other).symm.trans ((locked c).1 one)
  exact Option.some.inj same

theorem Locked.move {phase : Phase} (locked : Locked s)
    (same : phase.hasLock = (s.phase c).hasLock) : Locked (s.move c phase) := by
  intro d
  by_cases own : d = c
  · subst own
    rw [Shared.phase_move_self, same]
    exact locked d
  · rw [Shared.phase_move_of_ne own]
    exact locked d

theorem Locked.leave {phase : Phase} (locked : Locked s) (has : (s.phase c).hasLock = true)
    (gone : phase.hasLock = false) : Locked (s.leave c phase) := by
  intro d
  by_cases own : d = c
  · subst own
    simp [Shared.leave, gone]
  · have waits : (s.phase d).hasLock ≠ true := fun holds => own (locked.unique has holds)
    simp [Shared.leave, Shared.phase_move_of_ne own, waits]

theorem Step.locked (step : Step calls s s') (locked : Locked s) : Locked s' := by
  cases step with
  | number idle => exact locked.move (by rw [idle]; rfl)
  | @acquire c id numbered free =>
    intro d
    by_cases own : d = c
    · subst own
      simp [Phase.hasLock]
    · have waits : (s.phase d).hasLock ≠ true := by simp [locked d, free]
      simp [Shared.phase_move_of_ne own, waits, Ne.symm own]
  | refuse holding broken => exact locked.leave (by rw [holding]; rfl) rfl
  | write holding working => exact locked.move (by rw [holding]; rfl)
  | answer next told own => exact locked
  | giveUp waiting => exact locked.leave (by rw [waiting]; rfl) rfl
  | @read c id line lines awaits next =>
    have has := Phase.hasLock_of_awaited? awaits
    rcases readLine_cases (calls c).operation c id line lines s with
      skipped | ⟨outcome, broken?, decided⟩
    · rw [skipped]
      exact Locked.move (s := s.pop lines) locked has.symm
    · rw [decided]
      exact Locked.leave (s := s.pop lines) locked has rfl

/-! ## The lines on their way -/

/-- The line holds the reply, which is to the request. -/
def Carries (answer : Sent n × Reply) (line : List UInt8) : Prop :=
  reply? line = some answer.2 ∧ answer.2.id? = some answer.1.id

/-- The lines that can be read are the replies to the first of the unread requests, and the analyzer
    has yet to answer the others. -/
structure Queued (s : Shared n) : Prop where
  more : s.pipe.closed = false
  tail : s.pipe.tail = []
  arrived : ∃ arrived, s.unread = arrived.map Prod.fst ++ s.inbox ∧
    List.Forall₂ Carries arrived s.pipe.lines ∧ ∀ answer ∈ arrived, answer ∈ s.answers

/-- A line that can be read is the reply to the first unread request. -/
theorem Queued.first {line : List UInt8} {lines : List (List UInt8)} (queued : Queued s)
    (next : s.pipe.lines = line :: lines) : ∃ answer ∈ s.answers, ∃ arrived,
      Carries answer line ∧ s.unread = answer.1 :: (arrived.map Prod.fst ++ s.inbox) ∧
      List.Forall₂ Carries arrived lines ∧ ∀ answer ∈ arrived, answer ∈ s.answers := by
  obtain ⟨arrived, unread, carried, told⟩ := queued.arrived
  rw [next] at carried
  cases carried with
  | @cons answer _ arrived _ carries carried =>
    exact ⟨answer, told _ List.mem_cons_self, arrived, carries, unread, carried,
      fun later member => told later (List.mem_cons_of_mem _ member)⟩

theorem feed_block {p : Pipe} (more : p.closed = false) (whole : p.tail = []) (block : List Line) :
    p.feed (block.map Line.bytes).flatten false =
      { p with lines := p.lines ++ block.map Line.bytes } := by
  rw [feed_of_open more, whole, List.nil_append, splitLines_block]
  simp only [← more, ← whole]

theorem Queued.feed (queued : Queued s) (line : Line) :
    s.pipe.feed line.bytes false = { s.pipe with lines := s.pipe.lines ++ [line.bytes] } := by
  simpa using feed_block queued.more queued.tail [line]

theorem Queued.pop {line : List UInt8} {lines : List (List UInt8)} (queued : Queued s)
    (next : s.pipe.lines = line :: lines) : Queued (s.pop lines) := by
  obtain ⟨answer, _, arrived, _, unread, carried, told⟩ := queued.first next
  exact ⟨queued.more, queued.tail, arrived, congrArg List.tail unread, carried, told⟩

theorem Step.queued (step : Step calls s s') (queued : Queued s) : Queued s' := by
  cases step with
  | @write c id holding working =>
    obtain ⟨arrived, unread, carried, told⟩ := queued.arrived
    refine ⟨queued.more, queued.tail, arrived, ?_, carried, told⟩
    change s.unread ++ _ = _
    rw [unread, List.append_assoc]
  | @answer sent rest line reply next told own =>
    obtain ⟨arrived, unread, carried, before⟩ := queued.arrived
    have fed := queued.feed line
    refine ⟨by simp [fed, queued.more], by simp [fed, queued.tail], arrived ++ [(sent, reply)],
      ?_, ?_, ?_⟩
    · simp [unread, next]
    · simp only [fed]
      exact List.rel_append carried (.cons ⟨told, own⟩ .nil)
    · intro answer member
      rcases List.mem_append.1 member with earlier | new
      · exact List.mem_append_left _ (before answer earlier)
      · exact List.mem_append_right _ new
  | @read c id line lines awaits next =>
    have popped := queued.pop next
    rcases readLine_cases (calls c).operation c id line lines s with
      skipped | ⟨outcome, broken?, decided⟩
    · rw [skipped]
      exact ⟨popped.more, popped.tail, popped.arrived⟩
    · rw [decided]
      exact ⟨popped.more, popped.tail, popped.arrived⟩
  | number _ | acquire _ _ | refuse _ _ | giveUp _ =>
    exact ⟨queued.more, queued.tail, queued.arrived⟩

/-! ## Who wrote what -/

structure Known (s : Shared n) : Prop where
  unread : ∀ e ∈ s.unread, s.Wrote e
  ahead : ∀ c, ∀ e ∈ s.ahead c, s.Wrote e ∧ e.caller ≠ c
  fresh : ∀ c, (s.phase c).isUnsent = true → s.ahead c = []

theorem Step.known (step : Step calls s s') (known : Known s) : Known s' := by
  have later := step.later
  constructor
  · intro e member
    rcases step.mem_unread member with before | wrote
    · exact later.wrote (known.unread e before)
    · exact wrote
  · intro c e member
    rcases step.ahead_eq c with same | ⟨unread, unsent, -, -⟩
    · rw [same] at member
      obtain ⟨wrote, other⟩ := known.ahead c e member
      exact ⟨later.wrote wrote, other⟩
    · rw [unread] at member
      have wrote := known.unread e member
      refine ⟨later.wrote wrote, ?_⟩
      rintro rfl
      rw [wrote.2] at unsent
      cases unsent
  · intro c unsent
    have before : (s.phase c).isUnsent = true := by
      by_contra sent
      rw [(later.sent c (Bool.not_eq_true _ ▸ sent)).1] at unsent
      cases unsent
    rcases step.ahead_eq c with same | ⟨-, -, sent, -⟩
    · rw [same]
      exact known.fresh c before
    · rw [sent] at unsent
      cases unsent

/-- Every caller writes one request at most, and every request is answered once at most. -/
structure Once (s : Shared n) : Prop where
  wrote : ∀ e ∈ s.answers.map Prod.fst ++ s.inbox, s.Wrote e
  nodup : ((s.answers.map Prod.fst ++ s.inbox).map Sent.caller).Nodup

theorem Step.once (step : Step calls s s') (once : Once s) : Once s' := by
  have later := step.later
  have kept (same : s'.answers.map Prod.fst ++ s'.inbox = s.answers.map Prod.fst ++ s.inbox) :
      Once s' :=
    ⟨same ▸ fun e member => later.wrote (once.wrote e member), same ▸ once.nodup⟩
  cases step with
  | @write c id holding working =>
    have new : s.answers.map Prod.fst ++ (s.inbox ++ [(⟨c, id⟩ : Sent n)]) =
        (s.answers.map Prod.fst ++ s.inbox) ++ [⟨c, id⟩] := (List.append_assoc ..).symm
    refine ⟨new ▸ ?_, new ▸ ?_⟩
    · intro e member
      rcases List.mem_append.1 member with before | own
      · exact later.wrote (once.wrote e before)
      · cases List.mem_singleton.1 own
        simp [Shared.Wrote, Phase.id?, Phase.isUnsent]
    · rw [List.map_append]
      refine List.nodup_append.2 ⟨once.nodup, List.nodup_singleton c, ?_⟩
      -- A caller that holds the lock has not written, so its request is not among the others.
      intro d member _ own same
      cases List.mem_singleton.1 own
      obtain ⟨e, sent, rfl⟩ := List.mem_map.1 member
      have wrote := (once.wrote e sent).2
      rw [same, holding] at wrote
      cases wrote
  | @answer sent rest line reply next told own => exact kept (by simp [next])
  | read awaits next => exact kept (by simp)
  | number _ | acquire _ _ | refuse _ _ | giveUp _ => exact kept rfl

/-! ## Numbers -/

/-- The callers that have numbers took them one after the other. -/
def Numbered (s : Shared n) : Prop :=
  ∃ takers : List (Fin n), takers.Nodup ∧ s.pipe.nextId = UInt64.ofNat (takers.length + 1) ∧
    (∀ c ∈ takers, (s.phase c).id? ≠ none) ∧
    ∀ c id, (s.phase c).id? = some id → ∃ i, takers[i]? = some c ∧ id = UInt64.ofNat (i + 1)

theorem Numbered.of_same (numbered : Numbered s) (next : s'.pipe.nextId = s.pipe.nextId)
    (same : ∀ c, (s'.phase c).id? = (s.phase c).id?) : Numbered s' := by
  obtain ⟨takers, nodup, counted, taken, order⟩ := numbered
  refine ⟨takers, nodup, next.trans counted, ?_, ?_⟩
  · intro c member
    rw [same]
    exact taken c member
  · intro c id has
    rw [same] at has
    exact order c id has

theorem Numbered.move {phase : Phase} (numbered : Numbered s)
    (moved : s'.phase = Function.update s.phase c phase) (next : s'.pipe.nextId = s.pipe.nextId)
    (same : phase.id? = (s.phase c).id?) : Numbered s' := by
  refine numbered.of_same next fun d => ?_
  rw [moved]
  by_cases own : d = c
  · subst own
    simpa using same
  · simp [own]

theorem Step.numbered (step : Step calls s s') (numbered : Numbered s) : Numbered s' := by
  cases step with
  | @number c idle =>
    obtain ⟨takers, nodup, counted, taken, order⟩ := numbered
    -- Who was idle has not taken a number before, so it goes to the end of the list.
    have new : c ∉ takers := fun member => taken c member (by rw [idle]; rfl)
    refine ⟨takers ++ [c], ?_, ?_, ?_, ?_⟩
    · exact List.nodup_append.2 ⟨nodup, List.nodup_singleton c, by grind⟩
    · simp [counted, UInt64.ofNat_add]
    · intro d member
      by_cases own : d = c
      · subst own
        simp [Phase.id?]
      · have before : d ∈ takers := by simpa [own] using member
        simpa [Shared.phase_move_of_ne own] using taken d before
    · intro d id has
      by_cases own : d = c
      · subst own
        refine ⟨takers.length, by simp, ?_⟩
        simpa [Phase.id?, counted] using has.symm
      · obtain ⟨i, at_, number⟩ := order d id (by simpa [Shared.phase_move_of_ne own] using has)
        exact ⟨i, List.getElem?_append_left (List.getElem?_eq_some_iff.1 at_).1 ▸ at_, number⟩
  | acquire held free => exact numbered.move rfl rfl (by rw [held]; rfl)
  | refuse holding broken => exact numbered.move rfl rfl (by rw [holding]; rfl)
  | write holding working => exact numbered.move rfl rfl (by rw [holding]; rfl)
  | answer next told own => exact numbered.of_same nextId_feed fun _ => rfl
  | giveUp waiting => exact numbered.move rfl rfl (by rw [waiting]; rfl)
  | @read c id line lines awaits next =>
    have same := (Phase.id?_of_awaited? awaits).symm
    obtain ⟨phase, moved, rfl | ⟨outcome, rfl⟩⟩ :=
      exists_phase_readLine (calls c).operation c id line lines s
    · exact numbered.move moved Shared.nextId_readLine same
    · exact numbered.move moved Shared.nextId_readLine same

/-- Two callers have two numbers, unless there are so many that the numbers come round again. -/
theorem Numbered.distinct {d : Fin n} (numbered : Numbered s) (few : n < UInt64.size)
    (one : (s.phase c).id? = some id) (other : (s.phase d).id? = some id) : d = c := by
  obtain ⟨takers, nodup, -, -, order⟩ := numbered
  obtain ⟨i, atI, first⟩ := order c id one
  obtain ⟨j, atJ, second⟩ := order d id other
  -- A number is a place in the list of takers, as there are fewer of them than words.
  have count : takers.length ≤ n := by simpa using nodup.length_le_card
  have iLt := (List.getElem?_eq_some_iff.1 atI).1
  have jLt := (List.getElem?_eq_some_iff.1 atJ).1
  have same : i + 1 = j + 1 := by
    have words := congrArg UInt64.toNat (first.symm.trans second)
    rwa [UInt64.toNat_ofNat_of_lt' (by omega), UInt64.toNat_ofNat_of_lt' (by omega)] at words
  cases Nat.succ.inj same
  exact Option.some.inj (atJ.symm.trans atI)

/-! ## What a caller reads -/

/-- A caller that waits has its reply at the end of the unread ones, and all that it has passed are
    replies to earlier requests. -/
structure Awaits (s : Shared n) (c : Fin n) (id : UInt64) : Prop where
  working : s.pipe.broken? = none
  place : ∃ passed front, s.unread = front ++ [⟨c, id⟩] ∧ s.ahead c = passed ++ front ∧
    ∀ e ∈ passed, e.id < id

theorem Awaits.of_same (awaits : Awaits s c id) (broken : s'.pipe.broken? = s.pipe.broken?)
    (unread : s'.unread = s.unread) (ahead : s'.ahead c = s.ahead c) : Awaits s' c id := by
  refine ⟨broken.trans awaits.working, ?_⟩
  rw [unread, ahead]
  exact awaits.place

/-- A reply that is not the caller's own ends its call: it is to a later request, or to another of
    the same number. -/
inductive Misreads (operation : Operation) (s : Shared n) (c : Fin n) (id : UInt64)
    (lines : List (List UInt8)) : Shared n → Prop where
  | later {e : Sent n} (ahead : e ∈ s.ahead c) (larger : id < e.id) :
      Misreads operation s c id lines ((s.pop lines).finish c id
        (.error (.failed operation (aheadReason id e.id))) (some (aheadReason id e.id)))
  | same {e : Sent n} {reply : Reply} (ahead : e ∈ s.ahead c) (equal : e.id = id)
      (told : (e, reply) ∈ s.answers) :
      Misreads operation s c id lines
        ((s.pop lines).finish c id (reply.outcome operation) none)

inductive Reads (operation : Operation) (s : Shared n) (c : Fin n) (id : UInt64)
    (lines : List (List UInt8)) : Shared n → Prop where
  | own {reply : Reply} (told : (⟨c, id⟩, reply) ∈ s.answers) (last : s.unread = [⟨c, id⟩])
      (ordered : ∀ e ∈ s.ahead c, e.id < id) :
      Reads operation s c id lines
        ((s.pop lines).finish c id (reply.outcome operation) none)
  | stale {e : Sent n} {passed front : List (Sent n)} (unread : s.unread = e :: (front ++ [⟨c, id⟩]))
      (ahead : s.ahead c = passed ++ e :: front) (ordered : ∀ e ∈ passed, e.id < id)
      (smaller : e.id < id) :
      Reads operation s c id lines ((s.pop lines).move c (.reading id))
  | wrong {after : Shared n} (misreads : Misreads operation s c id lines after) :
      Reads operation s c id lines after

theorem readReply_of_carries {answer : Sent n × Reply} {line : List UInt8}
    (carries : Carries answer line) (operation : Operation) (id : UInt64) :
    readReply operation id line =
      if answer.1.id < id then .stale
      else if id < answer.1.id then .ahead answer.1.id else .reply answer.2 := by
  rw [readReply_of_reply? carries.1, carries.2]

theorem reads_readLine {line : List UInt8} {lines : List (List UInt8)} (operation : Operation)
    (queued : Queued s) (awaits : Awaits s c id) (next : s.pipe.lines = line :: lines) :
    Reads operation s c id lines (s.readLine operation c id line lines) := by
  obtain ⟨⟨e, reply⟩, told, _, carries, unread, -, -⟩ := queued.first next
  obtain ⟨passed, front, place, ahead, ordered⟩ := awaits.place
  -- The line is the reply to the first unread request: the own one if nothing is left in front.
  simp only [Shared.readLine, readReply_of_carries carries]
  cases front with
  | nil =>
    rw [place] at unread
    obtain ⟨rfl, -⟩ := List.cons.inj unread
    rw [if_neg (UInt64.lt_irrefl id), if_neg (UInt64.lt_irrefl id)]
    refine .own told place ?_
    rwa [ahead, List.append_nil]
  | cons first front =>
    rw [place] at unread
    obtain ⟨rfl, -⟩ := List.cons.inj unread
    have member : first ∈ s.ahead c := by simp [ahead]
    by_cases smaller : first.id < id
    · rw [if_pos smaller]
      exact .stale place ahead ordered smaller
    by_cases larger : id < first.id
    · rw [if_neg smaller, if_pos larger]
      exact .wrong (.later member larger)
    · rw [if_neg smaller, if_neg larger]
      have equal := UInt64.le_antisymm (UInt64.not_lt.1 larger) (UInt64.not_lt.1 smaller)
      exact .wrong (.same member equal told)

theorem awaited?_of_update {d : Fin n} {phase : Phase}
    (moved : s'.phase = Function.update s.phase d phase) (still : phase.awaited? = none)
    (awaits : (s'.phase c).awaited? = some id) : c ≠ d ∧ (s.phase c).awaited? = some id := by
  rw [moved] at awaits
  by_cases own : c = d
  · subst own
    rw [Function.update_self, still] at awaits
    cases awaits
  · rw [Function.update_of_ne own] at awaits
    exact ⟨own, awaits⟩

theorem Step.awaits (step : Step calls s s') (locked : Locked s) (queued : Queued s)
    (before : ∀ c id, (s.phase c).awaited? = some id → Awaits s c id) :
    ∀ c id, (s'.phase c).awaited? = some id → Awaits s' c id := by
  intro c id waits
  cases step with
  | number idle =>
    obtain ⟨-, earlier⟩ := awaited?_of_update rfl rfl waits
    exact (before c id earlier).of_same rfl rfl rfl
  | acquire numbered free =>
    obtain ⟨-, earlier⟩ := awaited?_of_update rfl rfl waits
    exact (before c id earlier).of_same rfl rfl rfl
  | refuse holding broken =>
    obtain ⟨-, earlier⟩ := awaited?_of_update rfl rfl waits
    exact (before c id earlier).of_same rfl rfl rfl
  | giveUp waiting =>
    obtain ⟨-, earlier⟩ := awaited?_of_update rfl rfl waits
    exact (before c id earlier).of_same rfl rfl rfl
  | answer next told own => exact (before c id waits).of_same broken?_feed rfl rfl
  | @write d number holding working =>
    by_cases own : c = d
    · subst own
      have same : number = id := by simpa [Phase.awaited?] using waits
      subst same
      exact ⟨working, [], s.unread, rfl, Function.update_self _ _ _, nofun⟩
    · -- The writer has the lock, so nobody else can be waiting.
      have earlier : (s.phase c).awaited? = some id := by
        simpa [Shared.phase_move_of_ne own] using waits
      exact absurd (locked.unique (by rw [holding]; rfl) (Phase.hasLock_of_awaited? earlier)) own
  | @read d number line lines reading next =>
    have reads := reads_readLine (calls d).operation queued (before d number reading) next
    generalize s.readLine (calls d).operation d number line lines = after at reads waits ⊢
    have alone (other : c ≠ d) (earlier : (s.phase c).awaited? = some id) : Awaits after c id :=
      absurd (locked.unique (Phase.hasLock_of_awaited? reading)
        (Phase.hasLock_of_awaited? earlier)) other
    cases reads with
    | own told last ordered =>
      obtain ⟨other, earlier⟩ := awaited?_of_update (s := s) rfl rfl waits
      exact alone other earlier
    | wrong misreads =>
      cases misreads with
      | later ahead larger =>
        obtain ⟨other, earlier⟩ := awaited?_of_update (s := s) rfl rfl waits
        exact alone other earlier
      | same ahead equal told =>
        obtain ⟨other, earlier⟩ := awaited?_of_update (s := s) rfl rfl waits
        exact alone other earlier
    | @stale e passed front unread ahead ordered smaller =>
      by_cases own : c = d
      · subst own
        have same : number = id := by simpa [Phase.awaited?] using waits
        subst same
        refine ⟨(before c number reading).working, passed ++ [e], front, ?_, ?_, ?_⟩
        · exact congrArg List.tail unread
        · rw [List.append_assoc]
          exact ahead
        · intro f member
          rcases List.mem_append.1 member with earlier | new
          · exact ordered f earlier
          · exact List.mem_singleton.1 new ▸ smaller
      · rw [Shared.phase_move_of_ne own] at waits
        exact alone own waits

/-! ## All interleavings -/

/-- What holds in every interleaving, whoever gives up and in whatever order lines are written. -/
structure Wired (s : Shared n) : Prop where
  locked : Locked s
  queued : Queued s
  known : Known s
  once : Once s
  numbered : Numbered s
  awaits : ∀ c id, (s.phase c).awaited? = some id → Awaits s c id

theorem wired_fresh : Wired ({} : Shared n) where
  locked _ := by simp [Phase.hasLock]
  queued := ⟨rfl, rfl, [], rfl, .nil, nofun⟩
  known := ⟨nofun, nofun, fun _ _ => rfl⟩
  once := ⟨nofun, List.nodup_nil⟩
  numbered := ⟨[], List.nodup_nil, rfl, nofun, nofun⟩
  awaits := nofun

theorem Step.wired (step : Step calls s s') (wired : Wired s) : Wired s' where
  locked := step.locked wired.locked
  queued := step.queued wired.queued
  known := step.known wired.known
  once := step.once wired.once
  numbered := step.numbered wired.numbered
  awaits := step.awaits wired.locked wired.queued wired.awaits

theorem Wired.run (wired : Wired s) (run : Relation.ReflTransGen (Step calls) s s') : Wired s' := by
  induction run with
  | refl => exact wired
  | tail _ step ih => exact step.wired ih

theorem Reached.wired (reached : Reached calls s) : Wired s := wired_fresh.run reached

end SchemaServer.Pipe
