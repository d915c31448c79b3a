import Mathlib.Algebra.BigOperators.Fin
import SchemaServer.Proofs.Callers

/-! # Requests that overtake each other

A caller takes its number before it has the lock, so lines may be written in another order than
numbers are taken.  Alone this does no harm, since a caller that keeps the lock until it has its
reply leaves nothing unread.  A caller that gives up leaves its reply behind; whoever writes next
passes it over if it has a smaller number, but takes it for a fault of the analyzer if it has a
larger one, and the pipe breaks.

`Orderly` describes the interleavings without such an encounter and `Jammed` those after the first
one.  Until numbers come round again there are no others. -/

namespace SchemaServer.Pipe

open Analyzer (Call Outcome)

variable {n : Nat} {calls : Fin n → Call} {s s' : Shared n} {c : Fin n} {id : UInt64}
  {outcome : Outcome Json}

/-! ## Callers in order -/

def Shared.Served (calls : Fin n → Call) (s : Shared n) (c : Fin n) (id : UInt64)
    (outcome : Outcome Json) : Prop :=
  ∃ reply, (⟨c, id⟩, reply) ∈ s.answers ∧ outcome = reply.outcome (calls c).operation

/-- Caller `c` has returned, and before its request stood one of a caller that gave up, although its
    number is not smaller. -/
structure Shared.Overtaken (s : Shared n) (c : Fin n) (id : UInt64) (e : Sent n) : Prop where
  returned : ∃ outcome, s.phase c = .returned id outcome
  ahead : e ∈ s.ahead c
  larger : id ≤ e.id
  gaveUp : s.phase e.caller = .gaveUp e.id

def Shared.InOrder (s : Shared n) : Prop := ∀ c id e, ¬ s.Overtaken c id e

theorem Later.overtaken {e : Sent n} (later : Later s s') (overtaken : s.Overtaken c id e) :
    s'.Overtaken c id e := by
  obtain ⟨⟨outcome, returned⟩, ahead, larger, gaveUp⟩ := overtaken
  have written := (later.sent c (by rw [returned]; rfl)).2
  refine ⟨⟨outcome, ?_⟩, written ▸ ahead, larger, ?_⟩
  · rw [later.ended c (by rw [returned]; rfl), returned]
  · rw [later.ended e.caller (by rw [gaveUp]; rfl), gaveUp]

theorem Later.served (later : Later s s') (served : s.Served calls c id outcome) :
    s'.Served calls c id outcome := by
  obtain ⟨reply, told, same⟩ := served
  exact ⟨reply, later.answers _ told, same⟩

/-- So far every caller has met smaller numbers than its own. -/
structure Orderly (calls : Fin n → Call) (s : Shared n) : Prop where
  working : s.pipe.broken? = none
  returned : ∀ c id outcome, s.phase c = .returned id outcome →
    s.Served calls c id outcome ∧ ∀ e ∈ s.ahead c, e.id < id
  unread : ∀ e ∈ s.unread,
    s.phase e.caller = .gaveUp e.id ∨ (s.phase e.caller).awaited? = some e.id
  ahead : ∀ c, ∀ e ∈ s.ahead c, s.phase e.caller = .gaveUp e.id

theorem orderly_fresh : Orderly calls {} := ⟨rfl, nofun, nofun, nofun⟩

theorem Orderly.inOrder (orderly : Orderly calls s) : s.InOrder := by
  rintro c id e ⟨⟨outcome, returned⟩, ahead, larger, -⟩
  have smaller := (orderly.returned c id outcome returned).2 e ahead
  exact UInt64.not_lt.2 larger smaller

theorem Orderly.of_later (orderly : Orderly calls s) (later : Later s s')
    (working : s'.pipe.broken? = none)
    (returned : ∀ c id outcome, s'.phase c = .returned id outcome →
      s.phase c = .returned id outcome ∨
      s'.Served calls c id outcome ∧ ∀ e ∈ s'.ahead c, e.id < id)
    (unread : ∀ e ∈ s'.unread,
      s'.phase e.caller = .gaveUp e.id ∨ (s'.phase e.caller).awaited? = some e.id)
    (ahead : ∀ c, s'.ahead c = s.ahead c ∨ ∀ e ∈ s'.ahead c, s.phase e.caller = .gaveUp e.id) :
    Orderly calls s' where
  working := working
  returned c id outcome now := by
    rcases returned c id outcome now with before | new
    · obtain ⟨served, ordered⟩ := orderly.returned c id outcome before
      have kept := (later.sent c (by rw [before]; rfl)).2
      exact ⟨later.served served, kept ▸ ordered⟩
    · exact new
  unread := unread
  ahead c e member := by
    have before : s.phase e.caller = .gaveUp e.id := by
      rcases ahead c with same | gaveUp
      · exact orderly.ahead c e (same ▸ member)
      · exact gaveUp e member
    rw [later.ended e.caller (by rw [before]; rfl), before]

theorem phase_of_update {phase target : Phase} {d : Fin n}
    (moved : s'.phase = Function.update s.phase d phase) (other : phase ≠ target)
    (now : s'.phase c = target) : s.phase c = target := by
  rw [moved] at now
  by_cases own : c = d
  · subst own
    rw [Function.update_self] at now
    exact absurd now other
  · rwa [Function.update_of_ne own] at now

theorem unread_of_update {phase : Phase} {e : Sent n}
    (moved : s'.phase = Function.update s.phase c phase)
    (before : s.phase e.caller = .gaveUp e.id ∨ (s.phase e.caller).awaited? = some e.id)
    (more : (s.phase c).isOver = false)
    (next : ∀ id, (s.phase c).awaited? = some id →
      phase = .gaveUp id ∨ phase.awaited? = some id) :
    s'.phase e.caller = .gaveUp e.id ∨ (s'.phase e.caller).awaited? = some e.id := by
  rw [moved]
  by_cases own : e.caller = c
  · rw [own, Function.update_self]
    rw [own] at before
    rcases before with gaveUp | awaited
    · rw [gaveUp] at more
      cases more
    · exact next e.id awaited
  · rwa [Function.update_of_ne own]

theorem Step.orderly (step : Step calls s s') (wired : Wired s) (orderly : Orderly calls s) :
    Orderly calls s' ∨ ∃ c id lines, (s.phase c).awaited? = some id ∧
      Misreads (calls c).operation s c id lines s' := by
  have later := step.later
  cases step with
  | number idle =>
    refine .inl (orderly.of_later later orderly.working ?_ ?_ fun _ => .inl rfl)
    · exact fun d id outcome now => .inl (phase_of_update rfl (by simp) now)
    · exact fun e member => unread_of_update rfl (orderly.unread e member) (by rw [idle]; rfl)
        (by simp [idle, Phase.awaited?])
  | acquire numbered free =>
    refine .inl (orderly.of_later later orderly.working ?_ ?_ fun _ => .inl rfl)
    · exact fun d id outcome now => .inl (phase_of_update rfl (by simp) now)
    · exact fun e member => unread_of_update rfl (orderly.unread e member) (by rw [numbered]; rfl)
        (by simp [numbered, Phase.awaited?])
  | refuse holding broken => cases orderly.working.symm.trans broken
  | @write c id holding working =>
    -- The writer has the lock, so whoever left something unread gave up.
    have gaveUp (e : Sent n) (member : e ∈ s.unread) : s.phase e.caller = .gaveUp e.id := by
      rcases orderly.unread e member with gaveUp | awaited
      · exact gaveUp
      · have own := wired.locked.unique (c := c) (by rw [holding]; rfl)
          (Phase.hasLock_of_awaited? awaited)
        rw [own, holding] at awaited
        cases awaited
    refine .inl (orderly.of_later later working ?_ ?_ ?_)
    · exact fun d id outcome now => .inl (phase_of_update rfl (by simp) now)
    · intro e member
      rcases List.mem_append.1 member with before | new
      · exact unread_of_update rfl (orderly.unread e before) (by rw [holding]; rfl)
          (by simp [holding, Phase.awaited?])
      · cases List.mem_singleton.1 new
        refine .inr ?_
        simp [Phase.awaited?]
    · intro d
      by_cases own : d = c
      · subst own
        refine .inr ?_
        simpa using gaveUp
      · exact .inl (Function.update_of_ne own _ _)
  | answer next told own =>
    exact .inl (orderly.of_later later (broken?_feed.trans orderly.working)
      (fun _ _ _ now => .inl now) orderly.unread fun _ => .inl rfl)
  | giveUp waiting =>
    refine .inl (orderly.of_later later orderly.working ?_ ?_ fun _ => .inl rfl)
    · exact fun d id outcome now => .inl (phase_of_update rfl (by simp) now)
    · refine fun e member => unread_of_update rfl (orderly.unread e member) (by rw [waiting]; rfl) ?_
      rw [waiting]
      rintro number ⟨⟩
      exact .inl rfl
  | @read c id line lines reading next =>
    have awaits := wired.awaits c id reading
    have more := Phase.isOver_of_awaited? reading
    have reads := reads_readLine (calls c).operation wired.queued awaits next
    generalize s.readLine (calls c).operation c id line lines = after at reads later ⊢
    cases reads with
    | @own reply told last ordered =>
      refine .inl (orderly.of_later later rfl ?_ ?_ fun _ => .inl rfl)
      · intro d number outcome now
        by_cases own : d = c
        · subst own
          obtain ⟨rfl, rfl⟩ : id = number ∧ reply.outcome (calls d).operation = outcome := by
            simpa [Shared.finish, Shared.leave] using now
          exact .inr ⟨⟨reply, told, rfl⟩, ordered⟩
        · exact .inl ((Shared.phase_move_of_ne (s := s.pop lines) own _).symm.trans now)
      · intro e member
        have left : e ∈ s.unread.tail := member
        rw [last] at left
        cases left
    | stale unread ahead ordered smaller =>
      refine .inl (orderly.of_later later awaits.working ?_ ?_ fun _ => .inl rfl)
      · exact fun d id outcome now => .inl (phase_of_update (s := s) rfl (by simp) now)
      · intro e member
        refine unread_of_update (s := s) rfl
          (orderly.unread e (List.mem_of_mem_tail member)) more ?_
        intro number awaited
        cases reading.symm.trans awaited
        exact .inr rfl
    | wrong misreads => exact .inr ⟨c, id, lines, reading, misreads⟩

/-! ## A caller that is overtaken -/

theorem Misreads.overtaken {lines : List (List UInt8)} {operation : Operation}
    (misreads : Misreads operation s c id lines s') (orderly : Orderly calls s)
    (later : Later s s') : ∃ e, s'.Overtaken c id e := by
  have kept (e : Sent n) (ahead : e ∈ s.ahead c) : s'.phase e.caller = .gaveUp e.id := by
    have gaveUp := orderly.ahead c e ahead
    rw [later.ended e.caller (by rw [gaveUp]; rfl), gaveUp]
  cases misreads with
  | @later e ahead larger =>
    exact ⟨e, ⟨_, Shared.phase_move_self c _⟩, ahead, UInt64.le_of_lt larger, kept e ahead⟩
  | @same e reply ahead equal told =>
    exact ⟨e, ⟨_, Shared.phase_move_self c _⟩, ahead, UInt64.le_of_eq equal.symm, kept e ahead⟩

theorem Reached.orderly (reached : Reached calls s) (inOrder : s.InOrder) : Orderly calls s := by
  induction reached with
  | refl => exact orderly_fresh
  | tail reached step ih =>
    -- Who has been overtaken stays so, hence the order that holds now held before the step.
    have before := ih fun c id e overtaken => inOrder c id e (step.later.overtaken overtaken)
    rcases step.orderly (Reached.wired reached) before with orderly | ⟨c, id, lines, -, misreads⟩
    · exact orderly
    · obtain ⟨e, overtaken⟩ := misreads.overtaken before step.later
      exact absurd overtaken (inOrder c id e)

/-- A caller was overtaken and has broken the pipe: nobody waits, and nobody will write. -/
structure Jammed (calls : Fin n → Call) (s : Shared n) (reason : String) : Prop where
  broken : s.pipe.broken? = some reason
  cause : ∃ c id e, s.Overtaken c id e ∧ id < e.id ∧ reason = aheadReason id e.id
  awaits : ∀ c, (s.phase c).awaited? = none
  returned : ∀ c id outcome, s.phase c = .returned id outcome →
    s.Served calls c id outcome ∨ outcome = .error (.failed (calls c).operation reason)

/-- As long as numbers differ, a wrong reply is one to a later request. -/
theorem Misreads.jammed {lines : List (List UInt8)} (few : n < UInt64.size) (wired : Wired s)
    (orderly : Orderly calls s) (later : Later s s') (awaits : (s.phase c).awaited? = some id)
    (misreads : Misreads (calls c).operation s c id lines s') :
    ∃ reason, Jammed calls s' reason := by
  obtain ⟨e, overtaken⟩ := misreads.overtaken orderly later
  have number := Phase.id?_of_awaited? awaits
  cases misreads with
  | @same e reply ahead equal told =>
    -- Two callers cannot have one number, so this cannot be.
    obtain ⟨wrote, other⟩ := wired.known.ahead c e ahead
    exact absurd (wired.numbered.distinct few number (equal ▸ wrote.1)) other
  | @later f ahead larger =>
    have gaveUp := orderly.ahead c f ahead
    refine ⟨aheadReason id f.id, rfl, ⟨c, id, f, ⟨overtaken.returned, ahead, ?_, ?_⟩, larger, rfl⟩,
      ?_, ?_⟩
    · exact UInt64.le_of_lt larger
    · rw [later.ended f.caller (by rw [gaveUp]; rfl), gaveUp]
    · intro d
      by_contra waits
      obtain ⟨other, waits⟩ := Option.ne_none_iff_exists'.1 waits
      obtain ⟨distinct, before⟩ := awaited?_of_update (s := s) rfl rfl waits
      exact distinct (wired.locked.unique (Phase.hasLock_of_awaited? awaits)
        (Phase.hasLock_of_awaited? before))
    · intro d other outcome now
      by_cases own : d = c
      · subst own
        obtain ⟨-, failed⟩ : id = other ∧ _ = outcome := by
          simpa [Shared.finish, Shared.leave] using now
        exact .inr failed.symm
      · have before := (Shared.phase_move_of_ne (s := s.pop lines) own _).symm.trans now
        exact .inl (later.served (orderly.returned d other outcome before).1)

theorem Step.jammed {reason : String} (step : Step calls s s') (jammed : Jammed calls s reason) :
    Jammed calls s' reason := by
  have later := step.later
  obtain ⟨culprit, number, e, overtaken, larger, same⟩ := jammed.cause
  have cause : ∃ c id e, s'.Overtaken c id e ∧ id < e.id ∧ reason = aheadReason id e.id :=
    ⟨culprit, number, e, later.overtaken overtaken, larger, same⟩
  have idle {d : Fin n} {phase : Phase} (moved : s'.phase = Function.update s.phase d phase)
      (still : phase.awaited? = none) (c : Fin n) : (s'.phase c).awaited? = none := by
    by_contra waits
    obtain ⟨id, waits⟩ := Option.ne_none_iff_exists'.1 waits
    obtain ⟨-, before⟩ := awaited?_of_update moved still waits
    cases (jammed.awaits c).symm.trans before
  have kept (c : Fin n) (id : UInt64) (outcome : Outcome Json)
      (before : s.phase c = .returned id outcome) :
      s'.Served calls c id outcome ∨ outcome = .error (.failed (calls c).operation reason) :=
    (jammed.returned c id outcome before).imp_left later.served
  cases step with
  | number phase =>
    exact ⟨jammed.broken, cause, idle rfl rfl,
      fun c id outcome now => kept c id outcome (phase_of_update rfl (by simp) now)⟩
  | acquire numbered free =>
    exact ⟨jammed.broken, cause, idle rfl rfl,
      fun c id outcome now => kept c id outcome (phase_of_update rfl (by simp) now)⟩
  | @refuse c id why holding broken =>
    cases jammed.broken.symm.trans broken
    refine ⟨jammed.broken, cause, idle rfl rfl, fun d other outcome now => ?_⟩
    by_cases own : d = c
    · subst own
      obtain ⟨-, failed⟩ : id = other ∧ _ = outcome := by simpa [Shared.leave] using now
      exact .inr failed.symm
    · exact kept d other outcome ((Shared.phase_move_of_ne own _).symm.trans now)
  | write holding working => cases jammed.broken.symm.trans working
  | answer next told own =>
    exact ⟨broken?_feed.trans jammed.broken, cause, jammed.awaits, kept⟩
  | @giveUp c id waiting =>
    have still := jammed.awaits c
    rw [waiting] at still
    cases still
  | @read c id line lines reading next => cases (jammed.awaits c).symm.trans reading

/-- Until numbers come round again, callers are in order or the pipe is jammed. -/
theorem Reached.orderly_or_jammed (reached : Reached calls s) (few : n < UInt64.size) :
    Orderly calls s ∨ ∃ reason, Jammed calls s reason := by
  induction reached with
  | refl => exact .inl orderly_fresh
  | tail reached step ih =>
    have wired := Reached.wired reached
    rcases ih with orderly | ⟨reason, jammed⟩
    · rcases step.orderly wired orderly with orderly | ⟨c, id, lines, awaits, misreads⟩
      · exact .inl orderly
      · exact .inr (misreads.jammed few wired orderly step.later awaits)
    · exact .inr ⟨reason, step.jammed jammed⟩

/-! ## Runs end -/

/-- A reply that tells nothing but its number. -/
def bareTree (id : UInt64) : Json :=
  .object [("error", .null), ("id", .ofWord64 id), ("result", .null)]

theorem neat_bareTree (id : UInt64) : Json.Neat Json.maxDepth (bareTree id) := by
  refine .object ["error", "id", "result"] rfl (by decide) ?_
  simp [Json.Neat.null, Json.ofWord64, Json.Neat.nat (toNat_word64_le id)]

theorem ofJson_bareTree (id : UInt64) :
    Reply.shape.ofJson (bareTree id) = .ok ⟨some id, none, none⟩ := by
  have number : (Json.Shape.optional word64).ofJson (.ofWord64 id) = .ok (some id) := by
    show some <$> word64.ofJson (.ofWord64 id) = _
    rw [Request.ofJson_word64]
    rfl
  refine Json.ofJson_of_written (neat_bareTree id) (some id, none, none, ()) (by decide) ?_ _
  exact ⟨⟨_, rfl, number⟩, ⟨_, rfl, rfl⟩, ⟨_, rfl, rfl⟩, trivial⟩

def bareLine (id : UInt64) : Line where
  content := Utf8.encode (bareTree id).print
  plain := by
    refine Utf8.newline_not_mem_encode ?_
    rw [Json.print, String.toList_ofList]
    exact Json.newline_not_mem_chars (neat_bareTree id).writable

theorem reply?_bareLine (id : UInt64) : reply? (bareLine id).bytes = some ⟨some id, none, none⟩ := by
  have bytes : (bareLine id).bytes = Utf8.encode ((bareTree id).print ++ "\n") :=
    (Utf8.encode_append_newline _).symm
  rw [bytes]
  exact reply?_eq_some_iff.2 ⟨_, Utf8.decode_encode _,
    Json.parse_print_newline (neat_bareTree id) (ofJson_bareTree id)⟩

/-- A caller that is not done keeps nobody from going on: somebody can make a step other than giving
    up. -/
theorem Wired.progress (wired : Wired s) (calls : Fin n → Call) (more : (s.phase c).isOver = false) :
    ∃ s', Step calls s s' ∧ ∀ d id, s'.phase d = .gaveUp id → s.phase d = .gaveUp id := by
  cases holder : s.holder? with
  | none =>
    have unlocked : (s.phase c).hasLock ≠ true := by simp [wired.locked c, holder]
    cases phase : s.phase c with
    | idle => exact ⟨_, .number phase, fun d id => phase_of_update rfl (by simp)⟩
    | numbered id => exact ⟨_, .acquire phase holder, fun d id => phase_of_update rfl (by simp)⟩
    | holding _ | waiting _ | reading _ => simp [phase, Phase.hasLock] at unlocked
    | gaveUp _ | returned _ _ => simp [phase, Phase.isOver] at more
  | some d =>
    have has := (wired.locked d).2 holder
    cases awaited : (s.phase d).awaited? with
    | none =>
      obtain ⟨id, holding⟩ : ∃ id, s.phase d = .holding id := by
        cases phase : s.phase d with
        | holding id => exact ⟨id, rfl⟩
        | waiting _ | reading _ => simp [phase, Phase.awaited?] at awaited
        | idle | numbered _ | gaveUp _ | returned _ _ => simp [phase, Phase.hasLock] at has
      cases broken : s.pipe.broken? with
      | some reason => exact ⟨_, .refuse holding broken, fun _ _ => phase_of_update rfl (by simp)⟩
      | none => exact ⟨_, .write holding broken, fun _ _ => phase_of_update rfl (by simp)⟩
    | some id =>
      obtain ⟨arrived, unread, carried, -⟩ := wired.queued.arrived
      cases lines : s.pipe.lines with
      | cons line rest =>
        refine ⟨_, .read awaited lines, fun e number => ?_⟩
        obtain ⟨phase, moved, rfl | ⟨outcome, rfl⟩⟩ :=
          exists_phase_readLine (calls d).operation d id line rest s
        · exact phase_of_update moved (by simp)
        · exact phase_of_update moved (by simp)
      | nil =>
        -- The reply that is waited for is unread and has not arrived, so the analyzer owes it.
        rw [lines, List.forall₂_nil_right_iff] at carried
        obtain ⟨_, front, place, -⟩ := (wired.awaits d id awaited).place
        cases inbox : s.inbox with
        | nil => simp [carried, inbox, place] at unread
        | cons sent rest =>
          exact ⟨_, .answer inbox (reply?_bareLine sent.id) rfl, fun _ _ now => now⟩

/-- The most steps that a caller can still cause, its line and the reply included. -/
def Phase.weight : Phase → Nat
  | .idle => 6
  | .numbered _ => 5
  | .holding _ => 4
  | .waiting _ | .reading _ => 1
  | .gaveUp _ | .returned _ _ => 0

def Shared.work (s : Shared n) : Nat :=
  ∑ c, (s.phase c).weight + 2 * s.inbox.length + s.pipe.lines.length

theorem sum_weight_update (phases : Fin n → Phase) (c : Fin n) (phase : Phase) :
    ∑ d, (Function.update phases c phase d).weight + (phases c).weight =
      ∑ d, (phases d).weight + phase.weight := by
  have split (f : Fin n → Phase) :
      ∑ d, (f d).weight = (f c).weight + ∑ d ∈ Finset.univ.erase c, (f d).weight :=
    (Finset.add_sum_erase _ _ (Finset.mem_univ c)).symm
  have others : ∑ d ∈ Finset.univ.erase c, (Function.update phases c phase d).weight =
      ∑ d ∈ Finset.univ.erase c, (phases d).weight := by
    refine Finset.sum_congr rfl fun d member => ?_
    rw [Function.update_of_ne (Finset.ne_of_mem_erase member)]
  rw [split, split phases, others, Function.update_self]
  omega

theorem work_lt_of_update {phase : Phase} (moved : s'.phase = Function.update s.phase c phase)
    (less : phase.weight + 2 * s'.inbox.length + s'.pipe.lines.length <
      (s.phase c).weight + 2 * s.inbox.length + s.pipe.lines.length) : s'.work < s.work := by
  have sums := sum_weight_update s.phase c phase
  unfold Shared.work
  rw [moved]
  omega

theorem Step.work_lt (step : Step calls s s') (wired : Wired s) : s'.work < s.work := by
  cases step with
  | number idle =>
    refine work_lt_of_update rfl ?_
    simp [idle, Phase.weight, Shared.move]
  | acquire numbered free =>
    refine work_lt_of_update rfl ?_
    simp [numbered, Phase.weight, Shared.move]
  | refuse holding broken =>
    refine work_lt_of_update rfl ?_
    simp [holding, Phase.weight, Shared.leave, Shared.move]
  | write holding working =>
    refine work_lt_of_update rfl ?_
    simp only [holding, Phase.weight, Shared.move, List.length_append, List.length_singleton]
    omega
  | @answer sent rest line reply next told own =>
    simp only [Shared.work, wired.queued.feed, next, List.length_append, List.length_cons,
      List.length_nil]
    omega
  | giveUp waiting =>
    refine work_lt_of_update rfl ?_
    simp [waiting, Phase.weight, Shared.leave, Shared.move]
  | @read c id line lines reading next =>
    have weight : (s.phase c).weight = 1 := by
      rcases Phase.of_awaited? reading with waiting | reading
      · rw [waiting]
        rfl
      · rw [reading]
        rfl
    obtain ⟨phase, moved, rfl | ⟨outcome, rfl⟩⟩ :=
      exists_phase_readLine (calls c).operation c id line lines s
    · refine work_lt_of_update moved ?_
      rw [weight, next]
      simp [Phase.weight]
    · refine work_lt_of_update moved ?_
      rw [weight, next, Shared.inbox_readLine, Shared.lines_readLine]
      simp only [Phase.weight, List.length_cons]
      omega

/-! ## A caller by itself -/

open Relation (ReflTransGen)

theorem exists_answers {block : List Line} (more : s.pipe.closed = false) (whole : s.pipe.tail = [])
    (told : List.Forall₂ (fun sent line => ∃ reply, Carries (sent, reply) line.bytes) s.inbox block) :
    ∃ s', ReflTransGen (Step calls) s s' ∧ s'.phase = s.phase ∧ s'.inbox = [] ∧
      s'.pipe = s.pipe.feed (block.map Line.bytes).flatten false := by
  induction block generalizing s with
  | nil =>
    refine ⟨s, .refl, rfl, List.forall₂_nil_right_iff.1 told, ?_⟩
    rw [feed_block more whole, List.map_nil, List.append_nil]
  | cons line block ih =>
    obtain ⟨sent, rest, ⟨reply, carries⟩, others, inbox⟩ := List.forall₂_cons_right_iff.1 told
    have first : Step calls s _ := .answer inbox carries.1 carries.2
    have fed : s.pipe.feed line.bytes false =
        { s.pipe with lines := s.pipe.lines ++ [line.bytes] } := by
      simpa using feed_block more whole [line]
    obtain ⟨s', run, phase, empty, pipe⟩ := ih (s := { s with
      inbox := rest
      pipe := s.pipe.feed line.bytes false
      answers := s.answers ++ [(sent, reply)] }) (by simp [fed, more]) (by simp [fed, whole]) others
    refine ⟨s', .head first run, phase, empty, ?_⟩
    rw [pipe, feed_block (by simp [fed, more]) (by simp [fed, whole]), feed_block more whole, fed]
    simp

theorem settle_of_open {p : Pipe} (more : p.closed = false) (operation : Operation) (id : UInt64) :
    p.settle operation id =
      match await operation id false p.lines with
      | (.decided outcome broken?, lines) => (some outcome, { p with lines, broken? })
      | (.pending, lines) => (none, { p with lines }) := by
  obtain ⟨nextId, broken?, lines, tail, closed⟩ := p
  cases more
  simp only [settle, readable, Bool.false_and, Bool.false_eq_true, if_false]
  rcases await operation id false lines with ⟨_ | _, _⟩ <;> rfl

/-- To read line by line is to wait for a reply. -/
theorem exists_settle {lines : List (List UInt8)} (ready : s.pipe.lines = lines)
    (more : s.pipe.closed = false) (awaits : (s.phase c).awaited? = some id) :
    ∃ s', ReflTransGen (Step calls) s s' ∧ s'.inbox = s.inbox ∧
      s'.pipe = (s.pipe.settle (calls c).operation id).2 ∧
      ((∃ outcome, (s.pipe.settle (calls c).operation id).1 = some outcome ∧
          s'.phase c = .returned id outcome) ∨
        (s.pipe.settle (calls c).operation id).1 = none ∧ (s'.phase c).awaited? = some id ∧
          s'.pipe.lines = []) := by
  induction lines generalizing s with
  | nil =>
    rw [settle_of_open more, ready]
    refine ⟨s, .refl, rfl, ?_, .inr ⟨rfl, awaits, ready⟩⟩
    show s.pipe = { s.pipe with lines := [] }
    rw [← ready]
  | cons line lines ih =>
    have step : Step calls s _ := .read awaits ready
    rw [settle_of_open more, ready, await]
    rw [Shared.readLine] at step
    cases kind : readReply (calls c).operation id line with
    | stale =>
      rw [kind] at step
      obtain ⟨s', run, inbox, pipe, ended⟩ := ih (s := (s.pop lines).move c (.reading id)) rfl more
        (by simp [Phase.awaited?])
      rw [settle_of_open (p := ((s.pop lines).move c (.reading id)).pipe) more] at pipe ended
      exact ⟨s', .head step run, inbox, pipe, ended⟩
    | ahead other =>
      rw [kind] at step
      exact ⟨_, .single step, rfl, rfl, .inl ⟨_, rfl, Shared.phase_move_self c _⟩⟩
    | reply reply =>
      rw [kind] at step
      exact ⟨_, .single step, rfl, rfl, .inl ⟨_, rfl, Shared.phase_move_self c _⟩⟩
    | unreadable failure =>
      rw [kind] at step
      exact ⟨_, .single step, rfl, rfl, .inl ⟨_, rfl, Shared.phase_move_self c _⟩⟩

theorem exists_settle_of_some (more : s.pipe.closed = false)
    (awaits : (s.phase c).awaited? = some id)
    (decided : (s.pipe.settle (calls c).operation id).1 = some outcome) :
    ∃ s', ReflTransGen (Step calls) s s' ∧
      s'.pipe = (s.pipe.settle (calls c).operation id).2 ∧ s'.phase c = .returned id outcome := by
  obtain ⟨s', reads, -, settled, ⟨_, same, returned⟩ | ⟨pending, -⟩⟩ := exists_settle rfl more awaits
  · cases decided.symm.trans same
    exact ⟨s', reads, settled, returned⟩
  · cases decided.symm.trans pending

theorem exists_waiting (numbered : s.phase c = .numbered id) (free : s.holder? = none)
    (working : s.pipe.broken? = none) :
    ∃ s', ReflTransGen (Step calls) s s' ∧ s'.phase c = .waiting id ∧
      (∀ d, d ≠ c → s'.phase d = s.phase d) ∧ s'.inbox = s.inbox ++ [⟨c, id⟩] ∧
      s'.pipe = s.pipe := by
  have acquire : Step calls s _ := .acquire numbered free
  refine ⟨_, (ReflTransGen.single acquire).tail (.write (Shared.phase_move_self c _) working),
    Shared.phase_move_self c _, fun d other => ?_, rfl, rfl⟩
  simp [Shared.move, other]

/-- A caller that finds the lock free, and meanwhile is left alone, does what a call does. -/
theorem Wired.lone_call {block : List Line} (wired : Wired s) (idle : s.phase c = .idle)
    (free : s.holder? = none)
    (told : List.Forall₂ (fun sent line => ∃ reply, Carries (sent, reply) line.bytes)
      (s.inbox ++ [⟨c, s.pipe.nextId⟩]) block) :
    ∃ s' outcome, ReflTransGen (Step calls) s s' ∧
      s'.pipe = (s.pipe.pass (Round.mk (calls c) block).turn).after ∧
      (s.pipe.pass (Round.mk (calls c) block).turn).outcome? = some outcome ∧
      s'.phase c = .returned s.pipe.nextId outcome := by
  have number : Step calls s _ := .number idle
  cases broken : s.pipe.broken? with
  | some reason =>
    have acquire := (ReflTransGen.single number).tail (.acquire (Shared.phase_move_self c _) free)
    rw [pass_of_broken broken]
    exact ⟨_, _, acquire.tail (.refuse (Shared.phase_move_self c _) broken), rfl, rfl,
      Shared.phase_move_self c _⟩
  | none =>
    obtain ⟨sent, writes, waiting, -, inbox, pipe⟩ : ∃ s', ReflTransGen (Step calls) _ s' ∧ _ :=
      exists_waiting (s := { s.move c (.numbered s.pipe.nextId) with
        pipe := { s.pipe with nextId := s.pipe.nextId + 1 } }) (Shared.phase_move_self c _) free broken
    have written := ReflTransGen.head number writes
    have queued := (wired.run written).queued
    obtain ⟨ready, answers, phase, empty, fed⟩ : ∃ s', ReflTransGen (Step calls) sent s' ∧ _ :=
      exists_answers queued.more queued.tail (inbox ▸ told)
    have run := written.trans answers
    have awaits : (ready.phase c).awaited? = some s.pipe.nextId := by
      rw [phase, waiting]
      rfl
    obtain ⟨done, reads, owed, settled, ended⟩ : ∃ s', ReflTransGen (Step calls) ready s' ∧ _ :=
      exists_settle rfl (wired.run run).queued.more awaits
    rw [fed, pipe] at settled ended
    rw [pass_of_wrote broken rfl]
    rcases ended with ⟨outcome, decided, returned⟩ | ⟨-, waits, drained⟩
    · exact ⟨done, outcome, run.trans reads, settled, decided, returned⟩
    · -- All requests are answered and all replies read, so nobody can be waiting.
      have after := wired.run (run.trans reads)
      obtain ⟨arrived, unread, carried, -⟩ := after.queued.arrived
      obtain ⟨_, front, place, -⟩ := (after.awaits c _ waits).place
      rw [drained, List.forall₂_nil_right_iff] at carried
      simp [carried, owed, empty, place] at unread

/-! ## Two callers -/

def pairCalls : Fin 2 → Call := fun _ => .removeCachedSchema "/a"

theorem exists_pair : ∃ s : Shared 2, Reached pairCalls s ∧ s.phase 0 = .numbered 1 ∧
    s.phase 1 = .numbered 2 ∧ s.holder? = none ∧ s.inbox = [] ∧ s.pipe = { nextId := 3 } := by
  have first : Step pairCalls {} _ := .number (c := 0) rfl
  have both : Reached pairCalls _ := (ReflTransGen.single first).tail (.number (c := 1) rfl)
  exact ⟨_, both, rfl, rfl, rfl, rfl, rfl⟩

theorem ended_of_run (run : ReflTransGen (Step calls) s s') (done : (s.phase c).isOver = true) :
    s'.phase c = s.phase c := by
  induction run with
  | refl => rfl
  | tail _ step ih => rw [step.later.ended c (ih ▸ done), ih]

theorem exists_behind {a b : Fin n} {i j : UInt64} (wired : Wired s) (apart : b ≠ a)
    (first : s.phase a = .numbered i) (second : s.phase b = .numbered j) (free : s.holder? = none)
    (working : s.pipe.broken? = none) (owed : s.inbox = []) (unwritten : s.pipe.lines = []) :
    ∃ s', ReflTransGen (Step calls) s s' ∧ s'.phase a = .gaveUp i ∧ s'.phase b = .waiting j ∧
      s'.pipe = { s.pipe with lines := [(bareLine i).bytes, (bareLine j).bytes] } := by
  obtain ⟨wrote, writes, waiting, others, inbox, pipe⟩ : ∃ s', ReflTransGen (Step calls) s s' ∧ _ :=
    exists_waiting first free working
  have left := writes.tail (.giveUp waiting)
  obtain ⟨sent, later, waits, kept, inbox', pipe'⟩ : ∃ s', ReflTransGen (Step calls) _ s' ∧ _ :=
    exists_waiting (s := wrote.leave a (.gaveUp i)) (c := b)
      ((Shared.phase_move_of_ne apart _).trans ((others b apart).trans second)) rfl
      (pipe ▸ working)
  have told : List.Forall₂ (fun (sent : Sent n) line => ∃ reply, Carries (sent, reply) line.bytes)
      [⟨a, i⟩, ⟨b, j⟩] [bareLine i, bareLine j] :=
    .cons ⟨_, reply?_bareLine i, rfl⟩ (.cons ⟨_, reply?_bareLine j, rfl⟩ .nil)
  have requests : sent.inbox = [⟨a, i⟩, ⟨b, j⟩] := by
    rw [inbox']
    show wrote.inbox ++ _ = _
    rw [inbox, owed]
    rfl
  have queued := (wired.run (left.trans later)).queued
  obtain ⟨ready, answers, phase, -, fed⟩ : ∃ s', ReflTransGen (Step calls) sent s' ∧ _ :=
    exists_answers queued.more queued.tail (requests ▸ told)
  refine ⟨ready, (left.trans later).trans answers, ?_, phase ▸ waits, ?_⟩
  · rw [phase, kept a apart.symm]
    exact Shared.phase_move_self a _
  · have same : sent.pipe = s.pipe := pipe'.trans pipe
    rw [fed, feed_block queued.more queued.tail, same, unwritten]
    rfl

theorem readReply_bareLine (operation : Operation) (id other : UInt64) :
    readReply operation id (bareLine other).bytes =
      if other < id then .stale
      else if id < other then .ahead other else .reply ⟨some other, none, none⟩ := by
  rw [readReply_of_reply? (reply?_bareLine other)]

/-! ## How far callers are kept apart -/

/-- What callers that share a pipe can rely on. -/
structure KeptApart (calls : Fin n → Call) (s : Shared n) : Prop where
  /-- As long as nobody is overtaken, the pipe works and who returns has the reply to its request. -/
  inOrder : s.InOrder → s.pipe.broken? = none ∧
    ∀ c id outcome, s.phase c = .returned id outcome → s.Served calls c id outcome
  /-- Nobody is overtaken if nobody gives up. -/
  patient : (∀ c id, s.phase c ≠ .gaveUp id) → s.InOrder
  /-- Until numbers come round again, the pipe breaks just when somebody is overtaken. -/
  broken_iff : n < UInt64.size → (s.pipe.broken? = none ↔ s.InOrder)
  /-- The reason for which the pipe broke tells who was overtaken by whom. -/
  reason : n < UInt64.size → ∀ reason, s.pipe.broken? = some reason →
    ∃ c id e, s.Overtaken c id e ∧ id < e.id ∧ reason = aheadReason id e.id
  /-- Nobody gets the reply to another request, be the pipe broken or not. -/
  failed : n < UInt64.size → ∀ c id outcome, s.phase c = .returned id outcome →
    s.Served calls c id outcome ∨ ∃ reason, s.pipe.broken? = some reason ∧
      outcome = .error (.failed (calls c).operation reason)
  /-- Every request has one reply at most. -/
  once : (s.answers.map (·.1.caller)).Nodup
  /-- As long as a caller is not done there is a step by which nobody gives up. -/
  goesOn : ∀ c, (s.phase c).isOver = false →
    ∃ s', Step calls s s' ∧ ∀ d id, s'.phase d = .gaveUp id → s.phase d = .gaveUp id
  /-- Every step leaves less to do, so an interleaving comes to its end. -/
  ends : ∀ s', Step calls s s' → s'.work < s.work
  /-- The steps of a caller that is left alone make up a call. -/
  alone : ∀ c block, s.phase c = .idle → s.holder? = none →
    List.Forall₂ (fun sent line => ∃ reply, Carries (sent, reply) line.bytes)
      (s.inbox ++ [⟨c, s.pipe.nextId⟩]) block →
    ∃ s' outcome, ReflTransGen (Step calls) s s' ∧
      s'.pipe = (s.pipe.pass (Round.mk (calls c) block).turn).after ∧
      (s.pipe.pass (Round.mk (calls c) block).turn).outcome? = some outcome ∧
      s'.phase c = .returned s.pipe.nextId outcome

/-- In every interleaving of callers that share a pipe, with an analyzer that answers each request
    once and in turn, a caller that does not give up gets the reply to its own request, and the pipe
    stays whole, unless a request was written behind an abandoned one with a larger number. -/
theorem callers_kept_apart (reached : Reached calls s) : KeptApart calls s := by
  have wired := reached.wired
  refine ⟨fun inOrder => ?_, fun patient c id e overtaken => patient _ _ overtaken.gaveUp,
    fun few => ?_, fun few reason broken => ?_, fun few c id outcome returned => ?_, ?_,
    fun c more => wired.progress calls more, fun s' step => step.work_lt wired,
    fun c block idle free told => wired.lone_call idle free told⟩
  · have orderly := reached.orderly inOrder
    exact ⟨orderly.working, fun c id outcome returned => (orderly.returned c id outcome returned).1⟩
  · constructor
    · intro working
      rcases reached.orderly_or_jammed few with orderly | ⟨reason, jammed⟩
      · exact orderly.inOrder
      · cases working.symm.trans jammed.broken
    · exact fun inOrder => (reached.orderly inOrder).working
  · rcases reached.orderly_or_jammed few with orderly | ⟨other, jammed⟩
    · cases orderly.working.symm.trans broken
    · cases jammed.broken.symm.trans broken
      exact jammed.cause
  · rcases reached.orderly_or_jammed few with orderly | ⟨reason, jammed⟩
    · exact .inl (orderly.returned c id outcome returned).1
    · exact (jammed.returned c id outcome returned).imp_right fun failed =>
        ⟨reason, jammed.broken, failed⟩
  · have nodup := wired.once.nodup
    rw [List.map_append, List.map_map] at nodup
    exact nodup.of_append_left

/-- The second caller waits behind the first one, which gave up, and skips its reply. -/
theorem callers_kept_apart_behind : ∃ s : Shared 2, Reached pairCalls s ∧
    s.phase 0 = .gaveUp 1 ∧ s.phase 1 = .returned 2 (.ok .null) ∧ KeptApart pairCalls s := by
  obtain ⟨start, reached, first, second, free, owed, pipe⟩ := exists_pair
  obtain ⟨s, run, gaveUp, waiting, lines⟩ : ∃ s, ReflTransGen (Step pairCalls) start s ∧ _ :=
    exists_behind reached.wired (by decide) first second free (by rw [pipe]) owed (by rw [pipe])
  have settled : (s.pipe.settle .removeCachedSchema 2).1 = some (.ok .null) := by
    rw [settle_of_open (by rw [lines, pipe]), lines]
    simp only [await, readReply_bareLine]
    rfl
  obtain ⟨s', reads, -, returned⟩ : ∃ s', ReflTransGen (Step pairCalls) s s' ∧ _ :=
    exists_settle_of_some (c := 1) (by rw [lines, pipe]) (by rw [waiting]; rfl) settled
  have all : Reached pairCalls s' := (reached.trans run).trans reads
  exact ⟨s', all, (ended_of_run reads (by rw [gaveUp]; rfl)).trans gaveUp, returned,
    callers_kept_apart all⟩

/-- The first caller waits behind the second one, which gave up, and takes its reply for a fault. -/
theorem overtaken_caller_breaks_pipe : ∃ s : Shared 2, Reached pairCalls s ∧
    s.phase 1 = .gaveUp 2 ∧
    s.phase 0 = .returned 1 (.error (.failed .removeCachedSchema (aheadReason 1 2))) ∧
    s.pipe.broken? = some (aheadReason 1 2) := by
  obtain ⟨start, reached, first, second, free, owed, pipe⟩ := exists_pair
  obtain ⟨s, run, gaveUp, waiting, lines⟩ : ∃ s, ReflTransGen (Step pairCalls) start s ∧ _ :=
    exists_behind reached.wired (by decide) second first free (by rw [pipe]) owed (by rw [pipe])
  have settled : s.pipe.settle .removeCachedSchema 1 =
      (some (.error (.failed .removeCachedSchema (aheadReason 1 2))),
        { s.pipe with lines := [(bareLine 1).bytes], broken? := some (aheadReason 1 2) }) := by
    rw [settle_of_open (by rw [lines, pipe]), lines]
    simp only [await, readReply_bareLine]
    rfl
  obtain ⟨s', reads, broken, returned⟩ : ∃ s', ReflTransGen (Step pairCalls) s s' ∧ _ :=
    exists_settle_of_some (c := 0) (by rw [lines, pipe]) (by rw [waiting]; rfl)
      (congrArg Prod.fst settled)
  refine ⟨s', (reached.trans run).trans reads,
    (ended_of_run reads (by rw [gaveUp]; rfl)).trans gaveUp, returned, ?_⟩
  rw [broken]
  exact congrArg (fun outcome => outcome.2.broken?) settled

end SchemaServer.Pipe
