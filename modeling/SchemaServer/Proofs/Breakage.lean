import SchemaServer.Proofs.Passages

/-! # A pipe breaks in two ways, and for good

A call that waits for the reply to request `id` breaks the pipe in two cases: nothing is left to read
and nothing more will come, or the line it takes is a reply to a later request.  No other line does,
be it no text, no reply, a reply that tells of a failure or one whose result nobody can use.

* `Passage.Breaks` says of a call, by what the analyzer did, why it has to break the pipe, and
  `broken?_pass_iff` that it breaks the pipe for these reasons and no other.
* `before_of_later` says that afterwards no call does more than use up a number. -/

namespace SchemaServer.Pipe

open Analyzer (Outcome)

variable {p : Pipe} {turn : Turn} {reason : String}

namespace Passage

/-- What the caller gets, unless the call still waits. -/
def answer? (s : Passage) : Option (Outcome s.call.Answer) :=
  s.outcome?.map fun outcome => outcome >>= answerOf s.call

inductive Breaks (s : Passage) : String → Prop where
  /-- The analyzer has taken the request and its output is closed, with no line left but stale ones. -/
  | ended {bytes : List UInt8} {closed : Bool} (wrote : s.reaction = .wrote bytes closed)
      (shut : (s.before.closed || closed) = true) (nothing : s.taken? = none) : Breaks s endReason
  /-- The first line that is not stale is a reply to a later request. -/
  | ahead {line : List UInt8} {reply : Reply} {other : UInt64} (next : s.taken? = some line)
      (read : reply? line = some reply) (named : reply.id? = some other) (later : s.id < other) :
      Breaks s (aheadReason s.id other)

end Passage

/-! ## The call that breaks the pipe -/

section
variable {operation : Operation} {id : UInt64} {closed : Bool} {taken : Option (List UInt8)}
  {outcome : Option (Outcome Json)} {reason? : Option String}

theorem Ends.reason_iff (ends : Ends operation id closed taken outcome reason?) :
    reason? = some reason ↔
      (taken = none ∧ closed = true ∧ reason = endReason) ∨
      ∃ line reply other, taken = some line ∧ reply? line = some reply ∧ reply.id? = some other ∧
        id < other ∧ reason = aheadReason id other := by
  constructor
  · intro broken
    cases ends with
    | exited shut =>
      cases broken
      exact .inl ⟨rfl, shut, rfl⟩
    | ahead read named later =>
      cases broken
      exact .inr ⟨_, _, _, rfl, read, named, later, rfl⟩
    | waits more => cases broken
    | notText bytes => cases broken
    | notReply characters unreadable => cases broken
    | answered read own => cases broken
  · rintro (⟨nothing, shut, rfl⟩ | ⟨line, reply, other, next, read, named, later, rfl⟩)
    · cases ends with
      | exited _ => rfl
      | waits more => cases shut.symm.trans more
      | notText _ | notReply _ _ | ahead _ _ _ | answered _ _ => cases nothing
    · -- The line is this reply and no other, so it is neither unreadable nor the call's own.
      obtain ⟨content, characters, parsed⟩ := reply?_eq_some_iff.1 read
      cases ends with
      | waits _ | exited _ => cases next
      | notText bytes =>
        cases next
        cases characters.symm.trans bytes
      | notReply decoded unreadable =>
        cases next
        cases characters.symm.trans decoded
        cases parsed.symm.trans unreadable
      | ahead again numbered _ =>
        cases next
        cases read.symm.trans again
        cases named.symm.trans numbered
        rfl
      | answered again own =>
        cases next
        cases read.symm.trans again
        rcases own with unnamed | mine
        · cases named.symm.trans unnamed
        · cases named.symm.trans mine
          exact absurd later (UInt64.lt_irrefl id)

/-- The call that breaks the pipe fails with the reason that the pipe keeps. -/
theorem Ends.outcome_of_reason (ends : Ends operation id closed taken outcome reason?)
    (broken : reason? = some reason) : outcome = some (.error (.failed operation reason)) := by
  cases ends with
  | exited _ | ahead _ _ _ =>
    cases broken
    rfl
  | waits _ | notText _ | notReply _ _ | answered _ _ => cases broken

end

theorem closed_feed {bytes : List UInt8} {closed : Bool} :
    (p.feed bytes closed).closed = (p.closed || closed) := by
  cases state : p.closed with
  | true => rw [feed_of_closed state, state, Bool.true_or]
  | false => rw [feed_of_open state, Bool.false_or]

theorem closed_pass_of_wrote {bytes : List UInt8} {closed : Bool} (working : p.broken? = none)
    (wrote : turn.reaction = .wrote bytes closed) :
    (p.pass turn).after.closed = (p.closed || closed) := by
  rw [pass_of_wrote working wrote, closed_settle, closed_feed]

theorem broken?_pass_iff (working : p.broken? = none) :
    (p.pass turn).after.broken? = some reason ↔ (p.pass turn).Breaks reason := by
  cases lawful_pass turn p with
  | broken broken unsent failed kept => cases working.symm.trans broken
  | refused _ refused sent failed kept =>
    rw [kept, before_pass, working]
    constructor
    · nofun
    · -- A request that is turned down leaves nothing to read, and the stream is not looked at.
      have unread := (Passage.unread (.inr ⟨_, refused⟩)).2
      rintro (⟨wrote, shut, nothing⟩ | ⟨next, read, named, later⟩)
      · cases refused.symm.trans wrote
      · simp [Passage.consumed, next] at unread
  | read _ wrote sent shared stale fresh drained ends =>
    have closing : (p.pass turn).after.closed = _ := closed_pass_of_wrote working wrote
    rw [ends.reason_iff, closing]
    constructor
    · rintro (⟨nothing, shut, rfl⟩ | ⟨line, reply, other, next, read, named, later, rfl⟩)
      · exact .ended wrote shut nothing
      · exact .ahead next read named later
    · rintro (⟨again, shut, nothing⟩ | ⟨next, read, named, later⟩)
      · cases wrote.symm.trans again
        exact .inl ⟨nothing, shut, rfl⟩
      · exact .inr ⟨_, _, _, next, read, named, later, rfl⟩

theorem answer?_of_breaks (working : p.broken? = none) (breaks : (p.pass turn).Breaks reason) :
    (p.pass turn).answer? = some (.error (.failed turn.call.operation reason)) := by
  have broken := (broken?_pass_iff working).2 breaks
  have failed : (p.pass turn).outcome? = some (.error (.failed turn.call.operation reason)) := by
    cases lawful_pass turn p with
    | broken earlier unsent failed kept => cases working.symm.trans earlier
    | refused _ refused sent failed kept => rw [kept, before_pass, working] at broken; cases broken
    | read _ wrote sent shared stale fresh drained ends => exact ends.outcome_of_reason broken
  rw [Passage.answer?, failed]
  rfl

theorem sent_pass_of_working (working : p.broken? = none) :
    (p.pass turn).sent = [requestLine p.nextId turn.call] := by
  cases lawful_pass turn p with
  | broken broken unsent failed kept => cases working.symm.trans broken
  | refused _ refused sent failed kept => exact sent
  | read _ wrote sent shared stale fresh drained ends => exact sent

/-- Reading the result of a reply as an answer has no part in what becomes of the pipe. -/
theorem answer_pass (turn : Turn) (p : Pipe) :
    answer (noting turn.reaction) turn.call p [] =
      (((p.pass turn).answer?, (p.pass turn).after), (p.pass turn).sent) := rfl

/-! ## The calls after it -/

theorem eq_pass_of_mem {turns : List Turn} {s : Passage} (member : s ∈ passages p turns) :
    s = s.before.pass s.toTurn := by
  induction turns generalizing p with
  | nil => cases member
  | cons turn turns ih =>
    rcases List.mem_cons.1 member with rfl | later
    · rfl
    · exact ih later

/-- A broken pipe changes by its number alone. -/
theorem before_of_broken {turns : List Turn} {s : Passage} (broken : p.broken? = some reason)
    (member : s ∈ passages p turns) : s.before = { p with nextId := s.id } := by
  induction turns generalizing p with
  | nil => cases member
  | cons turn turns ih =>
    rcases List.mem_cons.1 member with rfl | later
    · rfl
    · rw [pass_of_broken broken] at later
      exact ih (p := { p with nextId := p.nextId + 1 }) broken later

theorem drop_passages {turns : List Turn} {i : Nat} {s : Passage}
    (found : (passages p turns)[i]? = some s) :
    (passages p turns).drop (i + 1) = passages s.after (turns.drop (i + 1)) := by
  induction turns generalizing p i with
  | nil => simp [passages] at found
  | cons turn turns ih =>
    rw [passages, List.drop_succ_cons, List.drop_succ_cons]
    cases i with
    | zero =>
      obtain rfl : p.pass turn = s := by simpa [passages] using found
      simp
    | succ i => exact ih (by simpa [passages] using found)

theorem before_of_later {turns : List Turn} {i j : Nat} {s t : Passage}
    (found : (passages p turns)[i]? = some s) (later : (passages p turns)[j]? = some t)
    (less : i < j) (broken : s.after.broken? = some reason) :
    t.before = { s.after with nextId := t.id } := by
  -- The calls after call `i` are a run of their own, from the pipe that it leaves.
  have member : t ∈ passages s.after (turns.drop (i + 1)) := by
    rw [← drop_passages found]
    apply List.mem_of_getElem? (i := j - (i + 1))
    rw [List.getElem?_drop, Nat.add_sub_cancel' less]
    exact later
  exact before_of_broken broken member

/-- In a run of calls, whatever they ask and whatever the analyzer does, the requests are numbered
    from one.  A call that finds the pipe working hands its request over, and breaks the pipe exactly
    for the reasons that `Passage.Breaks` lists, by which it fails itself.  Every later call fails by
    the same reason, hands nothing over, takes no line and leaves the pipe as it is but for the
    number. -/
theorem pipe_stays_broken (turns : List Turn) :
    (∀ (i : Nat) (s : Passage), (passages {} turns)[i]? = some s →
      s.id = UInt64.ofNat (i + 1) ∧
      answer (noting s.reaction) s.call s.before [] = ((s.answer?, s.after), s.sent) ∧
      (s.before.broken? = none →
        s.sent = [requestLine s.id s.call] ∧
        (∀ reason, s.after.broken? = some reason ↔ s.Breaks reason) ∧
        ∀ reason, s.Breaks reason →
          s.answer? = some (.error (.failed s.call.operation reason)))) ∧
    ∀ (i j : Nat) (s t : Passage) (reason : String), (passages {} turns)[i]? = some s →
      (passages {} turns)[j]? = some t → i < j → s.after.broken? = some reason →
      t.sent = [] ∧ t.consumed = [] ∧
        t.answer? = some (.error (.failed t.call.operation reason)) ∧
        t.after = { s.after with nextId := UInt64.ofNat (j + 2) } := by
  have numbered : ∀ (i : Nat) (s : Passage), (passages {} turns)[i]? = some s →
      s.id = UInt64.ofNat (i + 1) := by
    intro i s found
    rw [id_passages found, Nat.add_comm i, UInt64.ofNat_add]
    rfl
  constructor
  · intro i s found
    have passed := eq_pass_of_mem (List.mem_of_getElem? found)
    refine ⟨numbered i s found, ?_, ?_⟩
    · rw [passed]
      exact answer_pass s.toTurn s.before
    · intro working
      rw [passed]
      exact ⟨sent_pass_of_working working, fun reason => broken?_pass_iff working,
        fun reason breaks => answer?_of_breaks working breaks⟩
  · intro i j s t reason found later less broken
    have kept := before_of_later found later less broken
    have still : t.before.broken? = some reason := by
      rw [kept]
      exact broken
    have passed := eq_pass_of_mem (List.mem_of_getElem? later)
    rw [pass_of_broken still] at passed
    refine ⟨?_, (Passage.unread (.inl ⟨reason, still⟩)).2, ?_, ?_⟩
    · rw [passed]
    · rw [passed]
      rfl
    · have next : t.id + 1 = UInt64.ofNat (j + 2) := by
        rw [numbered j t later, ← UInt64.ofNat_one, ← UInt64.ofNat_add]
      rw [← next, passed, kept]
      rfl

/-- A word that is no reply, a reply to a request that is still to come, and two calls after it. -/
def hasty : List Turn :=
  [⟨.lint "/a" ⟨∅⟩, .wrote "ready\n".toUTF8.toList false⟩,
    ⟨.findDefinitions "/a" ⟨∅⟩ (Position.origin.toAnalyzer),
      .wrote "\x7b\"id\":9\x7d\n\x7b\"id\":2\x7d\n".toUTF8.toList false⟩,
    ⟨.formatDocument "/a" ⟨∅⟩, .wrote "\x7b\"id\":3,\"result\":\"\"\x7d\n".toUTF8.toList false⟩,
    ⟨.removeCachedSchema "/a", .wrote "\x7b\"id\":4\x7d\n".toUTF8.toList true⟩]

theorem pipe_stays_broken_hasty :
    ∃ s t, (passages {} hasty)[1]? = some s ∧ (passages {} hasty)[3]? = some t ∧
      s.Breaks (aheadReason 2 9) ∧
      t.answer? = some (.error (.failed .removeCachedSchema (aheadReason 2 9))) ∧
      t.after = { s.after with nextId := 5 } ∧ s.after.lines.length = 1 ∧
      (passages {} hasty).map (fun s => s.sent.length) = [1, 1, 0, 0] ∧
      (passages {} hasty).map (fun s => s.after.broken?) =
        [none, some (aheadReason 2 9), some (aheadReason 2 9), some (aheadReason 2 9)] := by
  obtain ⟨each, later⟩ := pipe_stays_broken hasty
  have broken : ((passages {} hasty)[1]?.map fun s => (s.before.broken?, s.after.broken?)) =
      some (none, some (aheadReason 2 9)) := by decide +kernel
  obtain ⟨s, found, states⟩ := Option.map_eq_some_iff.1 broken
  have breaks : s.after.broken? = some (aheadReason 2 9) := congrArg Prod.snd states
  obtain ⟨_, _, working⟩ := each 1 s found
  obtain ⟨_, _, failed, kept⟩ := later 1 3 s _ _ found rfl (by decide) breaks
  refine ⟨s, _, found, rfl, ?_, failed, kept, ?_, by decide +kernel, by decide +kernel⟩
  · exact ((working (congrArg Prod.fst states)).2.1 _).1 breaks
  · cases found
    decide +kernel

end SchemaServer.Pipe
