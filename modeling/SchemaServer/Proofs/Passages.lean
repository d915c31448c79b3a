import SchemaServer.Proofs.Replies

/-! # Calls through a pipe share out its lines

A run of calls through one pipe, against an analyzer that may do anything on each request.  Every
line that the analyzer writes goes to one call at most, in the order of the lines: a call takes the
stale replies at the front and one line more.

* `Passage` is one call with everything that can be seen of it, `passages` a run of them.
* `Lines` says what the lines of a sequence of bytes are, apart from how they are found.
* `Passage.Lawful` lists what a call can do, and `lawful_pass` says that it does nothing else.
* `Accounts` is the invariant: what has been taken and what can still be read are the lines of what
  the analyzer has written. -/

namespace SchemaServer.Pipe

open Analyzer (Outcome)

/-! ## Passages -/

/-- A call, and what the analyzer does if it gets the request. -/
structure Turn where
  call : Analyzer.Call
  reaction : Reaction

/-- One call through a pipe: the pipe before and after it, the lines that were handed to the
    analyzer, and the outcome unless the call still waits. -/
structure Passage extends Turn where
  before : Pipe
  sent : List String
  outcome? : Option (Outcome Json)
  after : Pipe

def noting (reaction : Reaction) (line : String) : StateM (List String) Reaction :=
  fun sent => (reaction, sent ++ [line])

def pass (turn : Turn) (p : Pipe) : Passage :=
  let ((outcome?, after), sent) := exchange (noting turn.reaction) turn.call p []
  { turn with before := p, sent, outcome?, after }

def passages (p : Pipe) : List Turn → List Passage
  | [] => []
  | turn :: turns => p.pass turn :: passages (p.pass turn).after turns

def afterAll (p : Pipe) (turns : List Turn) : Pipe :=
  turns.foldl (fun p turn => (p.pass turn).after) p

namespace Passage

def id (s : Passage) : UInt64 := s.before.nextId

/-- What the analyzer writes for this call; a broken pipe hands nothing over, and nothing comes after
    the output has been closed. -/
def written (s : Passage) : List UInt8 :=
  match s.before.broken?, s.reaction with
  | none, .wrote bytes _ => if s.before.closed then [] else bytes
  | _, _ => []

def available (s : Passage) : List (List UInt8) :=
  match s.before.broken?, s.reaction with
  | none, .wrote bytes closed => (s.before.feed bytes closed).readable
  | _, _ => []

def skipped (s : Passage) : List (List UInt8) := s.available.takeWhile (isStale s.id)

/-- The line that decides the call. -/
def taken? (s : Passage) : Option (List UInt8) := (s.available.dropWhile (isStale s.id)).head?

/-- The lines that nobody can read after the call. -/
def consumed (s : Passage) : List (List UInt8) := s.skipped ++ s.taken?.toList

end Passage

/-! ## What is written and what can be read -/

/-- `bytes` is made of these lines, each with its line break, and of an unfinished one. -/
structure Lines (bytes : List UInt8) (lines : List (List UInt8)) (tail : List UInt8) : Prop where
  whole : lines.flatten ++ tail = bytes
  ended : ∀ line ∈ lines, ∃ content, 10 ∉ content ∧ line = content ++ [10]
  unfinished : 10 ∉ tail

/-- The lines that `bytes` gives to a reader: once nothing more will come, what follows the last
    line break is one as well. -/
def ReadAs (bytes : List UInt8) (shut : Bool) (lines : List (List UInt8)) : Prop :=
  ∃ whole tail, Lines bytes whole tail ∧
    lines = if shut && !tail.isEmpty then whole ++ [tail] else whole

theorem lines_splitLines (bytes : List UInt8) :
    Lines bytes (splitLines bytes).1 (splitLines bytes).2 := by
  induction bytes with
  | nil => exact ⟨rfl, by simp [splitLines], by simp [splitLines]⟩
  | cons b bytes ih =>
    obtain ⟨whole, ended, unfinished⟩ := ih
    by_cases ending : b = 10
    · simp only [splitLines, if_pos ending]
      refine ⟨by simp [whole], ?_, unfinished⟩
      intro line member
      rcases List.mem_cons.1 member with rfl | later
      · exact ⟨[], by simp, by simp [ending]⟩
      · exact ended line later
    · simp only [splitLines, if_neg ending]
      -- `b` opens the first of the lines, or the unfinished one if there is none.
      cases complete : (splitLines bytes).1 with
      | nil =>
        rw [complete] at whole
        refine ⟨by simpa using whole, by simp, ?_⟩
        simp [unfinished, Ne.symm ending]
      | cons first lines =>
        rw [complete] at whole ended
        refine ⟨by simpa using whole, ?_, unfinished⟩
        intro line member
        rcases List.mem_cons.1 member with rfl | later
        · obtain ⟨content, plain, rfl⟩ := ended first List.mem_cons_self
          exact ⟨b :: content, by simp [plain, Ne.symm ending], rfl⟩
        · exact ended line (List.mem_cons_of_mem _ later)

/-- What is written later continues the unfinished line. -/
theorem Lines.append {bytes tail : List UInt8} {lines : List (List UInt8)}
    (early : Lines bytes lines tail) (later : List UInt8) :
    Lines (bytes ++ later) (lines ++ (splitLines (tail ++ later)).1)
      (splitLines (tail ++ later)).2 := by
  obtain ⟨whole, ended, unfinished⟩ := lines_splitLines (tail ++ later)
  refine ⟨?_, ?_, unfinished⟩
  · rw [List.flatten_append, List.append_assoc, whole, ← List.append_assoc, early.whole]
  · intro line member
    rcases List.mem_append.1 member with before | after
    · exact early.ended line before
    · exact ended line after

variable {p : Pipe} {turn : Turn} {reason : String} {bytes : List UInt8} {closed : Bool}

theorem readable_of_open (more : p.closed = false) : p.readable = p.lines := by
  simp [readable, more]

theorem feed_of_closed (shut : p.closed = true) : p.feed bytes closed = p := by
  simp [feed, shut]

theorem feed_of_open (more : p.closed = false) :
    p.feed bytes closed = { p with
      lines := p.lines ++ (splitLines (p.tail ++ bytes)).1
      tail := (splitLines (p.tail ++ bytes)).2
      closed } := by
  simp [feed, more]

@[simp] theorem nextId_feed : (p.feed bytes closed).nextId = p.nextId := by
  unfold feed
  split <;> rfl

@[simp] theorem broken?_feed : (p.feed bytes closed).broken? = p.broken? := by
  unfold feed
  split <;> rfl

theorem readable_feed_renumbered (id : UInt64) :
    (feed bytes closed { p with nextId := id }).readable = (p.feed bytes closed).readable := by
  unfold feed
  split <;> rfl

/-- The lines that have been taken and those that can be read are the lines that were written. -/
structure Accounts (written : List UInt8) (taken : List (List UInt8)) (p : Pipe) : Prop where
  more : p.closed = false → Lines written (taken ++ p.lines) p.tail
  shut : p.closed = true → ReadAs written true (taken ++ p.readable)

theorem accounts_fresh : Accounts [] [] {} := ⟨fun _ => lines_splitLines [], fun shut => nomatch shut⟩

theorem Accounts.readAs {written : List UInt8} {taken : List (List UInt8)}
    (accounts : Accounts written taken p) : ReadAs written p.closed (taken ++ p.readable) := by
  cases state : p.closed with
  | true => exact accounts.shut state
  | false =>
    rw [readable_of_open state]
    exact ⟨taken ++ p.lines, p.tail, accounts.more state, rfl⟩

theorem Accounts.feed {written : List UInt8} {taken : List (List UInt8)}
    (accounts : Accounts written taken p) (more : p.closed = false) :
    Accounts (written ++ bytes) taken (p.feed bytes closed) := by
  -- The lines before and the new ones are those of all bytes, whether or not the output closes now.
  have lines := (accounts.more more).append bytes
  rw [List.append_assoc] at lines
  rw [feed_of_open more]
  refine ⟨fun _ => lines, fun shut => ⟨_, _, lines, ?_⟩⟩
  simp only at shut
  simp only [readable, shut, Bool.true_and]
  split <;> simp

/-- Lines that are taken from the front move from what can be read to what has been taken. -/
theorem Accounts.take {written : List UInt8} {taken next : List (List UInt8)} {q : Pipe}
    (accounts : Accounts written taken p) (shared : p.readable = next ++ q.readable)
    (closed : q.closed = p.closed) (tail : p.closed = false → q.tail = p.tail) :
    Accounts written (taken ++ next) q := by
  constructor
  · intro more
    have moreBefore := closed ▸ more
    rw [readable_of_open more, readable_of_open moreBefore] at shared
    rw [List.append_assoc, ← shared, tail moreBefore]
    exact accounts.more moreBefore
  · intro shut
    rw [List.append_assoc, ← shared]
    exact accounts.shut (closed ▸ shut)

/-! ## One call -/

theorem pass_of_broken (broken : p.broken? = some reason) :
    p.pass turn = { turn with
      before := p
      sent := []
      outcome? := some (.error (.failed turn.call.operation reason))
      after := { p with nextId := p.nextId + 1 } } := by
  simp only [pass, exchange, broken]
  rfl

theorem pass_of_refused (working : p.broken? = none) (refused : turn.reaction = .refused reason) :
    p.pass turn = { turn with
      before := p
      sent := [requestLine p.nextId turn.call]
      outcome? := some (.error (.failed turn.call.operation reason))
      after := { p with nextId := p.nextId + 1 } } := by
  simp only [pass, exchange, working, refused]
  rfl

theorem pass_of_wrote (working : p.broken? = none) (wrote : turn.reaction = .wrote bytes closed) :
    p.pass turn = { turn with
      before := p
      sent := [requestLine p.nextId turn.call]
      outcome? := ((feed bytes closed { p with nextId := p.nextId + 1 }).settle
        turn.call.operation p.nextId).1
      after := ((feed bytes closed { p with nextId := p.nextId + 1 }).settle
        turn.call.operation p.nextId).2 } := by
  simp only [pass, exchange, working, wrote]
  rfl

theorem settle_of_working (working : p.broken? = none) (operation : Operation) (id : UInt64) :
    p.settle operation id =
      ((await operation id p.closed p.readable).1.outcome?,
        { p with
          lines := (await operation id p.closed p.readable).2
          tail := if p.closed then [] else p.tail
          broken? := (await operation id p.closed p.readable).1.reason? }) := by
  unfold settle
  rcases await operation id p.closed p.readable with ⟨awaited, lines⟩
  cases awaited with
  | decided outcome reason? => rfl
  | pending => simp [Awaited.outcome?, Awaited.reason?, working]

@[simp] theorem closed_settle (operation : Operation) (id : UInt64) :
    (p.settle operation id).2.closed = p.closed := by
  unfold settle
  rcases await operation id p.closed p.readable with ⟨_ | _, _⟩ <;> rfl

@[simp] theorem nextId_settle (operation : Operation) (id : UInt64) :
    (p.settle operation id).2.nextId = p.nextId := by
  unfold settle
  rcases await operation id p.closed p.readable with ⟨_ | _, _⟩ <;> rfl

theorem tail_settle_of_open (more : p.closed = false) (operation : Operation) (id : UInt64) :
    (p.settle operation id).2.tail = p.tail := by
  unfold settle
  rcases await operation id p.closed p.readable with ⟨_ | _, _⟩ <;> simp [more]

/-- Settling takes one line after the stale ones, and the rest can still be read. -/
theorem settle_spec (working : p.broken? = none) (operation : Operation) (id : UInt64) :
    (p.settle operation id).2.readable = (p.readable.dropWhile (isStale id)).tail ∧
      Ends operation id p.closed (p.readable.dropWhile (isStale id)).head?
        (p.settle operation id).1 (p.settle operation id).2.broken? := by
  obtain ⟨left, ends⟩ := await_spec operation id p.closed p.readable
  rw [settle_of_working working]
  refine ⟨?_, ends⟩
  rw [← left]
  cases shut : p.closed with
  | true => simp [readable, shut]
  | false => simp [readable, shut]

inductive Passage.Lawful (s : Passage) : Prop where
  /-- The pipe was broken before: the analyzer hears nothing, and no line is taken. -/
  | broken {reason : String} (broken : s.before.broken? = some reason) (unsent : s.sent = [])
      (failed : s.outcome? = some (.error (.failed s.call.operation reason)))
      (kept : s.after = { s.before with nextId := s.id + 1 })
  /-- The analyzer does not take the request: no line is taken. -/
  | refused {reason : String} (working : s.before.broken? = none)
      (refused : s.reaction = .refused reason) (sent : s.sent = [requestLine s.id s.call])
      (failed : s.outcome? = some (.error (.failed s.call.operation reason)))
      (kept : s.after = { s.before with nextId := s.id + 1 })
  /-- The analyzer takes the request: the call passes over the stale lines and takes the next. -/
  | read {bytes : List UInt8} {closed : Bool} (working : s.before.broken? = none)
      (wrote : s.reaction = .wrote bytes closed) (sent : s.sent = [requestLine s.id s.call])
      (shared : s.available = s.skipped ++ s.taken?.toList ++ s.after.readable)
      (stale : ∀ line ∈ s.skipped, isStale s.id line = true)
      (fresh : ∀ line, s.taken? = some line → isStale s.id line = false)
      (drained : s.taken? = none → s.after.readable = [])
      (ends : Ends s.call.operation s.id s.after.closed s.taken? s.outcome? s.after.broken?)

theorem toList_head?_append_tail {α : Type} (l : List α) : l.head?.toList ++ l.tail = l := by
  cases l <;> rfl

@[simp] theorem before_pass : (p.pass turn).before = p := rfl

@[simp] theorem id_pass : (p.pass turn).id = p.nextId := rfl

@[simp] theorem toTurn_pass : (p.pass turn).toTurn = turn := rfl

theorem available_pass_of_wrote (working : p.broken? = none)
    (wrote : turn.reaction = .wrote bytes closed) :
    (p.pass turn).available = (p.feed bytes closed).readable := by
  simp only [Passage.available, before_pass, toTurn_pass, working, wrote]

theorem Passage.isStale_of_mem_skipped {s : Passage} {line : List UInt8} (member : line ∈ s.skipped) :
    isStale s.id line = true :=
  List.all_eq_true.1 List.all_takeWhile line member

theorem lawful_pass (turn : Turn) (p : Pipe) : (p.pass turn).Lawful := by
  cases state : p.broken? with
  | some reason =>
    rw [pass_of_broken state]
    exact .broken state rfl rfl rfl
  | none =>
    cases reaction : turn.reaction with
    | refused reason =>
      rw [pass_of_refused state reaction]
      exact .refused state reaction rfl rfl rfl
    | wrote bytes closed =>
      -- The request's number is used up before the wait, which makes no difference to the lines.
      have found := available_pass_of_wrote state reaction
      have passed := pass_of_wrote state reaction
      rw [← readable_feed_renumbered (p.nextId + 1)] at found
      have working : (feed bytes closed { p with nextId := p.nextId + 1 }).broken? = none := by
        rw [broken?_feed, state]
      obtain ⟨left, ends⟩ := settle_spec working turn.call.operation p.nextId
      have after : (p.pass turn).after.readable =
          ((p.pass turn).available.dropWhile (isStale (p.pass turn).id)).tail := by
        rw [found, passed]
        exact left
      refine .read state reaction (by rw [passed]; rfl) ?_ ?_ ?_ ?_ ?_
      · rw [after, List.append_assoc, Passage.taken?, Passage.skipped, toList_head?_append_tail]
        exact List.takeWhile_append_dropWhile.symm
      · intro line member
        exact Passage.isStale_of_mem_skipped member
      · intro line next
        have notStale := List.head?_dropWhile_not (isStale (p.pass turn).id) (p.pass turn).available
        rw [← Passage.taken?, next] at notStale
        exact notStale
      · intro nothing
        rw [after, List.head?_eq_none_iff.1 nothing]
        rfl
      · rw [Passage.taken?, found, passed, closed_settle]
        exact ends

theorem nextId_pass (turn : Turn) (p : Pipe) : (p.pass turn).after.nextId = p.nextId + 1 := by
  cases state : p.broken? with
  | some reason => rw [pass_of_broken state]
  | none =>
    cases reaction : turn.reaction with
    | refused reason => rw [pass_of_refused state reaction]
    | wrote bytes closed => rw [pass_of_wrote state reaction, nextId_settle, nextId_feed]

theorem Accounts.renumbered {written : List UInt8} {taken : List (List UInt8)}
    (accounts : Accounts written taken p) (id : UInt64) :
    Accounts written taken { p with nextId := id } :=
  ⟨accounts.more, accounts.shut⟩

/-- A call that the analyzer does not hear of or turns down has no part in what it writes. -/
theorem Passage.unread {s : Passage}
    (idle : (∃ reason, s.before.broken? = some reason) ∨ ∃ reason, s.reaction = .refused reason) :
    s.written = [] ∧ s.consumed = [] := by
  have nothing : s.written = [] ∧ s.available = [] := by
    unfold written available
    rcases idle with ⟨reason, broken⟩ | ⟨reason, refused⟩
    · simp [broken]
    · cases s.before.broken? <;> simp [refused]
  refine ⟨nothing.1, ?_⟩
  simp [consumed, skipped, taken?, nothing.2]

theorem Accounts.pass {written : List UInt8} {taken : List (List UInt8)}
    (accounts : Accounts written taken p) (turn : Turn) :
    Accounts (written ++ (p.pass turn).written) (taken ++ (p.pass turn).consumed)
      (p.pass turn).after := by
  cases lawful_pass turn p with
  | broken broken unsent failed kept =>
    obtain ⟨silent, untouched⟩ := Passage.unread (.inl ⟨_, broken⟩)
    rw [silent, untouched, List.append_nil, List.append_nil, kept]
    exact accounts.renumbered _
  | refused working refused sent failed kept =>
    obtain ⟨silent, untouched⟩ := Passage.unread (.inr ⟨_, refused⟩)
    rw [silent, untouched, List.append_nil, List.append_nil, kept]
    exact accounts.renumbered _
  | @read bytes closed working wrote sent shared stale fresh drained ends =>
    rw [before_pass] at working
    rw [toTurn_pass] at wrote
    have found := available_pass_of_wrote working wrote
    rw [← readable_feed_renumbered (p.nextId + 1), shared] at found
    -- First the analyzer writes, then the call takes its lines from the front.
    have fed : Accounts (written ++ (p.pass turn).written) taken
        (Pipe.feed bytes closed { p with nextId := p.nextId + 1 }) := by
      by_cases shut : p.closed = true
      · have silent : (p.pass turn).written = [] := by
          simp [Passage.written, working, wrote, shut]
        rw [silent, List.append_nil, feed_of_closed (by exact shut)]
        exact accounts.renumbered _
      · have said : (p.pass turn).written = bytes := by
          simp [Passage.written, working, wrote, shut]
        rw [said]
        exact (accounts.renumbered _).feed (by simpa using shut)
    apply fed.take found.symm
    · rw [pass_of_wrote working wrote, closed_settle]
    · intro more
      rw [pass_of_wrote working wrote, tail_settle_of_open more]

/-! ## Runs of calls -/

theorem passages_toTurn (turns : List Turn) (p : Pipe) :
    (passages p turns).map Passage.toTurn = turns := by
  induction turns generalizing p with
  | nil => rfl
  | cons turn turns ih => rw [passages, List.map_cons, ih, toTurn_pass]

theorem lawful_of_mem_passages {turns : List Turn} {s : Passage} (member : s ∈ passages p turns) :
    s.Lawful := by
  induction turns generalizing p with
  | nil => cases member
  | cons turn turns ih =>
    rcases List.mem_cons.1 member with rfl | later
    · exact lawful_pass turn p
    · exact ih later

theorem Accounts.passages {written : List UInt8} {taken : List (List UInt8)}
    (accounts : Accounts written taken p) (turns : List Turn) :
    Accounts (written ++ (passages p turns).flatMap Passage.written)
      (taken ++ (passages p turns).flatMap Passage.consumed) (p.afterAll turns) := by
  induction turns generalizing p written taken with
  | nil => simpa [Pipe.passages, afterAll] using accounts
  | cons turn turns ih =>
    have rest := ih (accounts.pass turn)
    simpa only [Pipe.passages, afterAll, List.flatMap_cons, List.append_assoc,
      List.foldl_cons] using rest

theorem id_passages {turns : List Turn} {i : Nat} {s : Passage}
    (found : (passages p turns)[i]? = some s) : s.id = p.nextId + UInt64.ofNat i := by
  induction turns generalizing p i with
  | nil => simp [passages] at found
  | cons turn turns ih =>
    cases i with
    | zero =>
      obtain rfl : p.pass turn = s := by simpa [passages] using found
      simp [Passage.id]
    | succ i =>
      have later := ih (show (passages (p.pass turn).after turns)[i]? = some s by
        simpa [passages] using found)
      rw [later, nextId_pass, UInt64.add_assoc, Nat.add_comm i, UInt64.ofNat_add]
      rfl

theorem Passage.Lawful.of_ok {s : Passage} (lawful : s.Lawful) {value : Json}
    (succeeded : s.outcome? = some (.ok value)) :
    ∃ line reply, s.taken? = some line ∧ reply? line = some reply ∧
      (reply.id? = none ∨ reply.id? = some s.id) ∧ reply.outcome s.call.operation = .ok value := by
  cases lawful with
  | broken broken unsent failed kept => rw [failed] at succeeded; cases succeeded
  | refused working refused sent failed kept => rw [failed] at succeeded; cases succeeded
  | read working wrote sent shared stale fresh drained ends => exact ends.of_ok succeeded

theorem Passage.Lawful.of_foreign {s : Passage} (lawful : s.Lawful) {line : List UInt8}
    {reply : Reply} {other : UInt64} (taken : s.taken? = some line) (read : reply? line = some reply)
    (named : reply.id? = some other) (foreign : other ≠ s.id) :
    s.outcome? = some (.error (.failed s.call.operation (aheadReason s.id other))) := by
  have found : line ∈ s.consumed := by
    simp [consumed, taken]
  cases lawful with
  | broken broken unsent failed kept =>
    rw [(unread (.inl ⟨_, broken⟩)).2] at found
    cases found
  | refused working refused sent failed kept =>
    rw [(unread (.inr ⟨_, refused⟩)).2] at found
    cases found
  | read working wrote sent shared stale fresh drained ends =>
    exact ends.of_foreign taken read named foreign

/-- Calls through one pipe share out the lines of the analyzer.  The requests are numbered from one.
    The lines that the calls take, call by call, and those that can still be read are the lines that
    the analyzer wrote.  Each call does what `Passage.Lawful` says: unless the pipe is broken or the
    request turned down, it passes over the longest run of replies to earlier requests and takes one
    line more, if there is one.  A result comes only from a reply that names this request or none,
    and a reply that names another request gives nothing but its number. -/
theorem lines_shared_out (turns : List Turn) (few : turns.length < UInt64.size) :
    (passages {} turns).map Passage.toTurn = turns ∧
    (∀ i s, (passages {} turns)[i]? = some s → s.id.toNat = i + 1) ∧
    ReadAs ((passages {} turns).flatMap Passage.written) (afterAll {} turns).closed
      ((passages {} turns).flatMap Passage.consumed ++ (afterAll {} turns).readable) ∧
    ∀ s ∈ passages {} turns, s.Lawful ∧
      (∀ value, s.outcome? = some (.ok value) →
        ∃ line reply, s.taken? = some line ∧ reply? line = some reply ∧
          (reply.id? = none ∨ reply.id? = some s.id) ∧
          reply.outcome s.call.operation = .ok value) ∧
      ∀ line reply other, s.taken? = some line → reply? line = some reply →
        reply.id? = some other → other ≠ s.id →
        s.outcome? = some (.error (.failed s.call.operation (aheadReason s.id other))) := by
  refine ⟨passages_toTurn turns {}, ?_, (accounts_fresh.passages turns).readAs, ?_⟩
  · intro i s found
    have within : i < (passages {} turns).length := (List.getElem?_eq_some_iff.1 found).1
    have counted : (passages {} turns).length = turns.length := by
      rw [← List.length_map Passage.toTurn, passages_toTurn]
    rw [id_passages found, UInt64.toNat_add, UInt64.toNat_ofNat']
    have one : ({} : Pipe).nextId.toNat = 1 := rfl
    have size : UInt64.size = 18446744073709551616 := rfl
    omega
  · intro s member
    have lawful := lawful_of_mem_passages member
    refine ⟨lawful, fun value succeeded => lawful.of_ok succeeded, ?_⟩
    intro line reply other taken read named foreign
    exact lawful.of_foreign taken read named foreign

/-- Two calls, and an analyzer that answers the first twice before it closes its output. -/
def answeredTwice : List Turn :=
  [⟨.removeCachedSchema "/a",
      .wrote "\x7b\"id\":1\x7d\n\x7b\"id\":1\x7d\n".toUTF8.toList false⟩,
    ⟨.removeCachedSchema "/b", .wrote "\x7b\"id\":2\x7d".toUTF8.toList true⟩]

theorem lines_shared_out_answeredTwice :
    answeredTwice.length < UInt64.size ∧
    ReadAs ((passages {} answeredTwice).flatMap Passage.written) (afterAll {} answeredTwice).closed
      ((passages {} answeredTwice).flatMap Passage.consumed ++
        (afterAll {} answeredTwice).readable) ∧
    (∀ s ∈ passages {} answeredTwice, s.Lawful) ∧
    -- The second call passes over one line, and then takes the unfinished one.
    (passages {} answeredTwice).map (fun s => (s.skipped.length, s.taken?.map List.length)) =
      [(0, some 9), (1, some 8)] := by
  have few : answeredTwice.length < UInt64.size := by decide
  obtain ⟨_, _, shared, each⟩ := lines_shared_out answeredTwice few
  exact ⟨few, shared, fun s member => (each s member).1, by decide +kernel⟩

end SchemaServer.Pipe
