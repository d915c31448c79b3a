import SchemaServer.Proofs.Passages

/-! # A pipe falls back into step

An analyzer that answers every request, but also repeats itself, answers late and writes lines that
are no replies.  Its pipe never breaks and no call waits.  A line that is no reply costs one call at
most, and every other call gets the first reply to its own request.

What makes this work is `Synced`: all that an earlier call can leave in the pipe are replies to
earlier requests, which are skipped, and lines that are no replies.  The costs follow from sharing
out the lines, as each line is taken once. -/

namespace SchemaServer.Pipe

open Analyzer (Outcome)

/-! ## Blocks of lines -/

/-- A line as it is written, apart from its line break. -/
structure Line where
  content : List UInt8
  plain : 10 ∉ content

def Line.bytes (line : Line) : List UInt8 := line.content ++ [10]

/-- A call, and the lines that the analyzer writes on getting the request. -/
structure Round where
  call : Analyzer.Call
  block : List Line

def Round.lines (round : Round) : List (List UInt8) := round.block.map Line.bytes

def Round.turn (round : Round) : Turn := ⟨round.call, .wrote round.lines.flatten false⟩

/-- The block has a reply to request `id`; the other replies in it are to this request or to earlier
    ones. -/
structure Answers (id : UInt64) (block : List (List UInt8)) : Prop where
  own : ∃ line ∈ block, ∃ reply, reply? line = some reply ∧ reply.id? = some id
  others : ∀ line ∈ block, ∀ reply, reply? line = some reply →
    ∃ other, reply.id? = some other ∧ other ≤ id

/-- The rounds answer the requests from `k` on, one after the other. -/
def Answering (k : Nat) (rounds : List Round) : Prop :=
  ∀ i round, rounds[i]? = some round → Answers (UInt64.ofNat (k + i)) round.lines

theorem Answering.head {k : Nat} {round : Round} {rounds : List Round}
    (answering : Answering k (round :: rounds)) : Answers (UInt64.ofNat k) round.lines :=
  answering 0 round rfl

theorem Answering.tail {k : Nat} {round : Round} {rounds : List Round}
    (answering : Answering k (round :: rounds)) : Answering (k + 1) rounds := by
  intro i later member
  rw [Nat.add_assoc, Nat.add_comm 1 i]
  exact answering (i + 1) later member

def ownReply? (id : UInt64) (line : List UInt8) : Option Reply :=
  (reply? line).filter fun reply => reply.id? == some id

def firstReply? (id : UInt64) (lines : List (List UInt8)) : Option Reply :=
  lines.findSome? (ownReply? id)

theorem splitLines_line {content : List UInt8} (plain : 10 ∉ content) (rest : List UInt8) :
    splitLines (content ++ 10 :: rest) =
      ((content ++ [10]) :: (splitLines rest).1, (splitLines rest).2) := by
  induction content with
  | nil => simp [splitLines]
  | cons b content ih =>
    have other : b ≠ 10 := fun same => plain (by simp [same])
    have later : 10 ∉ content := fun member => plain (List.mem_cons_of_mem _ member)
    simp only [List.cons_append, splitLines, if_neg other, ih later]

theorem splitLines_block (block : List Line) :
    splitLines (block.map Line.bytes).flatten = (block.map Line.bytes, []) := by
  induction block with
  | nil => rfl
  | cons line block ih =>
    rw [List.map_cons, List.flatten_cons, Line.bytes, List.append_assoc, List.singleton_append,
      splitLines_line line.plain, ih]

theorem ownReply?_eq_some_iff {id : UInt64} {line : List UInt8} {reply : Reply} :
    ownReply? id line = some reply ↔ reply? line = some reply ∧ reply.id? = some id := by
  simp [ownReply?, Option.filter_eq_some_iff]

theorem ownReply?_eq_none_of_isStale {id : UInt64} {line : List UInt8}
    (stale : isStale id line = true) : ownReply? id line = none := by
  obtain ⟨reply, other, read, named, earlier⟩ := isStale_iff.1 stale
  cases own : ownReply? id line with
  | none => rfl
  | some found =>
    obtain ⟨again, mine⟩ := ownReply?_eq_some_iff.1 own
    cases read.symm.trans again
    cases named.symm.trans mine
    exact absurd earlier (UInt64.lt_irrefl id)

theorem answers_iff {id : UInt64} {block : List (List UInt8)} : Answers id block ↔
    (block.any fun line => (ownReply? id line).isSome) = true ∧
      (block.all fun line => (reply? line).all fun reply => reply.id?.any (· ≤ id)) = true := by
  simp only [List.any_eq_true, Option.isSome_iff_exists, ownReply?_eq_some_iff, List.all_eq_true,
    Option.all_eq_true, Option.any_eq_true, decide_eq_true_eq]
  exact ⟨fun answers => ⟨answers.own, answers.others⟩, fun ⟨own, others⟩ => ⟨own, others⟩⟩

instance (id : UInt64) (block : List (List UInt8)) : Decidable (Answers id block) :=
  decidable_of_iff' _ answers_iff

/-! ## How a call ends -/

/-- How a call of a pipe in step ends: the line it takes is no text, or no reply, or the first reply
    to its own request. -/
inductive Resolved (round : Round) (s : Passage) : Prop where
  | garbled {line : List UInt8} {fault : Utf8.Fault} (taken : s.taken? = some line)
      (bytes : Utf8.decode line = .error fault)
      (failed : s.outcome? = some (.error (.failed round.call.operation fault.message)))
  | violated {line : List UInt8} {content : String} {fault : Json.Fault}
      (taken : s.taken? = some line) (characters : Utf8.decode line = .ok content)
      (unreadable : Reply.shape.parse content = .error fault)
      (failed : s.outcome? = some (.error (.malformed round.call.operation fault)))
  | answered {line : List UInt8} {reply : Reply} (taken : s.taken? = some line)
      (read : reply? line = some reply) (first : firstReply? s.id round.lines = some reply)
      (outcome : s.outcome? = some (reply.outcome round.call.operation))

/-- What holds of the pipe before request `k`. -/
structure Synced (k : Nat) (p : Pipe) : Prop where
  working : p.broken? = none
  more : p.closed = false
  whole : p.tail = []
  next : p.nextId = UInt64.ofNat k
  old : ∀ line ∈ p.lines, ∀ reply, reply? line = some reply →
    ∃ other, reply.id? = some other ∧ other.toNat < k

theorem synced_fresh : Synced 1 {} := ⟨rfl, rfl, rfl, rfl, fun _ member => nomatch member⟩

section
variable {k : Nat} {p : Pipe} {round : Round}

theorem Synced.available (synced : Synced k p) (round : Round) :
    (p.pass round.turn).available = p.lines ++ round.lines := by
  rw [available_pass_of_wrote synced.working rfl, feed_of_open synced.more,
    readable_of_open (by rfl), synced.whole, List.nil_append, Round.lines, splitLines_block]

theorem Synced.toNat_nextId (synced : Synced k p) (few : k < UInt64.size) : p.nextId.toNat = k := by
  rw [synced.next, UInt64.toNat_ofNat']
  exact Nat.mod_eq_of_lt few

theorem Synced.isStale_of_mem (synced : Synced k p) (few : k < UInt64.size) {line : List UInt8}
    {reply : Reply} (member : line ∈ p.lines) (read : reply? line = some reply) :
    isStale p.nextId line = true := by
  obtain ⟨other, named, earlier⟩ := synced.old line member reply read
  rw [← synced.toNat_nextId few] at earlier
  exact isStale_iff.2 ⟨reply, other, read, named, UInt64.lt_iff_toNat_lt.2 earlier⟩

/-- Whatever the call can read, its replies are to this request or to earlier ones. -/
theorem Synced.named_of_mem_available (synced : Synced k p) (few : k < UInt64.size)
    (answers : Answers p.nextId round.lines) {line : List UInt8} {reply : Reply}
    (member : line ∈ (p.pass round.turn).available) (read : reply? line = some reply) :
    ∃ other, reply.id? = some other ∧ other.toNat ≤ k := by
  rw [synced.available, List.mem_append] at member
  rcases member with before | written
  · obtain ⟨other, named, earlier⟩ := synced.old line before reply read
    exact ⟨other, named, Nat.le_of_lt earlier⟩
  · obtain ⟨other, named, upTo⟩ := answers.others line written reply read
    rw [UInt64.le_iff_toNat_le, synced.toNat_nextId few] at upTo
    exact ⟨other, named, upTo⟩

/-- What earlier calls have left does not hide the first reply to this request. -/
theorem Synced.firstReply?_available (synced : Synced k p) (few : k < UInt64.size) (round : Round) :
    firstReply? p.nextId (p.pass round.turn).available = firstReply? p.nextId round.lines := by
  have none_before : p.lines.findSome? (ownReply? p.nextId) = none := by
    rw [List.findSome?_eq_none_iff]
    intro line member
    cases own : ownReply? p.nextId line with
    | none => rfl
    | some reply =>
      have stale := synced.isStale_of_mem few member (ownReply?_eq_some_iff.1 own).1
      rw [ownReply?_eq_none_of_isStale stale] at own
      cases own
  rw [synced.available, firstReply?, List.findSome?_append, none_before, Option.none_or, firstReply?]

theorem Synced.reads (synced : Synced k p) (round : Round) :
    (p.pass round.turn).available = (p.pass round.turn).skipped ++
        (p.pass round.turn).taken?.toList ++ (p.pass round.turn).after.readable ∧
      ((p.pass round.turn).taken? = none → (p.pass round.turn).after.readable = []) ∧
      Ends round.call.operation p.nextId (p.pass round.turn).after.closed
        (p.pass round.turn).taken? (p.pass round.turn).outcome?
        (p.pass round.turn).after.broken? := by
  cases lawful_pass round.turn p with
  | broken broken unsent failed kept => cases synced.working.symm.trans broken
  | refused working refused sent failed kept => cases refused
  | read working wrote sent shared stale fresh drained ends => exact ⟨shared, drained, ends⟩

/-- A block with a reply to this request lets no call wait. -/
theorem Synced.exists_taken (synced : Synced k p) (answers : Answers p.nextId round.lines) :
    ∃ line, (p.pass round.turn).taken? = some line := by
  obtain ⟨line, member, reply, read, named⟩ := answers.own
  cases taken : (p.pass round.turn).taken? with
  | some line => exact ⟨line, rfl⟩
  | none =>
    -- Nothing is left once the stale lines are passed over, so the own reply would be stale.
    obtain ⟨shared, drained, _⟩ := synced.reads round
    rw [drained taken, taken, synced.available] at shared
    have skipped : line ∈ (p.pass round.turn).skipped := by
      have found := List.mem_append_right p.lines member
      rw [shared] at found
      simpa using found
    have lost := ownReply?_eq_none_of_isStale (Passage.isStale_of_mem_skipped skipped)
    rw [id_pass, ownReply?_eq_some_iff.2 ⟨read, named⟩] at lost
    cases lost

theorem Synced.resolved (synced : Synced k p) (few : k < UInt64.size)
    (answers : Answers p.nextId round.lines) :
    Resolved round (p.pass round.turn) ∧ (p.pass round.turn).after.broken? = none := by
  obtain ⟨line, next⟩ := synced.exists_taken answers
  obtain ⟨shared, _, ends⟩ := synced.reads round
  have found : line ∈ (p.pass round.turn).available := by
    rw [shared, next]
    simp
  rcases ends.of_some next with ⟨fault, bytes, failed, kept⟩ |
    ⟨content, fault, characters, parsed, failed, kept⟩ | ⟨reply, read, own, outcome, kept⟩ |
    ⟨reply, later, read, numbered, ahead, _⟩
  · exact ⟨.garbled next bytes failed, kept⟩
  · exact ⟨.violated next characters parsed failed, kept⟩
  · have mine : reply.id? = some p.nextId := by
      obtain ⟨other, named, _⟩ := synced.named_of_mem_available few answers found read
      rcases own with unnamed | mine
      · cases named.symm.trans unnamed
      · exact mine
    -- Every line before this one is stale, so none of them is a reply to this request.
    have first : firstReply? p.nextId (p.pass round.turn).available = some reply := by
      have none_skipped : (p.pass round.turn).skipped.findSome? (ownReply? p.nextId) = none :=
        List.findSome?_eq_none_iff.2 fun line member =>
          ownReply?_eq_none_of_isStale (Passage.isStale_of_mem_skipped member)
      rw [shared, next, firstReply?, List.append_assoc, List.findSome?_append, none_skipped]
      simp [ownReply?_eq_some_iff.2 ⟨read, mine⟩]
    rw [synced.firstReply?_available few] at first
    exact ⟨.answered next read first outcome, kept⟩
  · -- A reply to a later request is none of those that can be here.
    obtain ⟨other, named, upTo⟩ := synced.named_of_mem_available few answers found read
    cases named.symm.trans numbered
    have beyond := UInt64.lt_iff_toNat_lt.1 ahead
    rw [synced.toNat_nextId few] at beyond
    omega

theorem Synced.pass (synced : Synced k p) (few : k < UInt64.size)
    (answers : Answers p.nextId round.lines) : Synced (k + 1) (p.pass round.turn).after := by
  have passed : p.pass round.turn = _ := pass_of_wrote synced.working rfl
  have more : (p.pass round.turn).after.closed = false := by
    rw [passed, closed_settle, feed_of_open (by exact synced.more)]
  refine ⟨(synced.resolved few answers).2, more, ?_, ?_, ?_⟩
  · rw [passed, tail_settle_of_open (by rw [feed_of_open (by exact synced.more)]),
      feed_of_open (by exact synced.more)]
    simp only [synced.whole, List.nil_append, Round.lines, splitLines_block]
  · rw [nextId_pass, synced.next, UInt64.ofNat_add]
    rfl
  · intro line member reply read
    -- What is left was there before or has been written now, and could be read either way.
    rw [← readable_of_open more] at member
    have found : line ∈ (p.pass round.turn).available := by
      rw [(synced.reads round).1]
      exact List.mem_append_right _ member
    obtain ⟨other, named, upTo⟩ := synced.named_of_mem_available few answers found read
    exact ⟨other, named, by omega⟩

/-- Of the lines of one kind, a call that takes one leaves one less to the calls after it. -/
theorem Synced.countP_pass (synced : Synced k p) (kind : List UInt8 → Bool) (few : k < UInt64.size)
    (answers : Answers p.nextId round.lines) :
    (p.pass round.turn).taken?.toList.countP kind + (p.pass round.turn).after.lines.countP kind ≤
      p.lines.countP kind + round.lines.countP kind := by
  have shared := (synced.reads round).1
  rw [synced.available, readable_of_open (synced.pass few answers).more] at shared
  have counted := congrArg (List.countP kind) shared
  simp only [List.countP_append] at counted
  -- The lines that are passed over may be of this kind too, hence no equation.
  omega

/-! ## Runs of calls -/

theorem Synced.resolved_passages {rounds : List Round} (synced : Synced k p)
    (few : k + rounds.length ≤ UInt64.size) (answering : Answering k rounds) {i : Nat} {s : Passage}
    (asked : rounds[i]? = some round)
    (found : (passages p (rounds.map Round.turn))[i]? = some s) :
    Resolved round s ∧ s.after.broken? = none := by
  induction rounds generalizing k p i with
  | nil => simp at asked
  | cons first rounds ih =>
    rw [List.length_cons] at few
    have answers : Answers p.nextId first.lines := synced.next ▸ answering.head
    cases i with
    | zero =>
      cases asked
      cases found
      exact synced.resolved (by omega) answers
    | succ i => exact ih (synced.pass (by omega) answers) (by omega) answering.tail asked found

theorem Synced.countP_passages {rounds : List Round} (synced : Synced k p)
    (kind : List UInt8 → Bool) (few : k + rounds.length ≤ UInt64.size)
    (answering : Answering k rounds) :
    (passages p (rounds.map Round.turn)).countP (fun s => s.taken?.any kind) ≤
      p.lines.countP kind + (rounds.flatMap Round.lines).countP kind := by
  induction rounds generalizing k p with
  | nil => simp [passages]
  | cons first rounds ih =>
    rw [List.length_cons] at few
    have answers : Answers p.nextId first.lines := synced.next ▸ answering.head
    have here := synced.countP_pass kind (by omega) answers
    have later := ih (synced.pass (by omega) answers) (by omega) answering.tail
    have taken : (p.pass first.turn).taken?.toList.countP kind =
        if (p.pass first.turn).taken?.any kind then 1 else 0 := by
      cases (p.pass first.turn).taken? with
      | none => rfl
      | some line => simp [List.countP_singleton]
    rw [List.map_cons, passages, List.countP_cons, List.flatMap_cons, List.countP_append]
    omega

end

/-! ## What lines that are no replies cost -/

def isGarbled (line : List UInt8) : Bool := (Utf8.decode line).toOption.isNone

/-- Whether a line is a text that is no reply. -/
def isMalformed (line : List UInt8) : Bool := !isGarbled line && (reply? line).isNone

def Passage.isGarbled (s : Passage) : Bool := s.taken?.any Pipe.isGarbled

/-- Whether the call ends because the analyzer does not keep to the form of replies. -/
def Passage.isViolated (s : Passage) : Bool :=
  match s.outcome? with
  | some (.error (.malformed ..)) => true
  | _ => false

theorem not_isViolated_of_outcome {s : Passage} {operation : Operation} {reply : Reply}
    (outcome : s.outcome? = some (reply.outcome operation)) : s.isViolated = false := by
  unfold Passage.isViolated
  rw [outcome, Reply.outcome]
  cases reply.failure? with
  | none => rfl
  | some reason => rfl

theorem Resolved.isViolated_iff {round : Round} {s : Passage} (resolved : Resolved round s) :
    s.isViolated = true ↔ s.taken?.any isMalformed = true := by
  cases resolved with
  | garbled taken bytes failed =>
    simp [Passage.isViolated, failed, taken, isMalformed, isGarbled, bytes, Except.toOption]
  | violated taken characters unreadable failed =>
    simp [Passage.isViolated, failed, taken, isMalformed, isGarbled, reply?, characters, unreadable,
      Except.toOption]
  | answered taken read first outcome =>
    simp [not_isViolated_of_outcome outcome, taken, isMalformed, read]

/-- A call that takes no line that is no text ends in a violation or by the first reply to its own
    request; the others fail with what is wrong with the bytes. -/
theorem Resolved.by_kind {round : Round} {s : Passage} (resolved : Resolved round s) :
    (s.isGarbled = true → ∃ line fault, s.taken? = some line ∧ Utf8.decode line = .error fault ∧
      s.outcome? = some (.error (.failed round.call.operation fault.message))) ∧
    (s.isViolated = false → s.isGarbled = false → ∃ reply,
      firstReply? s.id round.lines = some reply ∧
        s.outcome? = some (reply.outcome round.call.operation)) := by
  cases resolved with
  | garbled taken bytes failed =>
    refine ⟨fun _ => ⟨_, _, taken, bytes, failed⟩, fun _ clean => ?_⟩
    simp [Passage.isGarbled, taken, isGarbled, bytes, Except.toOption] at clean
  | violated taken characters unreadable failed =>
    constructor
    · intro garbled
      simp [Passage.isGarbled, taken, isGarbled, characters, Except.toOption] at garbled
    · intro kept _
      simp [Passage.isViolated, failed] at kept
  | answered taken read first outcome =>
    constructor
    · intro garbled
      obtain ⟨content, characters, _⟩ := reply?_eq_some_iff.1 read
      simp [Passage.isGarbled, taken, isGarbled, characters, Except.toOption] at garbled
    · intro _ _
      exact ⟨_, first, outcome⟩

theorem Resolved.exists_outcome {round : Round} {s : Passage} (resolved : Resolved round s) :
    ∃ outcome, s.outcome? = some outcome := by
  cases resolved with
  | garbled taken bytes failed => exact ⟨_, failed⟩
  | violated taken characters unreadable failed => exact ⟨_, failed⟩
  | answered taken read first outcome => exact ⟨_, outcome⟩

/-- Let every request be answered in its own block of lines, among lines that are no replies and
    replies to this request or to earlier ones.  Then the pipe never breaks and no call waits.  At
    most as many calls end in a violation as there are malformed lines, and at most as many take a
    line that is no text as there are such lines; these fail with what is wrong with the bytes.
    Every other call is decided by the first reply to its request in its own block. -/
theorem pipe_resyncs (rounds : List Round) (few : rounds.length < UInt64.size)
    (answering : Answering 1 rounds) :
    (∀ s ∈ passages {} (rounds.map Round.turn),
      s.after.broken? = none ∧ ∃ outcome, s.outcome? = some outcome) ∧
    (passages {} (rounds.map Round.turn)).countP Passage.isViolated ≤
      (rounds.flatMap Round.lines).countP isMalformed ∧
    (passages {} (rounds.map Round.turn)).countP Passage.isGarbled ≤
      (rounds.flatMap Round.lines).countP isGarbled ∧
    ∀ (i : Nat) (round : Round) (s : Passage), rounds[i]? = some round →
      (passages {} (rounds.map Round.turn))[i]? = some s →
      (s.isGarbled = true → ∃ line fault, s.taken? = some line ∧ Utf8.decode line = .error fault ∧
        s.outcome? = some (.error (.failed round.call.operation fault.message))) ∧
      (s.isViolated = false → s.isGarbled = false → ∃ reply,
        firstReply? (UInt64.ofNat (i + 1)) round.lines = some reply ∧
          s.outcome? = some (reply.outcome round.call.operation)) := by
  have bound : 1 + rounds.length ≤ UInt64.size := by omega
  have each : ∀ s ∈ passages {} (rounds.map Round.turn),
      ∃ round, Resolved round s ∧ s.after.broken? = none := by
    intro s member
    obtain ⟨i, found⟩ := List.mem_iff_getElem?.1 member
    -- The call has a round, as there are as many calls as rounds.
    have turn := congrArg (·[i]?) (passages_toTurn (rounds.map Round.turn) {})
    simp only [List.getElem?_map, found, Option.map_some] at turn
    obtain ⟨round, asked, _⟩ := Option.map_eq_some_iff.1 turn.symm
    exact ⟨round, synced_fresh.resolved_passages bound answering asked found⟩
  refine ⟨?_, ?_, ?_, ?_⟩
  · intro s member
    obtain ⟨round, resolved, kept⟩ := each s member
    exact ⟨kept, resolved.exists_outcome⟩
  · have counted := synced_fresh.countP_passages isMalformed bound answering
    rw [List.countP_nil, Nat.zero_add] at counted
    refine Nat.le_trans (List.countP_mono_left ?_) counted
    intro s member violated
    obtain ⟨round, resolved, _⟩ := each s member
    -- A call that ends in a violation has taken a malformed line, and each is taken once.
    exact resolved.isViolated_iff.1 violated
  · have counted := synced_fresh.countP_passages isGarbled bound answering
    rw [List.countP_nil, Nat.zero_add] at counted
    exact counted
  · intro i round s asked found
    have resolved := (synced_fresh.resolved_passages bound answering asked found).1
    have numbered : s.id = UInt64.ofNat (i + 1) := by
      rw [id_passages found, Nat.add_comm i, UInt64.ofNat_add]
      rfl
    rw [← numbered]
    exact resolved.by_kind

def lineOf (text : String) (plain : 10 ∉ text.toUTF8.toList) : Line := ⟨text.toUTF8.toList, plain⟩

/-- An analyzer that writes a word before its first reply, and repeats that reply later. -/
def chatty : List Round :=
  [⟨.removeCachedSchema "/a", [lineOf "ready" (by decide +kernel),
      lineOf "\x7b\"id\":1\x7d" (by decide +kernel)]⟩,
    ⟨.removeCachedSchema "/b", [lineOf "\x7b\"id\":1\x7d" (by decide +kernel),
      lineOf "\x7b\"id\":2,\"error\":\x7b\"message\":\"no\"\x7d\x7d" (by decide +kernel)]⟩]

theorem pipe_resyncs_chatty :
    chatty.length < UInt64.size ∧ Answering 1 chatty ∧
    (passages {} (chatty.map Round.turn)).countP Passage.isViolated ≤
      (chatty.flatMap Round.lines).countP isMalformed ∧
    (passages {} (chatty.map Round.turn)).map Passage.isViolated = [true, false] := by
  have few : chatty.length < UInt64.size := by decide
  have answering : Answering 1 chatty := by
    intro i round asked
    match i with
    | 0 => cases asked; decide +kernel
    | 1 => cases asked; decide +kernel
    | i + 2 => simp [chatty] at asked
  exact ⟨few, answering, (pipe_resyncs chatty few answering).2.1, by decide +kernel⟩

/-- A line that is no text, and then the reply. -/
def noisy : Round :=
  ⟨.removeCachedSchema "/a", [⟨[255], by decide⟩,
    lineOf "\x7b\"id\":1,\"result\":null\x7d" (by decide +kernel)]⟩

/-- A line that is no text ends the call that takes it in no violation, and still keeps the reply
    from it. -/
theorem garbled_line_keeps_reply_away :
    Answering 1 [noisy] ∧
    ∃ s reply, passages {} [noisy.turn] = [s] ∧ s.isViolated = false ∧
      firstReply? 1 noisy.lines = some reply ∧
      s.outcome? ≠ some (reply.outcome noisy.call.operation) := by
  have answering : Answering 1 [noisy] := by
    intro i round asked
    match i with
    | 0 => cases asked; decide +kernel
    | i + 1 => simp at asked
  have succeeds : (firstReply? 1 noisy.lines).map Reply.failure? = some none := by decide +kernel
  obtain ⟨reply, read, succeeds⟩ := Option.map_eq_some_iff.1 succeeds
  have failed : (pass noisy.turn {}).outcome? =
      some (.error (.failed .removeCachedSchema "invalid utf-8 sequence of 1 bytes from index 0")) := by
    rfl
  refine ⟨answering, pass noisy.turn {}, reply, rfl, ?_, read, ?_⟩
  · rw [Passage.isViolated, failed]
  · rw [failed, Reply.outcome, succeeds]
    intro same
    cases same

end SchemaServer.Pipe
